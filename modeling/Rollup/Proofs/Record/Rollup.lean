import Rollup.Proofs.Bucket.Coarsening
import Rollup.Proofs.Percentile.Observations
import Rollup.Proofs.Record.Interleaving

/-!
Rolling minutes up to a day. The records of minutes are merged directly under their day, or under
their hours first and the hours under the day, in any order and grouping at either level; records
may be calculated on the way. Every way gives the record that one shard of the day would have, had
it taken in all feeds, up to display fields, which the last calculation derives anew.
-/
namespace Rollup

/-- An order and grouping in which records are merged. -/
inductive Plan (α : Type)
  | single (part : α)
  | combine (left right : Plan α)

namespace Plan

variable {α : Type}

def parts : Plan α → List α
  | single part => [part]
  | combine left right => left.parts ++ right.parts

def merge (made : α → Outcome Record) : Plan α → Outcome Record
  | single part => made part
  | combine left right => do
    let record ← left.merge made
    let other ← right.merge made
    record.combine other

end Plan

/-- The record with its display fields calculated where that is asked for. A calculation that fails
with an error changes nothing. -/
def Record.refreshed (calculated : Bool) (record : Record) : Outcome Record :=
  if calculated then
    match record.calculate with
    | .error (.error _) => .ok record
    | outcome => outcome
  else .ok record

/-- A shard, whose record is calculated before it is rolled up or is not. -/
structure Minute where
  shard : Shard
  calculated : Bool

/-- Minutes whose records are merged under the hour, likewise. -/
structure Hour where
  minutes : Plan Minute
  calculated : Bool

namespace Minute

def record (kind : Kind) (precision : UInt32) (minute : Minute) : Outcome Record := do
  let record ← minute.shard.record kind precision
  record.refreshed minute.calculated

def inHour (kind : Kind) (precision : UInt32) (minute : Minute) : Outcome Record := do
  let record ← minute.record kind precision
  record.toHour

def inDay (kind : Kind) (precision : UInt32) (minute : Minute) : Outcome Record := do
  let record ← minute.record kind precision
  record.toDay

def feeds (minute : Minute) : List Feed :=
  minute.shard.feeds

end Minute

namespace Hour

def shards (hour : Hour) : List Shard :=
  hour.minutes.parts.map Minute.shard

def record (kind : Kind) (precision : UInt32) (hour : Hour) : Outcome Record := do
  let record ← hour.minutes.merge (Minute.inHour kind precision)
  record.refreshed hour.calculated

def inDay (kind : Kind) (precision : UInt32) (hour : Hour) : Outcome Record := do
  let record ← hour.record kind precision
  record.toDay

def feeds (hour : Hour) : List Feed :=
  hour.minutes.parts.flatMap Minute.feeds

end Hour

/-- What can keep a calculation from a result. -/
def Record.Key.hindrances (key : Record.Key) : List Error :=
  [.zeroCount key.id, .zeroTotal key.id, .percentageOutOfRange key.id]

section Calculation

variable {precision : UInt32} {feeds : List Feed}

theorem Average.calculate_settles {average : Average} (accounts : average.Accounts feeds)
    (admits : ∀ feed ∈ feeds, Kind.average.Admits feed) (record : String) :
    (∃ derived, average.calculate record = .ok derived) ∨
      average.calculate record = .error (.zeroCount record) := by
  have sum : 0 ≤ average.summation.toInt := by
    rw [accounts.1]
    exact Amount.clamp_nonneg (Amount.sum_map_nonneg fun f mem => (admits f mem).sums_nonneg.1)
  have count : 0 ≤ average.count.toInt := by
    rw [accounts.2.1]
    exact Amount.clamp_nonneg (Amount.sum_map_nonneg fun f mem => (admits f mem).sums_nonneg.2.1)
  -- the quotient lies between zero and the sum, so it fits
  have fits : Amount.ofInt? (average.summation.toInt.tdiv average.count.toInt) =
      some (Int64.ofInt (average.summation.toInt.tdiv average.count.toInt)) := by
    have low := Int.tdiv_nonneg sum count
    have high := Int.tdiv_le_self average.count.toInt sum
    have limit := Amount.toInt_le_greatest average.summation
    rw [Amount.ofInt?, if_pos]
    simp only [Amount.least]
    omega
  rw [Average.calculate, fits]
  by_cases zero : average.count = 0
  · exact .inr (if_pos zero)
  · exact .inl ⟨_, if_neg zero⟩

/-- A calculation never crashes, and fails only on a denominator of zero or a share too large. -/
theorem Measure.calculate_settles {measure : Measure} (accounts : measure.Accounts precision feeds)
    (admits : ∀ feed ∈ feeds, measure.kind.Admits feed) {key : Record.Key} {g : Granularity}
    (wide : Bucket.granularity key.bucket.toInt = .ok g) :
    (∃ derived, measure.calculate key = .ok derived) ∨
      ∃ cause ∈ key.hindrances, measure.calculate key = .error (.error cause) := by
  cases measure with
  | average a =>
    rcases a.calculate_settles accounts admits key.id with ⟨derived, eq⟩ | eq
    · exact .inl ⟨.average derived, by rw [calculate, eq]; rfl⟩
    · exact .inr ⟨_, List.mem_cons_self, by rw [calculate, eq]; rfl⟩
  | percentile p =>
    obtain ⟨derived, eq⟩ := Percentile.exists_calculate accounts
    exact .inl ⟨.percentile derived, by rw [calculate, eq]; rfl⟩
  | percentage p =>
    rw [calculate, Percentage.calculate]
    split
    · exact .inr ⟨.zeroTotal key.id, by simp [Record.Key.hindrances], rfl⟩
    · split
      · exact .inl ⟨_, rfl⟩
      · exact .inr ⟨.percentageOutOfRange key.id, by simp [Record.Key.hindrances], rfl⟩
  | cpm rate => exact .inl ⟨_, by rw [calculate, wide]; rfl⟩
  | sum value => exact .inl ⟨_, rfl⟩
  | max value => exact .inl ⟨_, rfl⟩

end Calculation

namespace Record

/-- What was made anew and only fed and merged since shows nothing. -/
theorem Gathers.bare_eq {kind : Kind} {precision : UInt32} {root : Shard} {feeds : List Feed}
    {record : Record} (h : record.Gathers kind precision root feeds) : record.bare = record := by
  obtain ⟨key, measure⟩ := record
  have fresh := h.fresh
  have measure : measure.bare = measure := by
    cases kind <;> cases measure <;> simp_all [Measure.empty, Measure.drained, Measure.bare,
      Average.empty, Percentile.empty, Percentage.empty]
  rw [bare, measure]

theorem Gathers.calculate_settles {kind : Kind} {precision : UInt32} {root : Shard}
    {feeds : List Feed} {record : Record} (h : record.Gathers kind precision root feeds)
    (admits : ∀ feed ∈ feeds, kind.Admits feed) {g : Granularity}
    (wide : Bucket.granularity root.key.bucket.toInt = .ok g) :
    (∃ derived, record.calculate = .ok derived) ∨
      ∃ cause ∈ root.key.hindrances, record.calculate = .error (.error cause) := by
  rw [← h.kind_eq] at admits
  rw [calculate, h.key]
  rcases Measure.calculate_settles h.accounts admits wide with ⟨derived, eq⟩ | ⟨cause, mem, eq⟩
  · exact .inl ⟨_, by rw [eq]; rfl⟩
  · exact .inr ⟨cause, mem, by rw [eq]; rfl⟩

def moved (cut : Int → Except Error Int) (record : Record) : Except Error Record :=
  ((cut record.key.bucket.toInt).map fun bucket =>
    { record.key with bucket := Int64.ofInt bucket }).map fun key => { record with key }

theorem toHour_eq_moved : toHour = moved Bucket.toHour := rfl

theorem toDay_eq_moved : toDay = moved Bucket.toDay := rfl

theorem toHour_eq_ok {record : Record} {hour : Key} (h : record.key.toHour = .ok hour) :
    record.toHour = .ok { record with key := hour } := by
  rw [toHour, h]
  rfl

theorem toDay_eq_ok {record : Record} {day : Key} (h : record.key.toDay = .ok day) :
    record.toDay = .ok { record with key := day } := by
  rw [toDay, h]
  rfl

/-- An outcome is a record under one of these keys that, up to display fields, gathers these
feeds. -/
def Gathered (kind : Kind) (precision : UInt32) (ranks : List Int32) (keys : Key → Prop)
    (feeds : List Feed) (outcome : Outcome Record) : Prop :=
  ∃ record root, outcome = .ok record ∧ keys root.key ∧ root.ranks = ranks ∧
    record.bare.Gathers kind precision root feeds

namespace Gathered

variable {kind : Kind} {precision : UInt32} {ranks : List Int32} {keys others : Key → Prop}
  {feeds more : List Feed} {outcome other : Outcome Record}

theorem combine (h : Gathered kind precision ranks keys feeds outcome)
    (h' : Gathered kind precision ranks keys more other)
    (admits : ∀ feed ∈ feeds, kind.Admits feed) (admits' : ∀ feed ∈ more, kind.Admits feed)
    (fed : more ≠ []) : Gathered kind precision ranks keys (feeds ++ more) (do
      let record ← outcome
      let other ← other
      record.combine other) := by
  obtain ⟨record, root, rfl, key, same, gathers⟩ := h
  obtain ⟨next, otherRoot, rfl, -, -, gathers'⟩ := h'
  obtain ⟨merged, combined, all⟩ := gathers.combine gathers' admits admits' fun _ => fed
  rw [combine_bare, Except.map_eq_ok_iff] at combined
  obtain ⟨own, combined, rfl⟩ := combined
  exact ⟨own, root, by rw [Except.ok_bind, Except.ok_bind, combined]; rfl, key, same, all⟩

theorem perm (h : Gathered kind precision ranks keys feeds outcome) (split : feeds.Perm more) :
    Gathered kind precision ranks keys more outcome := by
  obtain ⟨record, root, eq, key, same, gathers⟩ := h
  exact ⟨record, root, eq, key, same, gathers.perm split⟩

/-- A calculation on the way changes display fields at most. -/
theorem refreshed (h : Gathered kind precision ranks keys feeds outcome)
    (admits : ∀ feed ∈ feeds, kind.Admits feed)
    (wide : ∀ key, keys key → ∃ g, Bucket.granularity key.bucket.toInt = .ok g)
    (calculated : Bool) :
    Gathered kind precision ranks keys feeds (outcome >>= Record.refreshed calculated) := by
  obtain ⟨record, root, rfl, key, same, gathers⟩ := h
  suffices kept : ∃ own, record.refreshed calculated = .ok own ∧ own.bare = record.bare by
    obtain ⟨own, eq, alike⟩ := kept
    exact ⟨own, root, eq, key, same, alike ▸ gathers⟩
  obtain ⟨g, wide⟩ := wide root.key key
  have settles := gathers.calculate_settles admits wide
  rw [calculate_bare] at settles
  rw [Record.refreshed]
  cases calculated with
  | false => exact ⟨record, rfl, rfl⟩
  | true =>
    rw [if_pos rfl]
    rcases settles with ⟨derived, eq⟩ | ⟨cause, -, eq⟩
    · rw [eq]
      exact ⟨derived, rfl, bare_of_calculate eq⟩
    · rw [eq]
      exact ⟨record, rfl, rfl⟩

theorem move (h : Gathered kind precision ranks keys feeds outcome)
    {target : Record → Except Error Record}
    (moves : ∀ record : Record, keys record.key →
      ∃ key, target record = .ok { record with key } ∧ others key) :
    Gathered kind precision ranks others feeds (do
      let record ← outcome
      target record) := by
  obtain ⟨record, root, rfl, key, same, gathers⟩ := h
  have own : record.key = root.key := gathers.key
  obtain ⟨coarse, moved, holds⟩ := moves record (own ▸ key)
  exact ⟨{ record with key := coarse }, { root with key := coarse },
    by rw [Except.ok_bind, moved]; rfl, holds, same, rfl, gathers.accounts, gathers.fresh⟩

/-- By induction on the plan: if every part gathers its feeds, their merge gathers all of them. -/
theorem merge {α : Type} {made : α → Outcome Record} {feedsOf : α → List Feed} (plan : Plan α)
    (h : ∀ part ∈ plan.parts, Gathered kind precision ranks keys (feedsOf part) (made part))
    (fed : ∀ part ∈ plan.parts, feedsOf part ≠ [])
    (admits : ∀ feed ∈ plan.parts.flatMap feedsOf, kind.Admits feed) :
    plan.parts.flatMap feedsOf ≠ [] ∧
      Gathered kind precision ranks keys (plan.parts.flatMap feedsOf) (plan.merge made) := by
  induction plan with
  | single part =>
    have own : (Plan.single part).parts.flatMap feedsOf = feedsOf part := by simp [Plan.parts]
    rw [own]
    exact ⟨fed part (List.mem_singleton_self _), h part (List.mem_singleton_self _)⟩
  | combine left right ihl ihr =>
    simp only [Plan.parts, List.mem_append, List.flatMap_append] at h fed admits ⊢
    obtain ⟨-, gathered⟩ := ihl (fun part mem => h part (.inl mem))
      (fun part mem => fed part (.inl mem)) fun feed mem => admits feed (.inl mem)
    obtain ⟨some, gathered'⟩ := ihr (fun part mem => h part (.inr mem))
      (fun part mem => fed part (.inr mem)) fun feed mem => admits feed (.inr mem)
    exact ⟨by simp [some], gathered.combine gathered' (fun feed mem => admits feed (.inl mem))
      (fun feed mem => admits feed (.inr mem)) some⟩

end Gathered

end Record

/-- A shard of a minute of this day that takes in one feed or more, all of them fit for the kind. -/
structure Shard.IsMinute (kind : Kind) (ranks : List Int32) (day : Record.Key) (shard : Shard) :
    Prop where
  minute : Bucket.granularity shard.key.bucket.toInt = .ok .minute
  day : shard.key.toDay = .ok day
  ranks : shard.ranks = ranks
  fed : shard.feeds ≠ []
  admits : ∀ feed ∈ shard.feeds, kind.Admits feed

section Levels

open Record

variable {kind : Kind} {precision : UInt32} {ranks : List Int32} {day : Key}

theorem Minute.gathered_record (concrete : kind ≠ .singleValue) (positive : 1 ≤ precision)
    {minute : Minute} (h : minute.shard.IsMinute kind ranks day) :
    Gathered kind precision ranks (· = minute.shard.key) minute.feeds
      (minute.record kind precision) := by
  obtain ⟨record, made, gathers⟩ := minute.shard.gathers concrete positive h.admits
  have fresh : Gathered kind precision ranks (· = minute.shard.key) minute.feeds
      (minute.shard.record kind precision) :=
    ⟨record, minute.shard, made, rfl, h.ranks, gathers.bare_eq.symm ▸ gathers⟩
  exact fresh.refreshed h.admits (fun key same => ⟨.minute, same ▸ h.minute⟩) minute.calculated

theorem Minute.gathered_inDay (concrete : kind ≠ .singleValue) (positive : 1 ≤ precision)
    {minute : Minute} (h : minute.shard.IsMinute kind ranks day) :
    Gathered kind precision ranks (· = day) minute.feeds (minute.inDay kind precision) :=
  (gathered_record concrete positive h).move fun _ same => ⟨day, toDay_eq_ok (same ▸ h.day), rfl⟩

theorem Minute.gathered_inHour (concrete : kind ≠ .singleValue) (positive : 1 ≤ precision)
    {minute : Minute} (h : minute.shard.IsMinute kind ranks day) :
    Gathered kind precision ranks (·.toDay = .ok day) minute.feeds
      (minute.inHour kind precision) := by
  apply (gathered_record concrete positive h).move
  intro record same
  obtain ⟨hour, cut⟩ := Key.exists_toHour h.minute
  exact ⟨hour, toHour_eq_ok (same ▸ cut), (Key.toDay_of_toHour cut).trans h.day⟩

theorem Hour.gathered_inDay (concrete : kind ≠ .singleValue) (positive : 1 ≤ precision)
    {hour : Hour} (h : ∀ minute ∈ hour.minutes.parts, minute.shard.IsMinute kind ranks day) :
    hour.feeds ≠ [] ∧
      Gathered kind precision ranks (· = day) hour.feeds (hour.inDay kind precision) := by
  have admits : ∀ feed ∈ hour.feeds, kind.Admits feed := by
    intro feed mem
    obtain ⟨minute, part, mem⟩ := List.mem_flatMap.1 mem
    exact (h minute part).admits feed mem
  obtain ⟨fed, merged⟩ := Gathered.merge hour.minutes
    (fun minute mem => Minute.gathered_inHour concrete positive (h minute mem))
    (fun minute mem => (h minute mem).fed) admits
  have wide : ∀ key : Key, key.toDay = .ok day →
      ∃ g, Bucket.granularity key.bucket.toInt = .ok g := by
    intro key cut
    obtain ⟨bucket, cut, -⟩ := Key.toDay_eq_ok_iff.1 cut
    obtain ⟨g, wide, -⟩ := Bucket.toDay_eq_ok_iff.1 cut
    exact ⟨g, wide⟩
  exact ⟨fed, (merged.refreshed admits wide hour.calculated).move fun _ cut =>
    ⟨day, toDay_eq_ok cut, rfl⟩⟩

/-- Outcomes under one key that gather the same feeds differ in display fields only. -/
theorem Record.Gathered.agree {feeds : List Feed} {outcome : Outcome Record}
    (h : Gathered kind precision ranks (· = day) feeds outcome) {record : Record}
    (gathers : record.Gathers kind precision ⟨day, ranks, feeds⟩ feeds) :
    ∃ own, outcome = .ok own ∧ own.bare = record.bare ∧ own.calculate = record.calculate := by
  obtain ⟨own, root, rfl, key, same, gathers'⟩ := h
  have alike : own.bare = record.bare := by
    rw [gathers.bare_eq]
    exact gathers.unique gathers' key same
  exact ⟨own, rfl, alike, calculate_congr alike⟩

variable {shards : List Shard} (minutes : ∀ shard ∈ shards, shard.IsMinute kind ranks day)

include minutes

theorem Shard.admits_of_minutes : ∀ feed ∈ shards.flatMap Shard.feeds, kind.Admits feed := by
  intro feed mem
  obtain ⟨shard, part, mem⟩ := List.mem_flatMap.1 mem
  exact (minutes shard part).admits feed mem

theorem Plan.gathered_of_minutes (concrete : kind ≠ .singleValue) (positive : 1 ≤ precision)
    (plan : Plan Minute) (split : (plan.parts.map Minute.shard).Perm shards) :
    Gathered kind precision ranks (· = day) (shards.flatMap Shard.feeds)
      (plan.merge (Minute.inDay kind precision)) := by
  have minute : ∀ part ∈ plan.parts, part.shard.IsMinute kind ranks day := fun part mem =>
    minutes _ (split.mem_iff.1 (List.mem_map_of_mem mem))
  have feeds := split.flatMap_right Shard.feeds
  rw [List.flatMap_map] at feeds
  have admits := Shard.admits_of_minutes minutes
  obtain ⟨-, gathered⟩ := Gathered.merge plan
    (fun part mem => Minute.gathered_inDay concrete positive (minute part mem))
    (fun part mem => (minute part mem).fed) fun feed mem => admits feed (feeds.mem_iff.1 mem)
  exact gathered.perm feeds

theorem Plan.gathered_of_hours (concrete : kind ≠ .singleValue) (positive : 1 ≤ precision)
    (plan : Plan Hour) (split : (plan.parts.flatMap Hour.shards).Perm shards) :
    Gathered kind precision ranks (· = day) (shards.flatMap Shard.feeds)
      (plan.merge (Hour.inDay kind precision)) := by
  have minute : ∀ hour ∈ plan.parts, ∀ part ∈ hour.minutes.parts,
      part.shard.IsMinute kind ranks day := fun hour listed part mem =>
    minutes _ (split.mem_iff.1 (List.mem_flatMap_of_mem listed (List.mem_map_of_mem mem)))
  have feeds := split.flatMap_right Shard.feeds
  simp only [List.flatMap_assoc, Hour.shards, List.flatMap_map] at feeds
  have admits := Shard.admits_of_minutes minutes
  obtain ⟨-, gathered⟩ := Gathered.merge plan
    (fun hour mem => (Hour.gathered_inDay concrete positive (minute hour mem)).2)
    (fun hour mem => (Hour.gathered_inDay concrete positive (minute hour mem)).1)
    fun feed mem => admits feed (feeds.mem_iff.1 mem)
  exact gathered.perm feeds

end Levels

theorem Measure.exists_merge {a b : Measure} (h : a.kind = b.kind) : ∃ c, a.merge b = .ok c := by
  cases a <;> cases b <;> simp only [kind, reduceCtorEq] at h <;> exact ⟨_, rfl⟩

/-- Merging commutes with moving to a coarser bucket, also where there is none. -/
theorem Record.combine_moved (cut : Int → Except Error Int) {record other : Record}
    (kind : record.kind = other.kind) (bucket : record.key.bucket = other.key.bucket) :
    (record.combine other >>= moved cut) = (do
      let record ← record.moved cut
      let other ← other.moved cut
      record.combine other) := by
  obtain ⟨merged, eq⟩ := Measure.exists_merge kind
  simp only [combine, eq, Except.map, Except.ok_bind, moved, bucket]
  cases cut other.key.bucket.toInt with
  | error failure => rfl
  | ok coarse => simp only [Except.ok_bind, eq]

/-- Rolled up to their day directly or by way of their hours, in whatever order and grouping and
with whichever records calculated in between, the minutes of a day give the record of one shard of
the day that took in all feeds; its calculation does not crash. Merging commutes with either step of
coarsening. -/
theorem rollup_path_independent :
    (∀ {kind : Kind} {precision : UInt32} {ranks : List Int32} {day : Record.Key}
      {shards : List Shard}, kind ≠ .singleValue → 1 ≤ precision → shards ≠ [] →
      (∀ shard ∈ shards, shard.IsMinute kind ranks day) →
      ∃ record : Record,
        Shard.record kind precision ⟨day, ranks, shards.flatMap Shard.feeds⟩ = .ok record ∧
        record.key = day ∧ record.measure.Accounts precision (shards.flatMap Shard.feeds) ∧
        ((∃ derived, record.calculate = .ok derived) ∨
          ∃ cause ∈ day.hindrances, record.calculate = .error (.error cause)) ∧
        (∀ plan : Plan Minute, (plan.parts.map Minute.shard).Perm shards →
          ∃ own, plan.merge (Minute.inDay kind precision) = .ok own ∧ own.bare = record.bare ∧
            own.calculate = record.calculate) ∧
        ∀ plan : Plan Hour, (plan.parts.flatMap Hour.shards).Perm shards →
          ∃ own, plan.merge (Hour.inDay kind precision) = .ok own ∧ own.bare = record.bare ∧
            own.calculate = record.calculate) ∧
    ∀ record other : Record, record.kind = other.kind → record.key.bucket = other.key.bucket →
      (record.combine other >>= Record.toHour) = (do
        let record ← record.toHour
        let other ← other.toHour
        record.combine other) ∧
      (record.combine other >>= Record.toDay) = (do
        let record ← record.toDay
        let other ← other.toDay
        record.combine other) := by
  refine ⟨?_, fun record other kind bucket => ?_⟩
  swap
  · rw [Record.toHour_eq_moved, Record.toDay_eq_moved]
    exact ⟨Record.combine_moved _ kind bucket, Record.combine_moved _ kind bucket⟩
  intro kind precision ranks day shards concrete positive some minutes
  have admits := Shard.admits_of_minutes minutes
  obtain ⟨record, made, gathers⟩ :=
    Shard.gathers concrete positive ⟨day, ranks, shards.flatMap Shard.feeds⟩ admits
  refine ⟨record, made, gathers.key, gathers.accounts, ?_, fun plan split => ?_,
    fun plan split => ?_⟩
  · obtain ⟨shard, part⟩ := List.exists_mem_of_ne_nil _ some
    have wide := Record.Key.granularity_of_toDay (minutes shard part).day
    exact gathers.calculate_settles admits wide
  · exact (plan.gathered_of_minutes minutes concrete positive split).agree gathers
  · exact (plan.gathered_of_hours minutes concrete positive split).agree gathers

/-- Three minutes of two hours. One of them cannot be calculated yet, an hour shows a stale value,
and the two ways merge in different orders. -/
theorem rollup_path_independent_average :
    let noon : Minute := ⟨⟨⟨"e", some "s", 202401011200⟩, [], [.aggregate 10 2 7 3]⟩, true⟩
    let idle : Minute := ⟨⟨⟨"e", some "s", 202401011230⟩, [], [.aggregate 0 0 4 5]⟩, true⟩
    let late : Minute := ⟨⟨⟨"e", some "s", 202401011305⟩, [], [.aggregate 9 1 9 9]⟩, false⟩
    let direct : Plan Minute := .combine (.single late) (.combine (.single idle) (.single noon))
    let hourly : Plan Hour :=
      .combine (.single ⟨.combine (.single noon) (.single idle), true⟩)
        (.single ⟨.single late, false⟩)
    let day : Record := ⟨⟨"e", some "s", 20240101⟩, .average ⟨19, 3, 9, 3, 6⟩⟩
    let share : Record := ⟨noon.shard.key, .percentage ⟨4, 1, 0⟩⟩
    (∃ own, direct.merge (Minute.inDay .average 1) = .ok own ∧ own.calculate = .ok day) ∧
      (∃ own, hourly.merge (Hour.inDay .average 1) = .ok own ∧ own.calculate = .ok day) ∧
      (share.combine share >>= Record.toDay) = .ok ⟨day.key, .percentage ⟨8, 2, 0⟩⟩ := by
  intro noon idle late direct hourly day share
  have inDay : ∀ minute ∈ [noon, idle, late],
      Bucket.granularity minute.shard.key.bucket.toInt = .ok .minute ∧
        minute.shard.key.toDay = .ok day.key := by
    intro minute mem
    simp only [List.mem_cons, List.not_mem_nil, or_false] at mem
    have wide : Bucket.granularity minute.shard.key.bucket.toInt = .ok .minute := by
      rw [Bucket.granularity_eq_ok_iff]
      rcases mem with rfl | rfl | rfl <;> decide
    refine ⟨wide, Record.Key.toDay_eq_ok_iff.2
      ⟨20240101, Bucket.toDay_eq_ok_iff.2 ⟨.minute, wide, ?_⟩, ?_⟩⟩
    · rcases mem with rfl | rfl | rfl <;> decide
    · rcases mem with rfl | rfl | rfl <;> rfl
  have minutes : ∀ shard ∈ [noon, idle, late].map Minute.shard,
      shard.IsMinute .average [] day.key := by
    intro shard mem
    obtain ⟨minute, listed, rfl⟩ := List.mem_map.1 mem
    refine ⟨(inDay minute listed).1, (inDay minute listed).2, ?_, ?_, ?_⟩ <;>
      revert minute <;> simp [noon, idle, late, Kind.Admits]
  obtain ⟨record, made, -, -, -, fromMinutes, fromHours⟩ :=
    rollup_path_independent.1 (by decide : Kind.average ≠ .singleValue)
      (by decide : 1 ≤ (1 : UInt32)) (List.cons_ne_nil _ _) minutes
  have calculated : record.calculate = .ok day := by
    cases made
    rfl
  obtain ⟨own, merged, -, same⟩ :=
    fromMinutes direct (List.reverse_perm ([noon, idle, late].map Minute.shard))
  obtain ⟨other, rolled, -, alike⟩ := fromHours hourly (.refl _)
  refine ⟨⟨own, merged, same.trans calculated⟩, ⟨other, rolled, alike.trans calculated⟩, ?_⟩
  have moved : share.toDay = .ok { share with key := day.key } :=
    Record.toDay_eq_ok (inDay noon List.mem_cons_self).2
  rw [(rollup_path_independent.2 share share rfl rfl).2, moved]
  rfl

end Rollup
