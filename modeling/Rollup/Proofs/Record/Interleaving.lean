import Rollup.Proofs.Percentile.Cursor
import Rollup.Record.Session

/-!
Display fields take no part in aggregation. `Record.bare` is a record without what `calculate`
derives. Every operation keeps records alike that are alike up to display fields, and `calculate`
reads none of them. Main statement: `calculates_are_inert`, any calculate steps can be left out of
a run, and every other step answers as before.
-/
namespace Rollup

/-- A measure with its display fields blanked. The kind, the accumulators, the precision and the
ranks stay. -/
def Measure.bare : Measure → Measure
  | average a => average { a with value := 0 }
  | percentile p => percentile { p with values := .empty }
  | percentage p => percentage { p with percentage := 0 }
  | cpm rate => cpm { rate with value := 0 }
  | sum value => sum value
  | max value => max value

namespace Measure

theorem feed_bare (m : Measure) (f : Feed) : m.bare.feed f = (m.feed f).map bare := by
  cases m with
  | percentile p =>
    cases f with
    | observed value =>
      simp only [bare, feed, Percentile.feed]
      split <;> rfl
    | _ => rfl
  | _ => cases f <;> rfl

theorem merge_bare (m other : Measure) : m.bare.merge other.bare = (m.merge other).map bare := by
  cases m <;> cases other <;> rfl

theorem calculate_bare (key : Record.Key) (m : Measure) :
    m.bare.calculate key = m.calculate key := by
  cases m <;> rfl

theorem bare_average {record : String} {a derived : Average}
    (h : a.calculate record = .ok derived) : (average derived).bare = (average a).bare := by
  rw [Average.calculate] at h
  split at h
  · contradiction
  · split at h
    · cases h
      rfl
    · contradiction

theorem bare_percentage {record : String} {p derived : Percentage}
    (h : p.calculate record = .ok derived) : (percentage derived).bare = (percentage p).bare := by
  rw [Percentage.calculate] at h
  split at h
  · contradiction
  · split at h
    · cases h
      rfl
    · contradiction

theorem bare_percentile {p derived : Percentile} (h : p.calculate = .ok derived) :
    (percentile derived).bare = (percentile p).bare := by
  rw [Percentile.eq_of_calculate h]
  rfl

theorem bare_of_calculate {key : Record.Key} {m derived : Measure}
    (h : m.calculate key = .ok derived) : derived.bare = m.bare := by
  cases m with
  | average a =>
    obtain ⟨own, calculated, eq⟩ := Except.bind_eq_ok_iff.1 h
    cases eq
    exact bare_average (Outcome.ofExcept_eq_ok_iff.1 calculated)
  | percentile p =>
    obtain ⟨own, calculated, eq⟩ := Except.bind_eq_ok_iff.1 h
    cases eq
    exact bare_percentile calculated
  | percentage p =>
    obtain ⟨own, calculated, eq⟩ := Except.bind_eq_ok_iff.1 h
    cases eq
    exact bare_percentage (Outcome.ofExcept_eq_ok_iff.1 calculated)
  | cpm rate =>
    obtain ⟨granularity, -, eq⟩ := Except.bind_eq_ok_iff.1 h
    cases eq
    rfl
  | sum value =>
    cases h
    rfl
  | max value =>
    cases h
    rfl

end Measure

namespace Record

def bare (record : Record) : Record :=
  { record with measure := record.measure.bare }

theorem feed_bare (record : Record) (f : Feed) : record.bare.feed f = (record.feed f).map bare := by
  rw [feed, bare, Measure.feed_bare, feed]
  cases record.measure.feed f <;> rfl

theorem feeds_bare (record : Record) (feeds : List Feed) :
    feeds.foldlM feed record.bare = (feeds.foldlM feed record).map bare := by
  induction feeds generalizing record with
  | nil => rfl
  | cons f rest ih =>
    rw [List.foldlM_cons, List.foldlM_cons, feed_bare]
    cases record.feed f with
    | error failure => rfl
    | ok next => exact ih next

theorem combine_bare (record other : Record) :
    record.bare.combine other.bare = (record.combine other).map bare := by
  rw [combine, bare, bare, Measure.merge_bare, combine]
  cases record.measure.merge other.measure <;> rfl

theorem toHour_bare (record : Record) : record.bare.toHour = record.toHour.map bare := by
  rw [toHour, bare, toHour]
  cases record.key.toHour <;> rfl

theorem toDay_bare (record : Record) : record.bare.toDay = record.toDay.map bare := by
  rw [toDay, bare, toDay]
  cases record.key.toDay <;> rfl

theorem setRanks_bare (record : Record) (ranks : List Int32) :
    record.bare.setRanks ranks = ((record.setRanks ranks).1.bare, (record.setRanks ranks).2) := by
  obtain ⟨key, measure⟩ := record
  cases measure with
  | percentile p =>
    simp only [setRanks, bare, Measure.bare]
    split <;> rfl
  | _ => rfl

theorem calculate_bare (record : Record) : record.bare.calculate = record.calculate := by
  rw [calculate, bare, Measure.calculate_bare, calculate]

theorem bare_of_calculate {record derived : Record} (h : record.calculate = .ok derived) :
    derived.bare = record.bare := by
  obtain ⟨measure, calculated, eq⟩ := Except.bind_eq_ok_iff.1 h
  cases eq
  rw [bare, Measure.bare_of_calculate calculated, bare]

/-- Records that are alike up to display fields are calculated to the same record. -/
theorem calculate_congr {record other : Record} (h : record.bare = other.bare) :
    record.calculate = other.calculate := by
  rw [← calculate_bare, h, calculate_bare]

theorem calculate_idempotent {record derived : Record} (h : record.calculate = .ok derived) :
    derived.calculate = .ok derived :=
  (calculate_congr (bare_of_calculate h)).trans h

/-- An operation that commutes with blanking keeps records alike. -/
theorem map_bare_congr {ε : Type} (f : Record → Except ε Record)
    (commutes : ∀ record, f record.bare = (f record).map bare) {record other : Record}
    (h : record.bare = other.bare) : (f record).map bare = (f other).map bare := by
  rw [← commutes, h, commutes]

namespace Slots

theorem get?_put (slots : Slots) (slot : String) (record : Record) (name : String) :
    (slots.put slot record).get? name = if name = slot then some record else slots.get? name := by
  rw [get?, put, List.lookup_cons]
  by_cases h : name = slot
  · rw [if_pos h, h, beq_self_eq_true]
  · rw [if_neg h, beq_eq_false_iff_ne.2 h, get?]
    induction slots with
    | nil => rfl
    | cons entry rest ih =>
      obtain ⟨other, held⟩ := entry
      by_cases same : other = slot
      · rw [List.filter_cons_of_neg (by simpa using same), List.lookup_cons,
          beq_eq_false_iff_ne.2 (same ▸ h)]
        exact ih
      · rw [List.filter_cons_of_pos (by simpa using same), List.lookup_cons, List.lookup_cons]
        cases name == other with
        | true => rfl
        | false => exact ih

/-- Slots that hold the same records up to display fields. -/
def Alike (slots others : Slots) : Prop :=
  ∀ slot, (slots.get? slot).map bare = (others.get? slot).map bare

variable {slots others : Slots}

theorem Alike.put (alike : Alike slots others) (slot : String) {record other : Record}
    (h : record.bare = other.bare) :
    Alike (slots.put slot record) (others.put slot other) := by
  intro name
  rw [get?_put, get?_put]
  split
  · exact congrArg some h
  · exact alike name

theorem Alike.get (alike : Alike slots others) (slot : String) :
    (∃ record other, slots.get slot = .ok record ∧ others.get slot = .ok other ∧
      record.bare = other.bare) ∨ ∃ error, slots.get slot = .error error ∧
      others.get slot = .error error := by
  have same := alike slot
  rw [Slots.get, Slots.get]
  cases held : slots.get? slot with
  | none =>
    rw [held, Option.map_none, eq_comm, Option.map_eq_none_iff] at same
    exact .inr ⟨_, rfl, by rw [same]⟩
  | some record =>
    rw [held, Option.map_some, eq_comm, Option.map_eq_some_iff] at same
    obtain ⟨other, held, h⟩ := same
    exact .inl ⟨record, other, rfl, by rw [held], h.symm⟩

theorem Alike.of_put {slot : String} {record derived : Record}
    (held : slots.get slot = .ok record) (h : derived.bare = record.bare) :
    Alike (slots.put slot derived) slots := by
  intro name
  rw [get?_put]
  split
  · next same =>
    rw [same]
    rw [Slots.get] at held
    split at held
    · next present =>
      cases held
      rw [present, Option.map_some, Option.map_some, h]
    · contradiction
  · rfl

end Slots

namespace Step

variable {slots others : Slots}

/-- An outcome of a step with the display fields of its record blanked. -/
def blank (outcome : Outcome (Record × Answer)) : Outcome (Record × Answer) :=
  outcome.map fun (record, answer) => (record.bare, answer)

theorem blank_answered {found other : Outcome Record} (h : found.map bare = other.map bare)
    (answer : Answer) : blank (do let record ← found; .ok (record, answer)) =
      blank (do let record ← other; .ok (record, answer)) := by
  have outermost (x : Outcome Record) : blank (do let record ← x; .ok (record, answer)) =
      (x.map bare).map (·, answer) := by
    cases x <;> rfl
  rw [outermost, h, outermost]

theorem lift_congr {found other : Except Error Record} (h : found.map bare = other.map bare) :
    (Outcome.ofExcept found).map bare = (Outcome.ofExcept other).map bare := by
  have lift (x : Except Error Record) :
      (Outcome.ofExcept x).map bare = Outcome.ofExcept (x.map bare) := by
    cases x <;> rfl
  rw [lift, h, lift]

theorem blank_read (alike : slots.Alike others) (slot : String)
    {f g : Record → Outcome (Record × Answer)}
    (h : ∀ {record other}, record.bare = other.bare → blank (f record) = blank (g other)) :
    blank (do let record ← slots.get slot; f record) =
      blank (do let record ← others.get slot; g record) := by
  rcases alike.get slot with ⟨record, other, held, holds, same⟩ | ⟨error, missing, misses⟩
  · rw [held, holds]
    exact h same
  · rw [missing, misses]
    rfl

/-- Over alike slots a calculate step has the very same outcome. -/
theorem result_calculate (alike : slots.Alike others) (slot : String) :
    (calculate slot).result slots = (calculate slot).result others := by
  rcases alike.get slot with ⟨record, other, held, holds, same⟩ | ⟨error, missing, misses⟩
  · rw [result, result, held, holds]
    change (do let record ← record.calculate; .ok (record, Answer.done) : Outcome _) =
      (do let record ← other.calculate; .ok (record, Answer.done))
    rw [calculate_congr same]
  · rw [result, result, missing, misses]

theorem blank_result (alike : slots.Alike others) (step : Step) :
    blank (step.result slots) = blank (step.result others) := by
  cases step with
  | new => rfl
  | load => rfl
  | feed slot feeds =>
    exact blank_read alike slot fun same =>
      blank_answered (map_bare_congr (feeds.foldlM Record.feed) (feeds_bare · feeds) same) .done
  | combine slot source =>
    refine blank_read alike slot fun {record other} same => ?_
    refine blank_read alike source fun {added taken} alikeToo => ?_
    have combined : (record.combine added).map bare = (other.combine taken).map bare := by
      rw [← combine_bare, same, alikeToo, combine_bare]
    exact blank_answered (lift_congr combined) .done
  | calculate slot => rw [result_calculate alike slot]
  | toHour slot source =>
    exact blank_read alike source fun same =>
      blank_answered (lift_congr (map_bare_congr Record.toHour toHour_bare same)) .done
  | toDay slot source =>
    exact blank_read alike source fun same =>
      blank_answered (lift_congr (map_bare_congr Record.toDay toDay_bare same)) .done
  | setRanks slot ranks =>
    refine blank_read alike slot fun {record other} same => ?_
    have ranked (r : Record) : blank (.ok ((r.setRanks ranks).1, .changed (r.setRanks ranks).2)) =
        .ok ((r.bare.setRanks ranks).1, .changed (r.bare.setRanks ranks).2) := by
      rw [setRanks_bare]
      rfl
    exact (ranked record).trans (same ▸ (ranked other).symm)

theorem run_alike (alike : slots.Alike others) (step : Step) :
    (step.run slots).1 = (step.run others).1 ∧
      Slots.Alike (step.run slots).2 (step.run others).2 := by
  have same := blank_result alike step
  rw [run, run]
  cases here : step.result slots with
  | error failure =>
    cases there : step.result others with
    | error own =>
      rw [here, there] at same
      cases same
      exact ⟨rfl, alike⟩
    | ok pair =>
      rw [here, there] at same
      cases same
  | ok pair =>
    cases there : step.result others with
    | error own =>
      rw [here, there] at same
      cases same
    | ok other =>
      rw [here, there] at same
      obtain ⟨bares, answers⟩ := Prod.mk.inj (Except.ok.inj same)
      exact ⟨congrArg Except.ok answers, alike.put step.slot bares⟩

theorem run_calculate_alike (slots : Slots) (slot : String) :
    Slots.Alike ((calculate slot).run slots).2 slots := by
  rw [run]
  cases ran : (calculate slot).result slots with
  | error failure => exact fun _ => rfl
  | ok pair =>
    obtain ⟨record, held, ran⟩ := Except.bind_eq_ok_iff.1 ran
    obtain ⟨derived, calculated, eq⟩ := Except.bind_eq_ok_iff.1 ran
    cases eq
    exact Slots.Alike.of_put (Outcome.ofExcept_eq_ok_iff.1 held) (bare_of_calculate calculated)

end Step

abbrev Transcript := List (Step × Except Error Answer)

def settled : Outcome Answer → Except Crash (Except Error Answer)
  | .ok answer => .ok (.ok answer)
  | .error (.error error) => .ok (.error error)
  | .error (.crash crash) => .error crash

/-- Runs steps in turn. A step that fails with an error does not end the run, a crash does. -/
def runAll : Slots → List Step → Except Crash (Transcript × Slots)
  | slots, [] => .ok ([], slots)
  | slots, step :: steps => do
    let answer ← settled (step.run slots).1
    let (rest, final) ← runAll (step.run slots).2 steps
    .ok ((step, answer) :: rest, final)

theorem runAll_cons_eq_ok_iff {slots final : Slots} {step : Step} {steps : List Step}
    {transcript : Transcript} : runAll slots (step :: steps) = .ok (transcript, final) ↔
      ∃ answer rest, settled (step.run slots).1 = .ok answer ∧
        runAll (step.run slots).2 steps = .ok (rest, final) ∧
        (step, answer) :: rest = transcript := by
  rw [runAll, Except.bind_eq_ok_iff]
  simp only [Except.bind_eq_ok_iff, Prod.exists]
  constructor
  · rintro ⟨answer, here, rest, _, later, eq⟩
    cases eq
    exact ⟨answer, rest, here, later, rfl⟩
  · rintro ⟨answer, rest, here, later, rfl⟩
    exact ⟨answer, here, rest, final, later, rfl⟩

/-- Some calculate steps are left out. -/
inductive Thinned : Transcript → Transcript → Prop
  | done : Thinned [] []
  | keep {transcript kept : Transcript} (entry : Step × Except Error Answer) :
    Thinned transcript kept → Thinned (entry :: transcript) (entry :: kept)
  | drop {transcript kept : Transcript} (slot : String) (answer : Except Error Answer) :
    Thinned transcript kept → Thinned ((.calculate slot, answer) :: transcript) kept

/-- From alike slots, the steps that are kept answer as before and end in alike slots. -/
theorem runAll_thinned {slots others final : Slots} {steps : List Step}
    {transcript kept : Transcript} (alike : slots.Alike others)
    (ran : runAll slots steps = .ok (transcript, final)) (thinned : Thinned transcript kept) :
    ∃ final', runAll others (kept.map (·.1)) = .ok (kept, final') ∧ final.Alike final' := by
  induction steps generalizing slots others transcript kept with
  | nil =>
    cases ran
    cases thinned
    exact ⟨others, rfl, alike⟩
  | cons step steps ih =>
    obtain ⟨answer, rest, here, later, rfl⟩ := runAll_cons_eq_ok_iff.1 ran
    cases thinned with
    | keep entry thinned =>
      obtain ⟨answers, next⟩ := Step.run_alike alike step
      obtain ⟨final', other, alike⟩ := ih next later thinned
      rw [answers] at here
      exact ⟨final', runAll_cons_eq_ok_iff.2 ⟨answer, _, here, other, rfl⟩, alike⟩
    | drop slot answer thinned =>
      have unchanged := Step.run_calculate_alike slots slot
      exact ih (fun name => (unchanged name).trans (alike name)) later thinned

/-- Calculate steps can be left out of a run: every step that is kept answers as before, and the
slots end up alike but for display fields, so that a calculate step at the end has the same outcome
and gives the same records. It is idempotent, keeps the accumulators, and a failed one changes
nothing. -/
theorem calculates_are_inert :
    (∀ {slots final : Slots} {steps : List Step} {transcript kept : Transcript},
      runAll slots steps = .ok (transcript, final) → Thinned transcript kept →
      ∃ final', runAll slots (kept.map (·.1)) = .ok (kept, final') ∧
        (∀ slot, (final'.get? slot).map bare = (final.get? slot).map bare) ∧
        ∀ slot, (Step.calculate slot).result final' = (Step.calculate slot).result final) ∧
    (∀ {record derived : Record}, record.calculate = .ok derived →
      derived.bare = record.bare ∧ derived.calculate = .ok derived) ∧
    (∀ {slots : Slots} {slot : String} {failure : Failure},
      ((Step.calculate slot).run slots).1 = .error failure →
      ((Step.calculate slot).run slots).2 = slots) := by
  refine ⟨?_, ?_, ?_⟩
  · intro slots final steps transcript kept ran thinned
    obtain ⟨final', other, alike⟩ := runAll_thinned (fun _ => rfl) ran thinned
    exact ⟨final', other, fun slot => (alike slot).symm,
      fun slot => (Step.result_calculate alike slot).symm⟩
  · exact fun h => ⟨bare_of_calculate h, calculate_idempotent h⟩
  · intro slots slot failure failed
    rw [Step.run] at failed ⊢
    split at failed
    · contradiction
    · rfl

/-- A calculate step that fails for want of feeds and one between two feeds are left out. -/
theorem calculates_are_inert_average :
    ∃ final', runAll [] [.new "a" .average ⟨"e", none, 20240101⟩ 0 [],
        .feed "a" [.aggregate 10 2 7 3], .feed "a" [.aggregate 5 1 6 2], .calculate "a"] =
      .ok ([(.new "a" .average ⟨"e", none, 20240101⟩ 0 [], .ok .done),
        (.feed "a" [.aggregate 10 2 7 3], .ok .done), (.feed "a" [.aggregate 5 1 6 2], .ok .done),
        (.calculate "a", .ok .done)], final') ∧
      (final'.get? "a").map bare =
        some ⟨⟨"e", none, 20240101⟩, .average ⟨15, 3, 7, 2, 0⟩⟩ := by
  have ran : runAll [] [.new "a" .average ⟨"e", none, 20240101⟩ 0 [], .calculate "a",
      .feed "a" [.aggregate 10 2 7 3], .calculate "a", .feed "a" [.aggregate 5 1 6 2],
      .calculate "a"] =
    .ok ([(.new "a" .average ⟨"e", none, 20240101⟩ 0 [], .ok .done),
      (.calculate "a", .error (.zeroCount "20240101_e")),
      (.feed "a" [.aggregate 10 2 7 3], .ok .done), (.calculate "a", .ok .done),
      (.feed "a" [.aggregate 5 1 6 2], .ok .done), (.calculate "a", .ok .done)],
      [("a", ⟨⟨"e", none, 20240101⟩, .average ⟨15, 3, 7, 2, 5⟩⟩)]) := rfl
  obtain ⟨final', other, same, -⟩ := calculates_are_inert.1 ran
    (.keep _ (.drop _ _ (.keep _ (.drop _ _ (.keep _ (.keep _ .done))))))
  exact ⟨final', other, same "a"⟩

end Record

end Rollup
