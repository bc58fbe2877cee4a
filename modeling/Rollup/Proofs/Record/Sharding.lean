import Rollup.Proofs.Record.Accumulators

/-!
Aggregation by many workers. Each shard is a new record that takes in some of the feeds; the shards
are merged in the order and grouping of a tree. The merged record accounts for all feeds, and so it
is the same record for every other way to distribute, order and group them.
-/
namespace Rollup

/-- A record made anew under a key, and the feeds that it takes in. -/
structure Shard where
  key : Record.Key
  ranks : List Int32
  feeds : List Feed

/-- An order and grouping in which the records of shards are merged. -/
inductive MergeTree
  | single (shard : Shard)
  | combine (left right : MergeTree)

def Shard.record (kind : Kind) (precision : UInt32) (shard : Shard) : Outcome Record := do
  let record ← Record.empty kind shard.key precision shard.ranks
  shard.feeds.foldlM Record.feed record

namespace MergeTree

def shards : MergeTree → List Shard
  | single shard => [shard]
  | combine left right => left.shards ++ right.shards

def feeds (tree : MergeTree) : List Feed :=
  tree.shards.flatMap Shard.feeds

/-- The shard whose key and ranks the merged record keeps. -/
def root : MergeTree → Shard
  | single shard => shard
  | combine left _ => left.root

def record (kind : Kind) (precision : UInt32) : MergeTree → Outcome Record
  | single shard => shard.record kind precision
  | combine left right => do
    let record ← left.record kind precision
    let other ← right.record kind precision
    record.combine other

end MergeTree

theorem Measure.exists_empty {kind : Kind} (concrete : kind ≠ .singleValue) (precision : UInt32)
    (ranks : List Int32) : ∃ measure, Measure.empty precision ranks kind = .ok measure := by
  cases kind with
  | singleValue => exact absurd rfl concrete
  | _ => exact ⟨_, rfl⟩

/-- A record that accounts for some feeds and is otherwise as it was made. -/
structure Record.Gathers (kind : Kind) (precision : UInt32) (root : Shard) (feeds : List Feed)
    (record : Record) : Prop where
  key : record.key = root.key
  accounts : record.measure.Accounts precision feeds
  fresh : Measure.empty precision root.ranks kind = .ok record.measure.drained

namespace Record.Gathers

variable {kind : Kind} {precision : UInt32} {root : Shard} {feeds : List Feed} {record : Record}

theorem kind_eq (h : record.Gathers kind precision root feeds) : record.measure.kind = kind := by
  rw [← Measure.kind_drained, Measure.kind_empty h.fresh]

theorem start (positive : 1 ≤ precision) {measure : Measure}
    (made : Measure.empty precision root.ranks kind = .ok measure) :
    Record.Gathers kind precision root [] ⟨root.key, measure⟩ :=
  ⟨rfl, Measure.accounts_empty positive made, (Measure.drained_empty made).symm ▸ made⟩

theorem perm {others : List Feed} (h : record.Gathers kind precision root feeds)
    (perm : feeds.Perm others) : record.Gathers kind precision root others :=
  ⟨h.key, Measure.accounts_perm perm h.accounts, h.fresh⟩

/-- Equal feeds under an equal root make equal records. -/
theorem unique {other : Record} {otherRoot : Shard} (h : record.Gathers kind precision root feeds)
    (h' : other.Gathers kind precision otherRoot feeds) (key : otherRoot.key = root.key)
    (ranks : otherRoot.ranks = root.ranks) : other = record := by
  have drained : record.measure.drained = other.measure.drained := by
    have eq := h.fresh.symm.trans (ranks ▸ h'.fresh)
    exact Except.ok.inj eq
  have measure := Measure.eq_of_accounts h.accounts h'.accounts drained
  have keys : record.key = other.key := by rw [h.key, h'.key, key]
  cases record
  cases other
  simp_all

theorem feed (positive : 1 ≤ precision) (h : record.Gathers kind precision root feeds)
    (admitted : ∀ f ∈ feeds, kind.Admits f) {feed : Feed} (admits : kind.Admits feed) :
    ∃ fed, record.feed feed = .ok fed ∧ fed.Gathers kind precision root (feed :: feeds) := by
  rw [← h.kind_eq] at admitted admits
  obtain ⟨measure, fed, accounts, drained⟩ :=
    Measure.accounts_feed positive h.accounts admitted admits
  refine ⟨{ record with measure }, ?_, h.key, accounts, ?_⟩
  · rw [Record.feed, fed]
    rfl
  · rw [drained]
    exact h.fresh

theorem feedAll (positive : 1 ≤ precision) (more : List Feed)
    (h : record.Gathers kind precision root feeds) (admitted : ∀ f ∈ feeds, kind.Admits f)
    (admits : ∀ f ∈ more, kind.Admits f) :
    ∃ fed, more.foldlM Record.feed record = .ok fed ∧
      fed.Gathers kind precision root (more ++ feeds) := by
  induction more generalizing record feeds with
  | nil => exact ⟨record, rfl, h⟩
  | cons f rest ih =>
    have head := admits f (by simp)
    obtain ⟨fed, step, gathers⟩ := h.feed positive admitted head
    obtain ⟨last, run, all⟩ := ih gathers
      (fun g mem => (List.mem_cons.1 mem).elim (fun eq => eq ▸ head) (admitted g))
      (fun g mem => admits g (List.mem_cons_of_mem _ mem))
    refine ⟨last, ?_, all.perm List.perm_middle⟩
    rw [List.foldlM_cons, step]
    exact run

theorem combine {otherRoot : Shard} {others : List Feed} {other : Record}
    (h : record.Gathers kind precision root feeds)
    (h' : other.Gathers kind precision otherRoot others)
    (admitted : ∀ f ∈ feeds, kind.Admits f) (admits : ∀ f ∈ others, kind.Admits f)
    (fed : kind = .average → others ≠ []) :
    ∃ merged, record.combine other = .ok merged ∧
      merged.Gathers kind precision root (feeds ++ others) := by
  rw [← h.kind_eq] at admitted admits fed
  obtain ⟨measure, merged, accounts, drained⟩ := Measure.accounts_merge h.accounts h'.accounts
    (h.kind_eq.trans h'.kind_eq.symm) admitted admits fed
  refine ⟨{ record with measure }, ?_, h.key, accounts, ?_⟩
  · rw [Record.combine, merged]
    rfl
  · rw [drained]
    exact h.fresh

end Record.Gathers

theorem Shard.gathers {kind : Kind} (concrete : kind ≠ .singleValue) {precision : UInt32}
    (positive : 1 ≤ precision) (shard : Shard) (admits : ∀ f ∈ shard.feeds, kind.Admits f) :
    ∃ record, shard.record kind precision = .ok record ∧
      record.Gathers kind precision shard shard.feeds := by
  obtain ⟨measure, made⟩ := Measure.exists_empty concrete precision shard.ranks
  have start := Record.Gathers.start positive made
  obtain ⟨record, run, gathers⟩ := start.feedAll positive shard.feeds nofun admits
  refine ⟨record, ?_, gathers.perm (by rw [List.append_nil])⟩
  rw [Shard.record, Record.empty, made]
  exact run

/-- By induction on the tree: every part of it gathers the feeds of its shards. -/
theorem MergeTree.gathers {kind : Kind} (concrete : kind ≠ .singleValue) {precision : UInt32}
    (positive : 1 ≤ precision) (tree : MergeTree) (fed : ∀ shard ∈ tree.shards, shard.feeds ≠ [])
    (admits : ∀ f ∈ tree.feeds, kind.Admits f) :
    tree.feeds ≠ [] ∧ ∃ record, tree.record kind precision = .ok record ∧
      record.Gathers kind precision tree.root tree.feeds := by
  induction tree with
  | single shard =>
    have own : (MergeTree.single shard).feeds = shard.feeds := by
      simp [MergeTree.feeds, MergeTree.shards]
    rw [own] at admits ⊢
    exact ⟨fed shard (List.mem_singleton_self _), shard.gathers concrete positive admits⟩
  | combine left right ihl ihr =>
    have both : (left.combine right).feeds = left.feeds ++ right.feeds := by
      simp [MergeTree.feeds, MergeTree.shards]
    rw [both] at admits ⊢
    have admitsLeft := fun f mem => admits f (List.mem_append_left right.feeds mem)
    have admitsRight := fun f mem => admits f (List.mem_append_right left.feeds mem)
    obtain ⟨_, record, madeLeft, gathersLeft⟩ :=
      ihl (fun shard mem => fed shard (List.mem_append_left right.shards mem)) admitsLeft
    obtain ⟨some, other, madeRight, gathersRight⟩ :=
      ihr (fun shard mem => fed shard (List.mem_append_right left.shards mem)) admitsRight
    obtain ⟨merged, combined, gathers⟩ :=
      gathersLeft.combine gathersRight admitsLeft admitsRight fun _ => some
    refine ⟨fun nil => some (List.append_eq_nil_iff.1 nil).2, merged, ?_, gathers⟩
    rw [MergeTree.record, madeLeft, madeRight]
    change Outcome.ofExcept (record.combine other) = _
    rw [combined]
    rfl

/-- However feeds are distributed over shards, ordered and grouped, the merged record accounts for
all of them. Every other such tree with the same root record gives the same record, and so the same
display values. -/
theorem sharded_record_accounts {kind : Kind} (concrete : kind ≠ .singleValue)
    {precision : UInt32} (positive : 1 ≤ precision) {feeds : List Feed}
    (admits : ∀ feed ∈ feeds, kind.Admits feed) {tree : MergeTree}
    (fed : ∀ shard ∈ tree.shards, shard.feeds ≠ []) (split : tree.feeds.Perm feeds) :
    ∃ record, tree.record kind precision = .ok record ∧ record.key = tree.root.key ∧
      record.kind = kind ∧ record.measure.Accounts precision feeds ∧
      ∀ other : MergeTree, (∀ shard ∈ other.shards, shard.feeds ≠ []) → other.feeds.Perm feeds →
        other.root.key = tree.root.key → other.root.ranks = tree.root.ranks →
        other.record kind precision = .ok record ∧
          (other.record kind precision >>= Record.calculate) = record.calculate := by
  obtain ⟨_, record, made, gathers⟩ :=
    tree.gathers concrete positive fed fun f mem => admits f (split.mem_iff.1 mem)
  have all := gathers.perm split
  refine ⟨record, made, all.key, all.kind_eq, all.accounts, ?_⟩
  intro other otherFed otherSplit key ranks
  obtain ⟨_, same, otherMade, otherGathers⟩ :=
    other.gathers concrete positive otherFed fun f mem => admits f (otherSplit.mem_iff.1 mem)
  obtain rfl := all.unique (otherGathers.perm otherSplit) key ranks
  exact ⟨otherMade, by rw [otherMade]; rfl⟩

/-- Two shards whose sums together pass the limit, listed in another order than they merge. -/
theorem sharded_record_accounts_past_limit :
    let first : Feed := .aggregate 9223372036854775807 1 5 7
    let second : Feed := .aggregate 4 2 9 3
    let third : Feed := .aggregate 8 1 8 8
    let key : Record.Key := ⟨"a", none, 202401011200⟩
    ∃ record,
      (MergeTree.combine (.single ⟨key, [], [first]⟩) (.single ⟨key, [], [second, third]⟩)).record
        .average 1 = .ok record ∧
      record.measure.Accounts 1 [third, first, second] := by
  intro first second third key
  obtain ⟨record, made, _, _, accounts, _⟩ :=
    @sharded_record_accounts .average (by decide) 1 (by decide) [third, first, second]
      (by simp [Kind.Admits, first, second, third])
      (.combine (.single ⟨key, [], [first]⟩) (.single ⟨key, [], [second, third]⟩))
      (by simp [MergeTree.shards]) (by decide)
  exact ⟨record, made, accounts⟩

end Rollup
