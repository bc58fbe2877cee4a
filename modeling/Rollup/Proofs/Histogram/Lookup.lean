import Rollup.Histogram.Basic
import Rollup.Proofs.Saturation

/-!
What a histogram answers for a key after each operation. Main statements: `get?_alter` and
`get?_append`; and `eq_of_get?`, a histogram is known by its answers, since its keys are ascending.
-/
namespace Rollup.Histogram

theorem get?_empty (key : UInt64) : empty.get? key = none := rfl

theorem lookup_eq_none_of_lt {entries : List (UInt64 × Int64)} {key : UInt64}
    (h : ∀ e ∈ entries, key < e.1) : entries.lookup key = none := by
  rw [List.lookup_eq_none_iff]
  intro e mem
  simpa using UInt64.ne_of_lt (h e mem)

theorem lookup_cons_of_ne {key k : UInt64} (h : key ≠ k) (count : Int64)
    (rest : List (UInt64 × Int64)) : ((k, count) :: rest).lookup key = rest.lookup key := by
  rw [List.lookup_cons, beq_false_of_ne h]

theorem lookup_alterEntries (key : UInt64) (f : Option Int64 → Int64) (other : UInt64)
    {entries : List (UInt64 × Int64)} (h : entries.Pairwise fun a b => a.1 < b.1) :
    (alterEntries key f entries).lookup other =
      if other = key then some (f (entries.lookup key)) else entries.lookup other := by
  induction entries with
  | nil => by_cases same : other = key <;> simp [alterEntries, same]
  | cons head rest ih =>
    obtain ⟨k, count⟩ := head
    have above : ∀ e ∈ rest, k < e.1 := fun e mem => List.rel_of_pairwise_cons h mem
    simp only [alterEntries]
    split
    · next low =>
      -- every key that is there lies above the new one
      have absent : ((k, count) :: rest).lookup key = none := by
        apply lookup_eq_none_of_lt
        intro e mem
        rcases List.mem_cons.1 mem with rfl | mem
        · exact low
        · exact UInt64.lt_trans low (above e mem)
      by_cases same : other = key
      · simp [same, absent]
      · rw [lookup_cons_of_ne same, if_neg same]
    · split
      · next equal =>
        subst equal
        by_cases same : other = key
        · simp [same]
        · rw [lookup_cons_of_ne same, lookup_cons_of_ne same, if_neg same]
      · next notLow notEqual =>
        rw [lookup_cons_of_ne notEqual]
        by_cases first : other = k
        · rw [first, List.lookup_cons_self, List.lookup_cons_self, if_neg (Ne.symm notEqual)]
        · rw [lookup_cons_of_ne first, lookup_cons_of_ne first, ih h.of_cons]

theorem get?_alter (histogram : Histogram) (key : UInt64) (f : Option Int64 → Int64)
    (other : UInt64) : (histogram.alter key f).get? other =
      if other = key then some (f (histogram.get? key)) else histogram.get? other :=
  lookup_alterEntries key f other histogram.ascending

theorem get?_insert (histogram : Histogram) (key : UInt64) (count : Int64) (other : UInt64) :
    (histogram.insert key count).get? other =
      if other = key then some count else histogram.get? other :=
  get?_alter ..

theorem get?_increment (histogram : Histogram) (key : UInt64) (delta : Int64) (other : UInt64) :
    (histogram.increment key delta).get? other =
      if other = key then some (Amount.add ((histogram.get? key).getD 0) delta)
      else histogram.get? other :=
  get?_alter ..

theorem mem_entries_iff {histogram : Histogram} {key : UInt64} {count : Int64} :
    (key, count) ∈ histogram.entries ↔ histogram.get? key = some count := by
  obtain ⟨entries, ascending⟩ := histogram
  simp only [get?]
  induction entries with
  | nil => simp
  | cons head rest ih =>
    obtain ⟨k, c⟩ := head
    have above : ∀ e ∈ rest, k < e.1 := fun e mem => List.rel_of_pairwise_cons ascending mem
    by_cases same : key = k
    · have absent : (key, count) ∉ rest := fun mem =>
        UInt64.ne_of_lt (above _ mem) same.symm
      simp [same, same ▸ absent, eq_comm]
    · rw [lookup_cons_of_ne same, ← ih ascending.of_cons]
      simp [same]

theorem eq_of_get? {a b : Histogram} (h : ∀ key, a.get? key = b.get? key) : a = b := by
  have distinct (c : Histogram) : c.entries.Nodup := by
    apply c.ascending.imp
    intro e other below same
    exact UInt64.lt_irrefl _ (same ▸ below)
  have perm : a.entries.Perm b.entries := by
    rw [List.perm_ext_iff_of_nodup (distinct a) (distinct b)]
    rintro ⟨key, count⟩
    rw [mem_entries_iff, mem_entries_iff, h key]
  refine Histogram.ext (List.Perm.eq_of_pairwise ?_ a.ascending b.ascending perm)
  intro x y _ _ below above
  exact absurd (UInt64.lt_trans below above) (UInt64.lt_irrefl _)

theorem get?_foldl_increment {entries : List (UInt64 × Int64)}
    (h : entries.Pairwise fun a b => a.1 < b.1) (histogram : Histogram) (key : UInt64) :
    (entries.foldl (fun sum (key, count) => sum.increment key count) histogram).get? key =
      (histogram.get? key).merge Amount.add (entries.lookup key) := by
  induction entries generalizing histogram with
  | nil => simp
  | cons head rest ih =>
    obtain ⟨k, count⟩ := head
    rw [List.foldl_cons, ih h.of_cons, get?_increment]
    by_cases same : key = k
    · subst same
      have absent : rest.lookup key = none :=
        lookup_eq_none_of_lt fun e mem => List.rel_of_pairwise_cons h mem
      rw [absent, if_pos rfl, List.lookup_cons_self]
      cases histogram.get? key with
      | none => simp [Amount.zero_add]
      | some before => simp
    · rw [if_neg same, lookup_cons_of_ne same]

theorem get?_append (histogram other : Histogram) (key : UInt64) :
    (histogram.append other).get? key =
      (histogram.get? key).merge Amount.add (other.get? key) :=
  get?_foldl_increment other.ascending histogram key

theorem append_empty (histogram : Histogram) : histogram.append empty = histogram := rfl

theorem empty_append (histogram : Histogram) : empty.append histogram = histogram := by
  apply eq_of_get?
  intro key
  rw [get?_append, get?_empty, Option.merge_none_left]

theorem get?_foldl_insert {entries : List (UInt64 × Int64)} (h : (entries.map (·.1)).Nodup)
    (histogram : Histogram) (key : UInt64) :
    (entries.foldl (fun histogram (key, count) => histogram.insert key count) histogram).get? key =
      (entries.lookup key).or (histogram.get? key) := by
  induction entries generalizing histogram with
  | nil => rfl
  | cons head rest ih =>
    obtain ⟨k, count⟩ := head
    rw [List.map_cons, List.nodup_cons] at h
    rw [List.foldl_cons, ih h.2, get?_insert]
    by_cases same : key = k
    · subst same
      have absent : rest.lookup key = none := by
        rw [List.lookup_eq_none_iff]
        intro e mem
        have other : key ≠ e.1 := fun eq => h.1 (List.mem_map.2 ⟨e, mem, eq.symm⟩)
        simpa using other
      rw [absent, if_pos rfl, List.lookup_cons_self, Option.none_or, Option.some_or]
    · rw [if_neg same, lookup_cons_of_ne same]

theorem get?_ofList {entries : List (UInt64 × Int64)} (h : (entries.map (·.1)).Nodup)
    (key : UInt64) : (ofList entries).get? key = entries.lookup key := by
  rw [ofList, get?_foldl_insert h, get?_empty, Option.or_none]

theorem mem_of_get?_foldl_insert {entries : List (UInt64 × Int64)} {histogram : Histogram}
    {key : UInt64} {count : Int64} (h : (entries.foldl
      (fun histogram (key, count) => histogram.insert key count) histogram).get? key = some count) :
    (key, count) ∈ entries ∨ histogram.get? key = some count := by
  induction entries generalizing histogram with
  | nil => exact .inr h
  | cons entry rest ih =>
    rcases ih h with mem | before
    · exact .inl (List.mem_cons_of_mem _ mem)
    · rw [get?_insert] at before
      split at before
      · next same =>
        cases before
        exact .inl (same ▸ List.mem_cons_self)
      · exact .inr before

/-- What is found was listed, even if keys are listed more than once. -/
theorem mem_of_get?_ofList {entries : List (UInt64 × Int64)} {key : UInt64} {count : Int64}
    (h : (ofList entries).get? key = some count) : (key, count) ∈ entries := by
  rcases mem_of_get?_foldl_insert h with mem | before
  · exact mem
  · contradiction

theorem nodup_keys (histogram : Histogram) : histogram.keys.Nodup := by
  refine List.pairwise_map.2 (histogram.ascending.imp fun below => ?_)
  exact UInt64.ne_of_lt below

theorem ofList_entries (histogram : Histogram) : ofList histogram.entries = histogram :=
  eq_of_get? fun key => get?_ofList histogram.nodup_keys key

end Rollup.Histogram
