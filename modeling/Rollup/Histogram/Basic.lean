import Rollup.Amount

/-!
Sparse histograms: counts under 64-bit keys. The entries are kept with their keys strictly
ascending, so two histograms with the same counts are equal.
-/
namespace Rollup

structure Histogram where
  entries : List (UInt64 × Int64)
  ascending : entries.Pairwise fun a b => a.1 < b.1
deriving DecidableEq, Repr

namespace Histogram

/-- Sets the entry under `key` to `f` of the count found there. -/
def alterEntries (key : UInt64) (f : Option Int64 → Int64) :
    List (UInt64 × Int64) → List (UInt64 × Int64)
  | [] => [(key, f none)]
  | (k, count) :: rest =>
    if key < k then (key, f none) :: (k, count) :: rest
    else if key = k then (k, f (some count)) :: rest
    else (k, count) :: alterEntries key f rest

theorem fst_of_mem_alterEntries {key : UInt64} {f : Option Int64 → Int64} {e : UInt64 × Int64}
    {entries : List (UInt64 × Int64)} (h : e ∈ alterEntries key f entries) :
    e.1 = key ∨ ∃ e' ∈ entries, e'.1 = e.1 := by
  induction entries with
  | nil => simp_all [alterEntries]
  | cons head rest ih =>
    obtain ⟨k, count⟩ := head
    simp only [alterEntries] at h
    split at h
    · rcases List.mem_cons.1 h with rfl | h
      · exact .inl rfl
      · exact .inr ⟨e, h, rfl⟩
    · split at h
      · rcases List.mem_cons.1 h with rfl | h
        · exact .inr ⟨(k, count), by simp, rfl⟩
        · exact .inr ⟨e, by simp [h], rfl⟩
      · rcases List.mem_cons.1 h with rfl | h
        · exact .inr ⟨(k, count), by simp, rfl⟩
        · rcases ih h with h | ⟨e', mem, eq⟩
          · exact .inl h
          · exact .inr ⟨e', by simp [mem], eq⟩

theorem alterEntries_ascending (key : UInt64) (f : Option Int64 → Int64)
    {entries : List (UInt64 × Int64)} (h : entries.Pairwise fun a b => a.1 < b.1) :
    (alterEntries key f entries).Pairwise fun a b => a.1 < b.1 := by
  induction entries with
  | nil => simp [alterEntries]
  | cons head rest ih =>
    obtain ⟨k, count⟩ := head
    have above : ∀ e ∈ rest, k < e.1 := fun e mem => List.rel_of_pairwise_cons h mem
    simp only [alterEntries]
    split
    · next low =>
      refine List.Pairwise.cons (fun e mem => ?_) h
      rcases List.mem_cons.1 mem with rfl | mem
      · exact low
      · exact UInt64.lt_trans low (above e mem)
    · split
      · exact List.Pairwise.cons above h.of_cons
      · next notLow notEqual =>
        refine List.Pairwise.cons (fun e mem => ?_) (ih h.of_cons)
        rcases fst_of_mem_alterEntries mem with eq | ⟨e', mem', eq⟩
        · rw [eq]
          simp only [UInt64.lt_iff_toNat_lt, ← UInt64.toNat_inj] at notLow notEqual ⊢
          omega
        · rw [← eq]
          exact above e' mem'

def empty : Histogram := ⟨[], .nil⟩

def alter (histogram : Histogram) (key : UInt64) (f : Option Int64 → Int64) : Histogram :=
  ⟨alterEntries key f histogram.entries, alterEntries_ascending key f histogram.ascending⟩

def get? (histogram : Histogram) (key : UInt64) : Option Int64 :=
  histogram.entries.lookup key

/-- The count under a key, zero when it is absent. -/
def count (histogram : Histogram) (key : UInt64) : Int64 :=
  (histogram.get? key).getD 0

def contains (histogram : Histogram) (key : UInt64) : Bool :=
  (histogram.get? key).isSome

def insert (histogram : Histogram) (key : UInt64) (count : Int64) : Histogram :=
  histogram.alter key fun _ => count

/-- Adds to the count under a key, stopping at the limits of an amount. -/
def increment (histogram : Histogram) (key : UInt64) (delta : Int64) : Histogram :=
  histogram.alter key fun count => Amount.add (count.getD 0) delta

def append (histogram other : Histogram) : Histogram :=
  other.entries.foldl (fun sum (key, count) => sum.increment key count) histogram

/-- The histogram of these entries; of two entries under one key the later one stays. -/
def ofList (entries : List (UInt64 × Int64)) : Histogram :=
  entries.foldl (fun histogram (key, count) => histogram.insert key count) empty

def keys (histogram : Histogram) : List UInt64 :=
  histogram.entries.map (·.1)

def counts (histogram : Histogram) : List Int64 :=
  histogram.entries.map (·.2)

/-- The sum of all counts in the order of their keys, stopping at the limits of an amount. -/
def total (histogram : Histogram) : Int64 :=
  Amount.total histogram.counts

def size (histogram : Histogram) : Nat :=
  histogram.entries.length

def isEmpty (histogram : Histogram) : Bool :=
  histogram.entries.isEmpty

@[ext] theorem ext {a b : Histogram} (h : a.entries = b.entries) : a = b := by
  cases a
  cases b
  simp_all

end Histogram

end Rollup
