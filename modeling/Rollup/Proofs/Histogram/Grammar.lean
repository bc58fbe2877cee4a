import Rollup.Error
import Rollup.Proofs.Association
import Rollup.Proofs.Histogram.Codec

/-!
The texts that are read as histograms, by a grammar. Main statement: `decode_grammar`, a text is
read as a histogram exactly if the grammar derives it, and otherwise the fault is that of the
leftmost entry that the grammar does not allow, with the first check of that entry that fails.
-/
namespace Rollup.Histogram

open Text Numeral

def KeyPiece (piece : List Char) (key : UInt64) : Prop :=
  ∃ body, Surrounds piece body ∧ Unsigned body key.toNat

def CountPiece (piece : List Char) (count : Int64) : Prop :=
  ∃ body, Surrounds piece body ∧ Signed body count.toInt

/-- A text is cut in two by its first comma. -/
def Cut (text left right : List Char) : Prop :=
  text = left ++ ',' :: right ∧ ',' ∉ left

/-- A text is a key and a count that is not negative, on the two sides of its first comma. -/
def IsEntry (text : List Char) (entry : UInt64 × Int64) : Prop :=
  ∃ left right, Cut text left right ∧ KeyPiece left entry.1 ∧ CountPiece right entry.2 ∧
    0 ≤ entry.2

/-- A list of entries between bars, with blanks around the whole. -/
structure Lists (text : List Char) (pieces : List (List Char)) : Prop where
  filled : ∃ body, Surrounds text body ∧ body ≠ [] ∧ Separates '|' body pieces

/-- The histogram that a text stands for. -/
inductive Spells (text : List Char) : Histogram → Prop
  | blank : Surrounds text [] → Spells text empty
  | listed {pieces : List (List Char)} {entries : List (UInt64 × Int64)} {histogram : Histogram} :
    Lists text pieces → List.Forall₂ IsEntry pieces entries → (entries.map (·.1)).Nodup →
    (∀ key count, histogram.get? key = some count ↔ (key, count) ∈ entries) →
    Spells text histogram

/-- Why a text is refused as an entry after entries with the keys `seen`: the first check that it
does not pass. -/
inductive Refuses (seen : List UInt64) (text : List Char) : Fault → Prop
  | noSeparator : ',' ∉ text → Refuses seen text (.noSeparator (String.ofList text))
  | badKey {left right : List Char} : Cut text left right → (∀ key, ¬ KeyPiece left key) →
    Refuses seen text (.badKey (String.ofList left))
  | badCount {left right : List Char} {key : UInt64} : Cut text left right → KeyPiece left key →
    (∀ count, ¬ CountPiece right count) → Refuses seen text (.badCount (String.ofList right))
  | negative {left right : List Char} {key : UInt64} {count : Int64} : Cut text left right →
    KeyPiece left key → CountPiece right count → count < 0 →
    Refuses seen text (.negativeCount count key)
  | repeated {key : UInt64} {count : Int64} : IsEntry text (key, count) → key ∈ seen →
    Refuses seen text (.repeatedKey key)

/-- The fault of the leftmost entry that is refused. -/
def Faulty (text : List Char) (fault : Fault) : Prop :=
  ∃ before piece after entries, Lists text (before ++ piece :: after) ∧
    List.Forall₂ IsEntry before entries ∧ (entries.map (·.1)).Nodup ∧
    Refuses (entries.map (·.1)) piece fault

theorem keyOf?_eq_some_iff {n : Nat} {key : UInt64} : keyOf? n = some key ↔ key.toNat = n := by
  constructor
  · intro h
    rw [keyOf?] at h
    split at h
    · cases h
      exact UInt64.toNat_ofNatLT ..
    · contradiction
  · rintro rfl
    exact keyOf?_toNat key

theorem readKey_eq_ok_iff {piece : List Char} {key : UInt64} :
    readKey piece = .ok key ↔ KeyPiece piece key := by
  have read : (unsigned? (trim piece)).bind keyOf? = some key ↔ KeyPiece piece key := by
    rw [Option.bind_eq_some_iff]
    simp only [unsigned?_eq_some_iff, keyOf?_eq_some_iff, exists_eq_right', KeyPiece,
      ← trim_eq_iff, exists_eq_left']
  rw [← read, readKey]
  cases (unsigned? (trim piece)).bind keyOf? <;> simp

theorem readKey_eq_error_iff {piece : List Char} {fault : Fault} :
    readKey piece = .error fault ↔
      (∀ key, ¬ KeyPiece piece key) ∧ fault = .badKey (String.ofList piece) := by
  simp only [← readKey_eq_ok_iff, readKey]
  cases (unsigned? (trim piece)).bind keyOf? <;> simp [eq_comm]

theorem amount?_eq_some_iff {piece : List Char} {count : Int64} :
    (signed? (trim piece)).bind Amount.ofInt? = some count ↔ CountPiece piece count := by
  rw [Option.bind_eq_some_iff]
  simp only [signed?_eq_some_iff, Amount.ofInt?_eq_some_iff, exists_eq_right', CountPiece,
    ← trim_eq_iff, exists_eq_left']

theorem readCount_eq_ok_iff {piece : List Char} {count : Int64} :
    readCount piece = .ok count ↔ CountPiece piece count := by
  rw [← amount?_eq_some_iff, readCount]
  cases (signed? (trim piece)).bind Amount.ofInt? <;> simp

theorem readCount_eq_error_iff {piece : List Char} {fault : Fault} :
    readCount piece = .error fault ↔
      (∀ count, ¬ CountPiece piece count) ∧ fault = .badCount (String.ofList piece) := by
  simp only [← readCount_eq_ok_iff, readCount]
  cases (signed? (trim piece)).bind Amount.ofInt? <;> simp [eq_comm]

theorem Cut.eq {text left right : List Char} (h : Cut text left right) :
    cut ',' text = some (left, right) :=
  cut_eq_some_iff.2 h

theorem decodeEntry_of_cut (histogram : Histogram) {text left right : List Char}
    (h : Cut text left right) : decodeEntry histogram text = (do
      let key ← readKey left
      let count ← readCount right
      if count < 0 then .error (.negativeCount count key)
      else if histogram.contains key then .error (.repeatedKey key)
      else .ok (histogram.insert key count)) := by
  rw [decodeEntry, h.eq]

theorem decodeEntry_eq_ok_iff {histogram result : Histogram} {text : List Char} :
    decodeEntry histogram text = .ok result ↔ ∃ key count, IsEntry text (key, count) ∧
      histogram.get? key = none ∧ histogram.insert key count = result := by
  constructor
  · intro h
    cases cutting : cut ',' text with
    | none =>
      rw [decodeEntry, cutting] at h
      contradiction
    | some sides =>
      have cutting := cut_eq_some_iff.1 cutting
      rw [decodeEntry_of_cut histogram cutting] at h
      obtain ⟨key, readLeft, h⟩ := Except.bind_eq_ok_iff.1 h
      obtain ⟨count, readRight, h⟩ := Except.bind_eq_ok_iff.1 h
      split at h
      · contradiction
      · next nonneg =>
        split at h
        · contradiction
        · next absent =>
          rw [contains, Bool.not_eq_true, Option.isSome_eq_false_iff, Option.isNone_iff_eq_none]
            at absent
          exact ⟨key, count, ⟨_, _, cutting, readKey_eq_ok_iff.1 readLeft,
            readCount_eq_ok_iff.1 readRight, Int64.not_lt.1 nonneg⟩, absent, Except.ok.inj h⟩
  · rintro ⟨key, count, ⟨left, right, cutting, isKey, isCount, nonneg⟩, absent, rfl⟩
    have new : histogram.contains key = false := by rw [contains, absent, Option.isSome_none]
    rw [decodeEntry_of_cut histogram cutting, readKey_eq_ok_iff.2 isKey, Except.ok_bind,
      readCount_eq_ok_iff.2 isCount, Except.ok_bind, if_neg (Int64.not_lt.2 nonneg), new]
    rfl

/-- The checks behind the first comma, each with the fault it finds and the ones after it. -/
theorem decodeEntry_eq_error_iff_of_cut {histogram : Histogram} {text left right : List Char}
    {fault : Fault} (h : Cut text left right) : decodeEntry histogram text = .error fault ↔
      ((∀ key, ¬ KeyPiece left key) ∧ fault = .badKey (String.ofList left)) ∨
        ∃ key, KeyPiece left key ∧
          (((∀ count, ¬ CountPiece right count) ∧ fault = .badCount (String.ofList right)) ∨
            ∃ count, CountPiece right count ∧
              ((count < 0 ∧ fault = .negativeCount count key) ∨
                (0 ≤ count ∧ histogram.contains key = true ∧ fault = .repeatedKey key))) := by
  have last (key : UInt64) (count : Int64) :
      ((if count < 0 then .error (.negativeCount count key)
        else if histogram.contains key then .error (.repeatedKey key)
        else .ok (histogram.insert key count) : Except Fault Histogram) = .error fault) ↔
      (count < 0 ∧ fault = .negativeCount count key) ∨
        (0 ≤ count ∧ histogram.contains key = true ∧ fault = .repeatedKey key) := by
    rw [← Int64.not_lt]
    split
    · next negative =>
      simp only [negative, Except.error.injEq, true_and, not_true, false_and, or_false, eq_comm]
    · next nonneg =>
      split
      · next present =>
        simp only [nonneg, present, Except.error.injEq, not_false_iff, true_and, false_and,
          false_or, eq_comm]
      · next absent => simp [nonneg, absent]
  simp only [decodeEntry_of_cut histogram h, Except.bind_eq_error_iff, readKey_eq_error_iff,
    readKey_eq_ok_iff, readCount_eq_error_iff, readCount_eq_ok_iff, last]

theorem decodeEntry_eq_error_iff {histogram : Histogram} {seen : List UInt64}
    (known : ∀ key, histogram.contains key = true ↔ key ∈ seen) {text : List Char}
    {fault : Fault} : decodeEntry histogram text = .error fault ↔ Refuses seen text fault := by
  constructor
  · intro h
    cases cutting : cut ',' text with
    | none =>
      rw [decodeEntry, cutting] at h
      cases h
      exact .noSeparator (cut_eq_none_iff.1 cutting)
    | some sides =>
      have cutting : Cut text sides.1 sides.2 := cut_eq_some_iff.1 cutting
      obtain ⟨noKey, rfl⟩ | ⟨key, isKey, ⟨noCount, rfl⟩ | ⟨count, isCount, found⟩⟩ :=
        (decodeEntry_eq_error_iff_of_cut cutting).1 h
      · exact .badKey cutting noKey
      · exact .badCount cutting isKey noCount
      · obtain ⟨negative, rfl⟩ | ⟨nonneg, present, rfl⟩ := found
        · exact .negative cutting isKey isCount negative
        · exact .repeated ⟨_, _, cutting, isKey, isCount, nonneg⟩ ((known key).1 present)
  · intro h
    cases h with
    | noSeparator absent => rw [decodeEntry, cut_eq_none_iff.2 absent]
    | badKey cutting noKey =>
      exact (decodeEntry_eq_error_iff_of_cut cutting).2 (.inl ⟨noKey, rfl⟩)
    | badCount cutting isKey noCount =>
      exact (decodeEntry_eq_error_iff_of_cut cutting).2
        (.inr ⟨_, isKey, .inl ⟨noCount, rfl⟩⟩)
    | negative cutting isKey isCount negative =>
      exact (decodeEntry_eq_error_iff_of_cut cutting).2
        (.inr ⟨_, isKey, .inr ⟨_, isCount, .inl ⟨negative, rfl⟩⟩⟩)
    | repeated entry present =>
      obtain ⟨left, right, cutting, isKey, isCount, nonneg⟩ := entry
      exact (decodeEntry_eq_error_iff_of_cut cutting).2
        (.inr ⟨_, isKey, .inr ⟨_, isCount, .inr ⟨nonneg, (known _).2 present, rfl⟩⟩⟩)

theorem foldlM_decodeEntry_eq_ok_iff {pieces : List (List Char)} {histogram result : Histogram} :
    pieces.foldlM decodeEntry histogram = .ok result ↔ ∃ entries,
      List.Forall₂ IsEntry pieces entries ∧ (entries.map (·.1)).Nodup ∧
      (∀ e ∈ entries, histogram.get? e.1 = none) ∧
      entries.foldl (fun sum (key, count) => sum.insert key count) histogram = result := by
  induction pieces generalizing histogram with
  | nil => simp [pure, Except.pure]
  | cons piece rest ih =>
    rw [List.foldlM_cons, Except.bind_eq_ok_iff]
    constructor
    · rintro ⟨next, first, later⟩
      obtain ⟨key, count, entry, absent, rfl⟩ := decodeEntry_eq_ok_iff.1 first
      obtain ⟨entries, all, distinct, new, rfl⟩ := ih.1 later
      have other : ∀ e ∈ entries, e.1 ≠ key ∧ histogram.get? e.1 = none := by
        intro e mem
        have none := new e mem
        rw [get?_insert] at none
        split at none
        · contradiction
        · next ne => exact ⟨ne, none⟩
      refine ⟨(key, count) :: entries, .cons entry all, ?_, ?_, rfl⟩
      · rw [List.map_cons, List.nodup_cons]
        refine ⟨fun mem => ?_, distinct⟩
        obtain ⟨e, mem, same⟩ := List.mem_map.1 mem
        exact (other e mem).1 same
      · intro e mem
        rcases List.mem_cons.1 mem with rfl | mem
        · exact absent
        · exact (other e mem).2
    · rintro ⟨listed, all, distinct, new, rfl⟩
      obtain ⟨⟨key, count⟩, entries, entry, others, rfl⟩ := List.forall₂_cons_left_iff.1 all
      obtain ⟨fresh, distinct⟩ := List.nodup_cons.1 distinct
      refine ⟨histogram.insert key count, decodeEntry_eq_ok_iff.2
        ⟨key, count, entry, new _ List.mem_cons_self, rfl⟩,
        ih.2 ⟨entries, others, distinct, ?_, rfl⟩⟩
      intro e mem
      have other : e.1 ≠ key := fun same => fresh (List.mem_map.2 ⟨e, mem, same⟩)
      rw [get?_insert, if_neg other, new e (List.mem_cons_of_mem _ mem)]

theorem decodeChars_of_blank {text : List Char} (h : Surrounds text []) :
    decodeChars text = .ok empty := by
  rw [decodeChars, trim_eq_iff.2 h]

theorem decodeChars_of_lists {text : List Char} {pieces : List (List Char)}
    (h : Lists text pieces) : decodeChars text = pieces.foldlM decodeEntry empty := by
  obtain ⟨body, surrounds, filled, separates⟩ := h
  rw [decodeChars, trim_eq_iff.2 surrounds]
  cases body with
  | nil => contradiction
  | cons c rest =>
    rw [← pieces_eq_iff.2 separates]

/-- A text is blank or a list of entries. -/
theorem blank_or_lists (text : List Char) :
    Surrounds text [] ∨ ∃ pieces, Lists text pieces := by
  have surrounds := surrounds_trim text
  by_cases blank : trim text = []
  · exact .inl (blank ▸ surrounds)
  · exact .inr ⟨_, _, surrounds, blank, pieces_eq_iff.1 rfl⟩

theorem get?_ofList_eq_some_iff {entries : List (UInt64 × Int64)}
    (distinct : (entries.map (·.1)).Nodup) (key : UInt64) (count : Int64) :
    (ofList entries).get? key = some count ↔ (key, count) ∈ entries := by
  rw [get?_ofList distinct, lookup_eq_some_iff_mem distinct]

theorem decodeChars_eq_ok_iff {text : List Char} {histogram : Histogram} :
    decodeChars text = .ok histogram ↔ Spells text histogram := by
  constructor
  · intro h
    rcases blank_or_lists text with blank | ⟨pieces, lists⟩
    · rw [decodeChars_of_blank blank] at h
      exact Except.ok.inj h ▸ .blank blank
    · rw [decodeChars_of_lists lists] at h
      obtain ⟨entries, all, distinct, -, rfl⟩ := foldlM_decodeEntry_eq_ok_iff.1 h
      exact .listed lists all distinct (get?_ofList_eq_some_iff distinct)
  · intro h
    cases h with
    | blank blank => exact decodeChars_of_blank blank
    | @listed pieces entries histogram lists all distinct maps =>
      have same : ofList entries = histogram := by
        apply eq_of_get?
        intro key
        apply Option.ext
        intro count
        rw [get?_ofList_eq_some_iff distinct, maps]
      rw [decodeChars_of_lists lists]
      exact foldlM_decodeEntry_eq_ok_iff.2 ⟨entries, all, distinct, fun _ _ => rfl, same⟩

theorem contains_ofList_iff {entries : List (UInt64 × Int64)}
    (distinct : (entries.map (·.1)).Nodup) (key : UInt64) :
    (ofList entries).contains key = true ↔ key ∈ entries.map (·.1) := by
  rw [contains, Option.isSome_iff_exists]
  simp [get?_ofList_eq_some_iff distinct]

theorem decodeChars_eq_error_iff {text : List Char} {fault : Fault} :
    decodeChars text = .error fault ↔ Faulty text fault := by
  constructor
  · intro h
    rcases blank_or_lists text with blank | ⟨pieces, lists⟩
    · rw [decodeChars_of_blank blank] at h
      contradiction
    · rw [decodeChars_of_lists lists] at h
      obtain ⟨before, piece, after, reached, rfl, read, refused⟩ := Except.foldlM_eq_error_iff.1 h
      obtain ⟨entries, all, distinct, -, rfl⟩ := foldlM_decodeEntry_eq_ok_iff.1 read
      exact ⟨before, piece, after, entries, lists, all, distinct,
        (decodeEntry_eq_error_iff (contains_ofList_iff distinct)).1 refused⟩
  · rintro ⟨before, piece, after, entries, lists, all, distinct, refused⟩
    have read : before.foldlM decodeEntry empty = .ok (ofList entries) :=
      foldlM_decodeEntry_eq_ok_iff.2 ⟨entries, all, distinct, fun _ _ => rfl, rfl⟩
    rw [decodeChars_of_lists lists]
    exact Except.foldlM_eq_error_iff.2 ⟨before, piece, after, _, rfl, read,
      (decodeEntry_eq_error_iff (contains_ofList_iff distinct)).2 refused⟩

def Fault.piece? : Fault → Option String
  | .noSeparator piece | .badKey piece | .badCount piece => some piece
  | .negativeCount _ _ | .repeatedKey _ => none

theorem Fault.piece?_quoted {fault : Fault} {piece : String} (h : fault.piece? = some piece) :
    ∃ before after, fault.text = before ++ "'" ++ piece ++ "'" ++ after := by
  have quotes (before after : String) :
      (before ++ "'") ++ piece ++ ("'" ++ after) = before ++ "'" ++ piece ++ "'" ++ after :=
    (String.append_assoc ..).symm
  cases fault with
  | noSeparator entry =>
    cases h
    exact ⟨_, _, quotes "histogram entry " " has no ','"⟩
  | badKey entry =>
    cases h
    exact ⟨_, _, quotes "histogram key " " is not a non-negative integer"⟩
  | badCount entry =>
    cases h
    exact ⟨_, _, quotes "histogram count " " is not an integer"⟩
  | negativeCount => contradiction
  | repeatedKey => contradiction

/-- Every text is read as the histogram that it spells, or else refused for its leftmost entry that
is not allowed. The refusal is a decoding error, and it quotes the piece at fault untrimmed. -/
theorem decode_grammar (text : String) :
    (∀ histogram, decode text = .ok histogram ↔ Spells text.toList histogram) ∧
    (∀ fault, decode text = .error fault ↔ Faulty text.toList fault) ∧
    (∀ fault, decode text = .error fault → (Error.histogram fault).category = .decode ∧
      ∀ piece, fault.piece? = some piece → ∃ before after,
        (Error.histogram fault).text = before ++ "'" ++ piece ++ "'" ++ after) :=
  ⟨fun _ => decodeChars_eq_ok_iff, fun _ => decodeChars_eq_error_iff,
    fun _ _ => ⟨rfl, fun _ quoted => Fault.piece?_quoted quoted⟩⟩

/-- A key that is no number is found before a later entry without a comma. -/
theorem decode_grammar_leftmost :
    Faulty "7,1| x,y|z".toList (.badKey " x") ∧
      ∃ before after,
        (Error.histogram (.badKey " x")).text = before ++ "'" ++ " x" ++ "'" ++ after := by
  have refused : decode "7,1| x,y|z" = .error (.badKey " x") := rfl
  exact ⟨((decode_grammar _).2.1 _).1 refused, ((decode_grammar _).2.2 _ refused).2 _ rfl⟩

end Rollup.Histogram
