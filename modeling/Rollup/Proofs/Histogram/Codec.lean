import Rollup.Histogram.Codec
import Rollup.Proofs.Histogram.Lookup
import Rollup.Proofs.Outcome
import Rollup.Proofs.Text.Numerals
import Rollup.Proofs.Text.Pieces

/-!
The text of a histogram. A histogram without negative counts comes back from its text, and of
several texts that are read as one histogram the written one is the canonical form: its keys are
ascending, it is accepted, and writing what was read from it changes nothing.
-/
namespace Rollup.Histogram

open Text Numeral

theorem keyOf?_toNat (key : UInt64) : keyOf? key.toNat = some key := by
  rw [keyOf?, dif_pos key.toNat_lt_size]
  exact congrArg some (UInt64.toNat_inj.1 (UInt64.toNat_ofNatLT ..))

theorem readKey_digits (key : UInt64) : readKey (digits key.toNat) = .ok key := by
  have same : trim (digits key.toNat) = digits key.toNat :=
    trim_eq_self fun _ mem => not_isBlank_of_isNumeralChar (isNumeralChar_of_mem_digits mem)
  rw [readKey, same, unsigned?_digits, Option.bind_some, keyOf?_toNat]

theorem readCount_write (count : Int64) : readCount (write count.toInt) = .ok count := by
  have same : trim (write count.toInt) = write count.toInt :=
    trim_eq_self fun _ mem => not_isBlank_of_isNumeralChar (isNumeralChar_of_mem_write mem)
  rw [readCount, same, signed?_write, Option.bind_some, Amount.ofInt?_toInt]

theorem cut_encodeEntry (entry : UInt64 × Int64) :
    cut ',' (encodeEntry entry) = some (digits entry.1.toNat, write entry.2.toInt) := by
  refine cut_append (fun mem => ?_) _
  exact absurd (isDigit_of_mem_digits mem) (by decide)

/-- A written entry is read as itself; then its count and its key are judged. -/
theorem decodeEntry_encodeEntry (histogram : Histogram) (key : UInt64) (count : Int64) :
    decodeEntry histogram (encodeEntry (key, count)) =
      if count < 0 then .error (.negativeCount count key)
      else if histogram.contains key then .error (.repeatedKey key)
      else .ok (histogram.insert key count) := by
  rw [decodeEntry, cut_encodeEntry]
  simp only [readKey_digits, readCount_write]
  rfl

theorem foldlM_decodeEntry {entries : List (UInt64 × Int64)} (distinct : (entries.map (·.1)).Nodup)
    {histogram : Histogram} (new : ∀ e ∈ entries, histogram.get? e.1 = none) :
    (entries.map encodeEntry).foldlM decodeEntry histogram =
      match entries.find? (·.2 < 0) with
      | none => .ok (entries.foldl (fun sum (key, count) => sum.insert key count) histogram)
      | some (key, count) => .error (.negativeCount count key) := by
  induction entries generalizing histogram with
  | nil => rfl
  | cons head rest ih =>
    obtain ⟨key, count⟩ := head
    rw [List.map_cons, List.nodup_cons] at distinct
    have absent : histogram.contains key = false := by
      rw [contains, new (key, count) List.mem_cons_self, Option.isSome_none]
    rw [List.map_cons, List.foldlM_cons, decodeEntry_encodeEntry]
    by_cases negative : count < 0
    · simp only [if_pos negative, List.find?_cons, decide_eq_true negative]
      rfl
    · have later : ∀ e ∈ rest, (histogram.insert key count).get? e.1 = none := by
        intro e mem
        have other : e.1 ≠ key := fun eq => distinct.1 (List.mem_map.2 ⟨e, mem, eq⟩)
        rw [get?_insert, if_neg other, new e (List.mem_cons_of_mem _ mem)]
      simp only [if_neg negative, absent, List.find?_cons, decide_eq_false negative]
      exact ih distinct.2 later

theorem encodeEntry_ne_nil (entry : UInt64 × Int64) : encodeEntry entry ≠ [] := by
  simp [encodeEntry]

theorem encodeChars_eq_nil_iff {histogram : Histogram} :
    histogram.encodeChars = [] ↔ histogram.entries = [] := by
  rw [encodeChars]
  cases histogram.entries with
  | nil => simp [join]
  | cons head rest =>
    cases rest with
    | nil => simp [join, encodeEntry_ne_nil]
    | cons next rest => simp [join]

theorem notMem_encodeEntry {c : Char} (h : ¬ IsNumeralChar c) (comma : c ≠ ',')
    (entry : UInt64 × Int64) : c ∉ encodeEntry entry := by
  intro mem
  rcases List.mem_append.1 mem with mem | mem
  · exact h (isNumeralChar_of_mem_digits mem)
  · rcases List.mem_cons.1 mem with eq | mem
    · exact comma eq
    · exact h (isNumeralChar_of_mem_write mem)

theorem bar_notMem_encodeEntry (entry : UInt64 × Int64) : '|' ∉ encodeEntry entry :=
  notMem_encodeEntry (by simp [IsNumeralChar]) (by decide) entry

theorem trim_encodeChars (histogram : Histogram) :
    trim histogram.encodeChars = histogram.encodeChars := by
  apply trim_eq_self
  intro c mem
  rcases mem_join mem with rfl | ⟨_, piece, mem⟩
  · decide
  · obtain ⟨entry, -, rfl⟩ := List.mem_map.1 piece
    apply Bool.eq_false_iff.2
    intro blank
    have numeral : ¬ IsNumeralChar c := fun h =>
      Bool.eq_false_iff.1 (not_isBlank_of_isNumeralChar h) blank
    have comma : c ≠ ',' := by
      rintro rfl
      exact absurd blank (by decide)
    exact notMem_encodeEntry numeral comma entry mem

theorem pieces_encodeChars {histogram : Histogram} (h : histogram.entries ≠ []) :
    pieces '|' histogram.encodeChars = histogram.entries.map encodeEntry := by
  refine pieces_join (by simpa using h) fun piece mem => ?_
  obtain ⟨entry, -, rfl⟩ := List.mem_map.1 mem
  exact bar_notMem_encodeEntry entry

/-- What is read from a written text: the histogram itself, or its first negative count. -/
theorem decode_encode (histogram : Histogram) :
    decode histogram.encode =
      match histogram.entries.find? (·.2 < 0) with
      | none => .ok histogram
      | some (key, count) => .error (.negativeCount count key) := by
  rw [decode, encode, String.toList_ofList, decodeChars, trim_encodeChars]
  by_cases blank : histogram.entries = []
  · rw [encodeChars_eq_nil_iff.2 blank, blank]
    exact congrArg Except.ok (Histogram.ext blank.symm)
  · cases text : histogram.encodeChars with
    | nil => exact absurd (encodeChars_eq_nil_iff.1 text) blank
    | cons c rest =>
      change (pieces '|' (c :: rest)).foldlM decodeEntry empty = _
      rw [← text, pieces_encodeChars blank, foldlM_decodeEntry histogram.nodup_keys fun _ _ => rfl]
      have whole : histogram.entries.foldl (fun sum (key, count) => sum.insert key count) empty =
          histogram := ofList_entries histogram
      rw [whole]

/-- No count is negative. -/
def Counted (histogram : Histogram) : Prop :=
  ∀ entry ∈ histogram.entries, 0 ≤ entry.2

theorem Counted.decode_encode {histogram : Histogram} (h : histogram.Counted) :
    decode histogram.encode = .ok histogram := by
  have none : histogram.entries.find? (·.2 < 0) = none := by
    rw [List.find?_eq_none]
    intro entry mem
    simpa using h entry mem
  rw [Histogram.decode_encode, none]

theorem Counted.insert {histogram : Histogram} (h : histogram.Counted) (key : UInt64)
    {count : Int64} (nonneg : ¬ count < 0) : (histogram.insert key count).Counted := by
  rintro ⟨other, found⟩ mem
  rw [mem_entries_iff, get?_insert] at mem
  split at mem
  · cases mem
    exact Int64.not_lt.1 nonneg
  · exact h (other, found) (mem_entries_iff.2 mem)

theorem Counted.increment {histogram : Histogram} (h : histogram.Counted) (key : UInt64)
    {delta : Int64} (nonneg : 0 ≤ delta) : (histogram.increment key delta).Counted := by
  rintro ⟨other, found⟩ mem
  rw [mem_entries_iff, get?_increment] at mem
  split at mem
  · cases mem
    refine Amount.add_nonneg ?_ nonneg
    cases held : histogram.get? key with
    | none => decide
    | some before => exact h (key, before) (mem_entries_iff.2 held)
  · exact h (other, found) (mem_entries_iff.2 mem)

theorem Counted.append {histogram other : Histogram} (h : histogram.Counted)
    (more : other.Counted) : (histogram.append other).Counted := by
  have all (entries : List (UInt64 × Int64)) {sum : Histogram} (counted : sum.Counted)
      (nonneg : ∀ entry ∈ entries, 0 ≤ entry.2) :
      (entries.foldl (fun sum (key, count) => sum.increment key count) sum).Counted := by
    induction entries generalizing sum with
    | nil => exact counted
    | cons entry rest ih =>
      exact ih (counted.increment entry.1 (nonneg entry List.mem_cons_self))
        fun later mem => nonneg later (List.mem_cons_of_mem _ mem)
  exact all other.entries h more

theorem counted_ofList {entries : List (UInt64 × Int64)} (h : ∀ entry ∈ entries, 0 ≤ entry.2) :
    (ofList entries).Counted :=
  fun entry mem => h entry (mem_of_get?_ofList (mem_entries_iff.1 mem))

theorem Counted.total_nonneg {histogram : Histogram} (h : histogram.Counted) :
    0 ≤ histogram.total.toInt := by
  have nonneg : ∀ count ∈ histogram.counts, 0 ≤ count.toInt := by
    intro count mem
    obtain ⟨entry, listed, rfl⟩ := List.mem_map.1 mem
    exact Int64.le_iff_toInt_le.1 (h entry listed)
  rw [total, Amount.toInt_total nonneg]
  exact Amount.clamp_nonneg (Amount.sum_map_nonneg nonneg)

theorem Counted.decodeEntry {histogram result : Histogram} (h : histogram.Counted)
    {entry : List Char} (read : histogram.decodeEntry entry = .ok result) : result.Counted := by
  unfold Histogram.decodeEntry at read
  split at read
  · contradiction
  · obtain ⟨key, -, read⟩ := Except.bind_eq_ok_iff.1 read
    obtain ⟨count, -, read⟩ := Except.bind_eq_ok_iff.1 read
    split at read
    · contradiction
    · next nonneg =>
      split at read
      · contradiction
      · cases read
        exact h.insert key nonneg

theorem Counted.foldlM_decodeEntry {entries : List (List Char)} {histogram result : Histogram}
    (h : histogram.Counted)
    (read : entries.foldlM Histogram.decodeEntry histogram = .ok result) : result.Counted := by
  induction entries generalizing histogram with
  | nil => exact Except.ok.inj read ▸ h
  | cons entry rest ih =>
    rw [List.foldlM_cons] at read
    obtain ⟨next, step, read⟩ := Except.bind_eq_ok_iff.1 read
    exact ih (h.decodeEntry step) read

/-- Whatever is accepted has no negative count. -/
theorem counted_of_decode {text : String} {histogram : Histogram}
    (read : decode text = .ok histogram) : histogram.Counted := by
  have none : empty.Counted := nofun
  unfold decode decodeChars at read
  split at read
  · exact Except.ok.inj read ▸ none
  · exact none.foldlM_decodeEntry read

/-- The keys that a text lists, in the order in which they stand there. -/
def writtenKeys (text : String) : List Nat :=
  (pieces '|' text.toList).filterMap fun entry =>
    (cut ',' entry).bind fun (key, _) => unsigned? key

theorem writtenKeys_encode (histogram : Histogram) :
    writtenKeys histogram.encode = histogram.keys.map UInt64.toNat := by
  rw [writtenKeys, encode, String.toList_ofList]
  by_cases blank : histogram.entries = []
  · rw [encodeChars_eq_nil_iff.2 blank, keys, blank]
    rfl
  · rw [pieces_encodeChars blank, List.filterMap_map, keys, List.map_map]
    rw [← List.filterMap_eq_map]
    congr 1
    funext entry
    simp only [Function.comp_apply, cut_encodeEntry, Option.bind_some]
    exact unsigned?_digits _

def reencode (text : String) : Except Fault String :=
  (decode text).map encode

/-- Reading undoes writing exactly when no count is negative, and writing what was read gives a
canonical text: the keys ascend, it is accepted as the same histogram, writing it again changes
nothing, and two accepted texts have it in common exactly when they are read alike. -/
theorem codec_canonical :
    (∀ histogram : Histogram, histogram.Counted → decode histogram.encode = .ok histogram) ∧
    (∀ histogram : Histogram, ¬ histogram.Counted → ∃ key count, (key, count) ∈ histogram.entries ∧
      count < 0 ∧ decode histogram.encode = .error (.negativeCount count key)) ∧
    (∀ text histogram, decode text = .ok histogram →
      writtenKeys histogram.encode = histogram.keys.map UInt64.toNat ∧
      (writtenKeys histogram.encode).Pairwise (· < ·) ∧
      decode histogram.encode = .ok histogram) ∧
    (∀ text written, reencode text = .ok written → reencode written = .ok written) ∧
    (∀ text other histogram otherHistogram, decode text = .ok histogram →
      decode other = .ok otherHistogram →
      (histogram = otherHistogram ↔ histogram.encode = otherHistogram.encode)) := by
  refine ⟨fun _ h => h.decode_encode, ?_, ?_, ?_, ?_⟩
  · intro histogram negative
    obtain ⟨⟨key, count⟩, found⟩ : ∃ entry, histogram.entries.find? (·.2 < 0) = some entry := by
      rw [← Option.isSome_iff_exists, List.find?_isSome]
      simpa [Counted] using negative
    refine ⟨key, count, List.mem_of_find?_eq_some found, ?_, ?_⟩
    · simpa using List.find?_some found
    · rw [Histogram.decode_encode, found]
  · intro text histogram read
    refine ⟨writtenKeys_encode histogram, ?_, (counted_of_decode read).decode_encode⟩
    rw [writtenKeys_encode, keys, List.map_map, List.pairwise_map]
    exact histogram.ascending.imp UInt64.lt_iff_toNat_lt.1
  · intro text written h
    obtain ⟨histogram, read, rfl⟩ := Except.map_eq_ok_iff.1 h
    rw [reencode, (counted_of_decode read).decode_encode]
    rfl
  · intro text other histogram otherHistogram read otherRead
    refine ⟨fun same => same ▸ rfl, fun same => ?_⟩
    have first := (counted_of_decode read).decode_encode
    rw [same, (counted_of_decode otherRead).decode_encode] at first
    exact (Except.ok.inj first).symm

/-- Blanks, a sign and a leading zero are read and written away, and the keys are put in order. -/
theorem codec_canonical_padded :
    reencode " 7,+1|03,9 " = .ok "3,9|7,1" ∧ reencode "3,9|7,1" = .ok "3,9|7,1" := by
  have padded : reencode " 7,+1|03,9 " = .ok "3,9|7,1" := rfl
  exact ⟨padded, codec_canonical.2.2.2.1 _ _ padded⟩

end Rollup.Histogram
