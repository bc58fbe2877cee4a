import Rollup.Amount
import Rollup.Json.Parser
import Rollup.Json.Printer
import Rollup.Proofs.Text.Numerals
import Mathlib.Data.List.TakeDrop
import Mathlib.Data.List.TakeWhile

/-!
Texts of flat objects, whose fields are strings and integers of 64 bits. The scanner finds the
tokens that were written, whatever characters the strings hold, and the parser reads the fields
from them in their order. Main statement: `parseShaped?_render`.
-/
namespace Rollup

namespace Json

open Numeral

section Runs

variable {α σ : Type} {step : σ → α → Option σ} {state next : σ}

theorem foldlM_cons_of_eq {item : α} (here : step state item = some next) (rest : List α) :
    (item :: rest).foldlM step state = rest.foldlM step next := by
  rw [List.foldlM_cons, here]
  rfl

theorem foldlM_append_of_eq {items : List α} (first : items.foldlM step state = some next)
    (rest : List α) : (items ++ rest).foldlM step state = rest.foldlM step next := by
  rw [List.foldlM_append, first]
  rfl

end Runs

/-- A string, or an integer that fits 64 bits with or without a sign. -/
def Plain : Json → Prop
  | .string _ => True
  | .number (.integer n) => Amount.least ≤ n ∧ n < UInt64.size
  | _ => False

theorem plain_ofInt64 (value : Int64) : (int value.toInt).Plain :=
  ⟨Amount.least_le_toInt value,
    Int.lt_of_le_of_lt (Amount.toInt_le_greatest value) (by decide)⟩

theorem plain_ofUInt32 (value : UInt32) : (int value.toNat).Plain := by
  have below := value.toNat_lt_size
  simp only [int, Plain, Amount.least, UInt32.size, UInt64.size] at *
  omega

/-- The token of a value that is neither an array nor an object. -/
def token : Json → Token
  | .string text => .text (some text)
  | value => .word value.render.toList

def fieldTokens : List (String × Json) → List Token
  | [] => [.mark '}']
  | [(key, value)] => [.text (some key), .mark ':', token value, .mark '}']
  | (key, value) :: next :: rest =>
    [.text (some key), .mark ':', token value, .mark ','] ++ fieldTokens (next :: rest)

namespace Token

theorem hexValue?_digitChar {n : Nat} (h : n < 16) : hexValue? n.digitChar = some n := by
  have all : ∀ n < 16, hexValue? n.digitChar = some n := by decide
  exact all n h

theorem foldlM_quoteChar (done : List Token) (read : List Char) (c : Char) :
    (quoteChar c).foldlM step ⟨done, .text (some read)⟩ =
      some ⟨done, .text (some (c :: read))⟩ := by
  by_cases named : c ∈ ['"', '\\', '\x08', '\x0c', '\n', '\r', '\t']
  · simp only [List.mem_cons, List.not_mem_nil, or_false] at named
    rcases named with rfl | rfl | rfl | rfl | rfl | rfl | rfl <;> rfl
  · simp only [List.mem_cons, List.not_mem_nil, or_false, not_or] at named
    by_cases control : c.toNat < 0x20
    · have high : hexValue? (c.toNat / 16).digitChar = some (c.toNat / 16) :=
        hexValue?_digitChar (by omega)
      have low : hexValue? (c.toNat % 16).digitChar = some (c.toNat % 16) :=
        hexValue?_digitChar (by omega)
      have zero : hexValue? '0' = some 0 := rfl
      have value : 16 * (c.toNat / 16) + c.toNat % 16 = c.toNat := Nat.div_add_mod c.toNat 16
      have notHigh : ¬ (0xD800 ≤ c.toNat ∧ c.toNat < 0xDC00) := by omega
      have notLow : ¬ (0xDC00 ≤ c.toNat ∧ c.toNat < 0xE000) := by omega
      simp only [quoteChar, named, if_false, if_pos control, List.foldlM_cons, List.foldlM_nil]
      simp [step, inside, afterSlash, zero, high, low, value, finishNumbered, notHigh, notLow,
        Read.push]
    · simp [quoteChar, named, control, step, inside, Read.push]

theorem foldlM_quote (done : List Token) (text : String) :
    (quote text).toList.foldlM step ⟨done, .between⟩ =
      some ⟨.text (some text) :: done, .between⟩ := by
  have inner (letters read : List Char) :
      (letters.flatMap quoteChar).foldlM step ⟨done, .text (some read)⟩ =
        some ⟨done, .text (some (letters.reverse ++ read))⟩ := by
    induction letters generalizing read with
    | nil => rfl
    | cons c letters ih =>
      rw [List.flatMap_cons, foldlM_append_of_eq (foldlM_quoteChar ..), ih, List.reverse_cons,
        List.append_assoc]
      rfl
  have opening : step ⟨done, .between⟩ '"' = some ⟨done, .text (some [])⟩ := rfl
  rw [quote, String.toList_ofList, foldlM_cons_of_eq opening, foldlM_append_of_eq (inner ..)]
  simp [step, inside]

theorem start_mark {c : Char} (h : isMark c = true) (done : List Token) :
    start done c = some ⟨.mark c :: done, .between⟩ := by
  simp only [isMark, Bool.or_eq_true, decide_eq_true_eq] at h
  rcases h with ((((rfl | rfl) | rfl) | rfl) | rfl) | rfl <;> rfl

theorem isWord_of_isNumeralChar {c : Char} (h : IsNumeralChar c) : isWord c = true := by
  rcases h with digit | rfl
  · simp [isWord, Char.isAlphanum, digit]
  · decide

theorem start_numeral {c : Char} (h : IsNumeralChar c) (done : List Token) :
    start done c = some ⟨done, .word [c]⟩ := by
  have space : isSpace c = false := by
    simp [isSpace, h.ne, IsNumeralChar]
  have mark : isMark c = false := by
    simp [isMark, h.ne, IsNumeralChar]
  have quotes : c ≠ '"' := h.ne (by decide)
  simp [start, space, mark, quotes, isWord_of_isNumeralChar h]

theorem foldlM_word {letters : List Char} (h : ∀ c ∈ letters, isWord c = true) (done : List Token)
    (taken : List Char) : letters.foldlM step ⟨done, .word taken⟩ =
      some ⟨done, .word (letters.reverse ++ taken)⟩ := by
  induction letters generalizing taken with
  | nil => rfl
  | cons c letters ih =>
    have here : step ⟨done, .word taken⟩ c = some ⟨done, .word (c :: taken)⟩ :=
      if_pos (h c List.mem_cons_self)
    rw [foldlM_cons_of_eq here, ih fun d mem => h d (List.mem_cons_of_mem _ mem),
      List.reverse_cons, List.append_assoc]
    rfl

/-- A text that is scanned as one token, whatever mark follows it. -/
def Spells (text : List Char) (token : Token) : Prop :=
  ∀ done c, isMark c = true →
    (text ++ [c]).foldlM step ⟨done, .between⟩ = some ⟨.mark c :: token :: done, .between⟩

theorem spells_quote (text : String) : Spells (quote text).toList (.text (some text)) := by
  intro done c mark
  have closing : step ⟨.text (some text) :: done, .between⟩ c = _ := start_mark mark _
  rw [foldlM_append_of_eq (foldlM_quote ..), foldlM_cons_of_eq closing]
  rfl

theorem spells_write (n : Int) : Spells (write n) (.word (write n)) := by
  intro done c mark
  have numeral : ∀ d ∈ write n, IsNumeralChar d := fun _ => isNumeralChar_of_mem_write
  have notWord : isWord c = false := by
    simp only [isMark, Bool.or_eq_true, decide_eq_true_eq] at mark
    rcases mark with ((((rfl | rfl) | rfl) | rfl) | rfl) | rfl <;> decide
  cases text : write n with
  | nil => exact absurd text (write_ne_nil n)
  | cons first letters =>
    rw [text, List.forall_mem_cons] at numeral
    have word := foldlM_word (fun d mem => isWord_of_isNumeralChar (numeral.2 d mem)) done [first]
    have opening : step ⟨done, .between⟩ first = some ⟨done, .word [first]⟩ :=
      start_numeral numeral.1 done
    rw [List.cons_append, foldlM_cons_of_eq opening, foldlM_append_of_eq word]
    simp [step, notWord, start_mark mark]

theorem spells_token {value : Json} (h : value.Plain) :
    Spells value.render.toList (Json.token value) := by
  cases value with
  | string text => exact spells_quote text
  | number number =>
    cases number with
    | integer n =>
      have text : (Json.number (.integer n)).render.toList = write n := String.toList_ofList
      have spelled := spells_write n
      rw [← text] at spelled
      exact spelled
    | float x => exact h.elim
  | _ => exact h.elim

theorem foldlM_field (key : String) {value : Json} (h : value.Plain) {c : Char}
    (mark : isMark c = true) (done : List Token) :
    ((quote key ++ ":" ++ value.render).toList ++ [c]).foldlM step ⟨done, .between⟩ =
      some ⟨.mark c :: Json.token value :: .mark ':' :: .text (some key) :: done, .between⟩ := by
  have colon : ":".toList = [':'] := rfl
  rw [String.toList_append, String.toList_append, colon, List.append_assoc,
    foldlM_append_of_eq (spells_quote key done ':' rfl), spells_token h _ _ mark]

theorem foldlM_fields {fields : List (String × Json)} (h : ∀ field ∈ fields, field.2.Plain)
    (done : List Token) :
    ((",".intercalate (renderFields fields)).toList ++ ['}']).foldlM step ⟨done, .between⟩ =
      some ⟨(fieldTokens fields).reverse ++ done, .between⟩ := by
  induction fields using fieldTokens.induct generalizing done with
  | case1 => rfl
  | case2 key value =>
    rw [renderFields, renderFields, String.intercalate_singleton,
      foldlM_field key (h _ List.mem_cons_self) rfl]
    rfl
  | case3 key value next rest ih =>
    obtain ⟨here, later⟩ := List.forall_mem_cons.1 h
    have others : renderFields (next :: rest) ≠ [] := List.cons_ne_nil _ _
    have comma : ",".toList = [','] := rfl
    rw [renderFields, String.intercalate_cons_of_ne_nil others, String.toList_append,
      String.toList_append, comma, List.append_assoc,
      foldlM_append_of_eq (foldlM_field key here rfl done), ih later, fieldTokens]
    simp

theorem scan_render {fields : List (String × Json)} (h : ∀ field ∈ fields, field.2.Plain) :
    scan (Json.object fields).render.toList = some (.mark '{' :: fieldTokens fields) := by
  have text : (Json.object fields).render.toList =
      '{' :: ((",".intercalate (renderFields fields)).toList ++ ['}']) := by
    rw [render, String.toList_append, String.toList_append]
    rfl
  have opening : step ⟨[], .between⟩ '{' = some ⟨[.mark '{'], .between⟩ := rfl
  rw [text, scan, foldlM_cons_of_eq opening, foldlM_fields h]
  simp

end Token

namespace Number

theorem span_digits (n : Nat) : (digits n).span Char.isDigit = (digits n, []) := by
  rw [List.span_eq_takeWhile_dropWhile, List.takeWhile_eq_self_iff.2 fun c => isDigit_of_mem_digits,
    List.dropWhile_eq_nil_iff.2 fun c => isDigit_of_mem_digits]

theorem someDigits?_digits (n : Nat) : someDigits? (digits n) = some (digits n, []) := by
  simp only [someDigits?, spanDigits, span_digits, if_neg (digits_ne_nil n)]

/-- No numeral but that of zero starts with the digit zero. -/
theorem eq_zero_of_head?_digits {n : Nat} (h : (digits n).head? = some '0') : n = 0 := by
  induction n using Nat.strongRecOn with
  | ind n ih =>
    rw [digits, Nat.toDigits_eq_if (by decide)] at h
    split at h
    · next small =>
      have same : n.digitChar = '0' := Option.some.inj h
      rw [← digitValue_digitChar small, same]
      rfl
    · next large =>
      obtain ⟨c, row, eq, -⟩ := digits_eq_cons (n / 10)
      rw [← digits, eq] at h
      have zero := ih (n / 10) (by omega) (eq ▸ h)
      omega

theorem parts?_write (n : Int) :
    parts? (write n) = some ⟨decide (n < 0), digits n.natAbs, none, none⟩ := by
  have zero (m : Nat) (h : (digits m).head? = some '0') : digits m = ['0'] :=
    eq_zero_of_head?_digits h ▸ rfl
  cases n with
  | ofNat m =>
    have row := someDigits?_digits m
    have alone := zero m
    obtain ⟨c, rest, eq, digit⟩ := digits_eq_cons m
    have unsigned : c ≠ '-' := by
      rintro rfl
      exact absurd digit (by decide)
    rw [eq] at row alone
    simpa [parts?, write, eq, unsigned, row] using alone
  | negSucc m => simpa [parts?, write, someDigits?_digits] using zero (m + 1)

theorem toNumber?_integer {n : Int} (low : Amount.least ≤ n) (high : n < UInt64.size) :
    (⟨decide (n < 0), digits n.natAbs, none, none⟩ : Parts).toNumber? = some (.integer n) := by
  have value := valueOf_digits n.natAbs
  by_cases negative : n < 0
  · have bound : n.natAbs ≤ Nat.pow 2 63 := by
      have power : Nat.pow 2 63 = 9223372036854775808 := rfl
      simp only [Amount.least] at low
      omega
    have positive : 0 < n.natAbs := by omega
    simp [Parts.toNumber?, value, negative, bound, positive, abs_of_neg negative]
  · have size : n.natAbs < UInt64.size := by omega
    have same : (n.natAbs : Int) = n := by omega
    simp [Parts.toNumber?, value, negative, size, same]

end Number

theorem word?_write (n : Int) : Parser.word? (write n) = (Number.parts? (write n)).map .number := by
  have other {letters : List Char} {c : Char} (mem : c ∈ letters) (no : ¬ IsNumeralChar c) :
      write n ≠ letters := fun same => no (isNumeralChar_of_mem_write (same ▸ mem))
  have null : write n ≠ ['n', 'u', 'l', 'l'] := other List.mem_cons_self (by decide)
  have yes : write n ≠ ['t', 'r', 'u', 'e'] := other List.mem_cons_self (by decide)
  have no : write n ≠ ['f', 'a', 'l', 's', 'e'] := other List.mem_cons_self (by decide)
  rw [Parser.word?, if_neg null, if_neg yes, if_neg no]

theorem exists_draft {value : Json} (h : value.Plain) :
    ∃ draft : Draft, (∀ stack, Parser.readValue stack (token value) =
      some (Parser.deliver stack draft)) ∧ ∀ room, draft.readWithin? room .all = some value := by
  cases value with
  | string text => exact ⟨.string (some text), fun _ => rfl, fun _ => rfl⟩
  | number number =>
    cases number with
    | integer n =>
      refine ⟨.number ⟨decide (n < 0), digits n.natAbs, none, none⟩, fun stack => ?_, fun _ => ?_⟩
      · have word : token (.number (.integer n)) = .word (write n) :=
          congrArg Token.word String.toList_ofList
        rw [word, Parser.readValue, word?_write, Number.parts?_write]
        rfl
      · rw [Draft.readWithin?, Number.toNumber?_integer h.1 h.2]
        rfl
    | float x => exact h.elim
  | _ => exact h.elim

theorem readFields?_cons {room : Nat} {key : String} {draft : Draft} {value : Json}
    (read : draft.readWithin? room .all = some value) (rest : List (Option String × Draft)) :
    Draft.readFields? room .all ((some key, draft) :: rest) =
      (Draft.readFields? room .all rest).map ((key, value) :: ·) := by
  have every : Shape.all.field? key = some .all := rfl
  simp only [Draft.readFields?, every, read, Option.bind_eq_bind, Option.bind_some]
  cases Draft.readFields? room .all rest <;> rfl

namespace Parser

/-- Where a key is due, the tokens of a field put the field into the open object. -/
theorem foldlM_field {await : Await} (due : await = .key ∨ await = .keyOrEnd)
    (before : List (Option String × Draft)) (key : String) {value : Token} {draft : Draft}
    (read : ∀ stack, readValue stack value = some (deliver stack draft)) (rest : List Token) :
    (.text (some key) :: .mark ':' :: value :: rest).foldlM step
        ⟨[.object before none], await, .null⟩ =
      rest.foldlM step ⟨[.object ((some key, draft) :: before) none], .separator, .null⟩ := by
  have named : step ⟨[.object before none], await, .null⟩ (.text (some key)) =
      some ⟨[.object before (some key)], .colon, .null⟩ := by
    rcases due with rfl | rfl <;> rfl
  have colon : step ⟨[.object before (some key)], .colon, .null⟩ (.mark ':') =
      some ⟨[.object before (some key)], .value, .null⟩ := rfl
  have valued : step ⟨[.object before (some key)], .value, .null⟩ value =
      some ⟨[.object ((some key, draft) :: before) none], .separator, .null⟩ :=
    read [.object before (some key)]
  rw [foldlM_cons_of_eq named, foldlM_cons_of_eq colon, foldlM_cons_of_eq valued]

/-- By induction on the fields: what stands before them in the open object is kept, and drafts of
them are put behind it. -/
theorem foldlM_fieldTokens {fields : List (String × Json)} (nonempty : fields ≠ [])
    (h : ∀ field ∈ fields, field.2.Plain) {await : Await}
    (due : await = .key ∨ await = .keyOrEnd) (before : List (Option String × Draft)) :
    ∃ drafts, (fieldTokens fields).foldlM step ⟨[.object before none], await, .null⟩ =
        some ⟨[], .nothing, .object (before.reverse ++ drafts)⟩ ∧
      ∀ room, Draft.readFields? room .all drafts = some fields := by
  induction fields using fieldTokens.induct generalizing await before with
  | case1 => contradiction
  | case2 key value =>
    obtain ⟨draft, read, drafted⟩ := exists_draft (h _ List.mem_cons_self)
    refine ⟨[(some key, draft)], ?_, fun room => ?_⟩
    · rw [fieldTokens, foldlM_field due before key read, ← List.reverse_cons]
      rfl
    · rw [readFields?_cons (drafted room)]
      rfl
  | case3 key value next rest ih =>
    obtain ⟨here, later⟩ := List.forall_mem_cons.1 h
    obtain ⟨draft, read, drafted⟩ := exists_draft here
    obtain ⟨drafts, others, fields⟩ :=
      ih (List.cons_ne_nil _ _) later (.inl rfl) ((some key, draft) :: before)
    refine ⟨(some key, draft) :: drafts, ?_, fun room => ?_⟩
    · have comma : step ⟨[.object ((some key, draft) :: before) none], .separator, .null⟩
          (.mark ',') = some ⟨[.object ((some key, draft) :: before) none], .key, .null⟩ := rfl
      rw [fieldTokens, List.cons_append, List.cons_append, List.cons_append,
        foldlM_field due before key read, List.singleton_append, foldlM_cons_of_eq comma, others,
        List.reverse_cons, List.append_assoc]
      rfl
    · rw [readFields?_cons (drafted room), fields room]
      rfl

end Parser

/-- The text of a flat object is parsed as this object, its fields in their order. -/
theorem parseShaped?_render {fields : List (String × Json)}
    (h : ∀ field ∈ fields, field.2.Plain) :
    parseShaped? .all (Json.object fields).render = some (.object fields) := by
  obtain ⟨drafts, parsed, read⟩ : ∃ drafts, (fieldTokens fields).foldlM Parser.step
      ⟨[.object [] none], .keyOrEnd, .null⟩ = some ⟨[], .nothing, .object drafts⟩ ∧
      ∀ room, Draft.readFields? room .all drafts = some fields := by
    by_cases empty : fields = []
    · exact empty ▸ ⟨[], rfl, fun _ => rfl⟩
    · exact Parser.foldlM_fieldTokens empty h (.inr rfl) []
  have opening : Parser.step Parser.initial (.mark '{') =
      some ⟨[.object [] none], .keyOrEnd, .null⟩ := rfl
  have draft : Draft.parse? (Json.object fields).render = some (.object drafts) := by
    simp only [Draft.parse?, Token.scan_render h, foldlM_cons_of_eq opening, parsed,
      Option.bind_eq_bind, Option.bind_some, if_true]
  rw [parseShaped?, draft, Option.bind_some, Draft.read?, Draft.readWithin?,
    if_neg (by decide), read]
  rfl

end Json

end Rollup
