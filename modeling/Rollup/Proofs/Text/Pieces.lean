import Rollup.Text.Blank
import Rollup.Text.Pieces
import Mathlib.Data.List.TakeWhile

/-!
Cutting and trimming by what they give. Pieces that hold no separator come back from their joined
text and are the only such pieces of it (`pieces_eq_iff`); trimming gives the one part of a text
that has blanks around it and none at its own ends (`trim_eq_iff`).
-/
namespace Rollup.Text

theorem split_of_notMem {separator : Char} {text : List Char} (h : separator ∉ text) :
    split separator text = (text, []) := by
  induction text with
  | nil => rfl
  | cons c rest ih =>
    obtain ⟨first, others⟩ := List.ne_and_not_mem_of_not_mem_cons h
    simp [split, ih others, Ne.symm first]

theorem split_append {separator : Char} {piece : List Char} (h : separator ∉ piece)
    (rest : List Char) :
    split separator (piece ++ separator :: rest) = (piece, pieces separator rest) := by
  induction piece with
  | nil => simp [split, pieces]
  | cons c piece ih =>
    obtain ⟨first, others⟩ := List.ne_and_not_mem_of_not_mem_cons h
    simp [split, ih others, Ne.symm first]

theorem pieces_join {separator : Char} {list : List (List Char)} (nonempty : list ≠ [])
    (h : ∀ piece ∈ list, separator ∉ piece) : pieces separator (join separator list) = list := by
  induction list with
  | nil => exact absurd rfl nonempty
  | cons piece rest ih =>
    have head := h piece List.mem_cons_self
    cases rest with
    | nil => rw [join, pieces, split_of_notMem head]
    | cons next rest =>
      rw [join, pieces, split_append head]
      exact congrArg (piece :: ·)
        (ih (List.cons_ne_nil _ _) fun p mem => h p (List.mem_cons_of_mem _ mem))

theorem notMem_of_mem_pieces {separator : Char} {text piece : List Char}
    (h : piece ∈ pieces separator text) : separator ∉ piece := by
  induction text generalizing piece with
  | nil =>
    cases List.mem_singleton.1 h
    exact List.not_mem_nil
  | cons c rest ih =>
    by_cases same : c = separator
    · simp only [pieces, split, if_pos same] at h
      rcases List.mem_cons.1 h with rfl | h
      · exact List.not_mem_nil
      · exact ih h
    · simp only [pieces, split, if_neg same] at h
      rcases List.mem_cons.1 h with rfl | h
      · exact List.not_mem_cons_of_ne_of_not_mem (Ne.symm same) (ih List.mem_cons_self)
      · exact ih (List.mem_cons_of_mem _ h)

/-- A text is one or more pieces with a separator between neighbours, which no piece holds. -/
structure Separates (separator : Char) (text : List Char) (list : List (List Char)) : Prop where
  nonempty : list ≠ []
  plain : ∀ piece ∈ list, separator ∉ piece
  joined : join separator list = text

theorem pieces_eq_iff {separator : Char} {text : List Char} {list : List (List Char)} :
    pieces separator text = list ↔ Separates separator text list := by
  constructor
  · rintro rfl
    exact ⟨pieces_ne_nil separator text, fun _ mem => notMem_of_mem_pieces mem, join_pieces ..⟩
  · rintro ⟨nonempty, plain, rfl⟩
    exact pieces_join nonempty plain

theorem cut_append {separator : Char} {left : List Char} (h : separator ∉ left)
    (right : List Char) : cut separator (left ++ separator :: right) = some (left, right) := by
  induction left with
  | nil => simp [cut]
  | cons c left ih =>
    obtain ⟨first, others⟩ := List.ne_and_not_mem_of_not_mem_cons h
    rw [List.cons_append, cut, if_neg (Ne.symm first), ih others]
    rfl

theorem eq_of_append_cons_first {separator : Char} {front front' back back' : List Char}
    (h : front ++ separator :: back = front' ++ separator :: back') (absent : separator ∉ front)
    (absent' : separator ∉ front') : front = front' ∧ back = back' := by
  have cut := congrArg (cut separator) h
  rw [cut_append absent, cut_append absent'] at cut
  simpa using cut

theorem eq_of_append_cons {separator : Char} {front front' back back' : List Char}
    (h : front ++ separator :: back = front' ++ separator :: back') (absent : separator ∉ back)
    (absent' : separator ∉ back') : front = front' ∧ back = back' := by
  have reversed : back.reverse ++ separator :: front.reverse =
      back'.reverse ++ separator :: front'.reverse := by
    simpa using congrArg List.reverse h
  obtain ⟨backs, fronts⟩ :=
    eq_of_append_cons_first reversed (by simpa using absent) (by simpa using absent')
  exact ⟨List.reverse_inj.1 fronts, List.reverse_inj.1 backs⟩

theorem cut_eq_some_iff {separator : Char} {text left right : List Char} :
    cut separator text = some (left, right) ↔
      text = left ++ separator :: right ∧ separator ∉ left := by
  constructor
  · intro h
    induction text generalizing left with
    | nil => simp [cut] at h
    | cons c rest ih =>
      rw [cut] at h
      split at h
      · next same =>
        cases h
        exact ⟨by simp [same], List.not_mem_nil⟩
      · next other =>
        obtain ⟨⟨before, after⟩, found, eq⟩ := Option.map_eq_some_iff.1 h
        cases eq
        obtain ⟨rfl, absent⟩ := ih found
        exact ⟨rfl, by simp [Ne.symm other, absent]⟩
  · rintro ⟨rfl, absent⟩
    exact cut_append absent right

theorem mem_join {separator c : Char} {list : List (List Char)} (h : c ∈ join separator list) :
    c = separator ∨ ∃ piece ∈ list, c ∈ piece := by
  induction list with
  | nil => simp [join] at h
  | cons piece rest ih =>
    cases rest with
    | nil => exact .inr ⟨piece, by simp, h⟩
    | cons next rest =>
      rcases List.mem_append.1 h with h | h
      · exact .inr ⟨piece, by simp, h⟩
      · rcases List.mem_cons.1 h with rfl | h
        · exact .inl rfl
        · rcases ih h with eq | ⟨p, mem, h⟩
          · exact .inl eq
          · exact .inr ⟨p, List.mem_cons_of_mem _ mem, h⟩

theorem dropWhile_eq_self {inClass : Char → Bool} {text : List Char}
    (h : ∀ c ∈ text, inClass c = false) : text.dropWhile inClass = text := by
  cases text with
  | nil => rfl
  | cons c rest => rw [List.dropWhile_cons_of_neg (by simp [h c])]

/-- A text is `body` with blanks around it, and `body` has none at its ends. -/
structure Surrounds (text body : List Char) : Prop where
  around : ∃ before after, text = before ++ body ++ after ∧
    (∀ c ∈ before, isBlank c = true) ∧ ∀ c ∈ after, isBlank c = true
  first : ∀ c ∈ body.head?, isBlank c = false
  last : ∀ c ∈ body.getLast?, isBlank c = false

theorem dropWhile_append_of_head? {inClass : Char → Bool} {blanks body : List Char}
    (blank : ∀ c ∈ blanks, inClass c = true) (first : ∀ c ∈ body.head?, inClass c = false) :
    (blanks ++ body).dropWhile inClass = body := by
  rw [List.dropWhile_append_of_pos blank]
  cases body with
  | nil => rfl
  | cons c rest => exact List.dropWhile_cons_of_neg (by simp [first c rfl])

theorem head?_dropWhile (inClass : Char → Bool) (text : List Char) :
    ∀ c ∈ (text.dropWhile inClass).head?, inClass c = false := by
  intro c mem
  have stopped := List.head?_dropWhile_not inClass text
  rw [Option.mem_def.1 mem] at stopped
  simpa using stopped

theorem surrounds_trim (text : List Char) : Surrounds text (trim text) := by
  let rest := text.dropWhile isBlank
  have parts : rest = trim text ++ (rest.reverse.takeWhile isBlank).reverse := by
    rw [trim, strip, ← List.reverse_append, List.takeWhile_append_dropWhile, List.reverse_reverse]
  refine ⟨⟨text.takeWhile isBlank, (rest.reverse.takeWhile isBlank).reverse, ?_, ?_, ?_⟩, ?_, ?_⟩
  · rw [List.append_assoc, ← parts, List.takeWhile_append_dropWhile]
  · exact fun c mem => List.mem_takeWhile_imp mem
  · exact fun c mem => List.mem_takeWhile_imp (List.mem_reverse.1 mem)
  · intro c mem
    apply head?_dropWhile isBlank text
    change c ∈ rest.head?
    rw [parts, List.head?_append, Option.mem_def.1 mem]
    rfl
  · intro c mem
    rw [trim, strip, List.getLast?_reverse] at mem
    exact head?_dropWhile isBlank rest.reverse c mem

theorem trim_eq_iff {text body : List Char} : trim text = body ↔ Surrounds text body := by
  constructor
  · rintro rfl
    exact surrounds_trim text
  · rintro ⟨⟨before, after, rfl, blankBefore, blankAfter⟩, first, last⟩
    have blankReverse : ∀ c ∈ after.reverse, isBlank c = true :=
      fun c mem => blankAfter c (List.mem_reverse.1 mem)
    have lastReverse : ∀ c ∈ body.reverse.head?, isBlank c = false := by
      rwa [List.head?_reverse]
    rw [trim, strip, List.append_assoc]
    cases body with
    | nil =>
      have none : (before ++ ([] ++ after)).dropWhile isBlank = [] := by
        rw [List.dropWhile_append_of_pos blankBefore, List.nil_append, List.dropWhile_eq_nil_iff]
        exact blankAfter
      rw [none]
      rfl
    | cons c rest =>
      have start : ∀ d ∈ (c :: rest ++ after).head?, isBlank d = false := first
      rw [dropWhile_append_of_head? blankBefore start, List.reverse_append,
        dropWhile_append_of_head? blankReverse lastReverse, List.reverse_reverse]

theorem trim_eq_self {text : List Char} (h : ∀ c ∈ text, isBlank c = false) : trim text = text := by
  have reversed : ∀ c ∈ text.reverse, isBlank c = false := fun c mem => h c (List.mem_reverse.1 mem)
  rw [trim, strip, dropWhile_eq_self h, dropWhile_eq_self reversed, List.reverse_reverse]

end Rollup.Text
