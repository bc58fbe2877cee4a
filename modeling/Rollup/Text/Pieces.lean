/-!
Cutting a text at a separator and joining pieces again. `pieces` always gives at least one piece,
`cut` stops at the first separator.
-/
namespace Rollup.Text

/-- The text before the first separator and the pieces that follow it. -/
def split (separator : Char) : List Char → List Char × List (List Char)
  | [] => ([], [])
  | c :: rest =>
    let (first, others) := split separator rest
    if c = separator then ([], first :: others) else (c :: first, others)

/-- The pieces between separators, in order; a text without one is a single piece. -/
def pieces (separator : Char) (text : List Char) : List (List Char) :=
  (split separator text).1 :: (split separator text).2

def cut (separator : Char) : List Char → Option (List Char × List Char)
  | [] => none
  | c :: rest =>
    if c = separator then some ([], rest)
    else (cut separator rest).map fun (before, after) => (c :: before, after)

def join (separator : Char) : List (List Char) → List Char
  | [] => []
  | [piece] => piece
  | piece :: next :: rest => piece ++ separator :: join separator (next :: rest)

theorem pieces_ne_nil (separator : Char) (text : List Char) : pieces separator text ≠ [] :=
  List.cons_ne_nil _ _

theorem join_pieces (separator : Char) (text : List Char) :
    join separator (pieces separator text) = text := by
  induction text with
  | nil => rfl
  | cons c rest ih =>
    simp only [pieces, split] at ih ⊢
    split
    · next h => simp only [join, List.nil_append, h]; rw [ih]
    · cases h : (split separator rest).2 with
      | nil => simp_all [join]
      | cons p ps => simp_all [join]

theorem cut_eq_none_iff {separator : Char} {text : List Char} :
    cut separator text = none ↔ separator ∉ text := by
  induction text with
  | nil => simp [cut]
  | cons c rest ih =>
    by_cases h : c = separator
    · simp [cut, h]
    · simp [cut, h, ih, Ne.symm h]

end Rollup.Text
