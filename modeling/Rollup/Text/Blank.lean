/-!
Blank characters, the ones that count as space at the edges of a text. They are the characters of
the Unicode property `White_Space`; zero-width characters such as U+200B are not among them.
-/
namespace Rollup.Text

/-- The ranges of the property `White_Space`, ascending, both ends included. -/
def blankRanges : List (Nat × Nat) :=
  [(0x9, 0xD), (0x20, 0x20), (0x85, 0x85), (0xA0, 0xA0), (0x1680, 0x1680), (0x2000, 0x200A),
    (0x2028, 0x2029), (0x202F, 0x202F), (0x205F, 0x205F), (0x3000, 0x3000)]

def isBlank (c : Char) : Bool :=
  blankRanges.any fun (first, last) => first ≤ c.toNat && c.toNat ≤ last

def strip (inClass : Char → Bool) (text : List Char) : List Char :=
  ((text.dropWhile inClass).reverse.dropWhile inClass).reverse

def trim (text : List Char) : List Char :=
  strip isBlank text

end Rollup.Text
