import Rollup.Histogram.Basic
import Rollup.Text.Blank
import Rollup.Text.Numeral
import Rollup.Text.Pieces

/-!
The one-scalar text of a histogram, `key,count|key,count|…`. Writing lists the keys in ascending
order; reading takes them in any order, with blanks around every part, but refuses negative counts
and repeated keys. The first entry that cannot be read decides the fault.
-/
namespace Rollup

/-- Why a text is no histogram. Pieces are quoted as they stand in the text. -/
inductive Histogram.Fault
  | noSeparator (entry : String)
  | badKey (piece : String)
  | badCount (piece : String)
  | negativeCount (count : Int64) (key : UInt64)
  | repeatedKey (key : UInt64)
deriving DecidableEq, Repr

namespace Histogram.Fault

def text : Histogram.Fault → String
  | noSeparator entry => s!"histogram entry '{entry}' has no ','"
  | badKey piece => s!"histogram key '{piece}' is not a non-negative integer"
  | badCount piece => s!"histogram count '{piece}' is not an integer"
  | negativeCount count key =>
    s!"histogram count {Numeral.render count.toInt} for key {Numeral.render key.toNat} is negative"
  | repeatedKey key => s!"histogram key {Numeral.render key.toNat} appears twice"

end Histogram.Fault

namespace Histogram

def keyOf? (n : Nat) : Option UInt64 :=
  if h : n < UInt64.size then some (UInt64.ofNatLT n h) else none

def encodeEntry (entry : UInt64 × Int64) : List Char :=
  Numeral.digits entry.1.toNat ++ ',' :: Numeral.write entry.2.toInt

def encodeChars (histogram : Histogram) : List Char :=
  Text.join '|' (histogram.entries.map encodeEntry)

/-- The text of a histogram; an empty one has the empty text. -/
def encode (histogram : Histogram) : String :=
  String.ofList histogram.encodeChars

def readKey (piece : List Char) : Except Fault UInt64 :=
  match (Numeral.unsigned? (Text.trim piece)).bind keyOf? with
  | some key => .ok key
  | none => .error (.badKey (String.ofList piece))

def readCount (piece : List Char) : Except Fault Int64 :=
  match (Numeral.signed? (Text.trim piece)).bind Amount.ofInt? with
  | some count => .ok count
  | none => .error (.badCount (String.ofList piece))

def decodeEntry (histogram : Histogram) (entry : List Char) : Except Fault Histogram :=
  match Text.cut ',' entry with
  | none => .error (.noSeparator (String.ofList entry))
  | some (left, right) => do
    let key ← readKey left
    let count ← readCount right
    if count < 0 then .error (.negativeCount count key)
    else if histogram.contains key then .error (.repeatedKey key)
    else .ok (histogram.insert key count)

def decodeChars (text : List Char) : Except Fault Histogram :=
  match Text.trim text with
  | [] => .ok empty
  | body => (Text.pieces '|' body).foldlM decodeEntry empty

/-- Reads the text of a histogram; a blank text is an empty histogram. -/
def decode (text : String) : Except Fault Histogram :=
  decodeChars text.toList

end Histogram

end Rollup
