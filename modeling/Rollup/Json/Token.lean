import Rollup.Json.Basic
import Rollup.Text.Numeral

/-!
Tokens of a JSON text. The text is read once from left to right, one character a step; between two
characters only the token in hand and the tokens before it are kept.
-/
namespace Rollup

namespace Json

/-- A mark of structure, a bare word such as a number, or a quoted text. A text in which half of a
surrogate pair is numbered has no value. -/
inductive Token
  | mark (c : Char)
  | word (letters : List Char)
  | text (value : Option String)
deriving DecidableEq, Repr

namespace Token

/-- What has been read of a text, in reverse, unless the text has no value. -/
abbrev Read := Option (List Char)

def Read.push (c : Char) (read : Read) : Read :=
  read.map (c :: ·)

/-- The token in hand; the letters of a word stand in reverse. -/
inductive Mode
  | between
  | word (letters : List Char)
  | text (read : Read)
  | escape (read : Read)
  /-- A numbered character: the digits still missing, the value so far, and the first half of a
  surrogate pair if there was one. -/
  | numbered (read : Read) (missing value : Nat) (first : Option Nat)
  /-- After the first half of a surrogate pair, where `\u` has to come next. -/
  | pairSlash (read : Read) (first : Nat)
  | pairLetter (read : Read) (first : Nat)
deriving Repr

structure Scanner where
  done : List Token
  mode : Mode
deriving Repr

def isSpace (c : Char) : Bool :=
  c = ' ' || c = '\n' || c = '\t' || c = '\r'

def isMark (c : Char) : Bool :=
  c = '{' || c = '}' || c = '[' || c = ']' || c = ':' || c = ','

def isWord (c : Char) : Bool :=
  c.isAlphanum || c = '+' || c = '-' || c = '.'

/-- Outside of quotes a space ends a token, and a mark or a quote starts a new one. -/
def start (done : List Token) (c : Char) : Option Scanner :=
  if isSpace c then some ⟨done, .between⟩
  else if isMark c then some ⟨.mark c :: done, .between⟩
  else if c = '"' then some ⟨done, .text (some [])⟩
  else if isWord c then some ⟨done, .word [c]⟩
  else none

/-- What a letter after a backslash stands for. -/
def escaped? : Char → Option Char
  | '"' => some '"'
  | '\\' => some '\\'
  | '/' => some '/'
  | 'b' => some '\x08'
  | 'f' => some '\x0c'
  | 'n' => some '\n'
  | 'r' => some '\r'
  | 't' => some '\t'
  | _ => none

/-- Finishes a numbered character. The two halves of a surrogate pair stand together, or else the
text has no value. -/
def finishNumbered (done : List Token) (read : Read) (value : Nat) : Option Nat → Scanner
  | none =>
    if 0xD800 ≤ value ∧ value < 0xDC00 then ⟨done, .pairSlash read value⟩
    else if 0xDC00 ≤ value ∧ value < 0xE000 then ⟨done, .text none⟩
    else ⟨done, .text (read.push (Char.ofNat value))⟩
  | some first =>
    if 0xDC00 ≤ value ∧ value < 0xE000 then
      let code := 0x10000 + (first - 0xD800) * 0x400 + (value - 0xDC00)
      ⟨done, .text (read.push (Char.ofNat code))⟩
    else ⟨done, .text none⟩

def inside (done : List Token) (read : Read) (c : Char) : Option Scanner :=
  if c = '"' then some ⟨.text (read.map fun read => String.ofList read.reverse) :: done, .between⟩
  else if c = '\\' then some ⟨done, .escape read⟩
  else if c.toNat < 0x20 then none
  else some ⟨done, .text (read.push c)⟩

def afterSlash (done : List Token) (read : Read) (first : Option Nat) (c : Char) :
    Option Scanner :=
  if c = 'u' then some ⟨done, .numbered read 4 0 first⟩
  else
    let read := if first.isNone then read else none
    (escaped? c).map fun char => ⟨done, .text (read.push char)⟩

def step (scanner : Scanner) (c : Char) : Option Scanner :=
  let done := scanner.done
  match scanner.mode with
  | .between => start done c
  | .word letters =>
    if isWord c then some ⟨done, .word (c :: letters)⟩
    else start (.word letters.reverse :: done) c
  | .text read => inside done read c
  | .escape read => afterSlash done read none c
  | .numbered read missing value first =>
    (Numeral.hexValue? c).map fun digit =>
      let value := 16 * value + digit
      if missing ≤ 1 then finishNumbered done read value first
      else ⟨done, .numbered read (missing - 1) value first⟩
  | .pairSlash read first =>
    if c = '\\' then some ⟨done, .pairLetter read first⟩ else inside done none c
  | .pairLetter read first => afterSlash done read (some first) c

/-- The tokens of a text, or nothing if a token cannot be read or is left open. -/
def scan (text : List Char) : Option (List Token) :=
  match text.foldlM step ⟨[], .between⟩ with
  | some ⟨done, .between⟩ => some done.reverse
  | some ⟨done, .word letters⟩ => some (.word letters.reverse :: done).reverse
  | _ => none

end Token

end Json

end Rollup
