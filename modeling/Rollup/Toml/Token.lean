import Rollup.Text.Numeral

/-!
Tokens of a TOML text. The text is read once from left to right, one character a step. Comments
leave no token behind; blanks do, because a number may not hold any and a date may be parted from
its time by one space.
-/
namespace Rollup

namespace Toml

inductive Token
  | newline
  | blank (c : Char)
  | mark (c : Char)
  | word (letters : List Char)
  | text (value : String) (multiline : Bool)
deriving DecidableEq, Repr

namespace Token

/-- How a text is quoted. A basic text has escapes, a literal one is taken as it stands. -/
structure Quoting where
  basic : Bool
  multiline : Bool
deriving DecidableEq, Repr

def Quoting.mark (quoting : Quoting) : Char :=
  if quoting.basic then '"' else '\x27'

/-- The token in hand; what has been read of it stands in reverse. -/
inductive Mode
  | between
  | comment
  | word (read : List Char)
  /-- After one or two quotes that open a text. -/
  | opened (basic : Bool) (second : Bool)
  /-- At the very start of a text of several lines. -/
  | fresh (quoting : Quoting)
  | text (quoting : Quoting) (read : List Char)
  /-- After some quotes inside a text of several lines. -/
  | closing (quoting : Quoting) (read : List Char) (quotes : Nat)
  | escape (quoting : Quoting) (read : List Char)
  /-- A numbered character: the digits still missing and the value so far. -/
  | numbered (quoting : Quoting) (read : List Char) (missing value : Nat)
  /-- After a backslash at the end of a line, where all space is skipped. -/
  | folded (quoting : Quoting) (read : List Char) (ended : Bool)
deriving Repr

structure Scanner where
  done : List Token
  mode : Mode
deriving Repr

def isSpace (c : Char) : Bool :=
  c = ' ' || c = '\t'

def isBlank : Token → Bool
  | blank _ => true
  | _ => false

def isMark (c : Char) : Bool :=
  c = '=' || c = '.' || c = ',' || c = '+' || c = ':' || c = '{' || c = '}' || c = '[' || c = ']'

def isWord (c : Char) : Bool :=
  c.isAlphanum || c = '-' || c = '_'

/-- Between two tokens a character is a token of its own or starts one. -/
def start (done : List Token) (c : Char) : Option Scanner :=
  if c = '\n' then some ⟨.newline :: done, .between⟩
  else if isSpace c then some ⟨.blank c :: done, .between⟩
  else if c = '#' then some ⟨done, .comment⟩
  else if isMark c then some ⟨.mark c :: done, .between⟩
  else if c = '"' then some ⟨done, .opened true false⟩
  else if c = '\x27' then some ⟨done, .opened false false⟩
  else if isWord c then some ⟨done, .word [c]⟩
  else none

def finish (done : List Token) (quoting : Quoting) (read : List Char) : List Token :=
  .text (String.ofList read.reverse) quoting.multiline :: done

def inside (done : List Token) (quoting : Quoting) (read : List Char) (c : Char) :
    Option Scanner :=
  if c = quoting.mark then
    if quoting.multiline then some ⟨done, .closing quoting read 1⟩
    else some ⟨finish done quoting read, .between⟩
  else if c = '\n' then
    if quoting.multiline then some ⟨done, .text quoting (c :: read)⟩ else none
  else if c = '\\' ∧ quoting.basic then some ⟨done, .escape quoting read⟩
  else if c = '\t' ∨ (0x20 ≤ c.toNat ∧ c.toNat ≠ 0x7F) then some ⟨done, .text quoting (c :: read)⟩
  else none

/-- What a letter after a backslash stands for. -/
def escaped? : Char → Option Char
  | '"' => some '"'
  | '\\' => some '\\'
  | 'b' => some '\x08'
  | 'f' => some '\x0c'
  | 'n' => some '\n'
  | 'r' => some '\r'
  | 't' => some '\t'
  | _ => none

def char? (code : Nat) : Option Char :=
  if code.isValidChar then some (Char.ofNat code) else none

def step (scanner : Scanner) (c : Char) : Option Scanner :=
  let done := scanner.done
  match scanner.mode with
  | .between => start done c
  | .comment =>
    if c = '\n' then some ⟨.newline :: done, .between⟩
    else if c = '\t' ∨ 0x20 ≤ c.toNat then some ⟨done, .comment⟩
    else none
  | .word read =>
    if isWord c then some ⟨done, .word (c :: read)⟩ else start (.word read.reverse :: done) c
  | .opened basic second =>
    let single : Quoting := ⟨basic, false⟩
    if c = single.mark then
      some ⟨done, if second then .fresh ⟨basic, true⟩ else .opened basic true⟩
    else if second then start (finish done single []) c
    else inside done single [] c
  | .fresh quoting => if c = '\n' then some ⟨done, .text quoting []⟩ else inside done quoting [] c
  | .text quoting read => inside done quoting read c
  | .closing quoting read quotes =>
    let extra := List.replicate (quotes + 1 - 3) quoting.mark
    if c = quoting.mark then
      if quotes < 4 then some ⟨done, .closing quoting read (quotes + 1)⟩
      else some ⟨finish done quoting (extra ++ read), .between⟩
    else if 3 ≤ quotes then
      start (finish done quoting (List.replicate (quotes - 3) quoting.mark ++ read)) c
    else inside done quoting (List.replicate quotes quoting.mark ++ read) c
  | .escape quoting read =>
    if c = 'u' then some ⟨done, .numbered quoting read 4 0⟩
    else if c = 'U' then some ⟨done, .numbered quoting read 8 0⟩
    else if quoting.multiline ∧ (isSpace c ∨ c = '\n') then
      some ⟨done, .folded quoting read (c = '\n')⟩
    else (escaped? c).map fun char => ⟨done, .text quoting (char :: read)⟩
  | .numbered quoting read missing value =>
    (Numeral.hexValue? c).bind fun digit =>
      let value := 16 * value + digit
      if missing ≤ 1 then (char? value).map fun char => ⟨done, .text quoting (char :: read)⟩
      else some ⟨done, .numbered quoting read (missing - 1) value⟩
  | .folded quoting read ended =>
    if isSpace c then some ⟨done, .folded quoting read ended⟩
    else if c = '\n' then some ⟨done, .folded quoting read true⟩
    else if ended then inside done quoting read c
    else none

/-- The text with a line feed alone at the end of each line, the last one included. -/
def lines : List Char → List Char
  | [] => ['\n']
  | '\r' :: '\n' :: rest => '\n' :: lines rest
  | c :: rest => c :: lines rest

def scan (text : List Char) : Option (List Token) :=
  let text := if text.head? = some '\uFEFF' then text.drop 1 else text
  match (lines text).foldlM step ⟨[], .between⟩ with
  | some ⟨done, .between⟩ => some done.reverse
  | _ => none

end Token

end Toml

end Rollup
