import Rollup.Json.Draft
import Rollup.Json.Token

/-!
Parsing a JSON text. The parser holds the arrays and objects that are still open, innermost first,
and what may come next; it reads one token a step and ends with a draft of the value, which is then
read.
-/
namespace Rollup

namespace Json

/-- An array or object that is still open, with its items in reverse. An object may be waiting for
the value under a key. -/
inductive Open
  | array (items : List Draft)
  | object (fields : List (Option String × Draft)) (key : Option String)
deriving Repr

inductive Await
  | value
  | valueOrEnd
  | key
  | keyOrEnd
  | colon
  | separator
  | nothing
deriving DecidableEq, Repr

structure Parser where
  stack : List Open
  await : Await
  result : Draft
deriving Repr

namespace Parser

def initial : Parser := ⟨[], .value, .null⟩

def deliver (stack : List Open) (value : Draft) : Parser :=
  match stack with
  | [] => ⟨[], .nothing, value⟩
  | .array items :: rest => ⟨.array (value :: items) :: rest, .separator, .null⟩
  | .object fields key :: rest => ⟨.object ((key, value) :: fields) none :: rest, .separator, .null⟩

def word? (letters : List Char) : Option Draft :=
  if letters = ['n', 'u', 'l', 'l'] then some .null
  else if letters = ['t', 'r', 'u', 'e'] then some (.bool true)
  else if letters = ['f', 'a', 'l', 's', 'e'] then some (.bool false)
  else (Number.parts? letters).map .number

def readValue (stack : List Open) : Token → Option Parser
  | .mark c =>
    if c = '[' then some ⟨.array [] :: stack, .valueOrEnd, .null⟩
    else if c = '{' then some ⟨.object [] none :: stack, .keyOrEnd, .null⟩
    else none
  | .word letters => (word? letters).map (deliver stack)
  | .text value => some (deliver stack (.string value))

/-- Closes the innermost array or object, if the mark is the one that closes it. -/
def close (stack : List Open) (c : Char) : Option Parser :=
  match stack with
  | .array items :: rest =>
    if c = ']' then some (deliver rest (.array items.reverse)) else none
  | .object fields _ :: rest =>
    if c = '}' then some (deliver rest (.object fields.reverse)) else none
  | [] => none

def readKey (stack : List Open) : Token → Option Parser
  | .text key =>
    match stack with
    | .object fields _ :: rest => some ⟨.object fields key :: rest, .colon, .null⟩
    | _ => none
  | _ => none

/-- Reads the separator after an item; another item of the same kind is due then. -/
def readSeparator (stack : List Open) (c : Char) : Option Parser :=
  if c = ',' then
    match stack with
    | .array _ :: _ => some ⟨stack, .value, .null⟩
    | .object _ _ :: _ => some ⟨stack, .key, .null⟩
    | [] => none
  else close stack c

def step (parser : Parser) (token : Token) : Option Parser :=
  let stack := parser.stack
  match parser.await with
  | .value => readValue stack token
  | .valueOrEnd => if token = .mark ']' then close stack ']' else readValue stack token
  | .key => readKey stack token
  | .keyOrEnd => if token = .mark '}' then close stack '}' else readKey stack token
  | .colon => if token = .mark ':' then some ⟨stack, .value, .null⟩ else none
  | .separator =>
    match token with
    | .mark c => readSeparator stack c
    | _ => none
  | .nothing => none

end Parser

def Draft.parse? (text : String) : Option Draft := do
  let tokens ← Token.scan text.toList
  let parser ← tokens.foldlM Parser.step Parser.initial
  if parser.await = .nothing then some parser.result else none

/-- The value of a text as it is written, with repeated keys and the order of fields, as far as a
shape reads it. -/
def parseShaped? (shape : Shape) (text : String) : Option Json :=
  (Draft.parse? text).bind (Draft.read? shape)

/-- The value of a text, normalized. -/
def parse? (text : String) : Option Json :=
  (parseShaped? .all text).map normalize

end Json

end Rollup
