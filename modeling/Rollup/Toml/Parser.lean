import Rollup.Toml.Document
import Rollup.Toml.Scalar
import Rollup.Toml.Token

/-!
Reading a TOML text. The parser holds the tables defined so far, the header and the key in hand,
and the lists and inline tables that are still open, innermost first; it reads one token a step.
-/
namespace Rollup

namespace Toml

/-- A list with its items in reverse, or an inline table with the key that waits for it. -/
inductive Open
  | list (items : List Setting)
  | inline (fields : Fields) (key : List String)
deriving Repr

inductive Await
  | line
  | lineEnd
  /-- The rest of a header, which may be in double brackets. -/
  | header
  | headerName (double : Bool)
  | headerEnd (double : Bool)
  | headerClose
  /-- A name of a key, and what follows it. -/
  | name
  | nameEnd
  | inlineStart
  | value
  /-- More of a bare value, whose characters stand in reverse. -/
  | bare (letters : List Char)
  /-- After a space behind a bare value, where a time may follow a date. -/
  | spaced (letters : List Char)
  | separator
deriving Repr

/-- The key in hand stands in reverse. -/
structure Parser where
  fields : Fields
  header : List String
  key : List String
  stack : List Open
  await : Await
deriving Repr

namespace Parser

def initial : Parser := ⟨[], [], [], [], .line⟩

def name? : Token → Option String
  | .word letters => some (String.ofList letters)
  | .text value false => some value
  | _ => none

def deliver (parser : Parser) (value : Setting) : Option Parser :=
  match parser.stack with
  | [] => do
    let fields ← parser.fields.defineIn parser.key.reverse value parser.header
    some { parser with fields, key := [], await := .lineEnd }
  | .list items :: rest =>
    some { parser with stack := .list (value :: items) :: rest, await := .separator }
  | .inline fields key :: rest => do
    let fields ← fields.define value parser.key.reverse
    some { parser with stack := .inline fields key :: rest, key := [], await := .separator }

/-- Closes the innermost list or inline table, if the mark is the one that closes it. -/
def close (parser : Parser) (c : Char) : Option Parser :=
  match parser.stack with
  | .list items :: rest =>
    if c = ']' then deliver { parser with stack := rest } (.list items.reverse) else none
  | .inline fields key :: rest =>
    if c = '}' then
      deliver { parser with stack := rest, key } (Node.table .dotted fields).toSetting
    else none
  | [] => none

def readName (parser : Parser) (token : Token) (await : Await) : Option Parser := do
  let name ← name? token
  some { parser with key := name :: parser.key, await }

/-- Reads a token where a value is due. In a list it may also be the end of the list. -/
def readValue (parser : Parser) : Token → Option Parser
  | .blank _ => some parser
  | .newline =>
    match parser.stack with
    | .list _ :: _ => some parser
    | _ => none
  | .text value _ => deliver parser (.text value)
  | .word letters => some { parser with await := .bare letters.reverse }
  | .mark c =>
    if c = '+' then some { parser with await := .bare [c] }
    else if c = '[' then some { parser with stack := .list [] :: parser.stack }
    else if c = '{' then
      some { parser with
        stack := .inline [] parser.key :: parser.stack, key := [], await := .inlineStart }
    else
      match parser.stack with
      | .list _ :: _ => close parser c
      | _ => none

def readSeparator (parser : Parser) (token : Token) : Option Parser :=
  match parser.stack, token with
  | _, .blank _ => some parser
  | .list _ :: _, .newline => some parser
  | .list _ :: _, .mark ',' => some { parser with await := .value }
  | .inline _ _ :: _, .mark ',' => some { parser with await := .name }
  | _, .mark c => close parser c
  | _, _ => none

def readLine (parser : Parser) (token : Token) : Option Parser :=
  match token with
  | .blank _ | .newline => some parser
  | .mark '[' => some { parser with header := [], await := .header }
  | token => readName parser token .nameEnd

def readLineEnd (parser : Parser) : Token → Option Parser
  | .blank _ => some parser
  | .newline => some { parser with await := .line }
  | _ => none

def openHeader (parser : Parser) (repeated : Bool) : Option Parser := do
  let header := parser.key.reverse
  let fields ← parser.fields.openTable repeated header
  some { parser with fields, header, key := [], await := .lineEnd }

def readHeaderEnd (parser : Parser) (double : Bool) : Token → Option Parser
  | .blank _ => some parser
  | .mark '.' => some { parser with await := .headerName double }
  | .mark ']' =>
    if double then some { parser with await := .headerClose } else openHeader parser false
  | _ => none

def stepAfter (parser : Parser) (token : Token) : Option Parser :=
  match parser.await with
  | .line => readLine parser token
  | .lineEnd | .bare _ | .spaced _ => readLineEnd parser token
  | .header =>
    if token = .mark '[' then some { parser with await := .headerName true }
    else if token.isBlank then some { parser with await := .headerName false }
    else readName parser token (.headerEnd false)
  | .headerName double =>
    if token.isBlank then some parser else readName parser token (.headerEnd double)
  | .headerEnd double => readHeaderEnd parser double token
  | .headerClose => if token = .mark ']' then openHeader parser true else none
  | .name => if token.isBlank then some parser else readName parser token .nameEnd
  | .nameEnd =>
    match token with
    | .blank _ => some parser
    | .mark '.' => some { parser with await := .name }
    | .mark '=' => some { parser with await := .value }
    | _ => none
  | .inlineStart =>
    if token.isBlank then some parser
    else if token = .mark '}' then close parser '}'
    else readName parser token .nameEnd
  | .value => readValue parser token
  | .separator => readSeparator parser token

def endBare (parser : Parser) (letters : List Char) (token : Token) : Option Parser := do
  let value ← bare? letters.reverse
  let parser ← deliver parser value
  stepAfter parser token

def step (parser : Parser) (token : Token) : Option Parser :=
  match parser.await with
  | .bare letters =>
    match token with
    | .word more => some { parser with await := .bare (more.reverse ++ letters) }
    | .mark c =>
      if c = '.' ∨ c = '+' ∨ c = ':' then some { parser with await := .bare (c :: letters) }
      else endBare parser letters token
    | .blank ' ' => some { parser with await := .spaced letters }
    | token => endBare parser letters token
  | .spaced letters =>
    match token with
    | .word more => some { parser with await := .bare (more.reverse ++ ' ' :: letters) }
    | token => endBare parser letters token
  | _ => stepAfter parser token

end Parser

/-- The tree of a text, or nothing if the text is not well-formed. -/
def parse? (text : String) : Option Setting := do
  let tokens ← Token.scan text.toList
  let parser ← tokens.foldlM Parser.step Parser.initial
  match parser.await with
  | .line => some (Node.table .header parser.fields).toSetting
  | _ => none

end Toml

end Rollup
