import Rollup.Binary64.Shortest
import Rollup.Json.Basic

/-!
JSON texts: a compact one without any space, and an indented one with one item to a line.
-/
namespace Rollup

namespace Json

/-- Numbers are positional from 10^-5 below 10^16, and a whole binary number keeps its `.0`. -/
def numberLayout : Binary64.Layout :=
  ⟨some (-5, 15), true⟩

def Number.render : Number → String
  | .integer value => Numeral.render value
  | .float value => value.render numberLayout

def quoteChar (c : Char) : List Char :=
  if c = '"' then ['\\', '"']
  else if c = '\\' then ['\\', '\\']
  else if c = '\x08' then ['\\', 'b']
  else if c = '\x0c' then ['\\', 'f']
  else if c = '\n' then ['\\', 'n']
  else if c = '\r' then ['\\', 'r']
  else if c = '\t' then ['\\', 't']
  else if c.toNat < 0x20 then
    ['\\', 'u', '0', '0', Nat.digitChar (c.toNat / 16), Nat.digitChar (c.toNat % 16)]
  else [c]

def quote (text : String) : String :=
  String.ofList ('"' :: (text.toList.flatMap quoteChar ++ ['"']))

mutual

def render : Json → String
  | .null => "null"
  | .bool true => "true"
  | .bool false => "false"
  | .number value => value.render
  | .string value => quote value
  | .array items => "[" ++ ",".intercalate (renderItems items) ++ "]"
  | .object fields => "\x7b" ++ ",".intercalate (renderFields fields) ++ "\x7d"

def renderItems : List Json → List String
  | [] => []
  | item :: rest => item.render :: renderItems rest

def renderFields : List (String × Json) → List String
  | [] => []
  | (key, value) :: rest => (quote key ++ ":" ++ value.render) :: renderFields rest

end

/-- Lines of a container: each item on its own, indented by two more than the container. -/
def layItems (opening closing : String) (indent : Nat) (items : List String) : String :=
  let newline := "\n" ++ "".pushn ' ' indent
  match items with
  | [] => opening ++ closing
  | items => opening ++ newline ++ "  " ++ (("," ++ newline ++ "  ").intercalate items) ++
      newline ++ closing

mutual

def renderIndented (indent : Nat) : Json → String
  | .array items => layItems "[" "]" indent (indentedItems (indent + 2) items)
  | .object fields => layItems "\x7b" "\x7d" indent (indentedFields (indent + 2) fields)
  | .null => "null"
  | .bool value => render (.bool value)
  | .number value => value.render
  | .string value => quote value

def indentedItems (indent : Nat) : List Json → List String
  | [] => []
  | item :: rest => item.renderIndented indent :: indentedItems indent rest

def indentedFields (indent : Nat) : List (String × Json) → List String
  | [] => []
  | (key, value) :: rest =>
    (quote key ++ ": " ++ value.renderIndented indent) :: indentedFields indent rest

end

def renderPretty (value : Json) : String :=
  value.renderIndented 0

end Json

end Rollup
