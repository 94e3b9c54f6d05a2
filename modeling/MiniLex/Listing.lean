import MiniLex.Console.Table
import MiniLex.Text.Basic
import MiniLex.Token

/-!
Listings of tokens: as a table, as plain lines and as JSON.
-/

namespace MiniLex

/-! ### JSON -/

inductive Json where
  | null
  | number (n : Int)
  | text (s : Text)
  | array (items : List Json)
  | object (fields : List (Text × Json))

namespace Json

def unitEscape (n : Nat) : Text :=
  "\\u".toList ++ Text.hex 4 n

/-- The escape of a code point; one above the sixteen bits takes a pair of surrogates. -/
def codeEscape (n : Nat) : Text :=
  if n < 0x10000 then unitEscape n
  else
    unitEscape (0xD800 + (n - 0x10000) / 0x400) ++ unitEscape (0xDC00 + (n - 0x10000) % 0x400)

def escapeChar (c : Char) : Text :=
  if c = '"' || c = '\\' then ['\\', c]
  else if c = '\n' then "\\n".toList
  else if c = '\r' then "\\r".toList
  else if c = '\t' then "\\t".toList
  else if c = '\x08' then "\\b".toList
  else if c = '\x0c' then "\\f".toList
  else if ' ' ≤ c ∧ c ≤ '~' then [c]
  else codeEscape c.toNat

def renderText (s : Text) : Text :=
  '"' :: s.flatMap escapeChar ++ ['"']

/-- The start of a line at a depth. -/
def newLine (depth : Nat) : Text :=
  '\n' :: List.replicate (2 * depth) ' '

mutual

/-- The text of a value whose first line starts at a depth. -/
def render (depth : Nat) : Json → Text
  | null => "null".toList
  | number n => Text.ofInt n
  | text s => renderText s
  | array [] => "[]".toList
  | array (item :: items) =>
    '[' :: newLine (depth + 1) ++ render (depth + 1) item ++ renderItems (depth + 1) items ++
      newLine depth ++ "]".toList
  | object [] => ['\x7b', '\x7d']
  | object ((name, value) :: fields) =>
    '\x7b' :: newLine (depth + 1) ++ renderText name ++ ": ".toList ++ render (depth + 1) value ++
      renderFields (depth + 1) fields ++ newLine depth ++ ['\x7d']

def renderItems (depth : Nat) : List Json → Text
  | [] => []
  | item :: items => ',' :: newLine depth ++ render depth item ++ renderItems depth items

def renderFields (depth : Nat) : List (Text × Json) → Text
  | [] => []
  | (name, value) :: fields =>
    ',' :: newLine depth ++ renderText name ++ ": ".toList ++ render depth value ++
      renderFields depth fields

end

end Json

/-! ### Tokens -/

inductive ListingFormat where
  | table
  | plain
  | json
  deriving DecidableEq

namespace ListingFormat

def all : List ListingFormat :=
  [table, plain, json]

def name : ListingFormat → Text
  | table => "table".toList
  | plain => "plain".toList
  | json => "json".toList

def ofName? (name : Text) : Option ListingFormat :=
  all.find? (·.name == name)

end ListingFormat

namespace TokenBody

def cell : TokenBody → Text
  | keyword k => k.name
  | identifier name => name
  | literal v => v.display
  | symbol _ => []

def toJson : TokenBody → Json
  | keyword k => .text k.name
  | identifier name => .text name
  | literal v => .object [("kind".toList, .text v.kind.name), ("data".toList, .number v.data)]
  | symbol _ => .null

end TokenBody

namespace Token

def toJson (t : Token) : Json :=
  .object [("type".toList, .text t.kind.name), ("text".toList, .text t.text),
    ("line".toList, .number t.line), ("position".toList, .number t.position),
    ("value".toList, t.body.toJson)]

def jsonListing (tokens : List Token) : Text :=
  (Json.array (tokens.map toJson)).render 0 ++ ['\n']

def plainListing (tokens : List Token) : Text :=
  tokens.flatMap fun t => t.describe ++ ['\n']

def tableColumns : List Console.Column :=
  [⟨"#".toList, .right⟩, ⟨"Line".toList, .right⟩, ⟨"Pos".toList, .right⟩, ⟨"Type".toList, .left⟩,
   ⟨"Text".toList, .left⟩, ⟨"Value".toList, .left⟩]

def tableRow (index : Nat) (t : Token) : Except Markup.TagError (List Text) := do
  let text ← Markup.render Console.display (Markup.escape t.text)
  let value ← Markup.render Console.display (Markup.escape t.body.cell)
  return [Text.ofNat index, Text.ofInt t.line, Text.ofInt t.position, t.kind.name, text.text,
    value.text]

def tableTitle : Text := "Tokens".toList

/-- A table of tokens under a title, which is markup. -/
def tableListing (tokens : List Token) (title : Text) : Except Markup.TagError Text := do
  let rows ← tokens.zipIdx.mapM fun (t, i) => tableRow i t
  Console.Table.print ⟨tableColumns, rows⟩ title

end Token

end MiniLex
