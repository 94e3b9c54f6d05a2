import MiniLex.Text.Basic
import MiniLex.Text.Quoted

/-!
Tokens: classified lexemes with the place where they start. The kind of a token and its payload
are one value, so a token with a payload of the wrong kind cannot be built; `Token.make` is the
check for callers that bring the two apart.
-/

namespace MiniLex

/-! ### Symbols and operators -/

inductive UnaryOp where
  | negation
  | bitwiseNot
  | logicalNegation
  deriving DecidableEq

inductive BinaryOp where
  | subtraction
  | addition
  | multiplication
  | division
  deriving DecidableEq

inductive Symbol where
  | openParen
  | closeParen
  | openBrace
  | closeBrace
  | semicolon
  | minus
  | bitwiseNot
  | logicalNegation
  | addition
  | multiplication
  | division
  deriving DecidableEq

namespace UnaryOp

def all : List UnaryOp :=
  [negation, bitwiseNot, logicalNegation]

def name : UnaryOp → Text
  | negation => "NEGATION".toList
  | bitwiseNot => "BITWISE_NOT".toList
  | logicalNegation => "LOGICAL_NEGATION".toList

end UnaryOp

namespace BinaryOp

def all : List BinaryOp :=
  [subtraction, addition, multiplication, division]

def name : BinaryOp → Text
  | subtraction => "SUBTRACTION".toList
  | addition => "ADDITION".toList
  | multiplication => "MULTIPLICATION".toList
  | division => "DIVISION".toList

end BinaryOp

namespace Symbol

def all : List Symbol :=
  [openParen, closeParen, openBrace, closeBrace, semicolon, minus, bitwiseNot, logicalNegation,
   addition, multiplication, division]

def table : List Symbol :=
  [openParen, closeParen, openBrace, closeBrace, semicolon, bitwiseNot, logicalNegation, minus,
   multiplication, division, addition]

def name : Symbol → Text
  | openParen => "OPEN_PAREN".toList
  | closeParen => "CLOSE_PAREN".toList
  | openBrace => "OPEN_BRACE".toList
  | closeBrace => "CLOSE_BRACE".toList
  | semicolon => "SEMICOLON".toList
  | minus => "MINUS".toList
  | bitwiseNot => "BITWISE_NOT".toList
  | logicalNegation => "LOGICAL_NEGATION".toList
  | addition => "ADDITION".toList
  | multiplication => "MULTIPLICATION".toList
  | division => "DIVISION".toList

def char : Symbol → Char
  | openParen => '('
  | closeParen => ')'
  | openBrace => '\x7b'
  | closeBrace => '\x7d'
  | semicolon => ';'
  | minus => '-'
  | bitwiseNot => '~'
  | logicalNegation => '!'
  | addition => '+'
  | multiplication => '*'
  | division => '/'

/-- The symbol that a character spells. -/
def ofChar? (c : Char) : Option Symbol :=
  table.find? (·.char == c)

@[simp] theorem ofChar?_char (s : Symbol) : ofChar? s.char = some s := by
  cases s <;> rfl

theorem char_of_ofChar? {c : Char} {s : Symbol} (h : ofChar? c = some s) : s.char = c := by
  simpa using List.find?_some h

/-- The operator that a symbol stands for in front of its operand. -/
def unary? : Symbol → Option UnaryOp
  | minus => some .negation
  | bitwiseNot => some .bitwiseNot
  | logicalNegation => some .logicalNegation
  | _ => none

def binary? : Symbol → Option BinaryOp
  | minus => some .subtraction
  | addition => some .addition
  | multiplication => some .multiplication
  | division => some .division
  | _ => none

end Symbol

/-! ### Payloads -/

inductive Keyword where
  | ret
  | int
  deriving DecidableEq

namespace Keyword

def all : List Keyword :=
  [ret, int]

def name : Keyword → Text
  | ret => "RETURN".toList
  | int => "INT".toList

def title : Keyword → Text
  | ret => "Return".toList
  | int => "Int".toList

def spelling : Keyword → Text
  | ret => "return".toList
  | int => "int".toList

end Keyword

inductive ValueKind where
  | int
  | char
  deriving DecidableEq

namespace ValueKind

def all : List ValueKind :=
  [int, char]

def name : ValueKind → Text
  | int => "INT".toList
  | char => "CHAR".toList

def title : ValueKind → Text
  | int => "Int".toList
  | char => "Char".toList

def number (kind : ValueKind) : Nat :=
  all.idxOf kind + 1

end ValueKind

/-- A literal value. The range of `data` is checked by the functions that make one from a number. -/
structure Value where
  kind : ValueKind
  data : Int
  deriving DecidableEq

namespace Value

def int32Min : Int := -2147483648

def int32Max : Int := 2147483647

/-- The value as a reader sees it, such as `Int(5)`. -/
def display (v : Value) : Text :=
  v.kind.title ++ '(' :: Text.ofInt v.data ++ [')']

end Value

/-- What a caller may offer as the payload of a token. -/
inductive Payload where
  | absent
  | flag (b : Bool)
  | number (n : Int)
  | text (s : Text)
  | keyword (k : Keyword)
  | value (v : Value)
  deriving DecidableEq

def Payload.describe : Payload → Text
  | absent => "None".toList
  | flag true => "True".toList
  | flag false => "False".toList
  | number n => Text.ofInt n
  | text s => Text.quoted s
  | keyword k =>
    "<Keyword.".toList ++ k.name ++ ": ".toList ++ Text.quoted k.spelling ++ ">".toList
  | value v =>
    "Value(kind=<ValueKind.".toList ++ v.kind.name ++ ": ".toList ++ Text.ofNat v.kind.number ++
      ">, data=".toList ++ Text.ofInt v.data ++ ")".toList

/-! ### Kinds and misuses -/

inductive TokenKind where
  | keyword
  | identifier
  | literal
  | symbol (s : Symbol)
  deriving DecidableEq

/-- A broken promise of the caller, never a fault of the scanned text. -/
inductive Misuse where
  | outsideInt32 (n : Int)
  | notByte (n : Int)
  | wrongPayload (kind : TokenKind) (payload : Payload)
  | notSymbol (kind : TokenKind)
  | notOperator (kind : TokenKind) (wanted : Text)
  | other (message : Text)
  deriving DecidableEq

namespace TokenKind

def all : List TokenKind :=
  [keyword, identifier, literal] ++ Symbol.all.map symbol

def name : TokenKind → Text
  | keyword => "KEYWORD".toList
  | identifier => "IDENTIFIER".toList
  | literal => "LITERAL".toList
  | symbol s => s.name

def ofName? (name : Text) : Option TokenKind :=
  all.find? (·.name == name)

def number (kind : TokenKind) : Nat :=
  all.idxOf kind + 1

/-- The fixed spelling of a symbol; the other kinds have none. -/
def lexeme? : TokenKind → Option Text
  | symbol s => some [s.char]
  | _ => none

def payloadNoun? : TokenKind → Option Text
  | keyword => some "Keyword".toList
  | identifier => some "str".toList
  | literal => some "Value".toList
  | symbol _ => none

def unary? : TokenKind → Option UnaryOp
  | symbol s => s.unary?
  | _ => none

def binary? : TokenKind → Option BinaryOp
  | symbol s => s.binary?
  | _ => none

def toUnary (kind : TokenKind) : Except Misuse UnaryOp :=
  match kind.unary? with
  | some op => .ok op
  | none => .error (.notOperator kind "unary".toList)

def toBinary (kind : TokenKind) : Except Misuse BinaryOp :=
  match kind.binary? with
  | some op => .ok op
  | none => .error (.notOperator kind "binary".toList)

end TokenKind

def Misuse.message : Misuse → Text
  | outsideInt32 n => Text.ofInt n ++ " is outside the 32-bit signed range".toList
  | notByte n => Text.ofInt n ++ " is not a byte value".toList
  | wrongPayload kind payload =>
    match kind.payloadNoun? with
    | none => kind.name ++ " token takes no payload, got ".toList ++ payload.describe
    | some noun =>
      kind.name ++ " token needs a ".toList ++ noun ++ " payload, got ".toList ++ payload.describe
  | notSymbol kind => kind.name ++ " is not a symbol token".toList
  | notOperator kind wanted =>
    kind.name ++ " is not a ".toList ++ wanted ++ " operator".toList
  | other message => message

def Misuse.describe (m : Misuse) : Text :=
  "internal error: ".toList ++ m.message

namespace Value

def ofInt (n : Int) : Except Misuse Value :=
  if int32Min ≤ n ∧ n ≤ int32Max then .ok ⟨.int, n⟩ else .error (.outsideInt32 n)

def ofByte (n : Int) : Except Misuse Value :=
  if 0 ≤ n ∧ n ≤ 255 then .ok ⟨.char, n⟩ else .error (.notByte n)

end Value

/-! ### Tokens -/

inductive TokenBody where
  | keyword (k : Keyword)
  | identifier (name : Text)
  | literal (v : Value)
  | symbol (s : Symbol)
  deriving DecidableEq

/-- A classified lexeme. `line` and `position` count from zero and are those of its first
character. -/
structure Token where
  text : Text
  line : Int
  position : Int
  body : TokenBody
  deriving DecidableEq

def TokenBody.kind : TokenBody → TokenKind
  | keyword _ => .keyword
  | identifier _ => .identifier
  | literal _ => .literal
  | symbol s => .symbol s

def TokenBody.payload : TokenBody → Payload
  | keyword k => .keyword k
  | identifier name => .text name
  | literal v => .value v
  | symbol _ => .absent

/-- The body of a given kind and payload, if they fit. -/
def TokenBody.make : TokenKind → Payload → Except Misuse TokenBody
  | .keyword, .keyword k => .ok (.keyword k)
  | .identifier, .text name => .ok (.identifier name)
  | .literal, .value v => .ok (.literal v)
  | .symbol s, .absent => .ok (.symbol s)
  | kind, payload => .error (.wrongPayload kind payload)

@[simp] theorem TokenBody.make_kind_payload (b : TokenBody) : make b.kind b.payload = .ok b := by
  cases b <;> rfl

namespace Token

def kind (t : Token) : TokenKind :=
  t.body.kind

def payload (t : Token) : Payload :=
  t.body.payload

def length (t : Token) : Nat :=
  t.text.length

def make (kind : TokenKind) (text : Text) (line position : Int) (payload : Payload) :
    Except Misuse Token :=
  (TokenBody.make kind payload).map (⟨text, line, position, ·⟩)

/-- A keyword may be spelled in its own way by a keyword table. -/
def keyword (k : Keyword) (line position : Int) (text : Text) : Token :=
  ⟨text, line, position, .keyword k⟩

def identifier (name : Text) (line position : Int) : Token :=
  ⟨name, line, position, .identifier name⟩

def literal (text : Text) (v : Value) (line position : Int) : Token :=
  ⟨text, line, position, .literal v⟩

def symbol (s : Symbol) (line position : Int) : Token :=
  ⟨[s.char], line, position, .symbol s⟩

def ofSymbolKind (kind : TokenKind) (line position : Int) : Except Misuse Token :=
  match kind with
  | .symbol s => .ok (symbol s line position)
  | kind => .error (.notSymbol kind)

def describe (t : Token) : Text :=
  let body := match t.body with
    | .keyword k => "Keyword(".toList ++ k.title ++ ")".toList
    | .identifier name => "Identifier(".toList ++ Text.quoted name ++ ")".toList
    | .literal v => "Literal(".toList ++ v.display ++ ")".toList
    | .symbol s => s.name
  body ++ " @ ".toList ++ Text.ofInt t.line ++ ':' :: Text.ofInt t.position

end Token

/-! ### Keyword tables -/

structure KeywordTable where
  entries : List (Text × Payload)
  deriving DecidableEq

namespace KeywordTable

def default : KeywordTable :=
  ⟨Keyword.all.map fun k => (k.spelling, .keyword k)⟩

/-- The entry of a word; an entry with an absent payload counts as none. -/
def get? (table : KeywordTable) (word : Text) : Option Payload :=
  match table.entries.lookup word with
  | none | some .absent => none
  | some payload => some payload

/-- Give a word a new entry, in place of the one it may have. -/
def set (table : KeywordTable) (word : Text) (payload : Payload) : KeywordTable :=
  ⟨(word, payload) :: table.entries⟩

theorem get?_set_self (table : KeywordTable) (word : Text) (payload : Payload) :
    (table.set word payload).get? word = if payload = .absent then none else some payload := by
  cases payload <;> simp [set, get?]

theorem get?_set_of_ne (table : KeywordTable) {word other : Text} (payload : Payload)
    (h : other ≠ word) : (table.set word payload).get? other = table.get? other := by
  have hb : (other == word) = false := by simpa using h
  simp [set, get?, List.lookup_cons, hb]

end KeywordTable

end MiniLex
