import MiniLex.Text.Basic
import MiniLex.Text.Quoted
import MiniLex.Text.WordChar

/-!
The lexemes of an argument: names, numbers, quoted texts and signs, as `lexemes` finds them from
left to right. The last one says why there are no more.
-/

namespace MiniLex.Argument

/-! ### Escapes -/

namespace Escape

def numbered? : Char → Option (Nat × String)
  | 'x' => some (2, "\\xXX")
  | 'u' => some (4, "\\uXXXX")
  | 'U' => some (8, "\\UXXXXXXXX")
  | _ => none

def maxCode : Nat := 0x10FFFF

def hexDigitValue (c : Char) : Nat :=
  if c.isDigit then c.toNat - '0'.toNat else c.toLower.toNat - 'a'.toNat + 10

def hexValue (digits : Text) : Nat :=
  digits.foldl (fun n c => 16 * n + hexDigitValue c) 0

/-- Places that a character takes: one, or those of an escape with eight digits. -/
def places (c : Char) : Nat :=
  if c.toNat < 0x80 then 1 else 10

/-- Places of a backslash in front of a character; if that is not ASCII, the backslash is escaped
as well. -/
def backslashPlaces (c : Char) : Nat :=
  if c.toNat < 0x80 then 1 else 6

/-- The fault of an escape by name, behind its letter, and how many places of it were read. Every
name in curly brackets counts as known. -/
def nameFault? : Text → Option (Nat × Text)
  | '\x7b' :: cs =>
    let name := cs.takeWhile (· != '\x7d')
    if name = [] || name.length = cs.length then
      some (name.foldl (fun n c => n + places c) 1, "malformed \\N character escape".toList)
    else none
  | _ => some (0, "malformed \\N character escape".toList)

/-- The fault of an escape with a given letter, and how many places behind it were read. -/
def faultAt? (letter : Char) (s : Text) : Option (Nat × Text) :=
  match numbered? letter with
  | none => if letter = 'N' then nameFault? s else none
  | some (count, shown) =>
    let digits := (s.take count).takeWhile Text.isHexDigit
    if digits.length < count then
      some (digits.length, "truncated ".toList ++ shown.toList ++ " escape".toList)
    else if maxCode < hexValue digits then some (count, "illegal Unicode character".toList)
    else none

def fault? (position : Nat) : Text → Option Text
  | '\\' :: c :: cs =>
    match faultAt? c cs with
    | some (read, reason) =>
      some ("(unicode error) 'unicodeescape' codec can't decode bytes in position ".toList ++
        Text.ofNat position ++ '-' :: Text.ofNat (position + 1 + read) ++ ": ".toList ++ reason)
    | none => fault? (position + backslashPlaces c + places c) cs
  | c :: cs => fault? (position + places c) cs
  | [] => none

def byteFault? (position : Nat) : Text → Option Text
  | '\\' :: c :: cs =>
    if c = 'x' && ((cs.take 2).takeWhile Text.isHexDigit).length < 2 then
      some ("(value error) invalid \\x escape at position ".toList ++ Text.ofNat position)
    else byteFault? (position + 2) cs
  | _ :: cs => byteFault? (position + 1) cs
  | [] => none

end Escape

/-! ### Lexemes -/

/-- Why lexemes come to an end: the argument is over, a backslash is not followed by a line break,
the argument is over within a bracket, or what follows is no lexeme. -/
inductive Stop where
  | done
  | strayBackslash
  | unclosed (bracket : Char)
  | broken (message : Text)
  deriving DecidableEq

/-- Lexemes. Of a number is kept whether it is imaginary, and how many digits a plain integer has;
of a quoted text, whether it is one of bytes, whether it holds values to be formatted, whether it is
pure ASCII, and the message about a faulty escape in it. -/
inductive Lexeme where
  | name (s : Text)
  | number (imaginary : Bool) (digits : Nat)
  | quoted (bytes formatted ascii : Bool) (fault? : Option Text)
  | sign (s : Text)
  | lineEnd
  | indent
  | stop (s : Stop)
  deriving DecidableEq

abbrev Rest := Except Text Text

def startsName (c : Char) : Bool :=
  c.isAlpha || c == '_' || 0x80 ≤ c.toNat

def inName (c : Char) : Bool :=
  startsName c || c.isDigit

def startsWith (p : Char → Bool) (s : Text) : Bool :=
  s.head?.any p

section Numbers

/-- Keywords that may stand right behind a number, if no character of a name follows. -/
def behindNumber : List Text :=
  ["and".toList, "else".toList, "for".toList, "or".toList, "not".toList]

/-- Keywords that may stand right behind a number, whatever follows. -/
def shortBehindNumber : List Text :=
  ["if".toList, "in".toList, "is".toList]

def badNumber (kind : String) : Text :=
  "invalid ".toList ++ kind.toList ++ " literal".toList

def endNumber (kind : String) (s : Text) : Rest :=
  let keyword := behindNumber.any (fun w => w.isPrefixOf s && !startsWith inName (s.drop w.length))
    || shortBehindNumber.any (·.isPrefixOf s)
  if startsWith (fun c => inName c && c.toNat < 0x80) s && !keyword then .error (badNumber kind)
  else .ok s

/-- Skip digits, groups of which may be divided by single low lines. -/
def skipDigits : Text → Rest
  | [] => .ok []
  | c :: cs =>
    if c.isDigit then skipDigits cs
    else if c = '_' then
      if startsWith Char.isDigit cs then skipDigits cs else .error (badNumber "decimal")
    else .ok (c :: cs)

/-- Skip the digits of a number in another base than ten. A digit must come first, behind a low line
that may divide it from what stands before. -/
def skipBased (kind : String) (isBaseDigit : Char → Bool) (needed : Bool) : Text → Rest
  | [] => if needed then .error (badNumber kind) else .ok []
  | c :: cs =>
    if isBaseDigit c then skipBased kind isBaseDigit false cs
    else if c = '_' && startsWith isBaseDigit cs then skipBased kind isBaseDigit false cs
    else if c = '_' && !startsWith Char.isDigit cs then .error (badNumber kind)
    else if c = '_' || c.isDigit then
      let digit := if c = '_' then cs.head?.getD c else c
      .error ("invalid digit '".toList ++ digit :: "' in ".toList ++ kind.toList ++
        " literal".toList)
    else if needed then .error (badNumber kind)
    else endNumber kind (c :: cs)

def endFloat (s : Text) : Except Text (Bool × Text) :=
  match s with
  | 'j' :: cs | 'J' :: cs => do return (true, ← endNumber "imaginary" cs)
  | _ => do return (false, ← endNumber "decimal" s)

def skipExponent (s : Text) : Except Text (Bool × Text) :=
  match s with
  | e :: cs =>
    if e = 'e' || e = 'E' then
      match cs with
      | sign :: ds =>
        if sign = '+' || sign = '-' then
          if startsWith Char.isDigit ds then do endFloat (← skipDigits ds)
          else .error (badNumber "decimal")
        else if sign.isDigit then do endFloat (← skipDigits cs)
        else do return (false, ← endNumber "decimal" s)
      | [] => do return (false, ← endNumber "decimal" s)
    else endFloat s
  | [] => .ok (false, [])

def skipFraction (s : Text) : Except Text (Bool × Text) := do
  skipExponent (← if startsWith Char.isDigit s then skipDigits s else .ok s)

/-- The number at the front of a text that starts with a digit. A plain integer other than zero does
not start with a zero. -/
def number (s : Text) : Except Text (Lexeme × Text) :=
  match s with
  | '0' :: 'x' :: cs | '0' :: 'X' :: cs => do
    return (.number false 0, ← skipBased "hexadecimal" Text.isHexDigit true cs)
  | '0' :: 'o' :: cs | '0' :: 'O' :: cs => do
    return (.number false 0, ← skipBased "octal" (fun c => '0' ≤ c && c ≤ '7') true cs)
  | '0' :: 'b' :: cs | '0' :: 'B' :: cs => do
    return (.number false 0, ← skipBased "binary" (fun c => c == '0' || c == '1') true cs)
  | _ => do
    let rest ← skipDigits s
    let digits := (s.take (s.length - rest.length)).filter Char.isDigit
    match rest with
    | '.' :: cs =>
      let (imaginary, rest) ← skipFraction cs
      return (.number imaginary 0, rest)
    | c :: _ =>
      if c = 'e' || c = 'E' || c = 'j' || c = 'J' then
        let (imaginary, rest) ← skipExponent rest
        return (.number imaginary 0, rest)
    | [] => pure ()
    if digits.head? = some '0' && digits.any (· != '0') then
      .error ("leading zeros in decimal integer literals are not permitted; " ++
        "use an 0o prefix for octal integers").toList
    else return (.number false digits.length, ← endNumber "decimal" rest)

end Numbers

section Quotes

def quoteMarks : List Text :=
  [[], "b".toList, "u".toList, "r".toList, "f".toList, "br".toList, "rb".toList, "fr".toList,
   "rf".toList]

def unterminated (triple : Bool) (line : Nat) : Text :=
  "unterminated ".toList ++ (if triple then "triple-quoted ".toList else []) ++
    "string literal (detected at line ".toList ++ Text.ofNat line ++ ")".toList

def skipQuoted (quote : Char) (triple : Bool) (line : Nat) : Text → Except Text (Text × Nat)
  | [] => .error (unterminated triple line)
  | '\\' :: c :: cs => skipQuoted quote triple (if c = '\n' then line + 1 else line) cs
  | c :: cs =>
    if c = '\n' then
      if triple then skipQuoted quote triple (line + 1) cs
      else .error (unterminated triple line)
    else if c = quote then
      if !triple then .ok (cs, line)
      else if [quote, quote].isPrefixOf cs then .ok (cs.drop 2, line)
      else skipQuoted quote triple line cs
    else skipQuoted quote triple line cs

/-- The message about a faulty escape of a quoted text. There are no escapes behind a mark with an
`r`; a text with values to be formatted is not looked through. -/
def escapeFault? (mark inner : Text) : Option Text :=
  if mark.contains 'r' || mark.contains 'f' && inner.contains '\x7b' then none
  else if mark.contains 'b' then Escape.byteFault? 0 inner
  else Escape.fault? 0 inner

def quotedText (mark : Text) (line : Nat) (s : Text) : Option (Except Text (Lexeme × Text × Nat)) :=
  match s with
  | [] => none
  | quote :: cs =>
    let mark := mark.map Char.toLower
    if (quote = '\'' || quote = '"') && quoteMarks.contains mark then
      let triple := [quote, quote].isPrefixOf cs
      some do
        let (rest, line) ←
          if triple then skipQuoted quote true line (cs.drop 2) else skipQuoted quote false line cs
        let whole := s.take (s.length - rest.length)
        let ends := if triple then 3 else 1
        let inner := (whole.drop ends).take (whole.length - 2 * ends)
        return (.quoted (mark.contains 'b') (mark.contains 'f') (whole.all (·.toNat < 0x80))
          (escapeFault? mark inner), rest, line)
    else none

end Quotes

def longSigns : List Text :=
  ["...", "**=", "//=", ">>=", "<<=", "!=", "%=", "&=", "**", "*=", "+=", "-=", "->", "//", "/=",
   ":=", "<<", "<=", "<>", "==", ">=", ">>", "@=", "^=", "|="].map String.toList

def codePoint (c : Char) : Text :=
  "U+".toList ++ (Text.hex 4 c.toNat).map Char.toUpper

def badChar (c : Char) : Text :=
  if Text.isPrintable c then
    "invalid character '".toList ++ c :: "' (".toList ++ codePoint c ++ ")".toList
  else "invalid non-printable character ".toList ++ codePoint c

def misfit? : Text → Option Char
  | [] => none
  | c :: cs =>
    if Text.isWordChar c && !Text.isDecimalDigit c then cs.find? (!Text.isWordChar ·) else some c

/-- A bracket that is open, and the line on which it was opened. -/
structure Bracket where
  opening : Char
  line : Nat
  deriving DecidableEq

def maxBrackets : Nat := 200

def pairBrackets (c : Char) (line : Nat) (brackets : List Bracket) : Except Text (List Bracket) :=
  let opens := c == '(' || c == '[' || c == '\x7b'
  let closes := c == ')' || c == ']' || c == '\x7d'
  if opens then
    if maxBrackets ≤ brackets.length then .error "too many nested parentheses".toList
    else .ok (⟨c, line⟩ :: brackets)
  else if closes then
    match brackets with
    | [] => .error ("unmatched '".toList ++ [c, '\''])
    | b :: rest =>
      if [b.opening, c] ∈ ["()".toList, "[]".toList, "\x7b\x7d".toList] then .ok rest
      else .error ("closing parenthesis '".toList ++ c ::
        "' does not match opening parenthesis '".toList ++ b.opening :: ['\''] ++
        (if b.line = line then [] else " on line ".toList ++ Text.ofNat b.line))
  else .ok brackets

def signAt (c : Char) (cs : Text) : Text :=
  (longSigns.find? (·.isPrefixOf (c :: cs))).getD [c]

def lexeme (line : Nat) (c : Char) (cs : Text) : Except Text (Lexeme × Text × Nat) :=
  let s := c :: cs
  if startsName c then
    let name := s.takeWhile inName
    let rest := s.dropWhile inName
    match quotedText name line rest with
    | some result => result
    | none =>
      match misfit? name with
      | some c => .error (badChar c)
      | none => .ok (.name name, rest, line)
  else if c.isDigit then do
    let (number, rest) ← number s
    return (number, rest, line)
  else if c = '.' && startsWith Char.isDigit cs then do
    let (imaginary, rest) ← skipFraction cs
    return (.number imaginary 0, rest, line)
  else
    match quotedText [] line s with
    | some result => result
    | none =>
      if Text.isPrintable c then .ok (.sign (signAt c cs), s.drop (signAt c cs).length, line)
      else .error (badChar c)

/-- The lexemes of a text, on and behind a line, with some brackets open. `start` counts the blanks
at the front of a line on which there is no lexeme so far. Line ends count outside brackets only,
and not on empty lines. -/
def lexemesFrom : Nat → List Bracket → Nat → Option Nat → Text → List Lexeme
  | 0, _, _, _, _ => []
  | _, brackets, _, _, [] =>
    [.stop (brackets.head?.elim .done fun b => .unclosed b.opening)]
  | fuel + 1, brackets, line, start, c :: cs =>
    if c = ' ' || c = '\t' then lexemesFrom fuel brackets line (start.map (· + 1)) cs
    else if c = '\x0c' then lexemesFrom fuel brackets line (start.map fun _ => 0) cs
    else if c = '#' then lexemesFrom fuel brackets line start (cs.dropWhile (· != '\n'))
    else if c = '\n' then
      let rest := lexemesFrom fuel brackets (line + 1) (some 0) cs
      if brackets.isEmpty && start.isNone then .lineEnd :: rest else rest
    else if brackets.isEmpty && start.any (0 < ·) then
      .indent :: lexemesFrom fuel brackets line none (c :: cs)
    else if c = '\\' then
      match cs with
      | '\n' :: cs => lexemesFrom fuel brackets (line + 1) none cs
      | _ => [.stop .strayBackslash]
    else
      let next := do
        let (found, rest, line) ← lexeme line c cs
        match found with
        | .sign [c] => return (found, rest, line, ← pairBrackets c line brackets)
        | _ => return (found, rest, line, brackets)
      match next with
      | .error message => [.stop (.broken message)]
      | .ok (found, rest, line, brackets) => found :: lexemesFrom fuel brackets line none rest

def unifyLineEnds : Text → Text
  | '\r' :: '\n' :: cs => '\n' :: unifyLineEnds cs
  | '\r' :: cs => '\n' :: unifyLineEnds cs
  | c :: cs => c :: unifyLineEnds cs
  | [] => []

/-- The lexemes of a text. Every step takes a character, but for one on each line that starts with
blanks. -/
def lexemes (s : Text) : List Lexeme :=
  lexemesFrom (2 * s.length + 1) [] 1 (some 0) (unifyLineEnds s)

end MiniLex.Argument
