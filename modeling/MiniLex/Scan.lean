import MiniLex.CharClass
import MiniLex.Diagnostic
import MiniLex.Text.Basic
import MiniLex.Text.LetterCase
import MiniLex.Token

/-!
Scanning. A source falls into segments, a step says what becomes of one segment at the place where
it starts, and a session is a scan that can be asked for its tokens again and again.
-/

namespace MiniLex

/-! ### Options -/

abbrev Environment := List (Text × Text)

namespace Environment

/-- The spellings of a flag that is on. -/
def truthy : List Text :=
  ["1".toList, "true".toList, "yes".toList, "on".toList]

def isTruthy (value : Text) : Bool :=
  truthy.contains (Text.lower (Text.trim value))

def flag? (env : Environment) (name : Text) : Option Bool :=
  (env.lookup name).map isTruthy

def minimalNotices (env : Environment) : Bool :=
  (flag? env "TINYC_MINIMAL_UI".toList).getD false

end Environment

/-- `strict` makes an unknown character an error, `failFast` ends a scan at its first error, and
`verbose` asks for notices about the progress. -/
structure Options where
  strict : Bool := false
  failFast : Bool := true
  verbose : Bool := false
  deriving DecidableEq

namespace Options

def ofEnvironment (env : Environment) : Options :=
  { strict := (Environment.flag? env "TINYC_STRICT_UNKNOWN_CHARS".toList).getD false
    failFast := !(Environment.flag? env "TINYC_KEEP_GOING".toList).getD false }

def boolWord (b : Bool) : Text :=
  if b then "True".toList else "False".toList

def describe (o : Options) : Text :=
  "LexerConfig(strict_unknown_characters=".toList ++ boolWord o.strict ++
    ", fail_fast=".toList ++ boolWord o.failFast ++
    ", verbose=".toList ++ boolWord o.verbose ++ ")".toList

end Options

/-! ### Literals -/

namespace Literal

/-- The digits without leading zeros; of zeros alone, one stays. -/
def significant (digits : Text) : Text :=
  match digits.dropWhile (· == '0') with
  | [] => ['0']
  | ds => ds

def maxLength : Nat :=
  (Text.ofInt Value.int32Max).length

/-- The test of a run of digits, where `read` evaluates digits and may refuse to. The length is
looked at first, so that only short runs are ever read. -/
def valueBy? (read : Text → Option Nat) (digits : Text) : Option (Option Nat) :=
  let ds := significant digits
  if maxLength < ds.length then some none
  else (read ds).map fun n : Nat => if (n : Int) ≤ Value.int32Max then some n else none

def value? (digits : Text) : Option Nat :=
  (valueBy? Text.evaluate? digits).getD none

end Literal

/-! ### Segments -/

inductive Segment where
  | blank (c : Char)
  | newline (c : Char)
  | word (text : Text)
  | digits (text : Text)
  | symbol (s : Symbol)
  | unknown (c : Char)
  deriving DecidableEq

namespace Segment

def text : Segment → Text
  | blank c => [c]
  | newline c => [c]
  | word text => text
  | digits text => text
  | symbol s => [s.char]
  | unknown c => [c]

/-- Whether a character goes on with the segment that `first` starts. -/
def continues (first c : Char) : Bool :=
  match CharClass.of first with
  | .alphabetic => isIdentifierChar c
  | .numeric => c.isDigit
  | _ => false

/-- The segment that starts with `first` and goes on with `tail`. -/
def ofLexeme (first : Char) (tail : Text) : Segment :=
  match CharClass.of first with
  | .whitespace => blank first
  | .newline => newline first
  | .alphabetic => word (first :: tail)
  | .numeric => digits (first :: tail)
  | .nonAlphabetic =>
    match Symbol.ofChar? first with
    | some s => symbol s
    | none => unknown first

theorem text_ofLexeme (c : Char) (cs : Text) :
    (ofLexeme c (cs.takeWhile (continues c))).text = c :: cs.takeWhile (continues c) := by
  have single (h : ∀ d, continues c d = false) : cs.takeWhile (continues c) = [] := by
    cases cs <;> simp [h]
  unfold ofLexeme
  split
  case h_1 h => simp [text, single, continues, h]
  case h_2 h => simp [text, single, continues, h]
  case h_3 => rfl
  case h_4 => rfl
  case h_5 h =>
    have tail := single (by simp [continues, h])
    split
    next s hs => rw [tail, text, Symbol.char_of_ofChar? hs]
    next => rw [tail, text]

end Segment

def segments : Text → List Segment
  | [] => []
  | c :: cs =>
    Segment.ofLexeme c (cs.takeWhile (Segment.continues c)) ::
      segments (cs.dropWhile (Segment.continues c))
termination_by source => source.length
decreasing_by
  have := (List.dropWhile_suffix (l := cs) (Segment.continues c)).length_le
  simp only [List.length_cons]
  omega

/-- No character of a source is lost, added or moved. -/
theorem flatMap_text_segments (source : Text) :
    (segments source).flatMap Segment.text = source := by
  fun_induction segments source with
  | case1 => rfl
  | case2 c cs ih =>
    rw [List.flatMap_cons, Segment.text_ofLexeme, ih, List.cons_append,
      List.takeWhile_append_dropWhile]

/-! ### Steps and scans -/

structure Cursor where
  position : Int
  line : Int
  deriving DecidableEq

/-- What a scan works with. The source is that of the whole scan, for the locations. -/
structure Setting where
  source : Text
  file : Text
  table : KeywordTable
  options : Options
  deriving DecidableEq

inductive Stop where
  | lexical (e : LexicalError)
  | internal (m : Misuse)
  deriving DecidableEq

inductive Step where
  | pass
  | token (t : Token)
  | report (d : Diagnostic) (records : List Record)
  | stop (reason : Stop)
  deriving DecidableEq

/-- What a scan produces, where it ends, and why if that is not the end of the source. -/
structure Scan where
  tokens : List Token
  diagnostics : List Diagnostic
  records : List Record
  cursor : Cursor
  stop : Option Stop
  deriving DecidableEq

def Segment.breaks : Segment → Int
  | newline _ => 1
  | _ => 0

def Cursor.past (cursor : Cursor) (s : Segment) : Cursor :=
  ⟨cursor.position + s.text.length, cursor.line + s.breaks⟩

namespace Setting

def locate (setting : Setting) (cursor : Cursor) : Location :=
  Location.of setting.source setting.file cursor.position cursor.line

def fail (setting : Setting) (cursor : Cursor) (cause : LexicalCause) : Step :=
  let e : LexicalError := ⟨cause, cursor.line, cursor.position⟩
  if setting.options.failFast then .stop (.lexical e)
  else .report ⟨.error, e.message, some (setting.locate cursor), some (.lexical e)⟩ []

/-- A word is a keyword if the table has it and an identifier otherwise. -/
def scanWord (setting : Setting) (cursor : Cursor) (word : Text) : Step :=
  match setting.table.get? word with
  | none => .token (Token.identifier word cursor.line cursor.position)
  | some payload =>
    match Token.make .keyword word cursor.line cursor.position payload with
    | .ok t => .token t
    | .error m => .stop (.internal m)

def scanDigits (setting : Setting) (cursor : Cursor) (digits : Text) : Step :=
  match Literal.value? digits with
  | some n =>
    match Value.ofInt n with
    | .ok v => .token (Token.literal digits v cursor.line cursor.position)
    | .error m => .stop (.internal m)
  | none => setting.fail cursor (.overflow digits)

/-- An unknown character is an error in a strict scan and skipped with a warning otherwise. -/
def scanUnknown (setting : Setting) (cursor : Cursor) (c : Char) : Step :=
  if setting.options.strict then setting.fail cursor (.unknownCharacter [c])
  else
    .report ⟨.warning, "skipped unknown character ".toList ++ Text.quoted [c],
      some (setting.locate cursor), none⟩ [.skipped c cursor.line cursor.position]

def step (setting : Setting) (cursor : Cursor) : Segment → Step
  | .blank _ => .pass
  | .newline _ => .pass
  | .word text => setting.scanWord cursor text
  | .digits text => setting.scanDigits cursor text
  | .symbol s => .token (Token.symbol s cursor.line cursor.position)
  | .unknown c => setting.scanUnknown cursor c

/-- Scan segments from a place on. A segment that stops the scan leaves no trace but the reason. -/
def scan (setting : Setting) (cursor : Cursor) : List Segment → Scan
  | [] => ⟨[], [], [], cursor, none⟩
  | s :: rest =>
    match setting.step cursor s with
    | .pass => setting.scan (cursor.past s) rest
    | .token t =>
      let scan := setting.scan (cursor.past s) rest
      { scan with tokens := t :: scan.tokens }
    | .report d records =>
      let scan := setting.scan (cursor.past s) rest
      { scan with diagnostics := d :: scan.diagnostics, records := records ++ scan.records }
    | .stop reason => ⟨[], [], [], cursor, some reason⟩

end Setting

/-! ### Sessions -/

/-- `outcome` is that of the first scan that came to an end, if there was one. -/
structure Session where
  setting : Setting
  cursor : Cursor
  tokens : List Token
  report : Report
  records : List Record
  outcome : Option (Except LexicalError (List Token))

namespace Session

def start (setting : Setting) : Session :=
  ⟨setting, ⟨0, 0⟩, [], {}, [], none⟩

def diagnostics (s : Session) : List Diagnostic :=
  s.report.entries

/-- What is left to scan; nothing if the cursor is outside the source. -/
def remaining (s : Session) : Text :=
  if s.cursor.position < 0 then [] else s.setting.source.drop s.cursor.position.toNat

def absorb (s : Session) (scan : Scan) : Session :=
  { s with
    cursor := scan.cursor
    tokens := s.tokens ++ scan.tokens
    report := s.report.addAll scan.diagnostics
    records := s.records ++ scan.records }

/-- Scan to the end of the source, or give the remembered outcome. -/
def tokenize (s : Session) : Session × Except Stop (List Token) :=
  match s.outcome with
  | some (.ok tokens) => (s, .ok tokens)
  | some (.error e) => (s, .error (.lexical e))
  | none =>
    let scan := s.setting.scan s.cursor (segments s.remaining)
    let after := s.absorb scan
    match scan.stop with
    | none =>
      let record := Record.finished s.setting.file after.tokens.length (after.cursor.line + 1)
      ({ after with records := after.records ++ [record], outcome := some (.ok after.tokens) },
        .ok after.tokens)
    | some (.lexical e) => ({ after with outcome := some (.error e) }, .error (.lexical e))
    | some (.internal m) => (after, .error (.internal m))

def seek (s : Session) (position line : Option Int) : Session :=
  { s with cursor := ⟨position.getD s.cursor.position, line.getD s.cursor.line⟩ }

def setOptions (s : Session) (options : Options) : Session :=
  { s with setting := { s.setting with options := options } }

def setKeyword (s : Session) (word : Text) (payload : Payload) : Session :=
  { s with setting := { s.setting with table := s.setting.table.set word payload } }

end Session

def tokenize (source : Text) (table : KeywordTable) (options : Options) :
    Except Stop (List Token) :=
  (Session.start ⟨source, "<stdin>".toList, table, options⟩).tokenize.2

end MiniLex
