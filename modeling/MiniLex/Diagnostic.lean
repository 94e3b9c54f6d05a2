import MiniLex.CharClass
import MiniLex.Console.Print
import MiniLex.Text.Basic
import MiniLex.Text.Quoted
import MiniLex.Token

/-!
What is said about a source: failures, diagnostics at a place that a reader can find, reports that
count them, and the records of the log.
-/

namespace MiniLex

/-! ### Failures -/

inductive LexicalCause where
  | overflow (lexeme : Text)
  | unknownCharacter (text : Text)
  | other (message : Text)
  deriving DecidableEq

structure LexicalError where
  cause : LexicalCause
  line : Int
  position : Int
  deriving DecidableEq

structure SourceError where
  path : Text
  reason : Text
  deriving DecidableEq

/-- Anything that a diagnostic may be about. A lexical cause may come without a full place. -/
inductive Failure where
  | general (message : Text) (line position : Option Int)
  | source (e : SourceError)
  | lexical (e : LexicalError)
  | unplaced (cause : LexicalCause) (line position : Option Int)
  | internal (m : Misuse)
  deriving DecidableEq

def atPlace (line position : Int) : Text :=
  " at line ".toList ++ Text.ofInt line ++ ", position ".toList ++ Text.ofInt position

def placeNumber (n : Option Int) : Text :=
  n.elim "None".toList Text.ofInt

def LexicalCause.message : LexicalCause → Text
  | overflow lexeme => '\'' :: lexeme ++ "' does not fit in a 32-bit signed integer".toList
  | unknownCharacter text => "unknown character ".toList ++ Text.quoted text
  | other message => message

namespace LexicalError

def message (e : LexicalError) : Text :=
  e.cause.message

def describe (e : LexicalError) : Text :=
  match e.cause with
  | .overflow _ =>
    "literal overflow".toList ++ atPlace e.line e.position ++ ": ".toList ++ e.message
  | _ => e.message ++ atPlace e.line e.position

end LexicalError

def SourceError.message (e : SourceError) : Text :=
  "cannot read '".toList ++ e.path ++ "': ".toList ++ e.reason

namespace Failure

/-- The failure of a lexical cause at a place of which parts may be missing. -/
def ofCause (cause : LexicalCause) : Option Int → Option Int → Failure
  | some line, some position => lexical ⟨cause, line, position⟩
  | line, position => unplaced cause line position

def message : Failure → Text
  | general message _ _ => message
  | source e => e.message
  | lexical e => e.message
  | unplaced cause _ _ => cause.message
  | internal m => m.message

/-- The message with its place. An overflow names both parts of it even if they are missing; the
other failures name them only if both are known. -/
def describe : Failure → Text
  | general message (some line) (some position) => message ++ atPlace line position
  | general message _ _ => message
  | source e => e.message
  | lexical e => e.describe
  | unplaced (.overflow lexeme) line position =>
    "literal overflow at line ".toList ++ placeNumber line ++ ", position ".toList ++
      placeNumber position ++ ": ".toList ++ (LexicalCause.overflow lexeme).message
  | unplaced cause _ _ => cause.message
  | internal m => m.describe

end Failure

/-! ### Lines -/

namespace Text

/-- The text before `stop`; a negative `stop` counts back from the end. -/
def upTo (s : Text) (stop : Int) : Text :=
  s.take (if stop < 0 then s.length + stop else stop).toNat

/-- The number of characters behind the last line break. -/
def sinceBreak (s : Text) : Nat :=
  s.foldl (fun n c => if isLineBreak c then 0 else n + 1) 0

def firstLine (s : Text) : Text :=
  s.takeWhile (!isLineBreak ·)

/-- The offset at which the line of `position` starts. -/
def lineStart (s : Text) (position : Int) : Nat :=
  let before := upTo s position
  before.length - sinceBreak before

end Text

/-! ### Locations -/

structure Location where
  line : Int
  column : Int
  file : Text
  rawLine : Text
  deriving DecidableEq

namespace Location

def of (source file : Text) (position line : Int) : Location :=
  let start := Text.lineStart source position
  { line := line + 1
    column := position - start + 1
    file := file
    rawLine := Text.firstLine (source.drop start) }

def display (l : Location) : Text :=
  l.file ++ ':' :: Text.ofInt l.line ++ ':' :: Text.ofInt l.column

/-- What stands before a caret under the column. Tabs stay tabs, so the caret lines up with the
raw line whatever the tabs are worth. -/
def caretPadding (l : Location) : Text :=
  (Text.upTo l.rawLine (l.column - 1)).map fun c => if c = '\t' then '\t' else ' '

end Location

/-! ### Diagnostics and reports -/

inductive Level where
  | error
  | warning
  deriving DecidableEq

structure Diagnostic where
  level : Level
  message : Text
  location : Option Location
  failure : Option Failure
  deriving DecidableEq

namespace Level

def all : List Level :=
  [error, warning]

def name : Level → Text
  | error => "ERROR".toList
  | warning => "WARNING".toList

def word : Level → Text
  | error => "error".toList
  | warning => "warning".toList

def style : Level → Text
  | error => "red".toList
  | warning => "yellow".toList

end Level

namespace Diagnostic

def headline (d : Diagnostic) : Text :=
  d.level.word ++ ": ".toList ++ d.message

/-- The headline behind its location and above the source line with a caret, where they are known.
What comes from the source passes through `write`. -/
def layout (d : Diagnostic) (write : Text → Text) (headline : Text) : Text :=
  match d.location with
  | none => headline
  | some l =>
    write l.display ++ ": ".toList ++ headline ++
      if l.rawLine = [] then []
      else "\n  ".toList ++ write l.rawLine ++ "\n  ".toList ++ l.caretPadding ++ "^".toList

def plain (d : Diagnostic) : Text :=
  d.layout id d.headline

def markup (d : Diagnostic) : Text :=
  d.layout Markup.escape (Markup.styled d.level.style (Markup.escape d.headline))

def print (d : Diagnostic) (coloured : Bool) : Except Markup.TagError Text :=
  if coloured then Console.printMarkup d.markup else .ok (Console.printPlain d.plain)

end Diagnostic

/-- Diagnostics in the order in which they were made, and how many of them are errors and how many
are warnings. -/
structure Report where
  entries : List Diagnostic := []
  errorCount : Nat := 0
  warningCount : Nat := 0
  deriving DecidableEq

namespace Report

def add (report : Report) (d : Diagnostic) : Report :=
  let report := { report with entries := report.entries ++ [d] }
  match d.level with
  | .error => { report with errorCount := report.errorCount + 1 }
  | .warning => { report with warningCount := report.warningCount + 1 }

def addAll (report : Report) (ds : List Diagnostic) : Report :=
  ds.foldl add report

def hasErrors (report : Report) : Bool :=
  0 < report.errorCount

def ofLevel (report : Report) (level : Level) : List Diagnostic :=
  report.entries.filter (·.level == level)

def failures (report : Report) : List Failure :=
  (report.ofLevel .error).filterMap (·.failure)

def select (report : Report) : Option Level → List Diagnostic
  | none => report.entries
  | some level => report.ofLevel level

@[simp] theorem entries_add (report : Report) (d : Diagnostic) :
    (report.add d).entries = report.entries ++ [d] := by
  unfold add
  cases d.level <;> rfl

@[simp] theorem addAll_nil (report : Report) : report.addAll [] = report :=
  rfl

theorem addAll_append (report : Report) (ds ds' : List Diagnostic) :
    report.addAll (ds ++ ds') = (report.addAll ds).addAll ds' :=
  List.foldl_append

@[simp] theorem entries_addAll (report : Report) (ds : List Diagnostic) :
    (report.addAll ds).entries = report.entries ++ ds := by
  induction ds generalizing report with
  | nil => exact (List.append_nil _).symm
  | cons d ds ih => rw [addAll, List.foldl_cons, ← addAll, ih, entries_add, List.append_assoc,
      List.singleton_append]

/-- The counters say how many diagnostics of each level there are. -/
structure IsCounted (report : Report) : Prop where
  errors : report.errorCount = report.entries.countP (·.level == .error)
  warnings : report.warningCount = report.entries.countP (·.level == .warning)

theorem isCounted_empty : IsCounted {} :=
  ⟨rfl, rfl⟩

variable {report : Report}

/-- A diagnostic moves the counter of its own level alone. -/
theorem IsCounted.add (h : report.IsCounted) (d : Diagnostic) : (report.add d).IsCounted := by
  obtain ⟨herrors, hwarnings⟩ := h
  constructor
  · rw [entries_add, List.countP_append, ← herrors]
    cases hlevel : d.level <;> simp [Report.add, hlevel]
  · rw [entries_add, List.countP_append, ← hwarnings]
    cases hlevel : d.level <;> simp [Report.add, hlevel]

/-- So the counters stay in step however many diagnostics are reported. -/
theorem IsCounted.addAll (h : report.IsCounted) (ds : List Diagnostic) :
    (report.addAll ds).IsCounted := by
  induction ds generalizing report with
  | nil => exact h
  | cons d ds ih => exact ih (h.add d)

theorem IsCounted.hasErrors_iff (h : report.IsCounted) :
    report.hasErrors = true ↔ ∃ d ∈ report.entries, d.level = .error := by
  rw [hasErrors, decide_eq_true_iff, h.errors, List.countP_pos_iff]
  simp

end Report

/-! ### Records -/

inductive Record where
  | loaded (path : Text) (length : Nat)
  | content (path text : Text)
  | skipped (c : Char) (line position : Int)
  | finished (file : Text) (tokens : Nat) (lines : Int)
  deriving DecidableEq

namespace Record

def origin : Record → Text
  | loaded _ _ | content _ _ => "tinyc.core.source".toList
  | skipped _ _ _ | finished _ _ _ => "tinyc.core.lexer".toList

def message : Record → Text
  | loaded path length =>
    "loaded ".toList ++ path ++ " (".toList ++ Text.ofNat length ++ " characters)".toList
  | content path text => "source of ".toList ++ path ++ ":\n".toList ++ text
  | skipped c line position =>
    "skipping unknown character ".toList ++ Text.quoted [c] ++ " at line ".toList ++
      Text.ofInt line ++ ", position ".toList ++ Text.ofInt position
  | finished file tokens lines =>
    file ++ ": ".toList ++ Text.ofNat tokens ++ " tokens over ".toList ++ Text.ofInt lines ++
      " lines".toList

def entry (r : Record) : Text :=
  "DEBUG ".toList ++ r.origin ++ ": ".toList ++ r.message ++ ['\n']

end Record

end MiniLex
