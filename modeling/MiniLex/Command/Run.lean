import MiniLex.Command.Arguments
import MiniLex.Console.Print
import MiniLex.Diagnostic
import MiniLex.Listing
import MiniLex.Scan
import MiniLex.Source

/-!
The command: read a file, list its tokens, and say by the exit code how it went. What is said on
the way is a list of events, which the two output streams are printed from.
-/

namespace MiniLex

/-! ### Transcripts -/

inductive Event where
  | record (r : Record)
  | notice (n : Console.Notice)
  | diagnostic (d : Diagnostic) (coloured : Bool)
  | listing (text : Text)
  | tokenTable (tokens : List Token) (title : Text)

structure Output where
  stdout : Text
  stderr : Text
  deriving DecidableEq

/-- How events are turned into text: with or without the log, and in which form notices come. -/
structure Manner where
  logging : Bool
  minimal : Bool
  deriving DecidableEq

namespace Output

def empty : Output :=
  ⟨[], []⟩

def toStdout (text : Text) : Output :=
  ⟨text, []⟩

def toStderr (text : Text) : Output :=
  ⟨[], text⟩

def append (a b : Output) : Output :=
  ⟨a.stdout ++ b.stdout, a.stderr ++ b.stderr⟩

end Output

/-- The output of one event. -/
def Event.print (manner : Manner) : Event → Except Markup.TagError Output
  | record r => .ok (Output.toStderr (if manner.logging then r.entry else []))
  | notice n => (n.print manner.minimal).map Output.toStderr
  | diagnostic d coloured => (d.print coloured).map Output.toStderr
  | listing text => .ok (Output.toStdout text)
  | tokenTable tokens title => (Token.tableListing tokens title).map Output.toStdout

/-- The output of events up to the first one that cannot be printed, and why that cannot. -/
def printEvents (manner : Manner) : List Event → Output × Option Markup.TagError
  | [] => (Output.empty, none)
  | event :: events =>
    match event.print manner with
    | .error e => (Output.empty, some e)
    | .ok output =>
      let (rest, error) := printEvents manner events
      (output.append rest, error)

/-! ### Analyses -/

/-- The result of an analysis that came to the end of its source. -/
structure Analysis where
  file : Text
  tokens : List Token
  report : Report
  deriving DecidableEq

/-- Why an analysis has no result. -/
inductive Halt where
  | read (e : ReadError)
  | scan (stop : Stop)
  deriving DecidableEq

namespace Analysis

/-- A result is good if it has no errors; warnings do no harm. -/
def isOk (a : Analysis) : Bool :=
  !a.report.hasErrors

def progress (options : Options) (n : Console.Notice) : List Event :=
  if options.verbose then [.notice n] else []

def ofText (source : Text) (options : Options) (file : Text) (table : KeywordTable) :
    List Event × Except Halt Analysis :=
  let opening := progress options (.stage 1 1 ("Lexical analysis of ".toList ++ file))
  let (session, result) := (Session.start ⟨source, file, table, options⟩).tokenize
  let events := opening ++ session.records.map .record
  match result with
  | .error stop => (events, .error (.scan stop))
  | .ok tokens =>
    let closing := progress options (.info ("Generated ".toList ++ Text.ofNat tokens.length ++
      " tokens over ".toList ++ Text.ofInt (session.cursor.line + 1) ++ " lines".toList))
    (events ++ closing, .ok ⟨file, tokens, session.report⟩)

def ofFile (files : FileSystem) (path : Text) (options : Options) (table : KeywordTable) :
    List Event × Except Halt Analysis :=
  match readSource files path .utf8 with
  | .error e => ([], .error (.read e))
  | .ok source =>
    let (events, result) := ofText source options path table
    ((sourceRecords path source).map .record ++ events, result)

end Analysis

/-! ### Calls -/

namespace Command

namespace ExitCode

def ok : Nat := 0

def usage : Nat := 2

def source : Nat := 2

def lexical : Nat := 3

def internal : Nat := 4

end ExitCode

/-- A failure that no exit code stands for. -/
inductive Crash where
  | read (e : ReadError)
  | markup (e : Markup.TagError)
  deriving DecidableEq

structure Finished where
  ending : Except Crash Nat
  output : Output

def version : Text := "0.1.0".toList

def usageLine : Text :=
  ("usage: tinyc [-h] [--strict] [--keep-going] [--format \x7btable,plain,json\x7d] [-v] " ++
    "input\n").toList

def help : Text :=
  usageLine ++ ("\n" ++
    "Tokenize a tinyc source file\n" ++
    "\n" ++
    "positional arguments:\n" ++
    "  input                 Source file to tokenize\n" ++
    "\n" ++
    "options:\n" ++
    "  -h, --help            show this help message and exit\n" ++
    "  --strict              Report characters outside the language instead of skipping them\n" ++
    "  --keep-going          Collect every lexical error instead of stopping at the first one\n" ++
    "  --format \x7btable,plain,json\x7d\n" ++
    "                        How to print the token stream\n" ++
    "  -v, --verbose\n").toList

/-- The options of a request: what the environment sets, and what the request adds to it. -/
def Request.options (request : Request) (env : Environment) : Options :=
  let options := Options.ofEnvironment env
  { strict := options.strict || request.strict
    failFast := options.failFast && !request.keepGoing
    verbose := request.verbose }

def listing (format : ListingFormat) (a : Analysis) : List Event :=
  match format with
  | .json => [.listing (Token.jsonListing a.tokens)]
  | .plain => [.listing (Token.plainListing a.tokens)]
  | .table =>
    [.tokenTable a.tokens a.file,
     .notice (.success (Text.ofNat a.tokens.length ++ " tokens".toList))]

def diagnosticEvents (ds : List Diagnostic) : List Event :=
  ds.map (.diagnostic · true)

/-- What is said about an analysis that came to its end, and the exit code. -/
def conclude (request : Request) (a : Analysis) : List Event × Nat :=
  if a.isOk then
    let count := a.report.warningCount
    let warnings :=
      if request.verbose && count != 0 then
        diagnosticEvents (a.report.ofLevel .warning) ++
          [.notice (.warning (Text.ofNat count ++ " unknown character(s) skipped in ".toList ++
            a.file))]
      else []
    (warnings ++ listing request.format a, ExitCode.ok)
  else
    let level := if request.verbose then none else some .error
    let count := a.report.errorCount
    (diagnosticEvents (a.report.select level) ++
      [.notice (.error (Text.ofNat count ++ " lexical error(s) in ".toList ++ a.file))],
      ExitCode.lexical)

def serve (request : Request) (env : Environment) (files : FileSystem) (table : KeywordTable) :
    List Event × Except Crash Nat :=
  let (events, result) := Analysis.ofFile files request.input (request.options env) table
  let failed (message : Text) (code : Nat) : List Event × Except Crash Nat :=
    (events ++ [.notice (.error message)], .ok code)
  match result with
  | .ok a =>
    let (more, code) := conclude request a
    (events ++ more, .ok code)
  | .error (.read (.source e)) => failed e.message ExitCode.source
  | .error (.read e) => (events, .error (.read e))
  | .error (.scan (.lexical e)) => failed e.describe ExitCode.lexical
  | .error (.scan (.internal m)) => failed m.describe ExitCode.internal

/-- Carry out a call with the given arguments. -/
def run (args : List Text) (env : Environment) (files : FileSystem) (table : KeywordTable) :
    Finished :=
  match parse args with
  | .error e =>
    ⟨.ok ExitCode.usage,
      Output.toStderr (usageLine ++ "tinyc: error: ".toList ++ e.message ++ ['\n'])⟩
  | .ok .help => ⟨.ok ExitCode.ok, Output.toStdout help⟩
  | .ok (.run request) =>
    let (events, ending) := serve request env files table
    let manner : Manner := ⟨request.verbose, Environment.minimalNotices env⟩
    match printEvents manner events with
    | (output, none) => ⟨ending, output⟩
    | (output, some e) => ⟨.error (.markup e), output⟩

end Command

end MiniLex
