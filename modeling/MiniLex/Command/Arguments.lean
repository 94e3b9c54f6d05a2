import MiniLex.Text.Basic
import MiniLex.Text.Quoted
import MiniLex.Listing

/-!
Arguments of the command line. Each word is first put into a class of its own; the words are then
followed from left to right.
-/

namespace MiniLex.Command

structure Request where
  input : Text
  strict : Bool
  keepGoing : Bool
  format : ListingFormat
  verbose : Bool
  deriving DecidableEq

inductive Flag where
  | help
  | strict
  | keepGoing
  | format
  | verbose
  deriving DecidableEq

inductive UsageError where
  | missingInput
  | unrecognized (words : List Text)
  | missingValue (flag : Flag)
  | unexpectedValue (flag : Flag) (value : Text)
  | unknownFormat (name : Text)
  | ambiguous (word : Text) (candidates : List Text)
  deriving DecidableEq

namespace Flag

def all : List Flag :=
  [help, strict, keepGoing, format, verbose]

def long : Flag → Text
  | help => "--help".toList
  | strict => "--strict".toList
  | keepGoing => "--keep-going".toList
  | format => "--format".toList
  | verbose => "--verbose".toList

def letter? : Flag → Option Char
  | help => some 'h'
  | verbose => some 'v'
  | _ => none

def ofLetter? (c : Char) : Option Flag :=
  all.find? (·.letter? == some c)

def names (f : Flag) : Text :=
  match f.letter? with
  | some c => '-' :: c :: '/' :: f.long
  | none => f.long

end Flag

namespace UsageError

def message : UsageError → Text
  | missingInput => "the following arguments are required: input".toList
  | unrecognized words =>
    "unrecognized arguments: ".toList ++ List.intercalate " ".toList words
  | missingValue flag => "argument ".toList ++ flag.names ++ ": expected one argument".toList
  | unexpectedValue flag value =>
    "argument ".toList ++ flag.names ++ ": ignored explicit argument ".toList ++ Text.quoted value
  | unknownFormat name =>
    "argument --format: invalid choice: ".toList ++ Text.quoted name ++ " (choose from ".toList ++
      List.intercalate ", ".toList (ListingFormat.all.map fun f => Text.quoted f.name) ++
      ")".toList
  | ambiguous word candidates =>
    "ambiguous option: ".toList ++ word ++ " could match ".toList ++
      List.intercalate ", ".toList candidates

end UsageError

inductive Word where
  | positional (text : Text)
  | separator
  | long (flag : Flag) (value : Option Text)
  | short (flag : Flag) (value : Option Text)
  | unknown (text : Text)
  deriving DecidableEq

namespace Word

/-- A word around its first equals sign. -/
def splitValue (word : Text) : Text × Option Text :=
  match word.dropWhile (· != '=') with
  | _ :: value => (word.takeWhile (· != '='), some value)
  | [] => (word, none)

/-- A text without the line feed that it may end in. -/
def dropLineFeed (s : Text) : Text :=
  if s.getLast? = some '\n' then s.dropLast else s

/-- A minus in front of digits, with at most one point, which a digit must follow. A line feed may
stand at the end. -/
def isNegativeNumber : Text → Bool
  | '-' :: number =>
    let number := dropLineFeed number
    match number.dropWhile Text.isDecimalDigit with
    | [] => number != []
    | '.' :: fraction => fraction != [] && fraction.all Text.isDecimalDigit
    | _ => false
  | _ => false

def ofUnknown (word : Text) : Word :=
  if isNegativeNumber word || word.contains ' ' then positional word else unknown word

/-- A word that opens with two dashes may shorten the name of a flag; a value may stand behind an
equals sign. -/
def ofLong (word : Text) : Except UsageError Word :=
  let (name, value) := splitValue word
  match Flag.all.filter (fun f => name.isPrefixOf f.long) with
  | [] => .ok (ofUnknown word)
  | [flag] => .ok (long flag value)
  | flags => .error (.ambiguous word (flags.map Flag.long))

/-- A word that opens with a dash and a letter. What follows is the value, whether or not an equals
sign stands in front of it. -/
def ofShort (word : Text) (c : Char) (rest : Text) : Word :=
  match Flag.ofLetter? c, rest with
  | some flag, [] => short flag none
  | some flag, '=' :: value => short flag (some value)
  | some flag, value => short flag (some value)
  | none, _ => ofUnknown word

def classify (word : Text) : Except UsageError Word :=
  match word with
  | ['-', '-'] => .ok separator
  | '-' :: '-' :: _ => ofLong word
  | '-' :: c :: rest => .ok (ofShort word c rest)
  | _ => .ok (positional word)

/-- Classify words up to the separator; those behind it are all positional. -/
def classifyAll : List Text → Except UsageError (List Word)
  | [] => .ok []
  | word :: words => do
    match ← classify word with
    | .separator => return .separator :: words.map .positional
    | w => return w :: (← classifyAll words)

end Word

/-- Flags that share one dash: the letters behind a flag that takes no value are flags of their own.
A letter that is none makes the rest a value of the flag before it, which is refused. -/
def Flag.cluster (flag : Flag) : Text → Except UsageError (List Flag)
  | [] => .ok [flag]
  | c :: letters =>
    match ofLetter? c with
    | some next => (next.cluster letters).map (flag :: ·)
    | none => .error (.unexpectedValue flag (c :: letters))

def Word.flags : Word → Except UsageError (List Flag)
  | long flag none | short flag none => .ok [flag]
  | long flag (some value) => .error (.unexpectedValue flag value)
  | short flag (some []) => .error (.unexpectedValue flag [])
  | short flag (some letters) => flag.cluster letters
  | positional _ | separator | unknown _ => .ok []

/-- A request under way, with the words that found no place in it. -/
structure Draft where
  input : Option Text := none
  strict : Bool := false
  keepGoing : Bool := false
  format : ListingFormat := .table
  verbose : Bool := false
  extras : List Text := []

inductive Invocation where
  | help
  | run (request : Request)
  deriving DecidableEq

namespace Draft

def raise (draft : Draft) : Flag → Draft
  | .strict => { draft with strict := true }
  | .keepGoing => { draft with keepGoing := true }
  | .verbose => { draft with verbose := true }
  | .help | .format => draft

/-- Choose the format of the listing. Two dashes stand for no name and choose a table. -/
def setFormat (draft : Draft) (name : Text) : Except UsageError Draft :=
  if name = "--".toList then .ok { draft with format := .table }
  else
    match ListingFormat.ofName? name with
    | some format => .ok { draft with format := format }
    | none => .error (.unknownFormat name)

def leave (draft : Draft) (word : Text) : Draft :=
  { draft with extras := draft.extras ++ [word] }

/-- The finished request. A missing input is reported before words without a place. -/
def finish (draft : Draft) : Except UsageError Invocation :=
  match draft.input with
  | none => .error .missingInput
  | some input =>
    if draft.extras = [] then
      .ok (.run ⟨input, draft.strict, draft.keepGoing, draft.format, draft.verbose⟩)
    else .error (.unrecognized draft.extras)

/-- Follow the words from left to right. The first positional word is the input, and a separator
right before or behind it is dropped. A request for help ends the walk. -/
def follow (draft : Draft) : List Word → Except UsageError Invocation
  | [] => draft.finish
  | .positional text :: words =>
    match draft.input, words with
    | none, .separator :: words => follow { draft with input := some text } words
    | none, words => follow { draft with input := some text } words
    | some _, words => follow (draft.leave text) words
  | .unknown text :: words => follow (draft.leave text) words
  | .separator :: words =>
    match draft.input, words with
    | none, .positional text :: words => follow { draft with input := some text } words
    | _, words => follow (draft.leave "--".toList) words
  | .long .format (some name) :: words => do follow (← draft.setFormat name) words
  | .long .format none :: .positional name :: words => do follow (← draft.setFormat name) words
  | .long .format none :: _ => .error (.missingValue .format)
  | word :: words => do
    let flags ← word.flags
    if flags.contains .help then return .help
    follow (flags.foldl raise draft) words

end Draft

def parse (args : List Text) : Except UsageError Invocation := do
  Draft.follow {} (← Word.classifyAll args)

end MiniLex.Command
