import MiniLex.Console.Markup
import MiniLex.Console.Picture.AToE
import MiniLex.Console.Picture.FToL
import MiniLex.Console.Picture.MToO
import MiniLex.Console.Picture.PToR
import MiniLex.Console.Picture.SToZ
import MiniLex.Console.Width
import MiniLex.Text.Basic
import MiniLex.Text.LetterCase

/-!
Printing on the console: short codes become pictures, some control characters go, tabs become
blanks, and a line feed ends the text.
-/

namespace MiniLex

/-! ### Short codes -/

namespace Picture

def namesOther : List (String × String) :=
  [("+1", "👍"), ("-1", "👎"), ("100", "💯"), ("1234", "🔢"), ("1st_place_medal", "🥇"),
   ("2nd_place_medal", "🥈"), ("3rd_place_medal", "🥉"), ("8ball", "🎱"), ("__1", "👎"),
   ("åland_islands", "🇦🇽")]

def namesFrom : Char → List (String × String)
  | 'a' => namesA
  | 'b' => namesB
  | 'c' => namesC
  | 'd' => namesD
  | 'e' => namesE
  | 'f' => namesF
  | 'g' => namesG
  | 'h' => namesH
  | 'i' => namesI
  | 'j' => namesJ
  | 'k' => namesK
  | 'l' => namesL
  | 'm' => namesM
  | 'n' => namesN
  | 'o' => namesO
  | 'p' => namesP
  | 'q' => namesQ
  | 'r' => namesR
  | 's' => namesS
  | 't' => namesT
  | 'u' => namesU
  | 'v' => namesV
  | 'w' => namesW
  | 'x' => namesX
  | 'y' => namesY
  | 'z' => namesZ
  | _ => namesOther

def find? (name : Text) : Option Text :=
  match name with
  | [] => none
  | c :: _ => ((namesFrom c).find? (·.1.toList == name)).map (·.2.toList)

end Picture

namespace Shortcode

/-- Endings of a code that choose a presentation, with the selector that is put behind the
picture. -/
def presentations : List (Text × Char) :=
  [("-text".toList, '\uFE0E'), ("-emoji".toList, '\uFE0F')]

/-- Characters that a code may hold. -/
def inCode (c : Char) : Bool :=
  !Text.isBlank c && c != ':'

def split (code : Text) : Text × Text :=
  match presentations.find? (fun p => p.1.isSuffixOf code) with
  | some (ending, selector) => (code.take (code.length - ending.length), [selector])
  | none => (code, [])

/-- What the console shows for a code; an unknown one stays as it is, with its colons. -/
def expand (code : Text) : Text :=
  let (name, selector) := split code
  match Picture.find? (Text.lower name) with
  | some picture => picture ++ selector
  | none => ':' :: code ++ [':']

def replace : Text → Text
  | [] => []
  | c :: cs =>
    if c = ':' then
      match _ : cs.dropWhile inCode with
      | ':' :: rest => expand (cs.takeWhile inCode) ++ replace rest
      | _ => c :: replace cs
    else c :: replace cs
termination_by s => s.length
decreasing_by
  · rename_i h
    have hs := (List.dropWhile_suffix (l := cs) inCode).length_le
    rw [h] at hs
    simp only [List.length_cons] at hs ⊢
    omega
  · simp
  · simp

end Shortcode

/-! ### Printed lines -/

namespace Console

/-- Control characters that are not printed: bell, backspace, vertical tab, form feed and
carriage return. -/
def isDropped (c : Char) : Bool :=
  c == '\x07' || c == '\x08' || c == '\x0b' || c == '\x0c' || c == '\r'

/-- A text with its pictures and without the characters that are not printed. -/
def display (s : Text) : Text :=
  (Shortcode.replace s).filter (!isDropped ·)

/-- Put the parts of a line together, with blanks in place of the tabs between them: one at least,
and more up to the next multiple of `stop`. The parts are measured by `width`, each with the first
blank behind it. -/
def joinParts (width : Text → Nat) (stop column : Nat) : List Text → Text
  | [] => []
  | [part] => part
  | part :: parts =>
    let column := column + width (part ++ [' '])
    let gap := (stop - column % stop) % stop
    part ++ List.replicate (gap + 1) ' ' ++ joinParts width stop (column + gap) parts

/-- Replace the tabs of a line by blanks. -/
def expandLine (width : Text → Nat) (stop : Nat) (line : Text) : Text :=
  joinParts width stop 0 (line.splitOn '\t')

def linesOf (s : Text) : List Text :=
  s.splitOn '\n'

def expandTabs (width : Text → Nat) (stop : Nat) (s : Text) : Text :=
  List.intercalate ['\n'] ((linesOf s).map (expandLine width stop))

def tabStop : Nat := 8

def printed (s : Text) : Text :=
  expandTabs lineWidth tabStop s ++ ['\n']

def printPlain (s : Text) : Text :=
  printed (display s)

def printMarkup (markup : Text) : Except Markup.TagError Text := do
  let shown ← Markup.render display markup
  match shown.fault? with
  | some fault => .error (.badShare fault)
  | none => .ok (printed shown.text)

/-! ### Notices -/

inductive Notice where
  | stage (step total : Int) (message : Text)
  | info (message : Text)
  | error (message : Text)
  | warning (message : Text)
  | success (message : Text)
  deriving DecidableEq

namespace Notice

/-- The minimal form, plain text; information is left out. -/
def minimal? : Notice → Option Text
  | stage step total message =>
    some ('[' :: Text.ofInt step ++ '/' :: Text.ofInt total ++ "] ".toList ++ message)
  | info _ => none
  | error message => some ("[ERROR] ".toList ++ message)
  | warning message => some ("[WARN] ".toList ++ message)
  | success message => some ("[OK] ".toList ++ message)

def labelled (style label message : Text) : Text :=
  Markup.styled style label ++ ' ' :: Markup.escape message

def markup : Notice → Text
  | stage step total message =>
    Markup.styled "cyan".toList "●".toList ++
      ' ' :: Markup.styled "bold".toList (Text.ofInt step ++ '/' :: Text.ofInt total) ++
      ' ' :: Markup.escape message
  | info message => labelled "yellow".toList "Info:".toList message
  | error message => labelled "red".toList "Error:".toList message
  | warning message => labelled "#9b59b6".toList "Warning:".toList message
  | success message => labelled "green".toList "Success:".toList message

def print (minimal : Bool) (n : Notice) : Except Markup.TagError Text :=
  if minimal then .ok (n.minimal?.elim [] printPlain) else printMarkup n.markup

end Notice

end Console

end MiniLex
