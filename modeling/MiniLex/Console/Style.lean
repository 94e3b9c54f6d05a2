import MiniLex.Text.Basic
import MiniLex.Text.LetterCase

/-!
Styles of console text, as the words of a tag ask for them, and texts with styled parts. No colour
ever reaches the output, but two tags belong together if they ask for the same style, however they
spell it.
-/

namespace MiniLex

inductive ShareFault where
  | missing
  | tooLong (digits : Nat)
  deriving DecidableEq

def ShareFault.message : ShareFault → Text
  | missing => "invalid literal for int() with base 10: ''".toList
  | tooLong digits => Text.tooManyDigits digits

/-- Why words make no style: one of them says nothing, or is a colour with a faulty share. -/
inductive StyleFault where
  | unknownWord
  | badShare (fault : ShareFault)
  deriving DecidableEq

namespace Colour

def names : List String :=
  ["black", "red", "green", "yellow", "blue", "magenta", "cyan", "white", "bright_black",
   "bright_red", "bright_green", "bright_yellow", "bright_blue", "bright_magenta", "bright_cyan",
   "bright_white", "navy_blue", "dark_blue", "blue3", "blue1", "dark_green", "deep_sky_blue4",
   "dodger_blue3", "dodger_blue2", "green4", "spring_green4", "turquoise4", "deep_sky_blue3",
   "dodger_blue1", "green3", "spring_green3", "dark_cyan", "light_sea_green", "deep_sky_blue2",
   "deep_sky_blue1", "spring_green2", "cyan3", "dark_turquoise", "turquoise2", "green1",
   "spring_green1", "medium_spring_green", "cyan2", "cyan1", "dark_red", "deep_pink4", "purple4",
   "purple3", "blue_violet", "orange4", "medium_purple4", "slate_blue3", "royal_blue1",
   "chartreuse4", "dark_sea_green4", "pale_turquoise4", "steel_blue", "steel_blue3",
   "cornflower_blue", "chartreuse3", "cadet_blue", "sky_blue3", "steel_blue1", "pale_green3",
   "sea_green3", "aquamarine3", "medium_turquoise", "chartreuse2", "sea_green2", "sea_green1",
   "aquamarine1", "dark_slate_gray2", "dark_magenta", "dark_violet", "purple", "light_pink4",
   "plum4", "medium_purple3", "slate_blue1", "yellow4", "wheat4", "light_slate_grey",
   "light_slate_gray", "medium_purple", "light_slate_blue", "dark_olive_green3", "dark_sea_green",
   "light_sky_blue3", "sky_blue2", "dark_sea_green3", "dark_slate_gray3", "sky_blue1",
   "chartreuse1", "light_green", "pale_green1", "dark_slate_gray1", "red3", "medium_violet_red",
   "magenta3", "dark_orange3", "indian_red", "hot_pink3", "medium_orchid3", "medium_orchid",
   "medium_purple2", "dark_goldenrod", "light_salmon3", "rosy_brown", "medium_purple1", "gold3",
   "dark_khaki", "navajo_white3", "light_steel_blue3", "light_steel_blue", "yellow3",
   "dark_sea_green2", "light_cyan3", "light_sky_blue1", "green_yellow", "dark_olive_green2",
   "dark_sea_green1", "pale_turquoise1", "deep_pink3", "magenta2", "hot_pink2", "orchid",
   "medium_orchid1", "orange3", "light_pink3", "pink3", "plum3", "violet", "light_goldenrod3",
   "tan", "misty_rose3", "thistle3", "plum2", "khaki3", "light_goldenrod2", "light_yellow3",
   "light_steel_blue1", "yellow2", "dark_olive_green1", "honeydew2", "light_cyan1", "red1",
   "deep_pink2", "deep_pink1", "magenta1", "orange_red1", "indian_red1", "hot_pink", "dark_orange",
   "salmon1", "light_coral", "pale_violet_red1", "orchid2", "orchid1", "orange1", "sandy_brown",
   "light_salmon1", "light_pink1", "pink1", "plum1", "gold1", "navajo_white1", "misty_rose1",
   "thistle1", "yellow1", "light_goldenrod1", "khaki1", "wheat1", "cornsilk1"]

def greyLevels : List Nat :=
  [0, 3, 7, 11, 15, 19, 23, 27, 30, 35, 37, 39, 42, 46, 50, 53, 54, 58, 62, 63, 66, 69, 70, 74, 78,
   82, 84, 85, 89, 93, 100]

def isNamed (word : Text) : Bool :=
  names.any (·.toList == word) ||
    greyLevels.any fun n =>
      word == "grey".toList ++ Text.ofNat n || word == "gray".toList ++ Text.ofNat n

def isHex : Text → Bool
  | '#' :: digits => digits.length == 6 && digits.all Text.isHexDigit
  | _ => false

def argument? (name word : Text) : Option Text :=
  let opening := name ++ ['(']
  if opening.isPrefixOf word && [')'].isSuffixOf word then
    some (word.drop opening.length).dropLast
  else none

def maxNumber : Nat := 255

def isNumbered (word : Text) : Bool :=
  (argument? "color".toList word).any fun n =>
    n != [] && n.length ≤ 3 && n.all Char.isDigit && Text.digitsValue n ≤ maxNumber

def share (digits : Text) : Except ShareFault Nat :=
  if digits = [] then .error .missing
  else if Text.maxDigits < digits.length then .error (.tooLong digits.length)
  else .ok (Text.decimalValue digits)

/-- Check the shares of red, green and blue of a colour, between commas. The first faulty one
counts. -/
def checkShares (inner : Text) : Except StyleFault Unit :=
  let shares := inner.splitOn ','
  if shares.length = 3 && inner.all (fun c => c == ',' || Text.isDecimalDigit c) then
    match shares.mapM share with
    | .error fault => .error (.badShare fault)
    | .ok values => if values.all (· ≤ maxNumber) then .ok () else .error .unknownWord
  else .error .unknownWord

/-- The colour that a word in any case names. -/
def ofWord (word : Text) : Except StyleFault Text := do
  let word := Text.lower word
  unless word = "default".toList || isNamed word || isHex word || isNumbered word do
    match argument? "rgb".toList word with
    | some inner => checkShares inner
    | none => throw .unknownWord
  return word

end Colour

inductive Attribute where
  | bold
  | dim
  | italic
  | underline
  | blink
  | blink2
  | reverse
  | conceal
  | strike
  | underline2
  | frame
  | encircle
  | overline
  deriving DecidableEq

namespace Attribute

def all : List Attribute :=
  [bold, dim, italic, underline, blink, blink2, reverse, conceal, strike, underline2, frame,
   encircle, overline]

def name : Attribute → Text
  | bold => "bold".toList
  | dim => "dim".toList
  | italic => "italic".toList
  | underline => "underline".toList
  | blink => "blink".toList
  | blink2 => "blink2".toList
  | reverse => "reverse".toList
  | conceal => "conceal".toList
  | strike => "strike".toList
  | underline2 => "underline2".toList
  | frame => "frame".toList
  | encircle => "encircle".toList
  | overline => "overline".toList

def short? : Attribute → Option Text
  | bold => some "b".toList
  | dim => some "d".toList
  | italic => some "i".toList
  | underline => some "u".toList
  | reverse => some "r".toList
  | conceal => some "c".toList
  | strike => some "s".toList
  | underline2 => some "uu".toList
  | overline => some "o".toList
  | _ => none

def ofName? (word : Text) : Option Attribute :=
  all.find? fun a => a.name == word || a.short? == some word

end Attribute

/-- What the words of a tag ask for. Attributes are switched on or off, the latest switch in
front. -/
structure Style where
  switches : List (Attribute × Bool) := []
  colour : Option Text := none
  background : Option Text := none
  link : Option Text := none
  deriving DecidableEq

namespace Style

def on : Text := "on".toList

def off : Text := "not".toList

def linked : Text := "link".toList

def switch (style : Style) (a : Attribute) (state : Bool) : Style :=
  { style with switches := (a, state) :: style.switches }

/-- Add a word that stands for itself, an attribute or a colour. -/
def add (style : Style) (word : Text) : Except StyleFault Style :=
  match Attribute.ofName? (Text.lower word) with
  | some a => .ok (style.switch a true)
  | none => (Colour.ofWord word).map fun colour => { style with colour := some colour }

def read (style : Style) : List Text → Except StyleFault Style
  | [] => .ok style
  | [word] => style.add word
  | word :: next :: words =>
    let key := Text.lower word
    if key = on then do read { style with background := some (← Colour.ofWord next) } words
    else if key = off then
      match Attribute.ofName? next with
      | some a => read (style.switch a false) words
      | none => .error .unknownWord
    else if key = linked then read { style with link := some next } words
    else do read (← style.add word) (next :: words)

/-- The words of a style in a fixed order, each thing that it asks for once. -/
def words (style : Style) : List Text :=
  let switched (a : Attribute) : List Text :=
    match style.switches.lookup a with
    | some true => [a.name]
    | some false => [off, a.name]
    | none => []
  Attribute.all.flatMap switched ++ style.colour.toList ++
    style.background.elim [] ([on, ·]) ++ style.link.elim [] ([linked, ·])

/-- The name of a style, in which blanks, case, order and short names make no difference. Words
that make no style are their own name, in small letters; a faulty share gives no name. -/
def canonicalName (s : Text) : Except ShareFault Text :=
  match read {} (Text.words s) with
  | .ok style => .ok (List.intercalate [' '] style.words)
  | .error .unknownWord => .ok (Text.lower (Text.trim s))
  | .error (.badShare fault) => .error fault

/-- The faulty share for which text in a style cannot be shown. Words that make no style do no
harm. -/
def fault? (s : Text) : Option ShareFault :=
  match read {} (Text.words s) with
  | .error (.badShare fault) => some fault
  | _ => none

end Style

/-! ### Texts with styled parts -/

/-- A part of a text, from offset `first` up to `stop`, and the words of the style it asks for. -/
structure Span where
  first : Nat
  stop : Nat
  style : Text
  deriving DecidableEq

/-- What is left of a part between two offsets, counted from the first of them. -/
def Span.within? (first stop : Nat) (s : Span) : Option Span :=
  let cut : Span := ⟨s.first - first, min s.stop stop - first, s.style⟩
  if cut.first < cut.stop then some cut else none

structure StyledText where
  text : Text
  spans : List Span
  deriving DecidableEq

namespace StyledText

def slice (s : StyledText) (first stop : Nat) : StyledText :=
  ⟨(s.text.take stop).drop first, s.spans.filterMap (Span.within? first stop)⟩

/-- Cut a text, from an offset on, into pieces of given lengths, with `gap` characters left out
behind each piece. -/
def cutFrom (s : StyledText) (gap offset : Nat) : List Nat → List StyledText
  | [] => []
  | n :: ns => s.slice offset (offset + n) :: cutFrom s gap (offset + n + gap) ns

/-- Cut a text into pieces of given lengths. A text that is not divided stays as it is, with the
empty parts that it may have. -/
def cut (s : StyledText) (gap : Nat) : List Nat → List StyledText
  | [] | [_] => [s]
  | lengths => s.cutFrom gap 0 lengths

/-- The first characters of a text, and the parts that start among them. -/
def take (s : StyledText) (n : Nat) : StyledText :=
  if n < s.text.length then
    ⟨s.text.take n, (s.spans.filter (·.first < n)).map fun p => { p with stop := min p.stop n }⟩
  else s

def fault? (s : StyledText) : Option ShareFault :=
  s.spans.findSome? fun p => Style.fault? p.style

end StyledText

end MiniLex
