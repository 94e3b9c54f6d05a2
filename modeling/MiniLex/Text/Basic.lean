
/-!
Text as a list of code points: sets of code points given by ranges, blanks and words, the decimal
digits of all scripts, and numbers as they are spelled.
-/

namespace MiniLex

/-- Text is a list of code points; every length, offset and column counts them. -/
abbrev Text := List Char

namespace Text

structure CodeRange where
  first : Nat
  last : Nat
  deriving DecidableEq

def CodeRange.contains (r : CodeRange) (n : Nat) : Bool :=
  r.first ≤ n && n ≤ r.last

/-- Disjoint ranges in search order: those of `left` lie below `here`, those of `right` above. -/
inductive RangeTree where
  | leaf
  | node (left : RangeTree) (here : CodeRange) (right : RangeTree)

namespace RangeTree

def contains : RangeTree → Nat → Bool
  | leaf, _ => false
  | node left here right, n =>
    if n < here.first then left.contains n
    else if n ≤ here.last then true
    else right.contains n

/-- A tree of at most `depth` levels over the first ranges of an ascending list, with the ranges
that found no place in it. -/
def build : Nat → List CodeRange → RangeTree × List CodeRange
  | 0, ranges => (leaf, ranges)
  | depth + 1, ranges =>
    match build depth ranges with
    | (left, []) => (left, [])
    | (left, here :: rest) =>
      match build depth rest with
      | (right, rest) => (node left here right, rest)

def ofSorted (depth : Nat) (ranges : List CodeRange) : RangeTree :=
  (build depth ranges).1

end RangeTree

/-! ### Blanks and words -/

def blankRanges : List CodeRange :=
  [⟨0x9, 0xD⟩, ⟨0x1C, 0x20⟩, ⟨0x85, 0x85⟩, ⟨0xA0, 0xA0⟩, ⟨0x1680, 0x1680⟩, ⟨0x2000, 0x200A⟩,
   ⟨0x2028, 0x2029⟩, ⟨0x202F, 0x202F⟩, ⟨0x205F, 0x205F⟩, ⟨0x3000, 0x3000⟩]

def isBlank (c : Char) : Bool :=
  blankRanges.any (·.contains c.toNat)

def trimLeft (s : Text) : Text :=
  s.dropWhile isBlank

def trimRight (s : Text) : Text :=
  (trimLeft s.reverse).reverse

def trim (s : Text) : Text :=
  trimRight (trimLeft s)

def words (s : Text) : List Text :=
  (s.splitOnP isBlank).filter (· != [])

/-! ### Decimal digits of all scripts -/

/-- The decimal digits, ascending; every script adds ten of them. -/
def decimalDigitRanges : List CodeRange :=
  [⟨0x30, 0x39⟩, ⟨0x660, 0x669⟩, ⟨0x6F0, 0x6F9⟩, ⟨0x7C0, 0x7C9⟩, ⟨0x966, 0x96F⟩, ⟨0x9E6, 0x9EF⟩,
   ⟨0xA66, 0xA6F⟩, ⟨0xAE6, 0xAEF⟩, ⟨0xB66, 0xB6F⟩, ⟨0xBE6, 0xBEF⟩, ⟨0xC66, 0xC6F⟩, ⟨0xCE6, 0xCEF⟩,
   ⟨0xD66, 0xD6F⟩, ⟨0xDE6, 0xDEF⟩, ⟨0xE50, 0xE59⟩, ⟨0xED0, 0xED9⟩, ⟨0xF20, 0xF29⟩,
   ⟨0x1040, 0x1049⟩, ⟨0x1090, 0x1099⟩, ⟨0x17E0, 0x17E9⟩, ⟨0x1810, 0x1819⟩, ⟨0x1946, 0x194F⟩,
   ⟨0x19D0, 0x19D9⟩, ⟨0x1A80, 0x1A89⟩, ⟨0x1A90, 0x1A99⟩, ⟨0x1B50, 0x1B59⟩, ⟨0x1BB0, 0x1BB9⟩,
   ⟨0x1C40, 0x1C49⟩, ⟨0x1C50, 0x1C59⟩, ⟨0xA620, 0xA629⟩, ⟨0xA8D0, 0xA8D9⟩, ⟨0xA900, 0xA909⟩,
   ⟨0xA9D0, 0xA9D9⟩, ⟨0xA9F0, 0xA9F9⟩, ⟨0xAA50, 0xAA59⟩, ⟨0xABF0, 0xABF9⟩, ⟨0xFF10, 0xFF19⟩,
   ⟨0x104A0, 0x104A9⟩, ⟨0x10D30, 0x10D39⟩, ⟨0x11066, 0x1106F⟩, ⟨0x110F0, 0x110F9⟩,
   ⟨0x11136, 0x1113F⟩, ⟨0x111D0, 0x111D9⟩, ⟨0x112F0, 0x112F9⟩, ⟨0x11450, 0x11459⟩,
   ⟨0x114D0, 0x114D9⟩, ⟨0x11650, 0x11659⟩, ⟨0x116C0, 0x116C9⟩, ⟨0x11730, 0x11739⟩,
   ⟨0x118E0, 0x118E9⟩, ⟨0x11950, 0x11959⟩, ⟨0x11C50, 0x11C59⟩, ⟨0x11D50, 0x11D59⟩,
   ⟨0x11DA0, 0x11DA9⟩, ⟨0x16A60, 0x16A69⟩, ⟨0x16AC0, 0x16AC9⟩, ⟨0x16B50, 0x16B59⟩,
   ⟨0x1D7CE, 0x1D7FF⟩, ⟨0x1E140, 0x1E149⟩, ⟨0x1E2F0, 0x1E2F9⟩, ⟨0x1E950, 0x1E959⟩,
   ⟨0x1FBF0, 0x1FBF9⟩]

def isDecimalDigit (c : Char) : Bool :=
  decimalDigitRanges.any (·.contains c.toNat)

def decimalDigitValue (c : Char) : Nat :=
  ((decimalDigitRanges.find? (·.contains c.toNat)).map fun r => (c.toNat - r.first) % 10).getD 0

def decimalValue (digits : Text) : Nat :=
  digits.foldl (fun n c => 10 * n + decimalDigitValue c) 0

/-! ### Numbers -/

def ofNat (n : Nat) : Text :=
  Nat.toDigits 10 n

/-- The decimal spelling of an integer of any size. The runtime refuses to spell more than
`maxDigits` digits; that limit is left out. -/
def ofInt : Int → Text
  | .ofNat n => ofNat n
  | .negSucc n => '-' :: ofNat (n + 1)

def digitsValue (digits : Text) : Nat :=
  Nat.ofDigitChars 10 digits 0

@[simp] theorem digitsValue_ofNat (n : Nat) : digitsValue (ofNat n) = n :=
  Nat.ofDigitChars_toDigits (by decide) (by decide)

def hex (width n : Nat) : Text :=
  let digits := Nat.toDigits 16 n
  List.replicate (width - digits.length) '0' ++ digits

def isHexDigit (c : Char) : Bool :=
  c.isDigit || ('a' ≤ c && c ≤ 'f') || ('A' ≤ c && c ≤ 'F')

def maxDigits : Nat := 4300

/-- The value of a run of digits, unless there are more of them than are read. -/
def evaluate? (digits : Text) : Option Nat :=
  if maxDigits < digits.length then none else some (digitsValue digits)

def tooManyDigits (digits : Nat) : Text :=
  "Exceeds the limit (".toList ++ ofNat maxDigits ++
    " digits) for integer string conversion: value has ".toList ++ ofNat digits ++
    " digits; use sys.set_int_max_str_digits() to increase the limit".toList

end Text

end MiniLex
