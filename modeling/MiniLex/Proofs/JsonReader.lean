import MiniLex.Listing

/-!
A reader of JSON. A text is cut into lexemes, and these are read with a stack of the arrays and
objects that are open. In a string, an escape stands for a unit of sixteen bits; two of them that
are a pair of surrogates are one character. The values are those of `Json`, so numbers are integers
and there are no truth values; any other text is refused. The main statement of the module is that
the lexemes of a value are read as that value, whatever is open around it.
-/

namespace MiniLex.Json

/-! ### Strings -/

def hexValue? (c : Char) : Option Nat :=
  if c.isDigit then some (c.toNat - '0'.toNat)
  else if 'a' ≤ c ∧ c ≤ 'f' then some (c.toNat - 'a'.toNat + 10)
  else if 'A' ≤ c ∧ c ≤ 'F' then some (c.toNat - 'A'.toNat + 10)
  else none

def unit? (a b c d : Char) : Option Nat := do
  let high := (← hexValue? a) * 16 + (← hexValue? b)
  let low := (← hexValue? c) * 16 + (← hexValue? d)
  return high * 0x100 + low

def escaped? (c : Char) : Option Char :=
  [('"', '"'), ('\\', '\\'), ('/', '/'), ('b', '\x08'), ('f', '\x0c'), ('n', '\n'), ('r', '\r'),
    ('t', '\t')].lookup c

def pushUnit (n : Nat) (read : Option (List Nat × Text)) : Option (List Nat × Text) :=
  read.map fun (units, rest) => (n :: units, rest)

/-- The code units of a string up to its closing quote, and what stands behind that. -/
def readUnits : Text → Option (List Nat × Text)
  | [] => none
  | '"' :: rest => some ([], rest)
  | '\\' :: 'u' :: a :: b :: c :: d :: rest => do pushUnit (← unit? a b c d) (readUnits rest)
  | '\\' :: e :: rest => do pushUnit (← escaped? e).toNat (readUnits rest)
  | c :: rest => if c < ' ' || c = '\\' then none else pushUnit c.toNat (readUnits rest)

def isHighSurrogate (n : Nat) : Bool := 0xD800 ≤ n && n < 0xDC00

def isLowSurrogate (n : Nat) : Bool := 0xDC00 ≤ n && n < 0xE000

def joinPair (high low : Nat) : Char :=
  Char.ofNat (0x10000 + (high - 0xD800) * 0x400 + (low - 0xDC00))

/-- The text of some code units. A pair of surrogates is one character, and one alone is none. -/
def joinUnits : List Nat → Option Text
  | [] => some []
  | high :: units =>
    if isHighSurrogate high then
      match units with
      | low :: units =>
        if isLowSurrogate low then
          (joinPair high low :: ·) <$> joinUnits units
        else none
      | [] => none
    else if isLowSurrogate high then none
    else (Char.ofNat high :: ·) <$> joinUnits units

/-! ### Lexemes -/

inductive Lexeme where
  | openArray
  | closeArray
  | openObject
  | closeObject
  | comma
  | colon
  | null
  | number (n : Int)
  | text (s : Text)
  deriving DecidableEq

def punctuation : List (Char × Lexeme) :=
  [('[', .openArray), (']', .closeArray), ('\x7b', .openObject), ('\x7d', .closeObject),
    (',', .comma), (':', .colon)]

def isNatural (digits : Text) : Bool :=
  digits ≠ [] && (digits.head? ≠ some '0' || digits = ['0'])

def readNatural (s : Text) : Option (Nat × Text) :=
  if isNatural (s.takeWhile Char.isDigit) then
    some (Text.digitsValue (s.takeWhile Char.isDigit), s.dropWhile Char.isDigit)
  else none

/-- The lexeme at the start of a text, and what stands behind it. A fraction or a truth value is
none, since there is no value for it. -/
def lexeme? : Text → Option (Lexeme × Text)
  | [] => none
  | 'n' :: 'u' :: 'l' :: 'l' :: rest => some (.null, rest)
  | '"' :: rest => do
    let (units, rest) ← readUnits rest
    let s ← joinUnits units
    return (.text s, rest)
  | '-' :: rest => do
    let (n, rest) ← readNatural rest
    return (.number (-n), rest)
  | c :: rest =>
    match punctuation.lookup c with
    | some l => some (l, rest)
    | none => do
      let (n, rest) ← readNatural (c :: rest)
      return (.number n, rest)

def isSpace (c : Char) : Bool :=
  c = ' ' || c = '\t' || c = '\n' || c = '\r'

theorem exists_of_pushUnit {n : Nat} {read : Option (List Nat × Text)} {units : List Nat}
    {rest : Text} (h : pushUnit n read = some (units, rest)) :
    ∃ units', read = some (units', rest) := by
  obtain ⟨⟨units', rest'⟩, hread, h⟩ := Option.map_eq_some_iff.mp h
  cases h
  exact ⟨units', hread⟩

theorem length_lt_of_readUnits {s rest : Text} {units : List Nat}
    (h : readUnits s = some (units, rest)) : rest.length < s.length := by
  fun_induction readUnits s generalizing units rest with
  | case1 => contradiction
  | case2 => simp_all
  | case3 a b c d s ih =>
      obtain ⟨n, -, h⟩ := Option.bind_eq_some_iff.mp h
      obtain ⟨units', hread⟩ := exists_of_pushUnit h
      have := ih hread
      simp only [List.length_cons]
      omega
  | case4 e s _ ih =>
      obtain ⟨c, -, h⟩ := Option.bind_eq_some_iff.mp h
      obtain ⟨units', hread⟩ := exists_of_pushUnit h
      have := ih hread
      simp only [List.length_cons]
      omega
  | case5 => contradiction
  | case6 c s _ _ _ _ ih =>
      obtain ⟨units', hread⟩ := exists_of_pushUnit h
      exact Nat.lt_succ_of_lt (ih hread)

theorem length_lt_of_readNatural {s rest : Text} {n : Nat}
    (h : readNatural s = some (n, rest)) : rest.length < s.length := by
  unfold readNatural at h
  split at h
  · next hdigits =>
      cases h
      have hsome : 0 < (s.takeWhile Char.isDigit).length := by
        rw [List.length_pos_iff]
        intro hnil
        simp [hnil, isNatural] at hdigits
      calc
        (s.dropWhile Char.isDigit).length <
            (s.takeWhile Char.isDigit).length + (s.dropWhile Char.isDigit).length := by omega
        _ = s.length := by rw [← List.length_append, List.takeWhile_append_dropWhile]
  · contradiction

theorem length_lt_of_lexeme? {s rest : Text} {l : Lexeme} (h : lexeme? s = some (l, rest)) :
    rest.length < s.length := by
  unfold lexeme? at h
  split at h
  · contradiction
  · cases h
    simp only [List.length_cons]
    omega
  · simp only [Option.bind_eq_bind, Option.bind_eq_some_iff] at h
    obtain ⟨⟨units, rest'⟩, hread, s', -, h⟩ := h
    cases h
    exact Nat.lt_succ_of_lt (length_lt_of_readUnits hread)
  · simp only [Option.bind_eq_bind, Option.bind_eq_some_iff] at h
    obtain ⟨⟨n, rest'⟩, hread, h⟩ := h
    cases h
    exact Nat.lt_succ_of_lt (length_lt_of_readNatural hread)
  · split at h
    · cases h
      exact Nat.lt_succ_self _
    · simp only [Option.bind_eq_bind, Option.bind_eq_some_iff] at h
      obtain ⟨⟨n, rest'⟩, hread, h⟩ := h
      cases h
      exact length_lt_of_readNatural hread

def lexemes (s : Text) : Option (List Lexeme) :=
  match s with
  | [] => some []
  | c :: rest =>
    if isSpace c then lexemes rest
    else
      match _h : lexeme? (c :: rest) with
      | none => none
      | some (l, behind) => (l :: ·) <$> lexemes behind
termination_by s.length
decreasing_by
  · exact Nat.lt_succ_self _
  · exact length_lt_of_lexeme? (by assumption)

/-! ### Values -/

/-- An array or object that is open, with what it holds so far. An object waits for the value of its
last name. -/
inductive Frame where
  | items (done : List Json)
  | fields (done : List (Text × Json)) (name : Text)

mutual

def expect (stack : List Frame) : List Lexeme → Option Json
  | .null :: ls => proceed stack .null ls
  | .number n :: ls => proceed stack (.number n) ls
  | .text s :: ls => proceed stack (.text s) ls
  | .openArray :: .closeArray :: ls => proceed stack (.array []) ls
  | .openArray :: ls => expect (.items [] :: stack) ls
  | .openObject :: .closeObject :: ls => proceed stack (.object []) ls
  | .openObject :: .text name :: .colon :: ls => expect (.fields [] name :: stack) ls
  | _ => none

/-- Go on behind a value: put it where it belongs, or end with it. -/
def proceed : List Frame → Json → List Lexeme → Option Json
  | [], v, [] => some v
  | .items done :: stack, v, .comma :: ls => expect (.items (done ++ [v]) :: stack) ls
  | .items done :: stack, v, .closeArray :: ls => proceed stack (.array (done ++ [v])) ls
  | .fields done name :: stack, v, .comma :: .text next :: .colon :: ls =>
    expect (.fields (done ++ [(name, v)]) next :: stack) ls
  | .fields done name :: stack, v, .closeObject :: ls =>
    proceed stack (.object (done ++ [(name, v)])) ls
  | _, _, _ => none

end

def decode (s : Text) : Option Json := do
  expect [] (← lexemes s)

/-! ### Values in lexemes -/

mutual

def spelled : Json → List Lexeme
  | null => [.null]
  | number n => [.number n]
  | text s => [.text s]
  | array [] => [.openArray, .closeArray]
  | array (item :: items) => .openArray :: item.spelled ++ spelledItems items ++ [.closeArray]
  | object [] => [.openObject, .closeObject]
  | object ((name, value) :: fields) =>
    .openObject :: .text name :: .colon :: value.spelled ++ spelledFields fields ++ [.closeObject]

def spelledItems : List Json → List Lexeme
  | [] => []
  | item :: items => .comma :: item.spelled ++ spelledItems items

def spelledFields : List (Text × Json) → List Lexeme
  | [] => []
  | (name, value) :: fields =>
    .comma :: .text name :: .colon :: value.spelled ++ spelledFields fields

end

theorem expect_openArray {ls : List Lexeme} (h : ∀ ms, ls ≠ .closeArray :: ms)
    (stack : List Frame) : expect stack (.openArray :: ls) = expect (.items [] :: stack) ls := by
  rw [expect]
  exact h

theorem spelled_append_ne_closeArray (v : Json) (ls ms : List Lexeme) :
    v.spelled ++ ls ≠ .closeArray :: ms := by
  cases v with
  | null => simp [spelled]
  | number n => simp [spelled]
  | text s => simp [spelled]
  | array items => cases items <;> simp [spelled]
  | object fields => cases fields <;> simp [spelled]

mutual

/-- The lexemes of a value are read as the value. -/
theorem expect_spelled_append (v : Json) (stack : List Frame) (ls : List Lexeme) :
    expect stack (v.spelled ++ ls) = proceed stack v ls := by
  cases v with
  | null => rfl
  | number n => rfl
  | text s => rfl
  | array items =>
      cases items with
      | nil => rfl
      | cons item items =>
          simp only [spelled, List.cons_append, List.append_assoc, List.nil_append]
          rw [expect_openArray (spelled_append_ne_closeArray item _), expect_spelled_append]
          exact proceed_spelledItems items [] item stack ls
  | object fields =>
      cases fields with
      | nil => rfl
      | cons field fields =>
          simp only [spelled, List.cons_append, List.append_assoc, List.nil_append]
          rw [expect, expect_spelled_append]
          exact proceed_spelledFields fields [] field.1 field.2 stack ls

theorem proceed_spelledItems (items done : List Json) (item : Json) (stack : List Frame)
    (ls : List Lexeme) :
    proceed (.items done :: stack) item (spelledItems items ++ .closeArray :: ls) =
      proceed stack (.array (done ++ item :: items)) ls := by
  cases items with
  | nil => rw [spelledItems, List.nil_append, proceed]
  | cons next items =>
      simp only [spelledItems, List.cons_append, List.append_assoc]
      rw [proceed, expect_spelled_append, proceed_spelledItems, List.append_assoc,
        List.singleton_append]

theorem proceed_spelledFields (fields done : List (Text × Json)) (name : Text) (value : Json)
    (stack : List Frame) (ls : List Lexeme) :
    proceed (.fields done name :: stack) value (spelledFields fields ++ .closeObject :: ls) =
      proceed stack (.object (done ++ (name, value) :: fields)) ls := by
  cases fields with
  | nil => rw [spelledFields, List.nil_append, proceed]
  | cons next fields =>
      simp only [spelledFields, List.cons_append, List.append_assoc]
      rw [proceed, expect_spelled_append, proceed_spelledFields, List.append_assoc,
        List.singleton_append]

end

end MiniLex.Json
