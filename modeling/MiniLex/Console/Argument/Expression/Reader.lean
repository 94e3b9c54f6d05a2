import MiniLex.Console.Argument.Expression.Basic
import MiniLex.Console.Argument.Lexeme

/-!
Expressions in arguments. `Expression.read` reads one from lexemes and says what it is worth as a
value. Where an expression breaks off, the longest one that is complete counts; if that is not all
of the argument, a second reading looks for a cause that can be named.
-/

namespace MiniLex.Argument.Expression

/-- Why reading does not go on: something else would have to follow, or a cause that is named. -/
inductive Problem where
  | mismatch
  | fault (message : Text)
  deriving DecidableEq

/-- How to read: whether to look for causes, and whether a bracket is open. -/
structure Mode where
  diagnose : Bool
  inside : Bool
  deriving DecidableEq

def raise {α : Type} (message : Text) : Except Problem α :=
  .error (.fault message)

/-- Read, or go on without; a named cause is final. -/
def attempt {α : Type} (r : Except Problem α) : Except Problem (Option α) :=
  match r with
  | .ok a => .ok (some a)
  | .error .mismatch => .ok none
  | .error (.fault message) => .error (.fault message)

section Lexemes

/-- The next lexeme, if the argument is not over. -/
def peek : List Lexeme → Except Problem (Option Lexeme)
  | .stop .strayBackslash :: _ =>
    raise "unexpected character after line continuation character".toList
  | .stop (.unclosed bracket) :: _ =>
    raise ('\'' :: bracket :: "' was never closed".toList)
  | .stop (.broken message) :: _ => raise message
  | [] | .stop .done :: _ => .ok none
  | found :: _ => .ok (some found)

/-- What follows the next lexeme, if it is the one that is asked for. -/
def behind? (l : Lexeme) (ls : List Lexeme) : Except Problem (Option (List Lexeme)) := do
  return if (← peek ls) = some l then some ls.tail else none

def sign? (s : String) (ls : List Lexeme) : Except Problem (Option (List Lexeme)) :=
  behind? (.sign s.toList) ls

def word? (s : String) (ls : List Lexeme) : Except Problem (Option (List Lexeme)) :=
  behind? (.name s.toList) ls

def need (found : Except Problem (Option (List Lexeme))) : Except Problem (List Lexeme) := do
  match ← found with
  | some ls => return ls
  | none => .error .mismatch

def keywords : List Text :=
  ["False", "None", "True", "and", "as", "assert", "async", "await", "break", "class", "continue",
   "def", "del", "elif", "else", "except", "finally", "for", "from", "global", "if", "import", "in",
   "is", "lambda", "nonlocal", "not", "or", "pass", "raise", "return", "try", "while", "with",
   "yield"].map String.toList

def nameAt? (ls : List Lexeme) : Except Problem (Option (Text × List Lexeme)) := do
  match ← peek ls with
  | some (.name s) => return if keywords.contains s then none else some (s, ls.tail)
  | _ => return none

def isNameOrComma : Lexeme → Bool
  | .name s => !keywords.contains s
  | .sign s => s == ",".toList
  | _ => false

def anySign? (signs : List String) (ls : List Lexeme) :
    Except Problem (Option (Text × List Lexeme)) := do
  match ← peek ls with
  | some (.sign s) => return if signs.any (·.toList == s) then some (s, ls.tail) else none
  | _ => return none

def operators : List String :=
  ["+", "-", "*", "/", "//", "%", "@", "<<", ">>", "&", "^", "|"]

def comparison? (ls : List Lexeme) : Except Problem (Option (List Lexeme)) := do
  match ← anySign? ["==", "!=", "<=", "<", ">=", ">"] ls with
  | some (_, rest) => return some rest
  | none =>
    match ← word? "in" ls with
    | some rest => return some rest
    | none =>
      match ← word? "not" ls with
      | some rest => word? "in" rest
      | none =>
        match ← word? "is" ls with
        | none => return none
        | some rest => return some ((← word? "not" rest).getD rest)

/-- Check quoted texts that stand side by side: each is complete, and of the same kind as the
first. -/
def checkQuoted (bytes : Bool) : List Lexeme → Except Problem Unit
  | .quoted b _ ascii fault? :: ls => do
    if b && !ascii then raise "bytes can only contain ASCII literal characters".toList
    if let some message := fault? then raise message
    if b != bytes then raise "cannot mix bytes and nonbytes literals".toList
    checkQuoted bytes ls
  | _ => .ok ()

def isQuoted : Lexeme → Bool
  | .quoted .. => true
  | _ => false

def isFormatted : Lexeme → Bool
  | .quoted _ formatted _ _ => formatted
  | _ => false

def quotedTexts (bytes : Bool) (ls : List Lexeme) : Except Problem (Expression × List Lexeme) := do
  let rest := ls.dropWhile isQuoted
  let _ ← peek rest
  checkQuoted bytes ls
  return (if (ls.takeWhile isQuoted).any isFormatted then valueless "f-string expression"
    else literal .plain, rest)

def tooLong (digits : Nat) : Text :=
  Text.tooManyDigits digits ++ (" - Consider hexadecimal for huge integer literals to avoid " ++
    "decimal conversion limits.").toList

end Lexemes

def commands : List Text :=
  ["print".toList, "exec".toList]

def softKeywords : List Text :=
  ["_".toList, "case".toList, "match".toList]

/-- A missing comma is not suspected behind a soft keyword, nor between a name and a quoted text. -/
def mayLackComma (ls : List Lexeme) : Bool :=
  match ls with
  | .name s :: .quoted .. :: _ => keywords.contains s
  | .name s :: _ => !softKeywords.contains s
  | _ => true

def assignable : List Text :=
  ["name".toList, "attribute".toList, "tuple".toList]

def constants : List Text :=
  ["True".toList, "False".toList, "None".toList]

def forgotComma : Text :=
  "invalid syntax. Perhaps you forgot a comma?".toList

def forgotEquality : Text :=
  "invalid syntax. Maybe you meant '==' or ':=' instead of '='?".toList

mutual

/-- An expression: a condition with two branches, a function, or what `disjunction` reads. -/
def expression (m : Mode) : Nat → List Lexeme → Except Problem (Expression × List Lexeme)
  | 0, _ => .error .mismatch
  | n + 1, ls => do
    match ← word? "lambda" ls with
    | some rest =>
      let rest ← parameters m n rest
      let (_, rest) ← expression m n (← need (sign? ":" rest))
      return (valueless "lambda", rest)
    | none =>
      let (a, rest) ← disjunction m n ls
      if m.diagnose then suspect m n ls a rest
      match ← attempt (branches m n rest) with
      | some rest => return (valueless "conditional expression", rest)
      | none => return (a, rest)

def branches (m : Mode) : Nat → List Lexeme → Except Problem (List Lexeme)
  | 0, _ => .error .mismatch
  | n + 1, ls => do
    let (_, rest) ← disjunction m n (← need (word? "if" ls))
    match ← word? "else" rest with
    | some rest => return (← expression m n rest).2
    | none =>
      if m.diagnose && (← sign? ":" rest).isNone then
        raise "expected 'else' after 'if' expression".toList
      .error .mismatch

/-- Look for a cause at an expression `a` that starts at `ls` and is followed by `rest`. -/
def suspect (m : Mode) : Nat → List Lexeme → Expression → List Lexeme → Except Problem Unit
  | 0, _, _, _ => .ok ()
  | n + 1, ls, a, rest => do
    let command := a.name?.any commands.contains
    if mayLackComma ls then
      match ← attempt (expression { m with diagnose := false } n rest) with
      | some _ => if m.inside && !command then raise forgotComma
      | none => pure ()
    match ← nameAt? ls with
    | none => pure ()
    | some (name, rest) =>
      if (← sign? "(" rest).isNone then
        match ← attempt (starred m n rest) with
        | none => pure ()
        | some _ =>
          if commands.contains name then
            raise ("Missing parentheses in call to '".toList ++ name ++
              "'. Did you mean ".toList ++ name ++ "(...)?".toList)

/-- Expressions with commas between them, some of them spread. -/
def starred (m : Mode) : Nat → List Lexeme → Except Problem (List Lexeme)
  | 0, _ => .error .mismatch
  | n + 1, ls => do
    let (_, rest) ←
      match ← sign? "*" ls with
      | some rest => arithmetic m n rest
      | none => expression m n ls
    match ← sign? "," rest with
    | none => return rest
    | some rest => return (← attempt (starred m n rest)).getD rest

def parameters (m : Mode) : Nat → List Lexeme → Except Problem (List Lexeme)
  | 0, _ => .error .mismatch
  | n + 1, ls => do
    if (← sign? ":" ls).isSome then return ls
    if m.diagnose then
      if let some rest ← sign? "(" ls then
        let behind := rest.dropWhile isNameOrComma
        if (← nameAt? rest).isSome && (← sign? ")" behind).isSome then
          raise "Lambda expression parameters cannot be parenthesized".toList
    let rest ←
      match ← anySign? ["*", "**", "/"] ls with
      | some (s, rest) =>
        if s = "/".toList then pure rest
        else
          match ← nameAt? rest with
          | some (_, rest) => pure rest
          | none => if s = "*".toList then pure rest else .error .mismatch
      | none =>
        match ← nameAt? ls with
        | none => .error .mismatch
        | some (_, rest) =>
          match ← sign? "=" rest with
          | none => pure rest
          | some rest => do return (← expression m n rest).2
    match ← sign? "," rest with
    | some rest => return (← attempt (parameters m n rest)).getD rest
    | none => return rest

def disjunction (m : Mode) : Nat → List Lexeme → Except Problem (Expression × List Lexeme)
  | 0, _ => .error .mismatch
  | n + 1, ls => do
    let (a, rest) ← inversion m n ls
    disjunctionRest m n a rest

def disjunctionRest (m : Mode) :
    Nat → Expression → List Lexeme → Except Problem (Expression × List Lexeme)
  | 0, _, _ => .error .mismatch
  | n + 1, a, ls => do
    let next := do
      let rest ← need do return (← word? "and" ls).or (← word? "or" ls)
      inversion m n rest
    match ← attempt next with
    | some (_, rest) => disjunctionRest m n (valueless "expression") rest
    | none => return (a, ls)

def inversion (m : Mode) : Nat → List Lexeme → Except Problem (Expression × List Lexeme)
  | 0, _ => .error .mismatch
  | n + 1, ls => do
    match ← word? "not" ls with
    | some rest =>
      let (_, rest) ← inversion m n rest
      return (valueless "expression", rest)
    | none =>
      let (a, rest) ← arithmetic m n ls
      comparisonRest m n a rest

def comparisonRest (m : Mode) :
    Nat → Expression → List Lexeme → Except Problem (Expression × List Lexeme)
  | 0, _, _ => .error .mismatch
  | n + 1, a, ls => do
    match ← attempt (do arithmetic m n (← need (comparison? ls))) with
    | some (_, rest) => comparisonRest m n (valueless "comparison") rest
    | none => return (a, ls)

/-- Operands with operators between them. Only a sum of two has a value. -/
def arithmetic (m : Mode) : Nat → List Lexeme → Except Problem (Expression × List Lexeme)
  | 0, _ => .error .mismatch
  | n + 1, ls => do
    let (a, rest) ← factor m n ls
    let sum := do
      match ← anySign? ["+", "-"] rest with
      | some (_, rest) =>
        let (b, rest) ← factor m n rest
        return (complex a b, rest)
      | none => .error .mismatch
    match ← attempt sum with
    | some (sum, rest) => arithmeticRest m n sum rest
    | none => arithmeticRest m n a rest

def arithmeticRest (m : Mode) :
    Nat → Expression → List Lexeme → Except Problem (Expression × List Lexeme)
  | 0, _, _ => .error .mismatch
  | n + 1, a, ls => do
    let next := do
      match ← anySign? operators ls with
      | some (_, rest) => factor m n rest
      | none => .error .mismatch
    match ← attempt next with
    | some (_, rest) => arithmeticRest m n (valueless "expression") rest
    | none => return (a, ls)

/-- An operand with its signs and its exponent. -/
def factor (m : Mode) : Nat → List Lexeme → Except Problem (Expression × List Lexeme)
  | 0, _ => .error .mismatch
  | n + 1, ls => do
    match ← anySign? ["+", "-", "~"] ls with
    | some (s, rest) =>
      let (a, rest) ← factor m n rest
      return (if s = "~".toList then valueless "expression" else signed a, rest)
    | none =>
      let (a, rest) ←
        match ← word? "await" ls with
        | some rest => do
          let (_, rest) ← primary m n rest
          pure (valueless "await expression", rest)
        | none => primary m n ls
      match ← attempt (do factor m n (← need (sign? "**" rest))) with
      | some (_, rest) => return (valueless "expression", rest)
      | none => return (a, rest)

def primary (m : Mode) : Nat → List Lexeme → Except Problem (Expression × List Lexeme)
  | 0, _ => .error .mismatch
  | n + 1, ls => do
    let (a, rest) ← atom m n ls
    primaryRest m n a rest

def primaryRest (m : Mode) :
    Nat → Expression → List Lexeme → Except Problem (Expression × List Lexeme)
  | 0, _, _ => .error .mismatch
  | n + 1, a, ls => do
    match ← sign? "." ls with
    | some rest =>
      match ← nameAt? rest with
      | some (_, rest) => primaryRest m n (valueless "attribute") rest
      | none => return (a, ls)
    | none =>
      if m.diagnose then
        if let some (bracket, rest) ← anySign? ["(", "\x7b"] ls then
          misplaced { m with inside := true } n (bracket = "\x7b".toList) rest
      let call := do
        let rest ← need (sign? "(" ls)
        let empty := (← sign? ")" rest).isSome
        return (empty, ← arguments { m with inside := true } n 0 rest)
      match ← attempt call with
      | none => return (a, ls)
      | some (empty, rest) =>
        let worth :=
          if empty && a.name? = some "set".toList then .loose "set".toList else unreadable
        primaryRest m n ⟨"function call".toList, worth, none⟩ rest

/-- What stands in the brackets of a call, and the closing one. `keywords` is 0 as long as no
argument has a name, and 2 behind one that spreads a dictionary. -/
def arguments (m : Mode) : Nat → Nat → List Lexeme → Except Problem (List Lexeme)
  | 0, _, _ => .error .mismatch
  | n + 1, keywords, ls => do
    if let some rest ← sign? ")" ls then return rest
    let (keywords, rest) ← argument m n keywords ls
    match ← sign? "," rest with
    | some rest => arguments m n keywords rest
    | none => need (sign? ")" rest)

def argument (m : Mode) : Nat → Nat → List Lexeme → Except Problem (Nat × List Lexeme)
  | 0, _, _ => .error .mismatch
  | n + 1, keywords, ls => do
    if let some (s, rest) ← anySign? ["*", "**"] ls then
      if s = "**".toList then
        let (_, rest) ← expression m n rest
        return (2, rest)
      if keywords = 2 && m.diagnose then
        raise "iterable argument unpacking follows keyword argument unpacking".toList
      if keywords = 2 then .error .mismatch
      match ← attempt (expression m n rest) with
      | some (_, rest) => return (keywords, rest)
      | none => if m.diagnose then raise "Invalid star expression".toList else .error .mismatch
    let named := do
      match ← nameAt? ls with
      | none => .error .mismatch
      | some (_, rest) => expression m n (← need (sign? "=" rest))
    if let some (_, rest) ← attempt named then
      if m.diagnose && (← word? "for" rest).isSome then raise forgotEquality
      return (max keywords 1, rest)
    let (a, rest) ← namedExpression m n false ls
    if (← sign? "=" rest).isSome then
      if !m.diagnose || (← nameAt? ls).any (fun (_, r) => r = rest) then .error .mismatch
      else if constants.contains a.what then
        raise ("cannot assign to ".toList ++ a.what)
      else raise "expression cannot contain assignment, perhaps you meant \"==\"?".toList
    let rest' ← clauses m n rest
    if rest'.length < rest.length && (← sign? "," rest').isSome then
      if m.diagnose then raise "Generator expression must be parenthesized".toList
      else .error .mismatch
    if keywords = 0 then return (0, rest')
    else if m.diagnose then
      raise ("positional argument follows keyword argument".toList ++
        if keywords = 2 then " unpacking".toList else [])
    else .error .mismatch

def clauses (m : Mode) : Nat → List Lexeme → Except Problem (List Lexeme)
  | 0, _ => .error .mismatch
  | n + 1, ls => do
    match ← word? "for" ((← word? "async" ls).getD ls) with
    | none => return ls
    | some rest =>
      let rest ← need (do word? "in" (← targets m n rest))
      let (_, rest) ← disjunction m n rest
      clauses m n (← conditions m n rest)

def conditions (m : Mode) : Nat → List Lexeme → Except Problem (List Lexeme)
  | 0, _ => .error .mismatch
  | n + 1, ls => do
    match ← word? "if" ls with
    | none => return ls
    | some rest =>
      let (_, rest) ← disjunction m n rest
      conditions m n rest

def targets (m : Mode) : Nat → List Lexeme → Except Problem (List Lexeme)
  | 0, _ => .error .mismatch
  | n + 1, ls => do
    let ls := (← sign? "*" ls).getD ls
    let (a, rest) ←
      match ← attempt (arithmetic m n ls) with
      | some found => pure found
      | none => expression m n ls
    if !assignable.contains a.what then
      if m.diagnose then raise ("cannot assign to ".toList ++ a.what) else .error .mismatch
    match ← sign? "," rest with
    | none => return rest
    | some rest => return (← attempt (targets m n rest)).getD rest

def atom (m : Mode) : Nat → List Lexeme → Except Problem (Expression × List Lexeme)
  | 0, _ => .error .mismatch
  | n + 1, ls => do
    match ← peek ls with
    | some (.name s) =>
      if constants.contains s then
        return (⟨s, .plain, none⟩, ls.tail)
      else if keywords.contains s then .error .mismatch
      else return (⟨"name".toList, unreadable, some s⟩, ls.tail)
    | some (.number imaginary digits) =>
      if Text.maxDigits < digits then raise (tooLong digits)
      else return (literal (if imaginary then .imaginary else .real), ls.tail)
    | some (.quoted bytes ..) => quotedTexts bytes ls
    | some (.sign s) =>
      if s = "...".toList then return (⟨"ellipsis".toList, .plain, none⟩, ls.tail)
      else if s = "(".toList then round { m with inside := true } n ls.tail
      else if s = "\x7b".toList then curly { m with inside := true } n ls.tail
      else .error .mismatch
    | _ => .error .mismatch

def round (m : Mode) : Nat → List Lexeme → Except Problem (Expression × List Lexeme)
  | 0, _ => .error .mismatch
  | n + 1, ls => do
    if let some rest ← sign? ")" ls then return (tuple [], rest)
    if let some rest ← word? "yield" ls then
      let rest := (← word? "from" rest).getD rest
      let rest := (← attempt (starred m n rest)).getD rest
      return (valueless "yield expression", ← need (sign? ")" rest))
    if let some rest ← sign? "*" ls then
      let spread := do
        let (_, rest) ← arithmetic m n rest
        let (all, rest) ← items m n [valueless "starred"] (← need (do
          return if (← sign? "," rest).isSome then some rest else none))
        return (tuple all, ← need (sign? ")" rest))
      if let some found ← attempt spread then return found
      return ← star m n true rest
    if let some rest ← sign? "**" ls then
      if m.diagnose then
        if let some (_, rest) ← attempt (expression m n rest) then
          if (← sign? ")" rest).isSome then
            raise "cannot use double starred expression here".toList
      .error .mismatch
    let (a, rest) ← namedExpression m n true ls
    if (← sign? "," rest).isSome then
      let (all, rest) ← items m n [a] rest
      return (tuple all, ← need (sign? ")" rest))
    let rest' ← clauses m n rest
    let closed ← need (sign? ")" rest')
    return (if rest'.length < rest.length then valueless "generator expression" else a, closed)

def star (m : Mode) : Nat → Bool → List Lexeme → Except Problem (Expression × List Lexeme)
  | 0, _, _ => .error .mismatch
  | n + 1, alone, ls => do
    if m.diagnose then
      match ← attempt (expression m n ls) with
      | none => raise "Invalid star expression".toList
      | some (_, rest) =>
        if alone && (← sign? ")" rest).isSome then
          raise "cannot use starred expression here".toList
        if (← clauses m n rest).length < rest.length then
          raise "iterable unpacking cannot be used in comprehension".toList
    .error .mismatch

/-- Look for a cause in members that are followed by the clauses of a comprehension. -/
def misplaced (m : Mode) : Nat → Bool → List Lexeme → Except Problem Unit
  | 0, _, _ => .ok ()
  | n + 1, curly, ls => do
    if let some rest ← sign? "*" ls then
      let _ ← attempt (star m n false rest)
    if curly then
      let members := do
        let first ←
          match ← sign? "*" ls with
          | some rest => arithmetic m n rest
          | none => namedExpression m n true ls
        if (← sign? "," first.2).isNone then .error .mismatch
        return (← items m n [first.1] first.2).2
      if let some rest ← attempt members then
        if let some behind ← attempt (clauses m n rest) then
          if behind.length < rest.length then
            raise "did you forget parentheses around the comprehension target?".toList

/-- An expression that may be given a name. `guess` allows for a sign of equality in place of
another sign. -/
def namedExpression (m : Mode) :
    Nat → Bool → List Lexeme → Except Problem (Expression × List Lexeme)
  | 0, _, _ => .error .mismatch
  | n + 1, guess, ls => do
    if let some (_, rest) ← nameAt? ls then
      if let some rest ← sign? ":=" rest then
        let (_, rest) ← expression m n rest
        return (valueless "named expression", rest)
    let (a, rest) ← expression m n ls
    if m.diagnose && guess then misnamed m n ls a rest
    if (← sign? ":=" rest).isSome then .error .mismatch
    return (a, rest)

/-- Look for a cause at an expression `a` that starts at `ls` and is followed by `rest`, where it
may be given a name. -/
def misnamed (m : Mode) : Nat → List Lexeme → Expression → List Lexeme → Except Problem Unit
  | 0, _, _, _ => .ok ()
  | n + 1, ls, a, rest => do
    if let some rest ← sign? ":=" rest then
      if let some _ ← attempt (expression m n rest) then
        raise ("cannot use assignment expressions with ".toList ++ a.what)
    if let some value ← sign? "=" rest then
      let assigned := do
        let (_, rest) ← arithmetic m n value
        if (← anySign? ["=", ":="] rest).isSome then .error .mismatch
        return ()
      if let some (b, behind) ← attempt (arithmetic m n ls) then
        if behind = rest then
          let first := (← attempt (atom m n ls)).map (·.1.what)
          let excepted := ["tuple", "generator expression", "True", "False", "None"]
          if !excepted.any (fun what => first = some what.toList) then
            if let some _ ← attempt assigned then
              if (← nameAt? ls).any (·.2 = rest) then raise forgotEquality
              raise ("cannot assign to ".toList ++ b.what ++
                " here. Maybe you meant '==' instead of '='?".toList)

/-- More members of a tuple or a set, each behind a comma; the last comma may be followed by none.
-/
def items (m : Mode) :
    Nat → List Expression → List Lexeme → Except Problem (List Expression × List Lexeme)
  | 0, _, _ => .error .mismatch
  | n + 1, found, ls => do
    match ← sign? "," ls with
    | none => return (found, ls)
    | some rest =>
      let next := do
        match ← sign? "*" rest with
        | some rest => do
          let (_, rest) ← arithmetic m n rest
          return (valueless "starred", rest)
        | none => namedExpression m n true rest
      match ← attempt next with
      | none => return (found, rest)
      | some (a, rest) => items m n (found ++ [a]) rest

def curly (m : Mode) : Nat → List Lexeme → Except Problem (Expression × List Lexeme)
  | 0, _ => .error .mismatch
  | n + 1, ls => do
    if let some rest ← sign? "\x7d" ls then return (dictionary [], rest)
    if (← sign? "**" ls).isSome then return ← entries m n [] (← entry m n ls)
    if let some rest ← sign? "*" ls then
      let spread := do
        let (_, rest) ← arithmetic m n rest
        let (all, rest) ← items m n [valueless "starred"] rest
        return (collection all, ← need (sign? "\x7d" rest))
      if let some found ← attempt spread then return found
      return ← star m n false rest
    let (a, rest) ← expression m n ls
    if let some rest ← sign? ":" rest then return ← entries m n [] (← entryValue m n a rest)
    let (a, rest) ←
      if (← sign? ":=" rest).isSome then namedExpression m n true ls else pure (a, rest)
    if m.diagnose then misnamed m n ls a rest
    let rest' ← clauses m n rest
    if rest'.length < rest.length then
      return (valueless "set comprehension", ← need (sign? "\x7d" rest'))
    let (all, rest) ← items m n [a] rest
    match ← sign? "\x7d" rest with
    | some rest => return (collection all, rest)
    | none =>
      if m.diagnose then misplaced m n true ls
      .error .mismatch

def entries (m : Mode) : Nat → List (Option Expression × Expression) →
    (Option Expression × Expression) × List Lexeme → Except Problem (Expression × List Lexeme)
  | 0, _, _ => .error .mismatch
  | n + 1, found, (last, ls) => do
    let found := found ++ [last]
    match ← sign? "," ls with
    | some rest =>
      match ← sign? "\x7d" rest with
      | some rest => return (dictionary found, rest)
      | none => entries m n found (← entry m n rest)
    | none =>
      let rest ← if found.length = 1 then clauses m n ls else pure ls
      let closed ← need (sign? "\x7d" rest)
      return (if rest.length < ls.length then valueless "dict comprehension"
        else dictionary found, closed)

def entry (m : Mode) :
    Nat → List Lexeme → Except Problem ((Option Expression × Expression) × List Lexeme)
  | 0, _ => .error .mismatch
  | n + 1, ls => do
    match ← sign? "**" ls with
    | some rest =>
      let (a, rest) ← arithmetic m n rest
      return ((none, a), rest)
    | none =>
      let (key, rest) ← expression m n ls
      match ← sign? ":" rest with
      | some rest => entryValue m n key rest
      | none =>
        if m.diagnose then raise "':' expected after dictionary key".toList
        .error .mismatch

def entryValue (m : Mode) : Nat → Expression → List Lexeme →
    Except Problem ((Option Expression × Expression) × List Lexeme)
  | 0, _, _ => .error .mismatch
  | n + 1, key, ls => do
    match ← attempt (expression m n ls) with
    | some (value, rest) => return ((some key, value), rest)
    | none =>
      if m.diagnose then
        if let some rest ← sign? "*" ls then
          if let some _ ← attempt (arithmetic m n rest) then
            raise "cannot use a starred expression in a dictionary value".toList
        if (← anySign? ["\x7d", ","] ls).isSome then
          raise "expression expected after dictionary key and ':'".toList
      .error .mismatch

end

def listRest (m : Mode) (fuel : Nat) : Nat → List Expression → List Lexeme →
    Except Problem (List Expression × List Lexeme)
  | 0, _, _ => .error .mismatch
  | n + 1, found, ls => do
    match ← sign? "," ls with
    | none => return (found, ls)
    | some rest =>
      match ← attempt (expression m fuel rest) with
      | none => return (found, rest)
      | some (a, rest) => listRest m fuel n (found ++ [a]) rest

def unexpectedIndent : Text :=
  "unexpected indent".toList

def ending (ls : List Lexeme) : Except Problem Unit := do
  let rest := ls.dropWhile (· = .lineEnd)
  match ← peek rest with
  | none => return ()
  | some .indent => raise unexpectedIndent
  | some _ => .error .mismatch

/-- Read all lexemes as one expression, or as a tuple without brackets. No more than fifteen steps
are between two lexemes. -/
def readAll (diagnose : Bool) (ls : List Lexeme) : Except Problem Expression := do
  let m : Mode := ⟨diagnose, false⟩
  let fuel := 16 * (ls.length + 1)
  if (← peek ls) = some .indent then raise unexpectedIndent
  let (a, rest) ← expression m fuel ls
  let comma := (← sign? "," rest).isSome
  let (all, rest) ← listRest m fuel (ls.length + 1) [a] rest
  ending rest
  return if comma then tuple all else a

/-- The message about what is no lexeme, if the last one is one. -/
def broken? (ls : List Lexeme) : Option Text :=
  match ls.getLast? with
  | some (.stop (.broken message)) => some message
  | _ => none

/-- Read an expression, with the message of the cause if that fails. What is no lexeme is the cause
before all others, but for a line that starts with blanks. -/
def read (s : Text) : Except Text Expression :=
  let ls := lexemes s
  let cause (message : Text) : Text :=
    if message = unexpectedIndent then message else (broken? ls).getD message
  match readAll false ls with
  | .ok e => .ok e
  | .error (.fault message) => .error (cause message)
  | .error .mismatch =>
    match readAll true ls with
    | .error (.fault message) => .error (cause message)
    | _ => .error (cause "invalid syntax".toList)

end MiniLex.Argument.Expression
