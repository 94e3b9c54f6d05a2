import MiniLex.Text.Basic

/-!
Expressions and what they are worth as values.
-/

namespace MiniLex.Argument

/-- What an expression is worth: a number, perhaps with a sign; another value that sets may hold; a
value that they may not hold, of a given kind; or nothing, for a reason. -/
inductive Worth where
  | real
  | imaginary
  | plain
  | loose (kind : Text)
  | nothing (reason : Text)
  deriving DecidableEq

/-- An expression that was read: what messages call it, what it is worth, and the name that it is,
if it is one. -/
structure Expression where
  what : Text
  worth : Worth
  name? : Option Text := none
  deriving DecidableEq

namespace Expression

def unreadable : Worth :=
  .nothing "malformed node or string on line 1".toList

def valueless (what : String) : Expression :=
  ⟨what.toList, unreadable, none⟩

def literal (worth : Worth) : Expression :=
  ⟨"literal".toList, worth, none⟩

def tupleWorth (items : List Expression) : Worth :=
  (items.findSome? fun e =>
    match e.worth with
    | .nothing reason => some (.nothing reason)
    | _ => none).getD <|
  (items.findSome? fun e =>
    match e.worth with
    | .loose kind => some (.loose kind)
    | _ => none).getD .plain

def tuple (items : List Expression) : Expression :=
  ⟨"tuple".toList, tupleWorth items, none⟩

def misfit? (e : Expression) : Option Worth :=
  match e.worth with
  | .nothing reason => some (.nothing reason)
  | .loose kind => some (.nothing ("unhashable type: '".toList ++ kind ++ "'".toList))
  | _ => none

def collection (items : List Expression) : Expression :=
  ⟨"set display".toList, (items.findSome? misfit?).getD (.loose "set".toList), none⟩

/-- A dictionary of keys and values; an entry without a key spreads another dictionary. -/
def dictionary (entries : List (Option Expression × Expression)) : Expression :=
  let worth := entries.findSome? fun (key?, value) =>
    match key? with
    | none => some (.nothing "malformed node or string: None".toList)
    | some key =>
      match key.worth, value.worth with
      | .nothing reason, _ | _, .nothing reason => some (.nothing reason)
      | _, _ => misfit? key
  ⟨"dict literal".toList, worth.getD (.loose "dict".toList), none⟩

def signed (e : Expression) : Expression :=
  if e.what = "literal".toList && (e.worth = .real || e.worth = .imaginary) then
    ⟨"expression".toList, e.worth, none⟩
  else valueless "expression"

def complex (a b : Expression) : Expression :=
  if a.worth = .real && b.worth = .imaginary && b.what = "literal".toList then
    ⟨"expression".toList, .plain, none⟩
  else valueless "expression"

end Expression

end MiniLex.Argument
