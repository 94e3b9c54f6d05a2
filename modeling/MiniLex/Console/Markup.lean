import MiniLex.Console.Argument.Expression.Reader
import MiniLex.Console.Style
import MiniLex.Text.Basic
import MiniLex.Text.Quoted

/-!
Console markup. A tag is a bracket that opens with one of a few characters and runs to the next
closing bracket; backslashes in front of it may escape it. `pieces` cuts a text into tags and
the runs between them, `escape` makes a text show as itself, and `render` follows the tags and
gives the text that is shown, with its styled parts.
-/

namespace MiniLex

/-! ### Arguments of actions -/

namespace Argument

inductive Fault where
  | unreadable (part reason : Text)
  | valueless (reason : Text)
  deriving DecidableEq

def Fault.message (whole : Text) : Fault → Text
  | unreadable part reason =>
    Text.quoted part ++ " in ".toList ++ Text.quoted whole ++ "; ".toList ++ reason
  | valueless reason => Text.quoted whole ++ "; ".toList ++ reason

def inHandler (c : Char) : Bool :=
  Text.isWordChar c || c == '.'

def isBracketed (s : Text) : Bool :=
  s.head? == some '(' && s.tail.getLast? == some ')' && !s.contains '\n'

/-- The part of an argument that holds the values. A handler alone has none. -/
def values (argument : Text) : Text :=
  let s := Text.trim argument
  let behind := s.dropWhile inHandler
  if behind = [] then "()".toList
  else if isBracketed behind then behind
  else s

def check (argument : Text) : Except Fault Unit :=
  let part := values argument
  match Expression.read part with
  | .error reason => .error (.unreadable part reason)
  | .ok e =>
    match e.worth with
    | .nothing reason => .error (.valueless reason)
    | _ => .ok ()

end Argument

/-! ### Tags -/

namespace Markup

/-- Characters that may follow the opening bracket of a tag. -/
def startsTag (c : Char) : Bool :=
  c.isLower || c == '#' || c == '/' || c == '@'

def inTag (c : Char) : Bool :=
  c != '[' && c != ']'

def tag? : Text → Option (Text × Text)
  | '[' :: c :: cs =>
    if startsTag c then
      match cs.dropWhile inTag with
      | ']' :: rest => some (c :: cs.takeWhile inTag, rest)
      | _ => none
    else none
  | _ => none

theorem eq_of_tag? {s body rest : Text} (h : tag? s = some (body, rest)) :
    s = '[' :: body ++ ']' :: rest := by
  unfold tag? at h
  split at h
  next c cs =>
    split at h
    · split at h
      next r hr =>
        simp only [Option.some.injEq, Prod.mk.injEq] at h
        obtain ⟨rfl, rfl⟩ := h
        have := List.takeWhile_append_dropWhile (p := inTag) (l := cs)
        rw [hr] at this
        simp [this]
      · simp at h
    · simp at h
  · simp at h

inductive Piece where
  | plain (run : Text)
  | tag (slashes : Nat) (body : Text)
  deriving DecidableEq

def Piece.source : Piece → Text
  | plain run => run
  | tag slashes body => List.replicate slashes '\\' ++ '[' :: body ++ [']']

/-- Put a character in front of a list of pieces, into the run that may stand there. -/
def pushChar (c : Char) : List Piece → List Piece
  | .plain run :: ps => .plain (c :: run) :: ps
  | ps => .plain [c] :: ps

theorem flatMap_source_pushChar (c : Char) (ps : List Piece) :
    (pushChar c ps).flatMap Piece.source = c :: ps.flatMap Piece.source := by
  unfold pushChar
  split <;> simp [Piece.source]

/-- Tags, each with all backslashes in front of it, and the runs between them. -/
def pieces : Text → List Piece
  | [] => []
  | c :: cs =>
    match _ : tag? ((c :: cs).dropWhile (· == '\\')) with
    | some (body, rest) => .tag ((c :: cs).takeWhile (· == '\\')).length body :: pieces rest
    | none => pushChar c (pieces cs)
termination_by s => s.length
decreasing_by
  · rename_i h
    have hs := (List.dropWhile_suffix (l := c :: cs) (· == '\\')).length_le
    rw [eq_of_tag? h] at hs
    simp only [List.length_append, List.length_cons] at hs ⊢
    omega
  · simp

theorem takeWhile_slash (s : Text) :
    s.takeWhile (· == '\\') = List.replicate (s.takeWhile (· == '\\')).length '\\' := by
  rw [List.eq_replicate_iff]
  exact ⟨rfl, fun c hc => by simpa using List.all_eq_true.mp List.all_takeWhile c hc⟩

/-- The pieces of a text make up the text. -/
theorem flatMap_source_pieces (s : Text) : (pieces s).flatMap Piece.source = s := by
  fun_induction pieces s with
  | case1 => rfl
  | case2 c cs body rest h ih =>
    have whole := List.takeWhile_append_dropWhile (p := (· == '\\')) (l := c :: cs)
    rw [eq_of_tag? h] at whole
    rw [List.flatMap_cons, ih, Piece.source, ← takeWhile_slash, List.append_assoc,
      List.append_assoc]
    simpa using whole
  | case3 c cs h ih => rw [flatMap_source_pushChar, ih]

/-- The markup of a piece that shows the piece itself. -/
def Piece.escaped : Piece → Text
  | plain run => run
  | tag slashes body => List.replicate (2 * slashes + 1) '\\' ++ '[' :: body ++ [']']

def trailingSlashes (s : Text) : Nat :=
  (s.reverse.takeWhile (· == '\\')).length

/-- Markup that shows a text. Every tag is escaped, and so is a single backslash at the end,
which could otherwise escape a tag that is put behind it. -/
def escape (s : Text) : Text :=
  let t := (pieces s).flatMap Piece.escaped
  if trailingSlashes t = 1 then t ++ ['\\'] else t

def styled (style inner : Text) : Text :=
  '[' :: style ++ ']' :: inner ++ "[/".toList ++ style ++ "]".toList

/-- Why markup cannot be followed: a tag closes nothing, an action has an argument that cannot be
read, or a style has a faulty share. Positions are offsets in the markup. -/
inductive TagError where
  | unmatched (body : Text) (position : Nat)
  | nothingOpen (position : Nat)
  | badArgument (argument : Text) (fault : Argument.Fault)
  | badShare (fault : ShareFault)
  deriving DecidableEq

def TagError.message : TagError → Text
  | unmatched body position =>
    "closing tag '[".toList ++ body ++ "]' at position ".toList ++ Text.ofNat position ++
      " doesn't match any open tag".toList
  | nothingOpen position =>
    "closing tag '[/]' at position ".toList ++ Text.ofNat position ++
      " has nothing to close".toList
  | badArgument argument fault =>
    "error parsing ".toList ++ fault.message argument
  | badShare fault => fault.message

def styleName (s : Text) : Except TagError Text :=
  (Style.canonicalName s).mapError .badShare

/-- A tag that is open: its name, what follows an equals sign in it, and the offset of the shown
text at which it opened. -/
structure OpenTag where
  name : Text
  argument? : Option Text
  first : Nat
  deriving DecidableEq

namespace OpenTag

def style (t : OpenTag) : Text :=
  t.argument?.elim t.name (t.name ++ ' ' :: ·)

def span (t : OpenTag) (stop : Nat) : Span :=
  ⟨t.first, stop, t.style⟩

/-- A tag whose name starts with an at sign is an action; it has no style. -/
def isAction (t : OpenTag) : Bool :=
  t.name.head? == some '@'

/-- Close a tag at an offset. The argument of an action is read now, and an empty one is none. -/
def close (t : OpenTag) (stop : Nat) : Except TagError (List Span) :=
  if t.isAction then
    match t.argument? with
    | none | some [] => .ok []
    | some argument =>
      match Argument.check argument with
      | .ok () => .ok []
      | .error fault => .error (.badArgument argument fault)
  else .ok [t.span stop]

end OpenTag

/-- Follow a tag at an offset of the shown text: the tags that are open behind it, the latest in
front, and the part that it closes. What follows an equals sign is no part of a tag's name; a
closing tag without a name closes the latest tag. -/
def follow (position shown : Nat) (body : Text) (tags : List OpenTag) :
    Except TagError (List OpenTag × List Span) :=
  match body.takeWhile (· != '=') with
  | '/' :: name =>
    if Text.trim name = [] then
      match tags with
      | [] => .error (.nothingOpen position)
      | t :: rest => do return (rest, ← t.close shown)
    else do
      let name ← styleName name
      match tags.find? (·.name == name) with
      | none => .error (.unmatched body position)
      | some t => return (tags.eraseP (·.name == name), ← t.close shown)
  | name => do
    let argument? := (body.dropWhile (· != '=')).tail?
    return (⟨← styleName name, argument?, shown⟩ :: tags, [])

/-- A run as it is shown: a backslash in front of an opening bracket goes. -/
def unescapeBrackets : Text → Text
  | '\\' :: '[' :: cs => '[' :: unescapeBrackets cs
  | c :: cs => c :: unescapeBrackets cs
  | [] => []

/-- The text that pieces show, from an offset in the markup, behind `shown` characters and with some
tags open; its parts in the order in which they are closed. Half the backslashes in front of a tag
are shown; an odd one escapes the tag. Every run passes through `display`. -/
def renderPieces (display : Text → Text) (position shown : Nat) (tags : List OpenTag) :
    List Piece → Except TagError StyledText
  | [] => .ok ⟨[], tags.map (·.span shown)⟩
  | .plain run :: ps => do
    let text := display (unescapeBrackets run)
    let rest ← renderPieces display (position + run.length) (shown + text.length) tags ps
    return ⟨text ++ rest.text, rest.spans⟩
  | .tag slashes body :: ps => do
    let half := List.replicate (slashes / 2) '\\'
    let next := position + slashes + body.length + 2
    if slashes % 2 = 1 then
      let text := half ++ display ('[' :: body ++ [']'])
      let rest ← renderPieces display next (shown + text.length) tags ps
      return ⟨text ++ rest.text, rest.spans⟩
    else
      let shown := shown + half.length
      let (tags, closed) ← follow (position + slashes) shown body tags
      let rest ← renderPieces display next shown tags ps
      return ⟨half ++ rest.text, closed ++ rest.spans⟩

/-- The text that markup shows. Its parts are in the order in which they start; of those that start
together, the one closed last comes first. -/
def render (display : Text → Text) (markup : Text) : Except TagError StyledText := do
  let shown ← renderPieces display 0 0 [] (pieces markup)
  return { shown with spans := shown.spans.reverse.mergeSort fun a b => a.first ≤ b.first }

end Markup

end MiniLex
