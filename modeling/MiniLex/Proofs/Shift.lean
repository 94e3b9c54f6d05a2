import MiniLex.Proofs.Place
import MiniLex.Proofs.Session

/-!
Scans from within a source. A scan looks at what stands at its cursor and behind it, and at nothing
before it. So a session that is put at some position and line makes of its source what a fresh
session makes of the rest, with all places further on by that position and that line. Only the
locations of the diagnostics show lines of the source that begin before the cursor.
-/

namespace MiniLex

/-! ### Places further on -/

def Cursor.shift (offset cursor : Cursor) : Cursor :=
  ⟨cursor.position + offset.position, cursor.line + offset.line⟩

def Token.shift (offset : Cursor) (t : Token) : Token :=
  { t with line := t.line + offset.line, position := t.position + offset.position }

def LexicalError.shift (offset : Cursor) (e : LexicalError) : LexicalError :=
  { e with line := e.line + offset.line, position := e.position + offset.position }

/-- A failure that has no place stays as it is. -/
def Failure.shift (offset : Cursor) : Failure → Failure
  | .general message line position =>
    .general message (line.map (· + offset.line)) (position.map (· + offset.position))
  | .lexical e => .lexical (e.shift offset)
  | .unplaced cause line position =>
    .unplaced cause (line.map (· + offset.line)) (position.map (· + offset.position))
  | failure => failure

def Stop.shift (offset : Cursor) : Stop → Stop
  | .lexical e => .lexical (e.shift offset)
  | .internal m => .internal m

namespace Diagnostic

def shift (offset : Cursor) (d : Diagnostic) : Diagnostic :=
  { d with failure := d.failure.map (Failure.shift offset) }

/-- A diagnostic without its location, which depends on the lines of the whole source. -/
def unlocated (d : Diagnostic) : Diagnostic :=
  { d with location := none }

end Diagnostic

def shiftAnswer (offset : Cursor) : Except Stop (List Token) → Except Stop (List Token)
  | .ok tokens => .ok (tokens.map (Token.shift offset))
  | .error reason => .error (reason.shift offset)

@[simp] theorem Cursor.shift_start (offset : Cursor) : offset.shift ⟨0, 0⟩ = offset := by
  simp [shift]

@[simp] theorem Cursor.shift_of_start (cursor : Cursor) : Cursor.shift ⟨0, 0⟩ cursor = cursor := by
  simp [shift]

@[simp] theorem Token.shift_of_start : Token.shift ⟨0, 0⟩ = id := by
  funext t
  simp [shift]

@[simp] theorem LexicalError.shift_of_start (e : LexicalError) : e.shift ⟨0, 0⟩ = e := by
  simp [shift]

@[simp] theorem Stop.shift_of_start : Stop.shift ⟨0, 0⟩ = id := by
  funext reason
  cases reason <;> simp [shift]

@[simp] theorem Failure.shift_of_start : Failure.shift ⟨0, 0⟩ = id := by
  funext failure
  cases failure <;> simp [shift]

@[simp] theorem Diagnostic.shift_of_start (d : Diagnostic) : d.shift ⟨0, 0⟩ = d := by
  simp [shift]

theorem Cursor.past_shift (offset cursor : Cursor) (s : Segment) :
    (offset.shift cursor).past s = offset.shift (cursor.past s) := by
  simp only [shift, past, Cursor.mk.injEq]
  omega

/-! ### Steps and scans -/

/-- Two steps that make the same of a segment, the second with its places further on. -/
inductive Step.IsShift (offset : Cursor) : Step → Step → Prop
  | pass : IsShift offset .pass .pass
  | token {t : Token} : IsShift offset (.token t) (.token (t.shift offset))
  | report {d d' : Diagnostic} {records records' : List Record}
      (hd : d'.unlocated = (d.shift offset).unlocated) :
      IsShift offset (.report d records) (.report d' records')
  | stop {reason : Stop} : IsShift offset (.stop reason) (.stop (reason.shift offset))

namespace Setting

variable (setting : Setting) (source : Text) (offset cursor : Cursor)

theorem fail_isShift (cause : LexicalCause) :
    Step.IsShift offset ({ setting with source := source }.fail cursor cause)
      (setting.fail (offset.shift cursor) cause) := by
  by_cases hfast : setting.options.failFast
  · simp only [fail, hfast, if_true]
    exact .stop
  · simp only [fail, hfast]
    exact .report rfl

theorem scanWord_isShift (word : Text) :
    Step.IsShift offset ({ setting with source := source }.scanWord cursor word)
      (setting.scanWord (offset.shift cursor) word) := by
  cases hentry : setting.table.get? word with
  | none =>
      simp only [scanWord, hentry]
      exact .token
  | some payload =>
      cases hbody : TokenBody.make .keyword payload with
      | ok body =>
          simp only [scanWord, hentry, Token.make, hbody, Except.map]
          exact .token
      | error m =>
          simp only [scanWord, hentry, Token.make, hbody, Except.map]
          exact .stop

theorem scanDigits_isShift (digits : Text) :
    Step.IsShift offset ({ setting with source := source }.scanDigits cursor digits)
      (setting.scanDigits (offset.shift cursor) digits) := by
  cases hvalue : Literal.value? digits with
  | none =>
      simp only [scanDigits, hvalue]
      exact setting.fail_isShift source offset cursor _
  | some n =>
      cases hrange : Value.ofInt n with
      | ok v =>
          simp only [scanDigits, hvalue, hrange]
          exact .token
      | error m =>
          simp only [scanDigits, hvalue, hrange]
          exact .stop

theorem scanUnknown_isShift (c : Char) :
    Step.IsShift offset ({ setting with source := source }.scanUnknown cursor c)
      (setting.scanUnknown (offset.shift cursor) c) := by
  by_cases hstrict : setting.options.strict
  · simp only [scanUnknown, hstrict, if_true]
    exact setting.fail_isShift source offset cursor _
  · simp only [scanUnknown, hstrict]
    exact .report rfl

/-- Whatever the source, a step does the same at a place further on. -/
theorem step_isShift (s : Segment) :
    Step.IsShift offset ({ setting with source := source }.step cursor s)
      (setting.step (offset.shift cursor) s) := by
  cases s with
  | blank c => exact .pass
  | newline c => exact .pass
  | word text => exact setting.scanWord_isShift source offset cursor text
  | digits text => exact setting.scanDigits_isShift source offset cursor text
  | symbol s => exact .token
  | unknown c => exact setting.scanUnknown_isShift source offset cursor c

theorem scan_shift (segs : List Segment) :
    let here := { setting with source := source }.scan cursor segs
    let moved := setting.scan (offset.shift cursor) segs
    moved.tokens = here.tokens.map (Token.shift offset) ∧
      moved.diagnostics.map Diagnostic.unlocated =
        here.diagnostics.map (fun d => (d.shift offset).unlocated) ∧
      moved.cursor = offset.shift here.cursor ∧
      moved.stop = here.stop.map (Stop.shift offset) := by
  induction segs generalizing cursor with
  | nil => exact ⟨rfl, rfl, rfl, rfl⟩
  | cons s segs ih =>
      have hstep := setting.step_isShift source offset cursor s
      obtain ⟨htokens, hdiagnostics, hcursor, hstop⟩ := ih (cursor.past s)
      rw [← Cursor.past_shift] at htokens hdiagnostics hcursor hstop
      simp only [scan]
      generalize { setting with source := source }.step cursor s = here at hstep
      generalize setting.step (offset.shift cursor) s = moved at hstep
      cases hstep with
      | pass => exact ⟨htokens, hdiagnostics, hcursor, hstop⟩
      | token => exact ⟨congrArg _ htokens, hdiagnostics, hcursor, hstop⟩
      | report hd =>
          refine ⟨htokens, ?_, hcursor, hstop⟩
          simp only [List.map_cons, hd, hdiagnostics]
      | stop => exact ⟨rfl, rfl, rfl, rfl⟩

/-- The source of a setting shows in the locations of the diagnostics alone. -/
theorem scan_source (segs : List Segment) :
    let here := { setting with source := source }.scan cursor segs
    let there := setting.scan cursor segs
    there.tokens = here.tokens ∧
      there.diagnostics.map Diagnostic.unlocated = here.diagnostics.map Diagnostic.unlocated ∧
      there.cursor = here.cursor ∧ there.stop = here.stop := by
  simpa using setting.scan_shift source ⟨0, 0⟩ cursor segs

end Setting

/-! ### Sessions put elsewhere -/

def Scan.answer (scan : Scan) : Except Stop (List Token) :=
  match scan.stop with
  | none => .ok scan.tokens
  | some reason => .error reason

theorem Scan.answer_shift {offset : Cursor} {here moved : Scan}
    (htokens : moved.tokens = here.tokens.map (Token.shift offset))
    (hstop : moved.stop = here.stop.map (Stop.shift offset)) :
    moved.answer = shiftAnswer offset here.answer := by
  cases hreason : here.stop with
  | none =>
      rw [hreason] at hstop
      simp [answer, shiftAnswer, hreason, hstop, htokens]
  | some reason =>
      rw [hreason] at hstop
      simp [answer, shiftAnswer, hreason, hstop]

namespace Session

/-- A session that has made nothing yet gives what the scan from its cursor gives. -/
theorem tokenize_of_new {s : Session} (hnew : s.outcome = none) (htokens : s.tokens = [])
    (hdiagnostics : s.diagnostics = []) :
    s.tokenize.1.tokens = s.scan.tokens ∧ s.tokenize.1.diagnostics = s.scan.diagnostics ∧
      s.tokenize.1.cursor = s.scan.cursor ∧ s.tokenize.2 = s.scan.answer := by
  obtain ⟨hcursor, htokens', hdiagnostics', hend⟩ := tokenize_of_outcome_eq_none hnew
  rw [htokens, List.nil_append] at htokens'
  rw [hdiagnostics, List.nil_append] at hdiagnostics'
  refine ⟨htokens', hdiagnostics', hcursor, ?_⟩
  rcases hend with ⟨hstop, hgiven, -⟩ | ⟨e, hstop, hgiven, -⟩ | ⟨m, hstop, hgiven, -⟩
  · rw [hgiven, Scan.answer, hstop, htokens']
  · rw [hgiven, Scan.answer, hstop]
  · rw [hgiven, Scan.answer, hstop]

theorem scan_of_remaining_eq_nil {s : Session} (h : s.remaining = []) :
    s.scan = ⟨[], [], [], s.cursor, none⟩ := by
  rw [scan, h, segments]
  rfl

end Session

/-- Put a new session at any position that is not negative, within a word or a number as well, and
at any line. It ends as a fresh session over the rest of the source does, with the same tokens and
errors further on by that position and line; its diagnostics have the same levels and messages, and
the cursor comes to lie further on as well. Outside the source it finds nothing and stays where it
is. -/
theorem tokenize_seek_eq_shift (setting : Setting) (position line : Int) :
    let moved := ((Session.start setting).seek (some position) (some line)).tokenize
    let offset : Cursor := ⟨position, line⟩
    (0 ≤ position →
      let fresh := (Session.start { setting with
        source := setting.source.drop position.toNat }).tokenize
      moved.2 = shiftAnswer offset fresh.2 ∧
        moved.1.tokens = fresh.1.tokens.map (Token.shift offset) ∧
        moved.1.diagnostics.map Diagnostic.unlocated =
          fresh.1.diagnostics.map (fun d => (d.shift offset).unlocated) ∧
        moved.1.cursor = offset.shift fresh.1.cursor) ∧
    (position < 0 ∨ setting.source.length < position →
      moved.2 = .ok [] ∧ moved.1.tokens = [] ∧ moved.1.diagnostics = [] ∧
        moved.1.cursor = offset) := by
  intro moved offset
  let there := (Session.start setting).seek (some position) (some line)
  obtain ⟨htokens, hdiagnostics, hcursor, hgiven⟩ :=
    Session.tokenize_of_new (s := there) rfl rfl rfl
  refine ⟨fun hposition => ?_, fun houtside => ?_⟩
  · let rest := setting.source.drop position.toNat
    intro fresh
    obtain ⟨hftokens, hfdiagnostics, hfcursor, hfgiven⟩ :=
      Session.tokenize_of_new (s := Session.start { setting with source := rest }) rfl rfl rfl
    -- At every offset behind its cursor the session finds what stands there in the rest, so both
    -- sessions have the same segments before them.
    have hlook (k : Nat) : charAt? setting.source (position + k) = charAt? rest (0 + k) := by
      rw [Int.zero_add, charAt?_drop, Int.toNat_of_nonneg hposition]
    have hremaining : there.remaining = rest :=
      Session.remaining_eq_of_charAt?_eq (t := Session.start { setting with source := rest })
        hposition (Int.le_refl 0) hlook
    have hscan : there.scan = setting.scan (offset.shift ⟨0, 0⟩) (segments rest) := by
      rw [Session.scan, hremaining, Cursor.shift_start]
      rfl
    obtain ⟨hstokens, hsdiagnostics, hscursor, hsstop⟩ :=
      setting.scan_shift rest offset ⟨0, 0⟩ (segments rest)
    rw [← hscan] at hstokens hsdiagnostics hscursor hsstop
    refine ⟨?_, ?_, ?_, ?_⟩
    · rw [hgiven, Scan.answer_shift hstokens hsstop, hfgiven]
      rfl
    · rw [htokens, hstokens, hftokens]
      rfl
    · rw [hdiagnostics, hsdiagnostics, hfdiagnostics]
      rfl
    · rw [hcursor, hscursor, hfcursor]
      rfl
  · have hremaining : there.remaining = [] :=
      Session.remaining_eq_nil_iff.mpr (charAt?_eq_none_iff.mpr (houtside.imp id Int.le_of_lt))
    rw [Session.scan_of_remaining_eq_nil hremaining] at htokens hdiagnostics hcursor hgiven
    exact ⟨hgiven, htokens, hdiagnostics, hcursor⟩

/-- From within a word and on a line below zero, over a character that is passed over to a number
that does not fit. -/
theorem tokenize_seek_eq_shift_within_word :
    let digits := ['3', '0', '0', '0', '0', '0', '0', '0', '0', '0']
    let setting : Setting := ⟨['a', 'b', '@', '\n'] ++ digits, ['f'], .default, {}⟩
    let moved := ((Session.start setting).seek (some 1) (some (-7))).tokenize
    let fresh := (Session.start { setting with source := ['b', '@', '\n'] ++ digits }).tokenize
    fresh.2 = .error (.lexical ⟨.overflow digits, 1, 3⟩) ∧
      moved.2 = .error (.lexical ⟨.overflow digits, -6, 4⟩) ∧
      fresh.1.tokens = [Token.identifier ['b'] 0 0] ∧
      moved.1.tokens = [Token.identifier ['b'] (-7) 1] ∧
      moved.1.diagnostics.map Diagnostic.unlocated =
        fresh.1.diagnostics.map (fun d => (d.shift ⟨1, -7⟩).unlocated) ∧
      moved.1.cursor = ⟨4, -6⟩ := by
  intro digits setting moved fresh
  have hraise : fresh.2 = .error (.lexical ⟨.overflow digits, 1, 3⟩) := by decide +kernel
  have htokens : fresh.1.tokens = [Token.identifier ['b'] 0 0] := by decide +kernel
  have hcursor : fresh.1.cursor = ⟨3, 1⟩ := by decide +kernel
  obtain ⟨hwithin, -⟩ := tokenize_seek_eq_shift setting 1 (-7)
  obtain ⟨hgiven, hmoved, hreport, hend⟩ := hwithin (by decide)
  refine ⟨hraise, ?_, htokens, ?_, hreport, ?_⟩
  · exact hgiven.trans (congrArg (shiftAnswer ⟨1, -7⟩) hraise)
  · exact hmoved.trans (congrArg (List.map (Token.shift ⟨1, -7⟩)) htokens)
  · exact hend.trans (congrArg (Cursor.shift ⟨1, -7⟩) hcursor)

end MiniLex
