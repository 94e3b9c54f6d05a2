import MiniLex.Proofs.Scan

/-!
Sessions in use. A caller may ask for the tokens, move the cursor and change the options and the
table in any order. Whatever it does, the first call that comes to an end decides what every later
call gives, and from then on tokens and diagnostics stay as they are.
-/

namespace MiniLex

inductive Action where
  | tokenize
  | seek (position line : Option Int)
  | setOptions (options : Options)
  | setKeyword (word : Text) (payload : Payload)
  deriving DecidableEq

namespace Setting

variable {setting : Setting}

theorem failFast_of_scan_stop {segs : List Segment} (hshape : ∀ s ∈ segs, s.IsShaped)
    {cursor : Cursor} {e : LexicalError}
    (hstop : (setting.scan cursor segs).stop = some (.lexical e)) :
    setting.options.failFast = true := by
  rcases setting.forall_not_stops_or_stopsFirst segs with hgo | ⟨before, s, hfirst⟩
  · obtain ⟨-, -, -, hnone⟩ := scan_of_forall_not_stops hshape hgo cursor
    rw [hnone] at hstop
    contradiction
  · obtain ⟨-, -, -, reason, hreason, hsome⟩ := scan_of_stopsFirst hshape hfirst cursor
    obtain ⟨-, -, hs⟩ := hfirst
    cases Option.some.inj (hsome.symm.trans hstop)
    cases hreason with
    | overflow => exact hs.1
    | unknown => exact hs.1

end Setting

namespace Session

/-! ### Actions and runs -/

def act (s : Session) : Action → Session
  | .tokenize => s.tokenize.1
  | .seek position line => s.seek position line
  | .setOptions options => s.setOptions options
  | .setKeyword word payload => s.setKeyword word payload

def run (s : Session) (actions : List Action) : Session :=
  actions.foldl act s

/-- What the calls of `tokenize` among some actions give. -/
def answers (s : Session) : List Action → List (Except Stop (List Token))
  | [] => []
  | .tokenize :: rest => s.tokenize.2 :: s.tokenize.1.answers rest
  | action :: rest => (s.act action).answers rest

def result? (s : Session) : Option (List Token) :=
  match s.outcome with
  | some (.ok tokens) => some tokens
  | _ => none

def failure? (s : Session) : Option LexicalError :=
  match s.outcome with
  | some (.error e) => some e
  | _ => none

/-- What every action keeps is kept by every run. -/
theorem run_invariant {P : Session → Prop} (hact : ∀ s action, P s → P (s.act action))
    {s : Session} (hs : P s) (actions : List Action) : P (s.run actions) := by
  induction actions generalizing s with
  | nil => exact hs
  | cons action rest ih => exact ih (hact s action hs)

/-! ### One call -/

def scan (s : Session) : Scan :=
  s.setting.scan s.cursor (segments s.remaining)

variable {s : Session} {o : Except LexicalError (List Token)}

/-- A remembered outcome is given again, and the call leaves no other trace. -/
theorem tokenize_of_outcome (h : s.outcome = some o) :
    s.tokenize = (s, o.mapError .lexical) := by
  cases o with
  | ok tokens => simp [tokenize, h, Except.mapError]
  | error e => simp [tokenize, h, Except.mapError]

/-- A session with what a scan from its cursor gave, and how the scan ended. -/
def conclude (s : Session) (scan : Scan) : Session × Except Stop (List Token) :=
  let after := s.absorb scan
  match scan.stop with
  | none =>
    let record := Record.finished s.setting.file after.tokens.length (after.cursor.line + 1)
    ({ after with records := after.records ++ [record], outcome := some (.ok after.tokens) },
      .ok after.tokens)
  | some (.lexical e) => ({ after with outcome := some (.error e) }, .error (.lexical e))
  | some (.internal m) => (after, .error (.internal m))

theorem tokenize_eq_conclude (h : s.outcome = none) : s.tokenize = s.conclude s.scan := by
  simp only [tokenize, h]
  rfl

/-- Without a remembered outcome, a call adds what a scan from the cursor gives, and remembers how
the scan ended unless it was stopped by a misuse. -/
theorem tokenize_of_outcome_eq_none (h : s.outcome = none) :
    s.tokenize.1.cursor = s.scan.cursor ∧
      s.tokenize.1.tokens = s.tokens ++ s.scan.tokens ∧
      s.tokenize.1.diagnostics = s.diagnostics ++ s.scan.diagnostics ∧
      ((s.scan.stop = none ∧ s.tokenize.2 = .ok s.tokenize.1.tokens ∧
          s.tokenize.1.outcome = some (.ok s.tokenize.1.tokens)) ∨
        (∃ e, s.scan.stop = some (.lexical e) ∧ s.tokenize.2 = .error (.lexical e) ∧
          s.tokenize.1.outcome = some (.error e)) ∨
        (∃ m, s.scan.stop = some (.internal m) ∧ s.tokenize.2 = .error (.internal m) ∧
          s.tokenize.1.outcome = none)) := by
  rw [tokenize_eq_conclude h]
  cases hstop : s.scan.stop with
  | none => simp [conclude, hstop, absorb, diagnostics]
  | some reason =>
      cases reason with
      | lexical e => simp [conclude, hstop, absorb, diagnostics]
      | internal m => simp [conclude, hstop, absorb, diagnostics, h]

@[simp] theorem setting_start (setting : Setting) : (start setting).setting = setting :=
  rfl

@[simp] theorem setting_tokenize (s : Session) : s.tokenize.1.setting = s.setting := by
  cases houtcome : s.outcome with
  | some o => rw [tokenize_of_outcome houtcome]
  | none =>
      rw [tokenize_eq_conclude houtcome, conclude]
      cases hstop : s.scan.stop with
      | none => rfl
      | some reason => cases reason <;> rfl

/-- A call remembers exactly what it gives, misuses apart. -/
theorem outcome_tokenize_iff :
    s.tokenize.1.outcome = some o ↔ s.tokenize.2 = o.mapError .lexical := by
  cases houtcome : s.outcome with
  | some o' =>
      rw [tokenize_of_outcome houtcome, houtcome]
      cases o <;> cases o' <;> simp [Except.mapError]
  | none =>
      obtain ⟨-, -, -, hend⟩ := tokenize_of_outcome_eq_none houtcome
      rcases hend with ⟨-, hgiven, hkept⟩ | ⟨e, -, hgiven, hkept⟩ | ⟨m, -, hgiven, hkept⟩
      · cases o <;> simp [hgiven, hkept, Except.mapError]
      · cases o <;> simp [hgiven, hkept, Except.mapError]
      · cases o <;> simp [hgiven, hkept, Except.mapError]

theorem outcome_tokenize_of_internal {m : Misuse} (h : s.tokenize.2 = .error (.internal m)) :
    s.tokenize.1.outcome = none := by
  cases hkept : s.tokenize.1.outcome with
  | none => rfl
  | some o =>
      have hgiven := outcome_tokenize_iff.mp hkept
      rw [h] at hgiven
      cases o <;> simp [Except.mapError] at hgiven

theorem failFast_of_tokenize_eq_error (h : s.outcome = none) {e : LexicalError}
    (hgiven : s.tokenize.2 = .error (.lexical e)) : s.setting.options.failFast = true := by
  obtain ⟨-, -, -, hend⟩ := tokenize_of_outcome_eq_none h
  rcases hend with ⟨-, hok, -⟩ | ⟨e, hstop, -, -⟩ | ⟨m, -, hmisuse, -⟩
  · rw [hok] at hgiven
    contradiction
  · exact Setting.failFast_of_scan_stop (segmentation_segments s.remaining).isShaped hstop
  · rw [hmisuse] at hgiven
    cases hgiven

/-! ### What is remembered -/

theorem result?_eq_some_iff {tokens : List Token} :
    s.result? = some tokens ↔ s.outcome = some (.ok tokens) := by
  unfold result?
  split <;> simp_all

theorem failure?_eq_some_iff {e : LexicalError} :
    s.failure? = some e ↔ s.outcome = some (.error e) := by
  unfold failure?
  split <;> simp_all

/-- With an outcome remembered, an action can move the cursor and change the setting only. -/
theorem act_of_outcome (h : s.outcome = some o) (action : Action) :
    (s.act action).outcome = some o ∧ (s.act action).tokens = s.tokens ∧
      (s.act action).report = s.report := by
  cases action with
  | tokenize =>
      rw [act, tokenize_of_outcome h]
      exact ⟨h, rfl, rfl⟩
  | seek position line => exact ⟨h, rfl, rfl⟩
  | setOptions options => exact ⟨h, rfl, rfl⟩
  | setKeyword word payload => exact ⟨h, rfl, rfl⟩

theorem run_of_outcome (h : s.outcome = some o) (actions : List Action) :
    (s.run actions).outcome = some o ∧ (s.run actions).tokens = s.tokens ∧
      (s.run actions).report = s.report := by
  refine run_invariant (P := fun t => t.outcome = some o ∧ t.tokens = s.tokens ∧
    t.report = s.report) ?_ ⟨h, rfl, rfl⟩ actions
  rintro t action ⟨houtcome, htokens, hreport⟩
  obtain ⟨houtcome', htokens', hreport'⟩ := act_of_outcome houtcome action
  exact ⟨houtcome', htokens'.trans htokens, hreport'.trans hreport⟩

/-- An error comes to be remembered by a call of `tokenize` that fails fast, and in no other way. -/
theorem failFast_of_failure?_act {action : Action} {e : LexicalError} (hnew : s.failure? = none)
    (hkept : (s.act action).failure? = some e) :
    action = .tokenize ∧ s.setting.options.failFast = true := by
  rw [failure?_eq_some_iff] at hkept
  cases houtcome : s.outcome with
  | some o =>
      -- What was remembered before would have been an error already.
      obtain ⟨hsame, -⟩ := act_of_outcome houtcome action
      rw [hsame] at hkept
      rw [hkept, ← failure?_eq_some_iff, hnew] at houtcome
      contradiction
  | none =>
      cases action with
      | tokenize =>
          exact ⟨rfl, failFast_of_tokenize_eq_error houtcome (outcome_tokenize_iff.mp hkept)⟩
      | seek position line => cases houtcome.symm.trans hkept
      | setOptions options => cases houtcome.symm.trans hkept
      | setKeyword word payload => cases houtcome.symm.trans hkept

/-- A success that is remembered is that of the tokens at hand. -/
def IsSettled (s : Session) : Prop :=
  ∀ tokens, s.outcome = some (.ok tokens) → s.tokens = tokens

theorem IsSettled.act (h : s.IsSettled) (action : Action) : (s.act action).IsSettled := by
  cases action with
  | tokenize =>
      intro tokens hkept
      cases houtcome : s.outcome with
      | some o =>
          rw [Session.act, tokenize_of_outcome houtcome] at hkept ⊢
          exact h tokens hkept
      | none =>
          obtain ⟨-, -, -, hend⟩ := tokenize_of_outcome_eq_none houtcome
          rcases hend with ⟨-, -, hall⟩ | ⟨e, -, -, herror⟩ | ⟨m, -, -, hnone⟩
          · exact Except.ok.inj (Option.some.inj (hall.symm.trans hkept))
          · cases herror.symm.trans hkept
          · cases hnone.symm.trans hkept
  | seek position line => exact h
  | setOptions options => exact h
  | setKeyword word payload => exact h

theorem isSettled_run (setting : Setting) (actions : List Action) :
    ((start setting).run actions).IsSettled := by
  refine run_invariant (fun s action h => h.act action) ?_ actions
  intro tokens hkept
  cases hkept

/-! ### Answers and what is remembered of them -/

theorem outcome_run_of_mem_answers {actions : List Action}
    (h : o.mapError .lexical ∈ s.answers actions) : (s.run actions).outcome = some o := by
  induction actions generalizing s with
  | nil => cases h
  | cons action rest ih =>
      cases action with
      | tokenize =>
          rcases List.mem_cons.mp h with hgiven | hlater
          · exact (run_of_outcome (outcome_tokenize_iff.mpr hgiven.symm) rest).1
          · exact ih hlater
      | seek position line => exact ih h
      | setOptions options => exact ih h
      | setKeyword word payload => exact ih h

theorem mem_answers_of_outcome_run {actions : List Action} (hnew : s.outcome = none)
    (h : (s.run actions).outcome = some o) : o.mapError .lexical ∈ s.answers actions := by
  induction actions generalizing s with
  | nil => cases hnew.symm.trans h
  | cons action rest ih =>
      cases action with
      | tokenize =>
          cases hkept : s.tokenize.1.outcome with
          | none => exact List.mem_cons_of_mem _ (ih hkept h)
          | some o' =>
              -- The first call that ends leaves nothing for the later ones to change.
              obtain ⟨hlast, -⟩ := run_of_outcome hkept rest
              cases Option.some.inj (hlast.symm.trans h)
              rw [answers, outcome_tokenize_iff.mp hkept]
              exact List.mem_cons_self
      | seek position line => exact ih hnew h
      | setOptions options => exact ih hnew h
      | setKeyword word payload => exact ih hnew h

/-- What is remembered after a run is what some call in it gave. -/
theorem outcome_run_start_iff (setting : Setting) (actions : List Action) :
    ((start setting).run actions).outcome = some o ↔
      o.mapError .lexical ∈ (start setting).answers actions :=
  ⟨mem_answers_of_outcome_run rfl, outcome_run_of_mem_answers⟩

end Session

/-- Whatever was done with a session, it remembers a success or an error or neither, namely what
one of the calls gave. From the first success on, and from the first lexical error on, every call
gives the same again and changes nothing, and no action touches the tokens and the report.
An error is remembered only by a call that fails fast, and a misuse never is. -/
theorem session_scans_once (setting : Setting) (actions : List Action) :
    let s := (Session.start setting).run actions
    let answers := (Session.start setting).answers actions
    (s.result? = none ∨ s.failure? = none) ∧
    (∀ tokens, s.result? = some tokens ↔ .ok tokens ∈ answers) ∧
    (∀ e, s.failure? = some e ↔ .error (.lexical e) ∈ answers) ∧
    (∀ tokens, s.tokenize.2 = .ok tokens → ∀ later,
      let t := s.tokenize.1.run later
      t.tokenize = (t, .ok tokens) ∧ t.tokens = tokens ∧
        t.report = s.tokenize.1.report) ∧
    (∀ e, s.tokenize.2 = .error (.lexical e) → ∀ later,
      let t := s.tokenize.1.run later
      t.tokenize = (t, .error (.lexical e)) ∧ t.tokens = s.tokenize.1.tokens ∧
        t.report = s.tokenize.1.report) ∧
    (∀ action e, s.failure? = none → (s.act action).failure? = some e →
      action = .tokenize ∧ s.setting.options.failFast = true) ∧
    (∀ m, s.tokenize.2 = .error (.internal m) →
      s.tokenize.1.result? = none ∧ s.tokenize.1.failure? = none) := by
  intro s answers
  refine ⟨?_, fun tokens => ?_, fun e => ?_, fun tokens hgiven later => ?_,
    fun e hgiven later => ?_, fun action e hnew hkept => ?_, fun m hmisuse => ?_⟩
  · cases houtcome : s.outcome with
    | none => simp [Session.result?, houtcome]
    | some o => cases o <;> simp [Session.result?, Session.failure?, houtcome]
  · rw [Session.result?_eq_some_iff]
    exact Session.outcome_run_start_iff setting actions
  · rw [Session.failure?_eq_some_iff]
    exact Session.outcome_run_start_iff setting actions
  · have hkept : s.tokenize.1.outcome = some (.ok tokens) :=
      Session.outcome_tokenize_iff.mpr hgiven
    obtain ⟨hlater, htokens, hreport⟩ := Session.run_of_outcome hkept later
    -- What was remembered is what the session holds, then and after every later action.
    have hsettled := (Session.isSettled_run setting actions).act .tokenize tokens hkept
    exact ⟨Session.tokenize_of_outcome hlater, htokens.trans hsettled, hreport⟩
  · have hkept : s.tokenize.1.outcome = some (.error e) :=
      Session.outcome_tokenize_iff.mpr hgiven
    obtain ⟨hlater, htokens, hreport⟩ := Session.run_of_outcome hkept later
    exact ⟨Session.tokenize_of_outcome hlater, htokens, hreport⟩
  · exact Session.failFast_of_failure?_act hnew hkept
  · have hnone := Session.outcome_tokenize_of_internal hmisuse
    simp [Session.result?, Session.failure?, hnone]

/-- A word with a wrong entry is mended, then a number does not fit. Neither a later change of the
options nor a way back to the start undoes that. -/
theorem session_scans_once_after_repair :
    let s := (Session.start ⟨['n', ' ', '3', '0', '0', '0', '0', '0', '0', '0', '0', '0'], ['a'],
      ⟨[(['n'], .number 5)]⟩, {}⟩).run [.tokenize, .setKeyword ['n'] .absent]
    let t := s.tokenize.1.run [.setOptions { failFast := false }, .seek (some 0) none, .tokenize]
    s.failure? = none ∧ t.cursor = ⟨0, 0⟩ ∧ t.tokens = [Token.identifier ['n'] 0 0] ∧
      t.tokenize = (t, .error (.lexical
        ⟨.overflow ['3', '0', '0', '0', '0', '0', '0', '0', '0', '0'], 0, 2⟩)) := by
  intro s t
  have hgiven : s.tokenize.2 = .error (.lexical
      ⟨.overflow ['3', '0', '0', '0', '0', '0', '0', '0', '0', '0'], 0, 2⟩) := by
    decide +kernel
  have htokens : s.tokenize.1.tokens = [Token.identifier ['n'] 0 0] := by decide +kernel
  obtain ⟨-, -, -, -, hfailed, -⟩ := session_scans_once
    ⟨['n', ' ', '3', '0', '0', '0', '0', '0', '0', '0', '0', '0'], ['a'],
      ⟨[(['n'], .number 5)]⟩, {}⟩ [.tokenize, .setKeyword ['n'] .absent]
  obtain ⟨hagain, hsame, -⟩ := hfailed _ hgiven
    [.setOptions { failFast := false }, .seek (some 0) none, .tokenize]
  exact ⟨by decide +kernel, by decide +kernel, hsame.trans htokens, hagain⟩

end MiniLex
