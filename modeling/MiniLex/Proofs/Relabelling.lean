import MiniLex.Proofs.LineCount
import Mathlib.Data.List.Forall2

/-!
What the keyword table has a say in. A table that holds keywords alone is looked at for the label of
a word that has been found without it, and for nothing else. So a scan over any such table is the
scan over the empty table, with the label of every identifier that the table knows changed.
-/

namespace MiniLex

/-- The table that makes every word an identifier. -/
def KeywordTable.empty : KeywordTable :=
  ⟨[]⟩

/-- What a table makes of a word. -/
def KeywordTable.label (table : KeywordTable) (word : Text) : TokenBody :=
  match table.get? word with
  | some (.keyword k) => .keyword k
  | _ => .identifier word

namespace Token

/-- An identifier that the table knows becomes a keyword, with the same text at the same place. -/
def relabel (table : KeywordTable) (t : Token) : Token :=
  match t.body with
  | .identifier _ => { t with body := table.label t.text }
  | _ => t

/-- Tokens that two tables make of one lexeme: they differ in the label of a word at most, and a
word has the label of its table. -/
structure SameLexeme (first second : KeywordTable) (t u : Token) : Prop where
  text_eq : t.text = u.text
  line_eq : t.line = u.line
  position_eq : t.position = u.position
  eq_of_not_isWord : ¬IsWord t.text → t = u
  body_of_isWord : IsWord t.text →
    t.body = first.label t.text ∧ u.body = second.label t.text

end Token

theorem KeywordTable.keywordsOnly_empty : KeywordTable.empty.KeywordsOnly := by
  intro word payload hentry
  contradiction

/-! ### Steps and scans -/

def Step.relabel (table : KeywordTable) : Step → Step
  | .token t => .token (t.relabel table)
  | step => step

def Scan.relabel (table : KeywordTable) (scan : Scan) : Scan :=
  { scan with tokens := scan.tokens.map (Token.relabel table) }

namespace Setting

def withoutTable (setting : Setting) : Setting :=
  { setting with table := .empty }

variable {setting : Setting}

theorem fail_withoutTable (setting : Setting) (cursor : Cursor) (cause : LexicalCause) :
    (setting.withoutTable.fail cursor cause).relabel setting.table =
      setting.fail cursor cause := by
  by_cases hfast : setting.options.failFast
  · simp only [fail, withoutTable, hfast, if_true]
    rfl
  · simp only [fail, withoutTable, hfast]
    rfl

theorem scanWord_eq_relabel (htable : setting.table.KeywordsOnly) (cursor : Cursor)
    (word : Text) :
    setting.scanWord cursor word =
      (setting.withoutTable.scanWord cursor word).relabel setting.table := by
  have hbare : setting.withoutTable.scanWord cursor word =
      .token (Token.identifier word cursor.line cursor.position) := rfl
  rw [hbare]
  cases hentry : setting.table.get? word with
  | none =>
      simp [scanWord, hentry, Step.relabel, Token.relabel, Token.identifier, KeywordTable.label]
  | some payload =>
      obtain ⟨k, rfl⟩ := htable word payload hentry
      simp [scanWord, hentry, Step.relabel, Token.relabel, Token.identifier, KeywordTable.label,
        Token.make, TokenBody.make, Except.map]

theorem scanDigits_eq_relabel (setting : Setting) (cursor : Cursor) (digits : Text) :
    setting.scanDigits cursor digits =
      (setting.withoutTable.scanDigits cursor digits).relabel setting.table := by
  cases hvalue : Literal.value? digits with
  | none =>
      simp only [scanDigits, hvalue]
      exact (setting.fail_withoutTable cursor _).symm
  | some n =>
      cases hrange : Value.ofInt n with
      | ok v =>
          simp only [scanDigits, hvalue, hrange]
          rfl
      | error m =>
          simp only [scanDigits, hvalue, hrange]
          rfl

theorem scanUnknown_eq_relabel (setting : Setting) (cursor : Cursor) (c : Char) :
    setting.scanUnknown cursor c =
      (setting.withoutTable.scanUnknown cursor c).relabel setting.table := by
  by_cases hstrict : setting.options.strict
  · simp only [scanUnknown, withoutTable, hstrict, if_true]
    exact (setting.fail_withoutTable cursor _).symm
  · simp only [scanUnknown, withoutTable, hstrict]
    rfl

theorem step_eq_relabel (htable : setting.table.KeywordsOnly) (cursor : Cursor) (s : Segment) :
    setting.step cursor s = (setting.withoutTable.step cursor s).relabel setting.table := by
  cases s with
  | blank c => rfl
  | newline c => rfl
  | word text => exact scanWord_eq_relabel htable cursor text
  | digits text => exact setting.scanDigits_eq_relabel cursor text
  | symbol s => rfl
  | unknown c => exact setting.scanUnknown_eq_relabel cursor c

/-- A scan is the scan without a table, with other labels on its words. -/
theorem scan_eq_relabel (htable : setting.table.KeywordsOnly) (cursor : Cursor)
    (segs : List Segment) :
    setting.scan cursor segs = (setting.withoutTable.scan cursor segs).relabel setting.table := by
  induction segs generalizing cursor with
  | nil => rfl
  | cons s segs ih =>
      rw [scan, scan, step_eq_relabel htable, ih (cursor.past s)]
      cases setting.withoutTable.step cursor s with
      | pass => rfl
      | token t => rfl
      | report d records => rfl
      | stop reason => rfl

theorem exists_lexical_of_scan_stop (htable : setting.table.KeywordsOnly) {cursor : Cursor}
    {segs : List Segment} (hshape : ∀ s ∈ segs, s.IsShaped) {reason : Stop}
    (h : (setting.scan cursor segs).stop = some reason) : ∃ e, reason = .lexical e := by
  rcases setting.forall_not_stops_or_stopsFirst segs with hgo | ⟨before, s, hfirst⟩
  · obtain ⟨-, -, -, hnone⟩ := scan_of_forall_not_stops hshape hgo cursor
    rw [hnone] at h
    contradiction
  · obtain ⟨-, -, -, found, hreason, hstop⟩ := scan_of_stopsFirst hshape hfirst cursor
    obtain rfl : found = reason := Option.some.inj (hstop.symm.trans h)
    cases hreason with
    | misuse hentry => exact absurd hfirst.2.2 (setting.not_stops_word htable _)
    | overflow => exact ⟨_, rfl⟩
    | unknown => exact ⟨_, rfl⟩

end Setting

/-! ### Fresh sessions -/

namespace Session

/-- A fresh session is the fresh session without a table, with other labels on its words. -/
theorem tokenize_start_eq_relabel (setting : Setting) (htable : setting.table.KeywordsOnly) :
    let run := (start setting).tokenize
    let bare := (start setting.withoutTable).tokenize
    run.1.tokens = bare.1.tokens.map (Token.relabel setting.table) ∧
      run.1.diagnostics = bare.1.diagnostics ∧ run.1.cursor = bare.1.cursor ∧
      run.2 = bare.2.map (List.map (Token.relabel setting.table)) := by
  obtain ⟨htokens, hreport, hcursor, hresult⟩ := tokenize_start setting
  obtain ⟨hbtokens, hbreport, hbcursor, hbresult⟩ := tokenize_start setting.withoutTable
  have hsource : setting.withoutTable.source = setting.source := rfl
  rw [hsource] at hbtokens hbreport hbcursor hbresult
  rw [Setting.scan_eq_relabel htable] at htokens hreport hcursor hresult
  refine ⟨?_, hreport.trans hbreport.symm, hcursor.trans hbcursor.symm, ?_⟩
  · rw [htokens, hbtokens]
    rfl
  · rw [hresult, hbresult]
    simp only [Scan.relabel]
    cases (setting.withoutTable.scan ⟨0, 0⟩ (segments setting.source)).stop with
    | none => rfl
    | some reason => rfl

theorem tokenize_start_cases (setting : Setting) (htable : setting.table.KeywordsOnly) :
    let run := (start setting).tokenize
    run.2 = .ok run.1.tokens ∨ ∃ e, run.2 = .error (.lexical e) := by
  intro run
  obtain ⟨htokens, -, -, hresult⟩ := tokenize_start setting
  cases hstop : (setting.scan ⟨0, 0⟩ (segments setting.source)).stop with
  | none =>
      left
      rw [hresult, hstop, htokens]
  | some reason =>
      right
      obtain ⟨e, rfl⟩ := Setting.exists_lexical_of_scan_stop htable
        (segmentation_segments setting.source).isShaped hstop
      exact ⟨e, by rw [hresult, hstop]⟩

end Session

/-! ### Words among tokens -/

theorem IsDigitRun.not_isWord {text : Text} (h : IsDigitRun text) : ¬IsWord text := by
  cases text with
  | nil => exact id
  | cons c tail =>
      intro hword
      have hletter := CharClass.of_eq_alphabetic_iff.mpr hword.1
      have hdigit := CharClass.of_eq_numeric_iff.mpr (h.2 c List.mem_cons_self)
      rw [hletter] at hdigit
      contradiction

theorem Symbol.not_isWord (s : Symbol) : ¬IsWord [s.char] := by
  intro hword
  have hletter := CharClass.of_eq_alphabetic_iff.mpr hword.1
  rw [CharClass.of_char] at hletter
  contradiction

theorem Token.sameLexeme_of_mem_tokens {setting : Setting} {t : Token}
    (ht : t ∈ (Session.start setting.withoutTable).tokenize.1.tokens)
    (first second : KeywordTable) :
    Token.SameLexeme first second (t.relabel first) (t.relabel second) := by
  obtain ⟨p, hp, htoken⟩ := Session.exists_placed_of_mem_tokens ht
  have hshape := (segmentation_segments setting.source).isShaped p.2 (snd_mem_of_mem_placed hp)
  rcases Segment.token?_cases htoken with ⟨text, k, -, hentry, -⟩ | ⟨text, hs, -, rfl⟩ |
    ⟨text, hs, -, rfl⟩ | ⟨sym, hs, rfl⟩
  · contradiction
  · rw [hs] at hshape
    exact ⟨rfl, rfl, rfl, fun hno => absurd hshape hno, fun _ => ⟨rfl, rfl⟩⟩
  · rw [hs] at hshape
    have hrun : ¬IsWord text := IsDigitRun.not_isWord hshape
    exact ⟨rfl, rfl, rfl, fun _ => rfl, fun hword => absurd hword hrun⟩
  · exact ⟨rfl, rfl, rfl, fun _ => rfl, fun hword => absurd hword sym.not_isWord⟩

/-- Over any two tables that hold keywords alone, a fresh session succeeds with both or raises the
same lexical error with both, and it has the same diagnostics and ends at the same place. Its tokens
are the same lexemes one by one, with the label of each word from its table; and they are the tokens
without a table with the identifiers that the table knows turned into keywords. -/
theorem tokenize_tables_agree (setting : Setting) {first second : KeywordTable}
    (hfirst : first.KeywordsOnly) (hsecond : second.KeywordsOnly) :
    let run (table : KeywordTable) := (Session.start { setting with table := table }).tokenize
    ((run first).2 = .ok (run first).1.tokens ∧ (run second).2 = .ok (run second).1.tokens ∨
        ∃ e, (run first).2 = .error (.lexical e) ∧ (run second).2 = .error (.lexical e)) ∧
      (run first).1.diagnostics = (run second).1.diagnostics ∧
      (run first).1.cursor = (run second).1.cursor ∧
      List.Forall₂ (Token.SameLexeme first second) (run first).1.tokens (run second).1.tokens ∧
      (run first).1.tokens = (run .empty).1.tokens.map (Token.relabel first) ∧
      (run first).2 = (run .empty).2.map (List.map (Token.relabel first)) := by
  intro run
  obtain ⟨htokens, hreport, hcursor, hresult⟩ :=
    Session.tokenize_start_eq_relabel { setting with table := first } hfirst
  obtain ⟨htokens', hreport', hcursor', hresult'⟩ :=
    Session.tokenize_start_eq_relabel { setting with table := second } hsecond
  -- Both sessions are compared with the one that has no table at all.
  refine ⟨?_, hreport.trans hreport'.symm, hcursor.trans hcursor'.symm, ?_, htokens, hresult⟩
  · rcases Session.tokenize_start_cases { setting with table := .empty }
      KeywordTable.keywordsOnly_empty with hok | ⟨e, herror⟩
    · left
      constructor
      · exact hresult.trans ((congrArg _ hok).trans (congrArg Except.ok htokens.symm))
      · exact hresult'.trans ((congrArg _ hok).trans (congrArg Except.ok htokens'.symm))
    · exact .inr ⟨e, hresult.trans (congrArg _ herror), hresult'.trans (congrArg _ herror)⟩
  · show List.Forall₂ _ (Session.start { setting with table := first }).tokenize.1.tokens
      (Session.start { setting with table := second }).tokenize.1.tokens
    rw [htokens, htokens', List.forall₂_map_left_iff, List.forall₂_map_right_iff]
    exact List.forall₂_same.mpr fun t ht => Token.sameLexeme_of_mem_tokens ht first second

/-- Entries for a part of a word and for a number, which no table has a say in, and a number at
which both sessions raise. -/
theorem tokenize_tables_agree_raising :
    let digits := ['3', '0', '0', '0', '0', '0', '0', '0', '0', '0']
    let setting : Setting :=
      ⟨['i', 'f', ' ', 'a', '1', '\n', '7', '@'] ++ digits, ['f'], .default, {}⟩
    let first : KeywordTable :=
      ⟨[(['i', 'f'], .keyword .int), (['a'], .keyword .ret), (['7'], .keyword .ret)]⟩
    let second : KeywordTable := ⟨[(['a', '1'], .keyword .ret), (['i', 'f'], .absent)]⟩
    let run (table : KeywordTable) := (Session.start { setting with table := table }).tokenize
    (run first).2 = .error (.lexical ⟨.overflow digits, 1, 8⟩) ∧
      (run second).2 = .error (.lexical ⟨.overflow digits, 1, 8⟩) ∧
      (run first).1.diagnostics = (run second).1.diagnostics ∧
      (run first).1.tokens = [Token.keyword .int 0 0 ['i', 'f'], Token.identifier ['a', '1'] 0 3,
        Token.literal ['7'] ⟨.int, 7⟩ 1 6] ∧
      (run second).1.tokens = [Token.identifier ['i', 'f'] 0 0, Token.keyword .ret 0 3 ['a', '1'],
        Token.literal ['7'] ⟨.int, 7⟩ 1 6] ∧
      List.Forall₂ (Token.SameLexeme first second) (run first).1.tokens (run second).1.tokens := by
  intro digits setting first second run
  have hfirst : first.KeywordsOnly := KeywordTable.keywordsOnly_of_entries (by simp [first])
  have hsecond : second.KeywordsOnly := KeywordTable.keywordsOnly_of_entries (by simp [second])
  have hraise : (run second).2 = .error (.lexical ⟨.overflow digits, 1, 8⟩) := by decide +kernel
  have hbare : (run .empty).1.tokens = [Token.identifier ['i', 'f'] 0 0,
      Token.identifier ['a', '1'] 0 3, Token.literal ['7'] ⟨.int, 7⟩ 1 6] := by
    decide +kernel
  obtain ⟨halike, hreport, -, hlexemes, hlabels, -⟩ := tokenize_tables_agree setting hfirst hsecond
  refine ⟨?_, hraise, hreport, hlabels.trans ?_, by decide +kernel, hlexemes⟩
  · rcases halike with ⟨-, hok⟩ | ⟨e, herror, hsame⟩
    · cases hraise.symm.trans hok
    · cases hraise.symm.trans hsame
      exact herror
  · rw [show (Session.start { setting with table := .empty }).tokenize.1.tokens = _ from hbare]
    decide

end MiniLex
