import MiniLex.Proofs.Integrity
import MiniLex.Proofs.Scan
import Mathlib.Data.List.Forall2

/-!
Sessions that keep going. Such a session computes the one segmentation of its source: its tokens
and its diagnostics are those of the segments, in order and each at its place. A session that fails
fast does the same up to the first segment that stops it, and a strict and a lenient session differ
only in what they call an unknown character.
-/

namespace MiniLex

/-! ### Maximal munch -/

/-- Every source has exactly one segmentation. A fresh session that keeps going comes to the end
of the source with one token for each word, symbol and number that fits, and one diagnostic for
each number that does not fit and each unknown character. -/
theorem tokenize_maximal_munch (setting : Setting) (htable : setting.table.KeywordsOnly)
    (hkeep : setting.options.failFast = false) :
    (∃! segs, Segmentation setting.source segs) ∧
      ∀ segs, Segmentation setting.source segs →
        let run := (Session.start setting).tokenize
        run.2 = .ok run.1.tokens ∧
          run.1.cursor = ⟨setting.source.length, setting.source.countP isLineBreak⟩ ∧
          run.1.tokens = tokensFrom setting.table ⟨0, 0⟩ segs ∧
          run.1.diagnostics = setting.findingsFrom ⟨0, 0⟩ segs := by
  refine ⟨Segmentation.existsUnique setting.source, fun segs hsegs => ?_⟩
  obtain ⟨hresult, htokens, hdiagnostics, hcursor⟩ :=
    Session.tokenize_start_keepGoing setting htable hkeep hsegs
  refine ⟨hresult, ?_, htokens, hdiagnostics⟩
  rw [hcursor]
  simp [Cursor.advance]

/-- A word, a number that does not fit, an unknown character and a number with a leading zero,
with nothing between them but a line break. -/
theorem tokenize_maximal_munch_glued :
    let setting : Setting :=
      ⟨['x', '1', '\n', '3', '0', '0', '0', '0', '0', '0', '0', '0', '0', '@', '0', '7', ';'],
        ['a'], .default, { failFast := false }⟩
    let run := (Session.start setting).tokenize
    run.1.cursor = ⟨17, 1⟩ ∧
      run.1.tokens =
        [Token.identifier ['x', '1'] 0 0, Token.literal ['0', '7'] ⟨.int, 7⟩ 1 14,
          Token.symbol .semicolon 1 16] ∧
      run.1.diagnostics =
        [setting.errorAt ⟨3, 1⟩ (.overflow ['3', '0', '0', '0', '0', '0', '0', '0', '0', '0']),
          setting.skippedAt ⟨13, 1⟩ '@'] := by
  intro setting run
  obtain ⟨-, hrun⟩ := tokenize_maximal_munch setting KeywordTable.keywordsOnly_default rfl
  obtain ⟨-, hcursor, htokens, hdiagnostics⟩ :=
    hrun [.word ['x', '1'], .newline '\n',
      .digits ['3', '0', '0', '0', '0', '0', '0', '0', '0', '0'], .unknown '@',
      .digits ['0', '7'], .symbol .semicolon] (by decide +kernel)
  refine ⟨hcursor.trans (by decide), htokens.trans (by decide), hdiagnostics.trans (by decide)⟩

/-! ### Failing fast -/

namespace Setting

def withFailFast (setting : Setting) (failFast : Bool) : Setting :=
  { setting with options := { setting.options with failFast := failFast } }

variable {setting : Setting} {cursor : Cursor} {s : Segment}

theorem level_eq_warning_of_not_stops (hgo : ¬(setting.withFailFast true).Stops s)
    {d : Diagnostic} (hd : setting.finding? cursor s = some d) : d.level = .warning := by
  cases s with
  | digits text =>
      have hfits : ¬Literal.Overflows text := by simpa [Stops, withFailFast] using hgo
      simp [finding?, hfits] at hd
  | unknown c =>
      have hlenient : setting.options.strict = false := by simpa [Stops, withFailFast] using hgo
      simp only [finding?, hlenient] at hd
      cases hd
      rfl
  | _ => simp [finding?] at hd

theorem exists_errorAt_of_stops (htable : setting.table.KeywordsOnly)
    (hstop : (setting.withFailFast true).Stops s) {reason : Stop}
    (hreason : StopReason setting.table cursor s reason) :
    ∃ cause, reason = .lexical ⟨cause, cursor.line, cursor.position⟩ ∧
      setting.finding? cursor s = some (setting.errorAt cursor cause) := by
  cases hreason with
  | misuse hentry => exact absurd hstop ((setting.withFailFast true).not_stops_word htable _)
  | overflow => exact ⟨_, rfl, if_pos hstop.2⟩
  | unknown => exact ⟨_, rfl, if_pos hstop.2⟩

theorem level_of_mem_findingsFrom {segs : List Segment}
    (hgo : ∀ s ∈ segs, ¬(setting.withFailFast true).Stops s) (cursor : Cursor) :
    ∀ d ∈ setting.findingsFrom cursor segs, d.level = .warning := by
  intro d hd
  obtain ⟨p, hp, hfinding⟩ := List.mem_filterMap.mp hd
  exact level_eq_warning_of_not_stops (hgo p.2 (snd_mem_of_mem_placed hp)) hfinding

/-- A scan that keeps going reports that error behind the findings that both have. -/
theorem findingsFrom_of_stopsFirst (htable : setting.table.KeywordsOnly)
    {segs before : List Segment} (hfirst : (setting.withFailFast true).StopsFirst segs before s)
    {reason : Stop}
    (hreason : StopReason setting.table (cursor.advance (before.flatMap Segment.text)) s reason) :
    let place := cursor.advance (before.flatMap Segment.text)
    ∃ cause rest, reason = .lexical ⟨cause, place.line, place.position⟩ ∧
      setting.findingsFrom cursor segs =
        setting.findingsFrom cursor before ++ setting.errorAt place cause :: rest := by
  intro place
  obtain ⟨⟨after, rfl⟩, -, hstop⟩ := hfirst
  obtain ⟨cause, hcause, hfinding⟩ := exists_errorAt_of_stops htable hstop hreason
  refine ⟨cause, setting.findingsFrom (place.advance s.text) after, hcause, ?_⟩
  rw [findingsFrom_append, findingsFrom_cons, hfinding]
  rfl

end Setting

namespace Report

variable {report : Report}

theorem IsCounted.hasErrors_of_warnings (hcounted : report.IsCounted)
    (h : ∀ d ∈ report.entries, d.level = .warning) : report.hasErrors = false := by
  rw [Bool.eq_false_iff, ne_eq, hcounted.hasErrors_iff]
  rintro ⟨d, hd, herror⟩
  rw [h d hd] at herror
  contradiction

/-- The first error of a report, with the failure behind it, and the warnings before it. -/
theorem IsCounted.first_error (hcounted : report.IsCounted) {warnings rest : List Diagnostic}
    {d : Diagnostic} {failure : Failure} (hentries : report.entries = warnings ++ d :: rest)
    (h : ∀ d ∈ warnings, d.level = .warning) (hd : d.level = .error)
    (hfailure : d.failure = some failure) :
    report.hasErrors = true ∧ report.failures.head? = some failure ∧
      report.entries.takeWhile (·.level != .error) = warnings := by
  refine ⟨hcounted.hasErrors_iff.mpr ⟨d, by simp [hentries], hd⟩, ?_, ?_⟩
  · have hnone : warnings.filter (·.level == .error) = [] := by
      refine List.filter_eq_nil_iff.mpr fun w hw => ?_
      simp [h w hw]
    have hcons : report.ofLevel .error = d :: rest.filter (·.level == .error) := by
      rw [ofLevel, hentries, List.filter_append, hnone]
      simp [hd]
    simp [failures, hcons, hfailure]
  · rw [hentries]
    refine (takeWhile_append_of_boundary (fun w hw => ?_) ?_).1
    · simp [h w hw]
    · simp [hd]

end Report

/-- Without errors in the report of a session that keeps going, one that fails fast ends in the
same way. Otherwise it ends with the first of those errors, at its place, with the tokens before
that place and the warnings before that error. -/
theorem tokenize_failFast_agrees (setting : Setting) (htable : setting.table.KeywordsOnly) :
    let kept := (Session.start (setting.withFailFast false)).tokenize
    let fast := (Session.start (setting.withFailFast true)).tokenize
    (kept.1.report.hasErrors = false →
      kept.2 = .ok kept.1.tokens ∧ fast.2 = .ok kept.1.tokens ∧
        fast.1.tokens = kept.1.tokens ∧ fast.1.diagnostics = kept.1.diagnostics ∧
        fast.1.cursor = kept.1.cursor) ∧
    (kept.1.report.hasErrors = true →
      ∃ e, kept.1.report.failures.head? = some (.lexical e) ∧
        fast.2 = .error (.lexical e) ∧
        fast.1.tokens = kept.1.tokens.filter (·.position < e.position) ∧
        fast.1.diagnostics = kept.1.diagnostics.takeWhile (·.level != .error) ∧
        (∀ d ∈ fast.1.diagnostics, d.level = .warning) ∧
        fast.1.cursor = ⟨e.position, e.line⟩) := by
  intro kept fast
  have hsegs := segmentation_segments setting.source
  have hcounted : kept.1.report.IsCounted := Session.isCounted_tokenize_start _
  obtain ⟨hkept, hktokens, hkreport, hkcursor⟩ :=
    Session.tokenize_start_keepGoing (setting.withFailFast false) htable rfl hsegs
  rcases (setting.withFailFast true).forall_not_stops_or_stopsFirst (segments setting.source)
    with hgo | ⟨before, s, hfirst⟩
  · obtain ⟨hfast, hftokens, hfreport, hfcursor⟩ :=
      Session.tokenize_start_of_forall_not_stops (setting.withFailFast true) hsegs hgo
    have hwarnings : ∀ d ∈ kept.1.diagnostics, d.level = .warning :=
      hkreport ▸ Setting.level_of_mem_findingsFrom hgo ⟨0, 0⟩
    have htokens : fast.1.tokens = kept.1.tokens := hftokens.trans hktokens.symm
    refine ⟨fun _ => ⟨hkept, ?_, htokens, hfreport.trans hkreport.symm,
      hfcursor.trans hkcursor.symm⟩, fun herrors => ?_⟩
    · rw [hfast, htokens]
    · rw [hcounted.hasErrors_of_warnings hwarnings] at herrors
      contradiction
  · -- The segment that stops the fast session is where the other reports its first error.
    obtain ⟨⟨reason, hreason, hfast⟩, hftokens, hfreport, hfcursor⟩ :=
      Session.tokenize_start_of_stopsFirst (setting.withFailFast true) hsegs hfirst
    obtain ⟨cause, rest, rfl, hreport⟩ :=
      Setting.findingsFrom_of_stopsFirst htable hfirst hreason
    -- Up to there both make the same tokens, and the reports hold warnings alone.
    obtain ⟨⟨after, hsplit⟩, hbefore, -⟩ := hfirst
    have hshape : ∀ t ∈ before, t.IsShaped := fun t ht =>
      hsegs.isShaped t (hsplit ▸ List.mem_append_left _ ht)
    have hwarnings := Setting.level_of_mem_findingsFrom hbefore ⟨0, 0⟩
    have htokens : fast.1.tokens = kept.1.tokens.filter
        (·.position < (Cursor.advance ⟨0, 0⟩ (before.flatMap Segment.text)).position) := by
      rw [hftokens, hktokens, hsplit]
      exact (filter_tokensFrom_append hshape setting.table ⟨0, 0⟩ (s :: after)).symm
    obtain ⟨herrors, hfailures, htake⟩ :=
      hcounted.first_error (hkreport.trans hreport) hwarnings rfl rfl
    refine ⟨fun hclean => ?_, fun _ => ⟨_, hfailures, hfast, htokens,
      hfreport.trans htake.symm, hfreport ▸ hwarnings, hfcursor⟩⟩
    rw [herrors] at hclean
    contradiction

/-- A warning on the first line and two errors on the second. -/
theorem tokenize_failFast_agrees_two_errors :
    let setting : Setting :=
      ⟨['@', 'a', '\n', '3', '0', '0', '0', '0', '0', '0', '0', '0', '0', '-', '9', '9', '9', '9',
          '9', '9', '9', '9', '9', '9'],
        ['a'], .default, {}⟩
    let kept := (Session.start (setting.withFailFast false)).tokenize
    let fast := (Session.start (setting.withFailFast true)).tokenize
    kept.1.report.errorCount = 2 ∧
      fast.2 = .error (.lexical
        ⟨.overflow ['3', '0', '0', '0', '0', '0', '0', '0', '0', '0'], 1, 3⟩) ∧
      fast.1.tokens = [Token.identifier ['a'] 0 1] ∧
      fast.1.diagnostics = [setting.skippedAt ⟨0, 0⟩ '@'] ∧ fast.1.cursor = ⟨3, 1⟩ := by
  intro setting kept fast
  have herrors : kept.1.report.hasErrors = true := by decide +kernel
  have hhead : kept.1.report.failures.head? = some (.lexical
      ⟨.overflow ['3', '0', '0', '0', '0', '0', '0', '0', '0', '0'], 1, 3⟩) := by
    decide +kernel
  obtain ⟨e, hfirst, hfast, htokens, hreport, -, hcursor⟩ :=
    (tokenize_failFast_agrees setting KeywordTable.keywordsOnly_default).2 herrors
  cases hhead.symm.trans hfirst
  exact ⟨by decide +kernel, hfast, htokens.trans (by decide +kernel),
    hreport.trans (by decide +kernel), hcursor⟩

/-! ### Strict and lenient sessions -/

namespace Setting

def keepGoing (setting : Setting) (strict : Bool) : Setting :=
  { setting with options := { setting.options with strict := strict, failFast := false } }

/-- A diagnostic of a strict session and the one that a lenient session has in its place. A number
that does not fit is the same error in both; an unknown character, which stands at the place that
the error names, is only warned of in the lenient one. -/
inductive SameButSeverity (setting : Setting) : Diagnostic → Diagnostic → Prop
  | overflow {cursor : Cursor} {text : Text} :
      SameButSeverity setting
        ⟨.error, (LexicalCause.overflow text).message, some (setting.locate cursor),
          some (.lexical ⟨.overflow text, cursor.line, cursor.position⟩)⟩
        ⟨.error, (LexicalCause.overflow text).message, some (setting.locate cursor),
          some (.lexical ⟨.overflow text, cursor.line, cursor.position⟩)⟩
  | unknown {cursor : Cursor} {c : Char}
      (hchar : charAt? setting.source cursor.position = some c) :
      SameButSeverity setting
        ⟨.error, (LexicalCause.unknownCharacter [c]).message, some (setting.locate cursor),
          some (.lexical ⟨.unknownCharacter [c], cursor.line, cursor.position⟩)⟩
        ⟨.warning, "skipped ".toList ++ (LexicalCause.unknownCharacter [c]).message,
          some (setting.locate cursor), none⟩

variable {setting : Setting} {d d' : Diagnostic}

theorem SameButSeverity.level_eq_error (h : setting.SameButSeverity d d') : d.level = .error := by
  cases h with
  | overflow => rfl
  | unknown hchar => rfl

theorem forall₂_finding? {s : Segment} {cursor : Cursor}
    (hplace : charAt? setting.source cursor.position = s.text.head?) :
    List.Forall₂ setting.SameButSeverity
      ((setting.keepGoing true).finding? cursor s).toList
      ((setting.keepGoing false).finding? cursor s).toList := by
  cases s with
  | digits text =>
      by_cases hlarge : Literal.Overflows text
      · simp only [finding?, if_pos hlarge]
        exact .cons .overflow .nil
      · simp only [finding?, if_neg hlarge]
        exact .nil
  | unknown c => exact .cons (.unknown hplace) .nil
  | _ => exact .nil

theorem forall₂_findingsFrom {front rest : Text} {segs : List Segment}
    (hsegs : Segmentation rest segs) (hsource : setting.source = front ++ rest) :
    List.Forall₂ setting.SameButSeverity
      ((setting.keepGoing true).findingsFrom (Cursor.advance ⟨0, 0⟩ front) segs)
      ((setting.keepGoing false).findingsFrom (Cursor.advance ⟨0, 0⟩ front) segs) := by
  induction hsegs generalizing front with
  | nil => exact .nil
  | @cons s rest segs hshape hend hrest ih =>
      have hplace : charAt? setting.source (Cursor.advance ⟨0, 0⟩ front).position =
          s.text.head? := by
        rw [hsource, Cursor.advance, Int.zero_add, charAt?_length_append]
        obtain ⟨c, tail, htext, -⟩ := hshape.eq_ofLexeme
        simp [htext]
      rw [findingsFrom_cons, findingsFrom_cons, ← Cursor.advance_append]
      refine List.rel_append (forall₂_finding? hplace) (ih ?_)
      rw [hsource, List.append_assoc]

end Setting

/-- The strict report holds errors alone, as many as the lenient one holds diagnostics. -/
theorem Report.errorCount_eq_of_forall₂ {setting : Setting} {strict lenient : Report}
    (hstrict : strict.IsCounted) (hlenient : lenient.IsCounted)
    (h : List.Forall₂ setting.SameButSeverity strict.entries lenient.entries) :
    strict.errorCount = lenient.errorCount + lenient.warningCount := by
  have herrors : ∀ d ∈ strict.entries, d.level = .error := by
    have hpairs := h.imp fun d d' hd => And.intro hd.level_eq_error hd
    exact ((List.forall₂_and_left _ _).mp hpairs).1
  calc
    strict.errorCount = strict.entries.length := by
      rw [hstrict.errors]
      exact List.countP_eq_length.mpr fun d hd => by simp [herrors d hd]
    _ = lenient.entries.length := h.length_eq
    _ = lenient.errorCount + lenient.warningCount := hlenient.errorCount_add_warningCount.symm

/-- A strict and a lenient session that keep going both come to the end of their source, with the
same tokens and at the same place. Their reports agree diagnostic by diagnostic but for the severity
of unknown characters, so the strict one counts as an error what the lenient one counts at all. -/
theorem tokenize_strict_agrees (setting : Setting) (htable : setting.table.KeywordsOnly) :
    let strict := (Session.start (setting.keepGoing true)).tokenize
    let lenient := (Session.start (setting.keepGoing false)).tokenize
    strict.2 = .ok strict.1.tokens ∧ lenient.2 = .ok strict.1.tokens ∧
      lenient.1.tokens = strict.1.tokens ∧ lenient.1.cursor = strict.1.cursor ∧
      List.Forall₂ setting.SameButSeverity strict.1.diagnostics lenient.1.diagnostics ∧
      strict.1.report.errorCount =
        lenient.1.report.errorCount + lenient.1.report.warningCount := by
  intro strict lenient
  have hsegs := segmentation_segments setting.source
  obtain ⟨hstrict, hstokens, hsreport, hscursor⟩ :=
    Session.tokenize_start_keepGoing (setting.keepGoing true) htable rfl hsegs
  obtain ⟨hlenient, hltokens, hlreport, hlcursor⟩ :=
    Session.tokenize_start_keepGoing (setting.keepGoing false) htable rfl hsegs
  have htokens : lenient.1.tokens = strict.1.tokens := hltokens.trans hstokens.symm
  have hreport : List.Forall₂ setting.SameButSeverity strict.1.diagnostics
      lenient.1.diagnostics := by
    rw [hsreport, hlreport]
    exact Setting.forall₂_findingsFrom hsegs (List.nil_append _).symm
  refine ⟨hstrict, ?_, htokens, hlcursor.trans hscursor.symm, hreport,
    Report.errorCount_eq_of_forall₂ (Session.isCounted_tokenize_start _)
      (Session.isCounted_tokenize_start _) hreport⟩
  rw [hlenient, htokens]

/-- Unknown characters on both sides of a number that does not fit. -/
theorem tokenize_strict_agrees_interleaved :
    let setting : Setting :=
      ⟨['@', '3', '0', '0', '0', '0', '0', '0', '0', '0', '0', '\n', '?', 'x'], ['a'], .default, {}⟩
    let strict := (Session.start (setting.keepGoing true)).tokenize
    let lenient := (Session.start (setting.keepGoing false)).tokenize
    strict.2 = .ok [Token.identifier ['x'] 1 13] ∧ lenient.2 = strict.2 ∧
      strict.1.diagnostics.map (·.level) = [.error, .error, .error] ∧
      lenient.1.diagnostics.map (·.level) = [.warning, .error, .warning] ∧
      strict.1.report.errorCount =
        lenient.1.report.errorCount + lenient.1.report.warningCount := by
  intro setting strict lenient
  obtain ⟨hstrict, hlenient, -, -, -, hcount⟩ :=
    tokenize_strict_agrees setting KeywordTable.keywordsOnly_default
  have htokens : strict.1.tokens = [Token.identifier ['x'] 1 13] := by decide +kernel
  exact ⟨hstrict.trans (congrArg Except.ok htokens), hlenient.trans hstrict.symm,
    by decide +kernel, by decide +kernel, hcount⟩

end MiniLex
