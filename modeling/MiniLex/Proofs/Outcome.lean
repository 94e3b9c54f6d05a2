import MiniLex.Proofs.Scan

/-!
How a session ends and what it leaves. A fresh session succeeds or is stopped by the first segment
that stops it, for a reason that the segment tells; a session that has been stopped is what it would
be at the end of the source cut in front of that segment.
-/

namespace MiniLex

namespace Session

variable {setting : Setting} {segs : List Segment}

theorem tokenize_start_eq_error_iff (hsegs : Segmentation setting.source segs) {reason : Stop} :
    (start setting).tokenize.2 = .error reason ↔
      ∃ before s, setting.StopsFirst segs before s ∧
        StopReason setting.table (Cursor.advance ⟨0, 0⟩ (before.flatMap Segment.text)) s
          reason := by
  constructor
  · intro hresult
    rcases setting.forall_not_stops_or_stopsFirst segs with hgo | ⟨before, s, hfirst⟩
    · obtain ⟨hok, -⟩ := tokenize_start_of_forall_not_stops setting hsegs hgo
      rw [hok] at hresult
      contradiction
    · obtain ⟨⟨reason', hreason, herror⟩, -⟩ := tokenize_start_of_stopsFirst setting hsegs hfirst
      rw [herror] at hresult
      cases hresult
      exact ⟨before, s, hfirst, hreason⟩
  · rintro ⟨before, s, hfirst, hreason⟩
    obtain ⟨⟨reason', hreason', herror⟩, -⟩ := tokenize_start_of_stopsFirst setting hsegs hfirst
    rw [herror, hreason'.unique hreason]

theorem tokenize_start_eq_ok_iff (hsegs : Segmentation setting.source segs) :
    (∃ tokens, (start setting).tokenize.2 = .ok tokens) ↔ ∀ s ∈ segs, ¬setting.Stops s := by
  constructor
  · rintro ⟨tokens, hresult⟩
    rcases setting.forall_not_stops_or_stopsFirst segs with hgo | ⟨before, s, hfirst⟩
    · exact hgo
    · obtain ⟨⟨reason, -, herror⟩, -⟩ := tokenize_start_of_stopsFirst setting hsegs hfirst
      rw [herror] at hresult
      contradiction
  · intro hgo
    obtain ⟨hok, -⟩ := tokenize_start_of_forall_not_stops setting hsegs hgo
    exact ⟨_, hok⟩

/-! The three ways to fail. In each the reason for a stop tells the kind of segment. -/

theorem tokenize_start_eq_internal_iff (hsegs : Segmentation setting.source segs) {m : Misuse} :
    (start setting).tokenize.2 = .error (.internal m) ↔
      ∃ before word payload, setting.StopsFirst segs before (.word word) ∧
        setting.table.get? word = some payload ∧ m = .wrongPayload .keyword payload := by
  rw [tokenize_start_eq_error_iff hsegs]
  constructor
  · rintro ⟨before, s, hfirst, ⟨hentry⟩⟩
    exact ⟨before, _, _, hfirst, hentry, rfl⟩
  · rintro ⟨before, word, payload, hfirst, hentry, rfl⟩
    exact ⟨before, .word word, hfirst, .misuse hentry⟩

theorem tokenize_start_eq_overflow_iff (hsegs : Segmentation setting.source segs) {text : Text}
    {line position : Int} :
    (start setting).tokenize.2 = .error (.lexical ⟨.overflow text, line, position⟩) ↔
      ∃ before, setting.StopsFirst segs before (.digits text) ∧
        line = (before.flatMap Segment.text).countP isLineBreak ∧
        position = (before.flatMap Segment.text).length := by
  rw [tokenize_start_eq_error_iff hsegs]
  constructor
  · rintro ⟨before, s, hfirst, ⟨⟩⟩
    exact ⟨before, hfirst, Int.zero_add _, Int.zero_add _⟩
  · rintro ⟨before, hfirst, rfl, rfl⟩
    refine ⟨before, .digits text, hfirst, ?_⟩
    simpa [Cursor.advance] using StopReason.overflow

theorem tokenize_start_eq_unknown_iff (hsegs : Segmentation setting.source segs) {text : Text}
    {line position : Int} :
    (start setting).tokenize.2 = .error (.lexical ⟨.unknownCharacter text, line, position⟩) ↔
      ∃ before c, setting.StopsFirst segs before (.unknown c) ∧ text = [c] ∧
        line = (before.flatMap Segment.text).countP isLineBreak ∧
        position = (before.flatMap Segment.text).length := by
  rw [tokenize_start_eq_error_iff hsegs]
  constructor
  · rintro ⟨before, s, hfirst, ⟨⟩⟩
    exact ⟨before, _, hfirst, rfl, Int.zero_add _, Int.zero_add _⟩
  · rintro ⟨before, c, hfirst, rfl, rfl, rfl⟩
    refine ⟨before, .unknown c, hfirst, ?_⟩
    simpa [Cursor.advance] using StopReason.unknown

theorem exists_token?_of_mem_tokens (hsegs : Segmentation setting.source segs) {t : Token}
    (ht : t ∈ (start setting).tokenize.1.tokens) :
    ∃ (cursor : Cursor) (s : Segment), s.token? setting.table cursor = some t := by
  have hmem : ∃ segs, t ∈ tokensFrom setting.table ⟨0, 0⟩ segs := by
    rcases setting.forall_not_stops_or_stopsFirst segs with hgo | ⟨before, s, hfirst⟩
    · obtain ⟨-, htokens, -⟩ := tokenize_start_of_forall_not_stops setting hsegs hgo
      exact ⟨segs, htokens ▸ ht⟩
    · obtain ⟨-, htokens, -⟩ := tokenize_start_of_stopsFirst setting hsegs hfirst
      exact ⟨before, htokens ▸ ht⟩
  obtain ⟨segs, hmem⟩ := hmem
  obtain ⟨p, -, htoken⟩ := List.mem_filterMap.mp hmem
  exact ⟨p.1, p.2, htoken⟩

end Session

/-- The checks that stand behind a token: of its payload, of the spelling of a symbol and of the
range of a number. -/
structure Token.IsChecked (t : Token) : Prop where
  payload : Token.make t.kind t.text t.line t.position t.payload = .ok t
  symbol : ∀ s, t.kind = .symbol s → Token.ofSymbolKind t.kind t.line t.position = .ok t
  number : ∀ v, t.payload = .value v → Value.ofInt v.data = .ok v

theorem Segment.isChecked_of_token? {table : KeywordTable} {cursor : Cursor} {s : Segment}
    {t : Token} (h : s.token? table cursor = some t) : t.IsChecked := by
  have hpayload : Token.make t.kind t.text t.line t.position t.payload = .ok t := by
    simp [Token.make, Token.kind, Token.payload, Except.map]
  rcases token?_cases h with ⟨text, k, -, -, rfl⟩ | ⟨text, -, -, rfl⟩ | ⟨text, -, hfits, rfl⟩ |
    ⟨sym, -, rfl⟩
  · exact ⟨hpayload, by rintro s ⟨⟩, by rintro v ⟨⟩⟩
  · exact ⟨hpayload, by rintro s ⟨⟩, by rintro v ⟨⟩⟩
  · refine ⟨hpayload, by rintro s ⟨⟩, ?_⟩
    rintro v ⟨⟩
    exact Literal.ofInt_natCast (Int.not_lt.mp hfits)
  · exact ⟨hpayload, fun s hs => rfl, by rintro v ⟨⟩⟩

/-- The earliest segment that stops a fresh session decides how it ends: a word with a wrong entry
by a misuse, a number that does not fit or an unknown character by a lexical error that names it
and its place. Without one the session succeeds. With keywords alone in the table a misuse is out
of reach, and every token that was made passes its checks. -/
theorem tokenize_first_stop (setting : Setting) {segs : List Segment}
    (hsegs : Segmentation setting.source segs) :
    let run := (Session.start setting).tokenize
    (∀ m, run.2 = .error (.internal m) ↔
      ∃ before word payload, setting.StopsFirst segs before (.word word) ∧
        setting.table.get? word = some payload ∧ m = .wrongPayload .keyword payload) ∧
    (∀ text line position, run.2 = .error (.lexical ⟨.overflow text, line, position⟩) ↔
      ∃ before, setting.StopsFirst segs before (.digits text) ∧
        line = (before.flatMap Segment.text).countP isLineBreak ∧
        position = (before.flatMap Segment.text).length) ∧
    (∀ text line position, run.2 = .error (.lexical ⟨.unknownCharacter text, line, position⟩) ↔
      ∃ before c, setting.StopsFirst segs before (.unknown c) ∧ text = [c] ∧
        line = (before.flatMap Segment.text).countP isLineBreak ∧
        position = (before.flatMap Segment.text).length) ∧
    ((∃ tokens, run.2 = .ok tokens) ↔ ∀ s ∈ segs, ¬setting.Stops s) ∧
    (setting.table.KeywordsOnly → ∀ m, run.2 ≠ .error (.internal m)) ∧
    ∀ t ∈ run.1.tokens, t.IsChecked := by
  intro run
  refine ⟨fun m => Session.tokenize_start_eq_internal_iff hsegs,
    fun text line position => Session.tokenize_start_eq_overflow_iff hsegs,
    fun text line position => Session.tokenize_start_eq_unknown_iff hsegs,
    Session.tokenize_start_eq_ok_iff hsegs, fun htable m hmisuse => ?_, fun t ht => ?_⟩
  · obtain ⟨before, word, payload, hfirst, -⟩ :=
      (Session.tokenize_start_eq_internal_iff hsegs).mp hmisuse
    exact setting.not_stops_word htable word hfirst.2.2
  · obtain ⟨cursor, s, htoken⟩ := Session.exists_token?_of_mem_tokens hsegs ht
    exact Segment.isChecked_of_token? htoken

/-- A number that does not fit in front of a word with a wrong entry. A session that fails fast
ends at the number, one that keeps going ends at the word. -/
theorem tokenize_first_stop_number_then_word :
    let setting (failFast : Bool) : Setting :=
      ⟨['a', '\n', '3', '0', '0', '0', '0', '0', '0', '0', '0', '0', 'n'], ['a'],
        ⟨[(['n'], .number 5)]⟩, { failFast := failFast }⟩
    (Session.start (setting true)).tokenize.2 = .error (.lexical
        ⟨.overflow ['3', '0', '0', '0', '0', '0', '0', '0', '0', '0'], 1, 2⟩) ∧
      (Session.start (setting false)).tokenize.2 =
        .error (.internal (.wrongPayload .keyword (.number 5))) := by
  intro setting
  have hsegs : Segmentation (setting true).source
      [.word ['a'], .newline '\n',
        .digits ['3', '0', '0', '0', '0', '0', '0', '0', '0', '0'], .word ['n']] := by
    decide +kernel
  have hentry (failFast : Bool) : (setting failFast).table.get? ['a'] = none := rfl
  have hkeep : (setting false).options.failFast = false := rfl
  obtain ⟨-, hoverflow, -⟩ := tokenize_first_stop (setting true) hsegs
  obtain ⟨hmisuse, -⟩ := tokenize_first_stop (setting false) hsegs
  constructor
  · rw [hoverflow]
    refine ⟨[.word ['a'], .newline '\n'], ⟨⟨[.word ['n']], rfl⟩, ?_, rfl, by decide⟩,
      by decide, by decide⟩
    simp [Setting.Stops, hentry]
  · rw [hmisuse]
    refine ⟨[.word ['a'], .newline '\n',
      .digits ['3', '0', '0', '0', '0', '0', '0', '0', '0', '0']],
      ['n'], .number 5, ⟨⟨[], rfl⟩, ?_, .number 5, rfl, by simp⟩, rfl, rfl⟩
    simp [Setting.Stops, hentry, hkeep]

/-! ### What a stopped session leaves -/

theorem Text.upTo_length_append (first second : Text) :
    Text.upTo (first ++ second) first.length = first := by
  have hstop : ¬(first.length : Int) < 0 := by omega
  rw [Text.upTo, if_neg hstop, Int.toNat_natCast, List.take_left]

/-- The level and the message of a diagnostic, which do not depend on where it was made. -/
def Diagnostic.gist (d : Diagnostic) : Level × Text :=
  (d.level, d.message)

namespace Report

variable {report report' : Report}

theorem IsCounted.eq_countP_gist (h : report.IsCounted) :
    report.errorCount = (report.entries.map Diagnostic.gist).countP (·.1 == .error) ∧
      report.warningCount = (report.entries.map Diagnostic.gist).countP (·.1 == .warning) := by
  rw [List.countP_map, List.countP_map]
  exact ⟨h.errors, h.warnings⟩

theorem IsCounted.counts_eq_of_gist (h : report.IsCounted) (h' : report'.IsCounted)
    (hgist : report.entries.map Diagnostic.gist = report'.entries.map Diagnostic.gist) :
    report.errorCount = report'.errorCount ∧ report.warningCount = report'.warningCount := by
  obtain ⟨herrors, hwarnings⟩ := h.eq_countP_gist
  obtain ⟨herrors', hwarnings'⟩ := h'.eq_countP_gist
  rw [herrors, hwarnings, herrors', hwarnings', hgist]
  exact ⟨rfl, rfl⟩

end Report

namespace Setting

theorem finding?_map_gist (setting : Setting) (source : Text) (cursor : Cursor) (s : Segment) :
    ({ setting with source := source }.finding? cursor s).map Diagnostic.gist =
      (setting.finding? cursor s).map Diagnostic.gist := by
  cases s with
  | digits text =>
      by_cases hlarge : Literal.Overflows text
      · simp [finding?, hlarge, errorAt, Diagnostic.gist]
      · simp [finding?, hlarge]
  | unknown c =>
      cases hstrict : setting.options.strict with
      | false => simp [finding?, hstrict, skippedAt, Diagnostic.gist]
      | true => simp [finding?, hstrict, errorAt, Diagnostic.gist]
  | _ => rfl

theorem findingsFrom_map_gist (setting : Setting) (source : Text) (cursor : Cursor)
    (segs : List Segment) :
    ({ setting with source := source }.findingsFrom cursor segs).map Diagnostic.gist =
      (setting.findingsFrom cursor segs).map Diagnostic.gist := by
  simp only [findingsFrom, List.map_filterMap, finding?_map_gist]

end Setting

/-- If a fresh session raises, its cursor stands at the start of the segment that made it do so.
The source up to there is scanned without a stop, and everything that the two sessions have made is
the same: tokens, cursor, and the levels and messages of the diagnostics with their counts. -/
theorem tokenize_error_eq_upTo (setting : Setting) {reason : Stop}
    (hraise : (Session.start setting).tokenize.2 = .error reason) :
    let stopped := (Session.start setting).tokenize.1
    let cut := (Session.start { setting with
      source := Text.upTo setting.source stopped.cursor.position }).tokenize
    (∃ before s after, Segmentation setting.source (before ++ s :: after) ∧
        setting.StopsFirst (before ++ s :: after) before s ∧
        stopped.cursor = ⟨(before.flatMap Segment.text).length,
          (before.flatMap Segment.text).countP isLineBreak⟩ ∧
        StopReason setting.table stopped.cursor s reason) ∧
      cut.2 = .ok stopped.tokens ∧ cut.1.tokens = stopped.tokens ∧
      cut.1.cursor = stopped.cursor ∧
      cut.1.report.errorCount = stopped.report.errorCount ∧
      cut.1.report.warningCount = stopped.report.warningCount ∧
      cut.1.diagnostics.map (fun d => (d.level, d.message)) =
        stopped.diagnostics.map (fun d => (d.level, d.message)) := by
  intro stopped cut
  have hsegs := segmentation_segments setting.source
  obtain ⟨before, s, hfirst, hreason⟩ := (Session.tokenize_start_eq_error_iff hsegs).mp hraise
  obtain ⟨-, htokens, hreport, hcursor⟩ :=
    Session.tokenize_start_of_stopsFirst setting hsegs hfirst
  obtain ⟨⟨after, hsplit⟩, hgo, hstops⟩ := hfirst
  rw [hsplit] at hsegs
  have hplace : stopped.cursor = ⟨(before.flatMap Segment.text).length,
      (before.flatMap Segment.text).countP isLineBreak⟩ := by
    rw [hcursor]
    simp [Cursor.advance]
  -- The cut falls between two segments, so it leaves those before it as they were.
  have hupTo : Text.upTo setting.source stopped.cursor.position =
      before.flatMap Segment.text := by
    rw [hplace, ← hsegs.flatMap_text, List.flatMap_append]
    exact Text.upTo_length_append _ _
  have hcutSegs : Segmentation (Text.upTo setting.source stopped.cursor.position) before := by
    rw [hupTo]
    exact hsegs.split.1
  obtain ⟨hcut, hctokens, hcreport, hccursor⟩ :=
    Session.tokenize_start_of_forall_not_stops
      { setting with source := Text.upTo setting.source stopped.cursor.position } hcutSegs hgo
  have htokens' : cut.1.tokens = stopped.tokens := hctokens.trans htokens.symm
  have hgist : cut.1.diagnostics.map Diagnostic.gist = stopped.diagnostics.map Diagnostic.gist := by
    rw [hcreport, hreport, setting.findingsFrom_map_gist]
  have hcounts := (Session.isCounted_tokenize_start _).counts_eq_of_gist
    (Session.isCounted_tokenize_start setting) hgist
  refine ⟨⟨before, s, after, hsegs, ⟨⟨after, rfl⟩, hgo, hstops⟩, hplace, ?_⟩, ?_, htokens', ?_,
    ?_, ?_, hgist⟩
  · rw [hcursor]
    exact hreason
  · rw [hcut, htokens']
  · calc
      cut.1.cursor = Cursor.advance ⟨0, 0⟩ (Text.upTo setting.source stopped.cursor.position) :=
        hccursor
      _ = Cursor.advance ⟨0, 0⟩ (before.flatMap Segment.text) := by rw [hupTo]
      _ = stopped.cursor := hcursor.symm
  · exact hcounts.1
  · exact hcounts.2

/-- A word with a wrong entry directly behind a number, which ends there with or without it. -/
theorem tokenize_error_eq_upTo_glued :
    let setting : Setting := ⟨['@', '\n', '1', '2', 'a', 'b', ';'], ['a'],
      ⟨[(['a', 'b'], .number 5)]⟩, {}⟩
    let stopped := (Session.start setting).tokenize
    let cut := (Session.start { setting with source := ['@', '\n', '1', '2'] }).tokenize
    stopped.2 = .error (.internal (.wrongPayload .keyword (.number 5))) ∧
      stopped.1.cursor = ⟨4, 1⟩ ∧
      cut.2 = .ok [Token.literal ['1', '2'] ⟨.int, 12⟩ 1 2] ∧
      stopped.1.tokens = [Token.literal ['1', '2'] ⟨.int, 12⟩ 1 2] ∧
      cut.1.report.warningCount = stopped.1.report.warningCount := by
  intro setting stopped cut
  have hraise : stopped.2 = .error (.internal (.wrongPayload .keyword (.number 5))) := by
    decide +kernel
  have hcursor : stopped.1.cursor = ⟨4, 1⟩ := by decide +kernel
  have htokens : stopped.1.tokens = [Token.literal ['1', '2'] ⟨.int, 12⟩ 1 2] := by
    decide +kernel
  obtain ⟨-, hcut, -, -, -, hwarnings, -⟩ := tokenize_error_eq_upTo setting hraise
  have hsource : Text.upTo setting.source stopped.1.cursor.position = ['@', '\n', '1', '2'] := by
    rw [hcursor]
    rfl
  rw [hsource] at hcut hwarnings
  exact ⟨hraise, hcursor, hcut.trans (congrArg Except.ok htokens), htokens, hwarnings⟩

end MiniLex
