import MiniLex.Proofs.Place
import MiniLex.Proofs.Session

/-!
The integrity of what a session holds. However the cursor was moved and the setting changed between
the calls, every token is a lexeme of the source at its place, as long as it can be and with the
payload of its kind, and the counts of the diagnostics are right.
-/

namespace MiniLex

/-- Whether a lexeme of a kind is as long as it can be with `next` behind it. -/
def TokenKind.EndsBefore (kind : TokenKind) (next : Option Char) : Prop :=
  match kind with
  | keyword | identifier => ∀ c ∈ next, ¬isIdentifierChar c
  | literal => ∀ c ∈ next, ¬c.isDigit
  | symbol _ => True

/-- The shape and the payload that a token has by its kind. -/
structure Token.IsShaped (t : Token) : Prop where
  keyword : t.kind = .keyword → IsWord t.text
  identifier : t.kind = .identifier → IsWord t.text ∧ t.payload = .text t.text
  literal : t.kind = .literal → IsDigitRun t.text ∧
    ∃ n : Int, t.payload = .value ⟨.int, n⟩ ∧ n = Text.digitsValue t.text ∧
      0 ≤ n ∧ n ≤ Value.int32Max
  symbol : ∀ s, t.kind = .symbol s →
    (∃ c, t.text = [c] ∧ Symbol.ofChar? c = some s) ∧ t.payload = .absent

/-- A token that stands in a source at its place and cannot be longer there. -/
structure Token.IsLexemeOf (t : Token) (source : Text) : Prop extends t.IsShaped where
  position_nonneg : 0 ≤ t.position
  end_le : t.position + t.length ≤ source.length
  text_eq : (source.drop t.position.toNat).take t.length = t.text
  length_pos : 1 ≤ t.length
  maximal : t.kind.EndsBefore (charAt? source (t.position + t.length))

/-! ### Tokens of segments -/

section

variable {table : KeywordTable} {cursor : Cursor} {s : Segment} {t : Token}

theorem Segment.text_of_token? (h : s.token? table cursor = some t) : t.text = s.text := by
  rcases token?_cases h with ⟨_, _, rfl, _, rfl⟩ | ⟨_, rfl, _, rfl⟩ | ⟨_, rfl, _, rfl⟩ |
    ⟨_, rfl, rfl⟩
  · rfl
  · rfl
  · rfl
  · rfl

theorem Segment.EndsBefore.kind_of_token? {next : Option Char} (hend : s.EndsBefore next)
    (h : s.token? table cursor = some t) : t.kind.EndsBefore next := by
  rcases token?_cases h with ⟨_, _, rfl, _, rfl⟩ | ⟨_, rfl, _, rfl⟩ | ⟨_, rfl, _, rfl⟩ |
    ⟨_, rfl, rfl⟩
  · exact hend
  · exact hend
  · exact hend
  · trivial

theorem Segment.IsShaped.of_token? (hshape : s.IsShaped) (h : s.token? table cursor = some t) :
    t.IsShaped := by
  rcases token?_cases h with ⟨text, k, rfl, -, rfl⟩ | ⟨text, rfl, -, rfl⟩ |
    ⟨text, rfl, hfits, rfl⟩ | ⟨sym, rfl, rfl⟩
  · exact ⟨fun _ => hshape, by rintro ⟨⟩, by rintro ⟨⟩, by rintro s ⟨⟩⟩
  · exact ⟨by rintro ⟨⟩, fun _ => ⟨hshape, rfl⟩, by rintro ⟨⟩, by rintro s ⟨⟩⟩
  · exact ⟨by rintro ⟨⟩, by rintro ⟨⟩, fun _ => ⟨hshape, _, rfl, rfl, Int.natCast_nonneg _,
      Int.not_lt.mp hfits⟩, by rintro s ⟨⟩⟩
  · refine ⟨by rintro ⟨⟩, by rintro ⟨⟩, by rintro ⟨⟩, ?_⟩
    rintro s ⟨⟩
    exact ⟨⟨sym.char, rfl, Symbol.ofChar?_char sym⟩, rfl⟩

theorem Segment.StandsAt.isLexemeOf_of_token? {source : Text}
    (hstands : s.StandsAt source cursor.position) (h : s.token? table cursor = some t) :
    t.IsLexemeOf source := by
  obtain ⟨front, back, hsource, hplace, hend⟩ := hstands.exists_append
  have hposition : t.position = cursor.position := position_of_token? h
  have htext : t.text = s.text := text_of_token? h
  have hlength : t.length = s.text.length := congrArg List.length htext
  refine ⟨hstands.shaped.of_token? h, ?_, ?_, ?_, ?_, ?_⟩
  · exact hposition ▸ hstands.offset_nonneg
  · simp only [hposition, hplace, hlength, hsource, List.length_append]
    omega
  · rw [hposition, hplace, hlength, Int.toNat_natCast, hsource, List.drop_left, List.take_left,
      htext]
  · rw [hlength]
    exact List.length_pos_iff.mpr hstands.shaped.text_ne_nil
  · rw [hposition, hlength]
    exact hstands.ends.kind_of_token? h

end

/-! ### Scans from any place -/

namespace Setting

variable {setting : Setting} {cursor : Cursor} {segs : List Segment}

/-- What a scan gives is what its first segments have, up to the one that stops it. -/
theorem exists_scan_eq_tokensFrom (setting : Setting) (hshape : ∀ s ∈ segs, s.IsShaped)
    (cursor : Cursor) :
    ∃ before after, segs = before ++ after ∧
      (setting.scan cursor segs).tokens = tokensFrom setting.table cursor before ∧
      (setting.scan cursor segs).diagnostics = setting.findingsFrom cursor before := by
  rcases setting.forall_not_stops_or_stopsFirst segs with hgo | ⟨before, s, hfirst⟩
  · obtain ⟨htokens, hdiagnostics, -⟩ := scan_of_forall_not_stops hshape hgo cursor
    exact ⟨segs, [], (List.append_nil segs).symm, htokens, hdiagnostics⟩
  · obtain ⟨htokens, hdiagnostics, -⟩ := scan_of_stopsFirst hshape hfirst cursor
    obtain ⟨⟨after, hsplit⟩, -⟩ := hfirst
    exact ⟨before, s :: after, hsplit, htokens, hdiagnostics⟩

theorem isSome_failure_of_finding? {s : Segment} {d : Diagnostic}
    (h : setting.finding? cursor s = some d) (herror : d.level = .error) : d.failure.isSome := by
  cases s with
  | digits text =>
      obtain ⟨-, hd⟩ := Option.ite_none_right_eq_some.mp h
      cases hd
      rfl
  | unknown c =>
      cases hstrict : setting.options.strict with
      | false =>
          simp only [finding?, hstrict] at h
          cases h
          contradiction
      | true =>
          simp only [finding?, hstrict] at h
          cases h
          rfl
  | _ => contradiction

theorem isSome_failure_of_mem_scan_diagnostics (hshape : ∀ s ∈ segs, s.IsShaped)
    {d : Diagnostic} (hd : d ∈ (setting.scan cursor segs).diagnostics)
    (herror : d.level = .error) : d.failure.isSome := by
  obtain ⟨before, after, -, -, hdiagnostics⟩ := setting.exists_scan_eq_tokensFrom hshape cursor
  rw [hdiagnostics] at hd
  obtain ⟨p, -, hfinding⟩ := List.mem_filterMap.mp hd
  exact isSome_failure_of_finding? hfinding herror

end Setting

/-! ### Sessions -/

namespace Session

variable {s : Session} {source : Text}

theorem isLexemeOf_of_mem_scan_tokens {t : Token} (ht : t ∈ s.scan.tokens) :
    t.IsLexemeOf s.setting.source := by
  obtain ⟨before, after, hsplit, htokens, -⟩ := s.setting.exists_scan_eq_tokensFrom
    (segmentation_segments s.remaining).isShaped s.cursor
  rw [scan, htokens] at ht
  obtain ⟨p, hp, htoken⟩ := List.mem_filterMap.mp ht
  have hmem : p ∈ placed s.cursor (segments s.remaining) := by
    rw [hsplit, placed_append]
    exact List.mem_append_left _ hp
  exact (standsAt_of_mem_placed hmem).isLexemeOf_of_token? htoken

/-- The invariant of a session over a source: its tokens are lexemes of the source, its errors come
with the failures behind them, and the counters of its report are right. -/
structure IsSound (s : Session) (source : Text) : Prop where
  source_eq : s.setting.source = source
  tokens : ∀ t ∈ s.tokens, t.IsLexemeOf source
  diagnostics : ∀ d ∈ s.diagnostics, d.level = .error → d.failure.isSome
  counted : s.report.IsCounted

theorem IsSound.act (h : s.IsSound source) (action : Action) : (s.act action).IsSound source := by
  cases action with
  | tokenize =>
      rw [Session.act]
      cases houtcome : s.outcome with
      | some o =>
          rw [tokenize_of_outcome houtcome]
          exact h
      | none =>
          obtain ⟨-, htokens, hdiagnostics, -⟩ := tokenize_of_outcome_eq_none houtcome
          refine ⟨?_, fun t ht => ?_, fun d hd herror => ?_, isCounted_tokenize h.counted⟩
          · rw [setting_tokenize, h.source_eq]
          · rw [htokens] at ht
            rcases List.mem_append.mp ht with ht | ht
            · exact h.tokens t ht
            · exact h.source_eq ▸ isLexemeOf_of_mem_scan_tokens ht
          · rw [hdiagnostics] at hd
            rcases List.mem_append.mp hd with hd | hd
            · exact h.diagnostics d hd herror
            · exact Setting.isSome_failure_of_mem_scan_diagnostics
                (segmentation_segments s.remaining).isShaped hd herror
  | seek position line => exact ⟨h.source_eq, h.tokens, h.diagnostics, h.counted⟩
  | setOptions options => exact ⟨h.source_eq, h.tokens, h.diagnostics, h.counted⟩
  | setKeyword word payload => exact ⟨h.source_eq, h.tokens, h.diagnostics, h.counted⟩

theorem isSound_run (setting : Setting) (actions : List Action) :
    ((start setting).run actions).IsSound setting.source := by
  refine run_invariant (P := (IsSound · setting.source)) (fun s action h => h.act action)
    ⟨rfl, ?_, ?_, Report.isCounted_empty⟩ actions
  · intro t ht
    cases ht
  · intro d hd
    cases hd

end Session

namespace Report.IsCounted

variable {report : Report}

theorem errorCount_eq (h : report.IsCounted) :
    report.errorCount = (report.ofLevel .error).length :=
  h.errors.trans List.countP_eq_length_filter

theorem warningCount_eq (h : report.IsCounted) :
    report.warningCount = (report.ofLevel .warning).length :=
  h.warnings.trans List.countP_eq_length_filter

theorem errorCount_eq_length_failures (h : report.IsCounted)
    (hfailure : ∀ d ∈ report.entries, d.level = .error → d.failure.isSome) :
    report.errorCount = report.failures.length := by
  rw [h.errorCount_eq, failures, List.length_filterMap_eq_countP]
  refine (List.countP_eq_length.mpr fun d hd => ?_).symm
  obtain ⟨hmem, hlevel⟩ := List.mem_filter.mp hd
  exact hfailure d hmem (by simpa using hlevel)

theorem errorCount_add_warningCount (h : report.IsCounted) :
    report.errorCount + report.warningCount = report.entries.length := by
  have hother : (fun d : Diagnostic => d.level == .warning) =
      fun d => decide ¬(d.level == .error) = true := by
    funext d
    cases d.level <;> rfl
  rw [h.errors, h.warnings, hother, ← List.length_eq_countP_add_countP]

end Report.IsCounted

/-- After any run of actions, every token of a session is a lexeme of the source at its place, as
long as it can be and with the payload of its kind. The error count is the number of errors and of
the failures behind them, the warning count is the number of warnings, and there are no other
diagnostics. -/
theorem session_integrity (setting : Setting) (actions : List Action) :
    let s := (Session.start setting).run actions
    (∀ t ∈ s.tokens, t.IsLexemeOf setting.source) ∧
      s.report.errorCount = (s.report.ofLevel .error).length ∧
      s.report.errorCount = s.report.failures.length ∧
      s.report.warningCount = (s.report.ofLevel .warning).length ∧
      s.report.errorCount + s.report.warningCount = s.diagnostics.length := by
  intro s
  have hsound := Session.isSound_run setting actions
  exact ⟨hsound.tokens, hsound.counted.errorCount_eq,
    hsound.counted.errorCount_eq_length_failures hsound.diagnostics,
    hsound.counted.warningCount_eq, hsound.counted.errorCount_add_warningCount⟩

/-- Two calls that a word with a wrong entry stops, the second from within the first word. -/
theorem session_integrity_within_word :
    let setting : Setting := ⟨['a', 'b', ' ', '7', '@', 'n'], ['a'], ⟨[(['n'], .number 5)]⟩, {}⟩
    let s := (Session.start setting).run [.tokenize, .seek (some 1) none, .tokenize]
    s.tokens = [Token.identifier ['a', 'b'] 0 0, Token.literal ['7'] ⟨.int, 7⟩ 0 3,
        Token.identifier ['b'] 0 1, Token.literal ['7'] ⟨.int, 7⟩ 0 3] ∧
      (Token.identifier ['b'] 0 1).IsLexemeOf setting.source ∧
      s.report.errorCount + s.report.warningCount = 2 := by
  intro setting s
  have htokens : s.tokens = [Token.identifier ['a', 'b'] 0 0, Token.literal ['7'] ⟨.int, 7⟩ 0 3,
      Token.identifier ['b'] 0 1, Token.literal ['7'] ⟨.int, 7⟩ 0 3] := by
    decide +kernel
  have hmem : Token.identifier ['b'] 0 1 ∈ s.tokens := by
    rw [htokens]
    decide
  obtain ⟨hlexemes, -, -, -, hcounts⟩ :=
    session_integrity setting [.tokenize, .seek (some 1) none, .tokenize]
  exact ⟨htokens, hlexemes _ hmem, hcounts.trans (by decide +kernel)⟩

end MiniLex
