import MiniLex.Proofs.Outcome
import MiniLex.Proofs.Integrity

/-!
Lines of what a fresh session makes. The session counts a line only at a segment that is a line
break. Since no other segment holds one, and every step stamps the place where its segment starts,
the line of a token, of an error and of the cursor is the number of line breaks before its position.
-/

namespace MiniLex

/-- The number of line breaks before a position. In a pair of a carriage return and a line feed
each of the two counts. -/
def Text.breaksBefore (source : Text) (position : Int) : Nat :=
  (Text.upTo source position).countP isLineBreak

/-- A place whose line is the number of line breaks before its position in the source. -/
def Cursor.IsCounted (cursor : Cursor) (source : Text) : Prop :=
  cursor.line = Text.breaksBefore source cursor.position

theorem Cursor.isCounted_advance (front back : Text) :
    (Cursor.advance ⟨0, 0⟩ front).IsCounted (front ++ back) := by
  have hposition : (Cursor.advance ⟨0, 0⟩ front).position = front.length := Int.zero_add _
  rw [IsCounted, hposition, Text.breaksBefore, Text.upTo_length_append]
  exact Int.zero_add _

theorem Segmentation.isCounted_of_mem_placed {source : Text} {segs : List Segment}
    (h : Segmentation source segs) {p : Cursor × Segment} (hp : p ∈ placed ⟨0, 0⟩ segs) :
    p.1.IsCounted source := by
  obtain ⟨front, back, rfl, hplace, -⟩ := h.exists_append_of_mem_placed hp
  rw [hplace]
  exact Cursor.isCounted_advance front _

theorem mem_placed_append {cursor : Cursor} {before : List Segment} {p : Cursor × Segment}
    (hp : p ∈ placed cursor before) (after : List Segment) :
    p ∈ placed cursor (before ++ after) := by
  rw [placed_append]
  exact List.mem_append_left _ hp

theorem Segment.line_of_token? {table : KeywordTable} {cursor : Cursor} {s : Segment}
    {t : Token} (h : s.token? table cursor = some t) : t.line = cursor.line := by
  rcases token?_cases h with ⟨_, _, _, _, rfl⟩ | ⟨_, _, _, rfl⟩ | ⟨_, _, _, rfl⟩ | ⟨_, _, rfl⟩
  · rfl
  · rfl
  · rfl
  · rfl

theorem StopReason.place_of_lexical {table : KeywordTable} {cursor : Cursor} {s : Segment}
    {e : LexicalError} (h : StopReason table cursor s (.lexical e)) :
    e.position = cursor.position ∧ e.line = cursor.line := by
  cases h with
  | overflow => exact ⟨rfl, rfl⟩
  | unknown => exact ⟨rfl, rfl⟩

namespace Setting

/-- What the setting has to report of a segment of its source, and where the segment stands. -/
def ReportsAt (setting : Setting) (d : Diagnostic) (place : Cursor) (s : Segment) : Prop :=
  (place, s) ∈ placed ⟨0, 0⟩ (segments setting.source) ∧ setting.finding? place s = some d

theorem place_of_finding? {setting : Setting} {cursor : Cursor} {s : Segment} {d : Diagnostic}
    (h : setting.finding? cursor s = some d) :
    d.location = some (setting.locate cursor) ∧
      ∀ failure, d.failure = some failure →
        ∃ cause, failure = .lexical ⟨cause, cursor.line, cursor.position⟩ := by
  rcases finding?_cases h with ⟨text, -, -, rfl⟩ | ⟨c, -, -, rfl⟩ | ⟨c, -, -, rfl⟩
  · exact ⟨rfl, fun failure hfailure => ⟨_, (Option.some.inj hfailure).symm⟩⟩
  · exact ⟨rfl, fun failure hfailure => ⟨_, (Option.some.inj hfailure).symm⟩⟩
  · exact ⟨rfl, fun failure hfailure => by contradiction⟩

end Setting

namespace Session

/-- A fresh session has dealt with the first segments of its source and stands behind them: with
all of them if it succeeds, and otherwise with those before the one that it raises at. -/
theorem exists_tokenize_start_eq (setting : Setting) :
    let run := (start setting).tokenize
    ∃ before after, segments setting.source = before ++ after ∧
      run.1.tokens = tokensFrom setting.table ⟨0, 0⟩ before ∧
      run.1.diagnostics = setting.findingsFrom ⟨0, 0⟩ before ∧
      run.1.cursor = Cursor.advance ⟨0, 0⟩ (before.flatMap Segment.text) ∧
      (∀ tokens, run.2 = .ok tokens → after = []) ∧
      ∀ reason, run.2 = .error reason → ∃ s, StopReason setting.table run.1.cursor s reason := by
  intro run
  have hsegs := segmentation_segments setting.source
  rcases setting.forall_not_stops_or_stopsFirst (segments setting.source) with
    hgo | ⟨before, s, hfirst⟩
  · obtain ⟨hresult, htokens, hreport, hcursor⟩ :=
      tokenize_start_of_forall_not_stops setting hsegs hgo
    refine ⟨segments setting.source, [], (List.append_nil _).symm, htokens, hreport, ?_,
      fun _ _ => rfl, fun reason herror => ?_⟩
    · rw [hcursor, hsegs.flatMap_text]
    · cases hresult.symm.trans herror
  · obtain ⟨⟨reason, hreason, hresult⟩, htokens, hreport, hcursor⟩ :=
      tokenize_start_of_stopsFirst setting hsegs hfirst
    -- The segment at the cursor is the one that the reason tells of.
    obtain ⟨⟨after, hsplit⟩, -, -⟩ := hfirst
    refine ⟨before, s :: after, hsplit, htokens, hreport, hcursor, fun tokens hok => ?_,
      fun reason' herror => ⟨s, ?_⟩⟩
    · cases hresult.symm.trans hok
    · cases hresult.symm.trans herror
      rw [hcursor]
      exact hreason

theorem exists_placed_of_mem_tokens {setting : Setting} {t : Token}
    (ht : t ∈ (start setting).tokenize.1.tokens) :
    ∃ p ∈ placed ⟨0, 0⟩ (segments setting.source), p.2.token? setting.table p.1 = some t := by
  obtain ⟨before, after, hsplit, htokens, -⟩ := exists_tokenize_start_eq setting
  rw [htokens] at ht
  obtain ⟨p, hp, htoken⟩ := List.mem_filterMap.mp ht
  rw [hsplit]
  exact ⟨p, mem_placed_append hp after, htoken⟩

theorem exists_reportsAt_of_mem_diagnostics {setting : Setting} {d : Diagnostic}
    (hd : d ∈ (start setting).tokenize.1.diagnostics) : ∃ place s, setting.ReportsAt d place s := by
  obtain ⟨before, after, hsplit, -, hreport, -⟩ := exists_tokenize_start_eq setting
  rw [hreport] at hd
  obtain ⟨p, hp, hfinding⟩ := List.mem_filterMap.mp hd
  refine ⟨p.1, p.2, ?_, hfinding⟩
  rw [hsplit]
  exact mem_placed_append hp after

theorem isCounted_cursor_tokenize (setting : Setting) :
    (start setting).tokenize.1.cursor.IsCounted setting.source := by
  obtain ⟨before, after, hsplit, -, -, hcursor, -⟩ := exists_tokenize_start_eq setting
  rw [hcursor, ← flatMap_text_segments setting.source, hsplit, List.flatMap_append]
  exact Cursor.isCounted_advance _ _

end Session

/-- Whatever the options and the table, and whether or not a fresh session raises, the line of
every token, of every error behind a diagnostic, of the error that it raises and of its cursor is
the number of line breaks in the source before the position of it. A diagnostic shows the line one
above that, as readers count from one. After a success all line breaks have been counted. -/
theorem tokenize_lines_count_breaks (setting : Setting) :
    let run := (Session.start setting).tokenize
    (∀ t ∈ run.1.tokens, t.line = Text.breaksBefore setting.source t.position) ∧
    (∀ d ∈ run.1.diagnostics, ∃ place s, setting.ReportsAt d place s ∧
      (∃ location, d.location = some location ∧ location = setting.locate place ∧
        location.line = Text.breaksBefore setting.source place.position + 1) ∧
      ∀ failure, d.failure = some failure → ∃ e, failure = .lexical e ∧
        e.position = place.position ∧
        e.line = Text.breaksBefore setting.source e.position) ∧
    (∀ e, run.2 = .error (.lexical e) →
      e.line = Text.breaksBefore setting.source e.position) ∧
    run.1.cursor.line = Text.breaksBefore setting.source run.1.cursor.position ∧
    ∀ tokens, run.2 = .ok tokens → run.1.cursor.line = setting.source.countP isLineBreak := by
  intro run
  have hsegs := segmentation_segments setting.source
  have hcounted := Session.isCounted_cursor_tokenize setting
  obtain ⟨before, after, hsplit, -, -, hcursor, hall, hstop⟩ :=
    Session.exists_tokenize_start_eq setting
  refine ⟨fun t ht => ?_, fun d hd => ?_, fun e hraise => ?_, hcounted, fun tokens hok => ?_⟩
  · obtain ⟨p, hp, htoken⟩ := Session.exists_placed_of_mem_tokens ht
    rw [Segment.line_of_token? htoken, Segment.position_of_token? htoken]
    exact hsegs.isCounted_of_mem_placed hp
  · obtain ⟨place, s, hreports⟩ := Session.exists_reportsAt_of_mem_diagnostics hd
    have hline : place.line = Text.breaksBefore setting.source place.position :=
      hsegs.isCounted_of_mem_placed hreports.1
    -- The location and the failure of a finding both show the place of its segment.
    obtain ⟨hlocation, hfailures⟩ := Setting.place_of_finding? hreports.2
    refine ⟨place, s, hreports, ⟨_, hlocation, rfl, congrArg (· + 1) hline⟩,
      fun failure hfailure => ?_⟩
    obtain ⟨cause, rfl⟩ := hfailures failure hfailure
    exact ⟨_, rfl, rfl, hline⟩
  · obtain ⟨s, hreason⟩ := hstop (.lexical e) hraise
    obtain ⟨hposition, hline⟩ := hreason.place_of_lexical
    rw [hline, hposition]
    exact hcounted
  · -- Nothing is left behind the cursor, so what it has gone over is the source.
    have hbefore : before.flatMap Segment.text = setting.source := by
      rw [← flatMap_text_segments setting.source, hsplit, hall tokens hok, List.append_nil]
    rw [hcursor, hbefore]
    exact Int.zero_add _

/-- A carriage return and a line feed in front of a character that is passed over and of a number
at which the session raises. -/
theorem tokenize_lines_count_breaks_pair :
    let setting : Setting :=
      ⟨['a', '\r', '\n', '@', '3', '0', '0', '0', '0', '0', '0', '0', '0', '0'], ['f'],
        .default, {}⟩
    let run := (Session.start setting).tokenize
    let e : LexicalError := ⟨.overflow ['3', '0', '0', '0', '0', '0', '0', '0', '0', '0'], 2, 4⟩
    run.2 = .error (.lexical e) ∧ e.line = Text.breaksBefore setting.source e.position ∧
      run.1.diagnostics = [setting.skippedAt ⟨3, 2⟩ '@'] ∧
      (∃ place s location, setting.ReportsAt (setting.skippedAt ⟨3, 2⟩ '@') place s ∧
        location = setting.locate place ∧
        location.line = Text.breaksBefore setting.source place.position + 1) ∧
      run.1.cursor = ⟨4, 2⟩ := by
  intro setting run e
  have hraise : run.2 = .error (.lexical e) := by decide +kernel
  have hreport : run.1.diagnostics = [setting.skippedAt ⟨3, 2⟩ '@'] := by decide +kernel
  obtain ⟨-, hdiagnostics, herror, -⟩ := tokenize_lines_count_breaks setting
  obtain ⟨place, s, hreports, ⟨location, -, hlocate, hline⟩, -⟩ :=
    hdiagnostics (setting.skippedAt ⟨3, 2⟩ '@') (by rw [hreport]; exact List.mem_singleton_self _)
  exact ⟨hraise, herror e hraise, hreport, ⟨place, s, location, hreports, hlocate, hline⟩,
    by decide +kernel⟩

end MiniLex
