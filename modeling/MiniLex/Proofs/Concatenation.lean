import MiniLex.Proofs.Repair
import MiniLex.Proofs.Shift

/-!
Scans of texts that are joined. If no word and no number runs on from the first text into the
second, the segments of the two together are the segments of each. What a session makes of them is
then what it makes of the first, followed by what it makes of the second, further on by the length
and the line breaks of the first.
-/

namespace MiniLex

/-- Two texts with a seam that no segment crosses: one of them is empty, or a character next to the
seam can go on with no word and no number. -/
def Text.IsSeam (first second : Text) : Prop :=
  ∀ c ∈ first.getLast?, ∀ d ∈ second.head?, ¬isIdentifierChar c ∨ ¬isIdentifierChar d

namespace Segment

theorem IsShaped.endsBefore_or {s : Segment} (h : s.IsShaped) (next : Option Char) :
    s.EndsBefore next ∨ ∀ c ∈ s.text, isIdentifierChar c := by
  cases s with
  | word text => exact .inr (IsWord.isIdentifierChar h)
  | digits text => exact .inr fun c hc => isIdentifierChar_of_isDigit (h.2 c hc)
  | _ => exact .inl trivial

theorem endsBefore_of_not_isIdentifierChar (s : Segment) {next : Option Char}
    (h : ∀ c ∈ next, ¬isIdentifierChar c) : s.EndsBefore next := by
  cases s with
  | word text => exact h
  | digits text => exact fun c hc hdigit => h c hc (isIdentifierChar_of_isDigit hdigit)
  | _ => trivial

end Segment

theorem Text.IsSeam.endsBefore {s : Segment} {second : Text} (hseam : Text.IsSeam s.text second)
    (hshape : s.IsShaped) : s.EndsBefore second.head? := by
  rcases hshape.endsBefore_or second.head? with hend | hword
  · exact hend
  · have hlast := List.getLast?_eq_some_getLast hshape.text_ne_nil
    have hc : isIdentifierChar (s.text.getLast hshape.text_ne_nil) :=
      hword _ (List.getLast_mem _)
    refine s.endsBefore_of_not_isIdentifierChar fun d hd => ?_
    rcases hseam _ hlast d hd with hno | hno
    · exact absurd hc hno
    · exact hno

/-- Segmentations of two texts make one of both, if there is a seam between them. -/
theorem Segmentation.append {first second : Text} {segs segs' : List Segment}
    (h : Segmentation first segs) (h' : Segmentation second segs')
    (hseam : Text.IsSeam first second) : Segmentation (first ++ second) (segs ++ segs') := by
  induction h with
  | nil => exact h'
  | @cons s rest segs hshape hend hrest ih =>
      rw [List.append_assoc, List.cons_append]
      -- Only the last segment of the first text comes to stand in front of the second.
      cases rest with
      | nil =>
          rw [List.append_nil] at hseam
          exact .cons hshape (hseam.endsBefore hshape) (ih (by simp [Text.IsSeam]))
      | cons c rest =>
          refine .cons hshape hend (ih ?_)
          rwa [Text.IsSeam, List.getLast?_append_of_ne_nil _ (List.cons_ne_nil c rest)] at hseam

theorem segments_append {first second : Text} (hseam : Text.IsSeam first second) :
    segments (first ++ second) = segments first ++ segments second :=
  ((segmentation_segments first).append (segmentation_segments second) hseam).eq_segments.symm

/-! ### Scans of both parts -/

namespace Setting

theorem scan_append_shift (setting : Setting) {first second : Text}
    (hseam : Text.IsSeam first second) (hgo : ∀ s ∈ segments first, ¬setting.Stops s) :
    let whole := { setting with source := first ++ second }.scan ⟨0, 0⟩ (segments (first ++ second))
    let front := { setting with source := first }.scan ⟨0, 0⟩ (segments first)
    let back := { setting with source := second }.scan ⟨0, 0⟩ (segments second)
    let offset := Cursor.advance ⟨0, 0⟩ first
    whole.tokens = front.tokens ++ back.tokens.map (Token.shift offset) ∧
      whole.diagnostics.map Diagnostic.unlocated =
        front.diagnostics.map Diagnostic.unlocated ++
          back.diagnostics.map (fun d => (d.shift offset).unlocated) := by
  intro whole front back offset
  let joined : Setting := { setting with source := first ++ second }
  have hfirst := segmentation_segments first
  have hjoined : ∀ s ∈ segments first, ¬joined.Stops s := hgo
  obtain ⟨-, -, hcursor, hstop⟩ := scan_of_forall_not_stops hfirst.isShaped hjoined ⟨0, 0⟩
  -- Nothing stops the first part, so the whole scan is that part and then the scan behind it.
  have hwhole : whole = (joined.scan ⟨0, 0⟩ (segments first)).andThen
      (joined.scan (offset.shift ⟨0, 0⟩) (segments second)) := by
    show joined.scan ⟨0, 0⟩ (segments (first ++ second)) = _
    rw [segments_append hseam, scan_append_eq_andThen hstop, hcursor, hfirst.flatMap_text,
      Cursor.shift_start]
  -- Over its own source alone the first part gives the same, and the second part does further on.
  obtain ⟨hftokens, hfdiagnostics, -⟩ := joined.scan_source first ⟨0, 0⟩ (segments first)
  obtain ⟨hbtokens, hbdiagnostics, -⟩ :=
    joined.scan_shift second offset ⟨0, 0⟩ (segments second)
  rw [hwhole]
  simp only [Scan.andThen, List.map_append]
  rw [hftokens, hbtokens, hfdiagnostics, hbdiagnostics]
  exact ⟨rfl, rfl⟩

end Setting

/-- The tokens of two texts with a seam between them are those of the first and then those of the
second, further on by the length and the line breaks of the first. The same holds of the
diagnostics, of which only the locations show more than the part that they are about. -/
theorem tokenize_append_eq (setting : Setting) (htable : setting.table.KeywordsOnly)
    (hkeep : setting.options.failFast = false) {first second : Text}
    (hseam : Text.IsSeam first second) :
    let run (source : Text) := (Session.start { setting with source := source }).tokenize
    let offset : Cursor := ⟨first.length, first.countP isLineBreak⟩
    (run first).2 = .ok (run first).1.tokens ∧ (run second).2 = .ok (run second).1.tokens ∧
      (run (first ++ second)).2 =
        .ok ((run first).1.tokens ++ (run second).1.tokens.map (Token.shift offset)) ∧
      (run (first ++ second)).1.diagnostics.map Diagnostic.unlocated =
        (run first).1.diagnostics.map Diagnostic.unlocated ++
          (run second).1.diagnostics.map (fun d => (d.shift offset).unlocated) := by
  intro run offset
  have hgiven (source : Text) : (run source).2 = .ok (run source).1.tokens :=
    (Session.tokenize_start_keepGoing { setting with source := source } htable hkeep
      (segmentation_segments source)).1
  have hoffset : Cursor.advance ⟨0, 0⟩ first = offset := by
    simp [Cursor.advance, offset]
  obtain ⟨htokens, hdiagnostics⟩ := setting.scan_append_shift hseam
    fun s _ => setting.not_stops_of_keepGoing htable hkeep s
  rw [hoffset] at htokens hdiagnostics
  have hscan (source : Text) := Session.tokenize_start { setting with source := source }
  refine ⟨hgiven first, hgiven second, ?_, ?_⟩
  · rw [hgiven (first ++ second), (hscan (first ++ second)).1, htokens, (hscan first).1,
      (hscan second).1]
  · rw [(hscan (first ++ second)).2.1, hdiagnostics, (hscan first).2.1, (hscan second).2.1]

/-- A seam between a character that is no part of a word and a number, with a line break and a
diagnostic on either side. -/
theorem tokenize_append_eq_glued :
    let digits := ['3', '0', '0', '0', '0', '0', '0', '0', '0', '0']
    let first := ['a', '1', '\n', '@']
    let second := ['7', '\n'] ++ digits
    let setting : Setting := ⟨[], ['f'], .default, { failFast := false }⟩
    let run (source : Text) := (Session.start { setting with source := source }).tokenize
    (run second).1.diagnostics.map (·.failure) = [some (.lexical ⟨.overflow digits, 1, 2⟩)] ∧
      (run (first ++ second)).2 =
        .ok [Token.identifier ['a', '1'] 0 0, Token.literal ['7'] ⟨.int, 7⟩ 1 4] ∧
      (run (first ++ second)).1.diagnostics.map (·.failure) =
        [none, some (.lexical ⟨.overflow digits, 2, 6⟩)] := by
  intro digits first second setting run
  have hseam : Text.IsSeam first second := by
    intro c hc d hd
    left
    cases hc
    decide
  have hfirst : (run first).1.tokens = [Token.identifier ['a', '1'] 0 0] := by decide +kernel
  have hsecond : (run second).1.tokens = [Token.literal ['7'] ⟨.int, 7⟩ 0 0] := by decide +kernel
  have hparts : (run first).1.diagnostics.map Diagnostic.unlocated ++
      (run second).1.diagnostics.map (fun d => (d.shift ⟨4, 1⟩).unlocated) =
        [(setting.skippedAt ⟨3, 1⟩ '@').unlocated,
          (setting.errorAt ⟨6, 2⟩ (.overflow digits)).unlocated] := by
    decide +kernel
  obtain ⟨-, -, hgiven, hreport⟩ :=
    tokenize_append_eq setting KeywordTable.keywordsOnly_default rfl hseam
  refine ⟨by decide +kernel, ?_, ?_⟩
  · rw [show (run (first ++ second)).2 = _ from hgiven, hfirst, hsecond]
    rfl
  · have hfailures := congrArg (List.map (·.failure)) (hreport.trans hparts)
    rw [List.map_map] at hfailures
    exact hfailures

end MiniLex
