import MiniLex.Proofs.Scan

/-!
Recovery from errors. The faulty segments of a source can be replaced by blanks of the same length
without any effect on the other segments, so a session that keeps going gives the tokens of the
source without its faults.
-/

namespace MiniLex

namespace Segment

/-- The segments that are reported and have no token. -/
def IsFault : Segment → Prop
  | digits text => Literal.Overflows text
  | unknown _ => True
  | _ => False

instance : DecidablePred IsFault
  | digits text => inferInstanceAs (Decidable (Literal.Overflows text))
  | unknown _ => isTrue trivial
  | blank _ | newline _ | word _ | symbol _ => isFalse id

def blanked (s : Segment) : Text :=
  if s.IsFault then List.replicate s.text.length ' ' else s.text

/-- The segments of `blanked`. -/
def blanks (s : Segment) : List Segment :=
  if s.IsFault then List.replicate s.text.length (blank ' ') else [s]

variable {s : Segment}

theorem IsFault.token?_eq_none (h : s.IsFault) (table : KeywordTable) (cursor : Cursor) :
    s.token? table cursor = none := by
  cases s with
  | digits text => exact if_pos h
  | unknown c => rfl
  | _ => exact h.elim

/-- A fault holds no line break, so spaces in its place end where it ends. -/
theorem IsShaped.advance_blanked (hshape : s.IsShaped) (cursor : Cursor) :
    cursor.advance s.blanked = cursor.advance s.text := by
  by_cases hfault : s.IsFault
  · have hbreaks : s.text.countP isLineBreak = 0 := by
      have heq := hshape.breaks_eq
      cases s with
      | digits text => simpa [breaks] using heq.symm
      | unknown c => simpa [breaks] using heq.symm
      | _ => exact hfault.elim
    have hspaces : (List.replicate s.text.length ' ').countP isLineBreak = 0 := by
      simp [List.countP_replicate, isLineBreak]
    simp [blanked, hfault, Cursor.advance, hbreaks, hspaces]
  · rw [blanked, if_neg hfault]

theorem flatMap_text_blanks (s : Segment) : s.blanks.flatMap text = s.blanked := by
  unfold blanks blanked
  split
  · simp [text, List.flatMap_replicate]
  · simp

theorem not_isFault_of_mem_blanks {t : Segment} (ht : t ∈ s.blanks) : ¬t.IsFault := by
  unfold blanks at ht
  split at ht
  · rw [List.eq_of_mem_replicate ht]
    exact id
  · next hfault =>
      rw [List.mem_singleton.mp ht]
      exact hfault

theorem EndsBefore.of_head? {next other : Option Char} (h : s.EndsBefore next)
    (hother : other = next ∨ other = some ' ') : s.EndsBefore other := by
  rcases hother with rfl | rfl
  · exact h
  · cases s with
    | word text => simp [EndsBefore, not_isIdentifierChar_space]
    | digits text => simp [EndsBefore]
    | _ => trivial

end Segment

namespace Segmentation

theorem replicate_blank {rest : Text} {segs : List Segment} (h : Segmentation rest segs)
    (n : Nat) :
    Segmentation (List.replicate n ' ' ++ rest) (List.replicate n (.blank ' ') ++ segs) := by
  induction n with
  | zero => exact h
  | succ n ih => exact Segmentation.cons (s := .blank ' ') (.inl rfl) trivial ih

theorem head?_blanked {rest : Text} {segs : List Segment} (h : Segmentation rest segs) :
    (segs.flatMap Segment.blanked).head? = rest.head? ∨
      (segs.flatMap Segment.blanked).head? = some ' ' := by
  cases h with
  | nil => exact .inl rfl
  | @cons s rest segs hshape hend hrest =>
      obtain ⟨c, tail, htext, -⟩ := hshape.eq_ofLexeme
      by_cases hfault : s.IsFault
      · right
        simp [Segment.blanked, hfault, htext, List.replicate_succ]
      · left
        simp [Segment.blanked, hfault, htext]

theorem blanked {source : Text} {segs : List Segment} (h : Segmentation source segs) :
    Segmentation (segs.flatMap Segment.blanked) (segs.flatMap Segment.blanks) := by
  induction h with
  | nil => exact .nil
  | @cons s rest segs hshape hend hrest ih =>
      rw [List.flatMap_cons, List.flatMap_cons]
      by_cases hfault : s.IsFault
      · rw [Segment.blanked, Segment.blanks, if_pos hfault, if_pos hfault]
        exact ih.replicate_blank _
      · -- The character behind `s` may now be a blank, which neither a word nor a number takes in.
        rw [Segment.blanked, Segment.blanks, if_neg hfault, if_neg hfault]
        exact .cons hshape (hend.of_head? hrest.head?_blanked) ih

end Segmentation

theorem Segment.tokensFrom_blanks (s : Segment) (table : KeywordTable) (cursor : Cursor) :
    tokensFrom table cursor s.blanks = (s.token? table cursor).toList := by
  by_cases hfault : s.IsFault
  · rw [hfault.token?_eq_none, blanks, if_pos hfault]
    refine List.filterMap_eq_nil_iff.mpr fun p hp => ?_
    rw [List.eq_of_mem_replicate (snd_mem_of_mem_placed hp)]
    rfl
  · rw [blanks, if_neg hfault, tokensFrom_cons]
    simp [tokensFrom, placed]

/-- Blanks have no tokens and keep the places of what follows. -/
theorem tokensFrom_flatMap_blanks {segs : List Segment} (hshape : ∀ s ∈ segs, s.IsShaped)
    (table : KeywordTable) (cursor : Cursor) :
    tokensFrom table cursor (segs.flatMap Segment.blanks) = tokensFrom table cursor segs := by
  induction segs generalizing cursor with
  | nil => rfl
  | cons s segs ih =>
      obtain ⟨hs, hshape⟩ := List.forall_mem_cons.mp hshape
      rw [List.flatMap_cons, tokensFrom_append, Segment.flatMap_text_blanks, hs.advance_blanked,
        Segment.tokensFrom_blanks, ih hshape, tokensFrom_cons]

theorem advance_flatMap_blanked {segs : List Segment} (hshape : ∀ s ∈ segs, s.IsShaped)
    (cursor : Cursor) :
    cursor.advance (segs.flatMap Segment.blanked) =
      cursor.advance (segs.flatMap Segment.text) := by
  induction segs generalizing cursor with
  | nil => rfl
  | cons s segs ih =>
      obtain ⟨hs, hshape⟩ := List.forall_mem_cons.mp hshape
      rw [List.flatMap_cons, List.flatMap_cons, Cursor.advance_append, Cursor.advance_append,
        hs.advance_blanked, ih hshape]

namespace Setting

variable {s : Segment}

theorem not_stops_of_not_isFault (setting : Setting) (htable : setting.table.KeywordsOnly)
    (h : ¬s.IsFault) : ¬setting.Stops s := by
  cases s with
  | word text => exact setting.not_stops_word htable text
  | digits text => exact fun hstop => h hstop.2
  | unknown c => exact absurd trivial h
  | _ => exact id

/-- Exactly the faults are reported, each at its place. -/
theorem finding?_map_location (setting : Setting) (cursor : Cursor) (s : Segment) :
    (setting.finding? cursor s).map (·.location) =
      if s.IsFault then some (some (setting.locate cursor)) else none := by
  cases s with
  | digits text =>
      by_cases hlarge : Literal.Overflows text
      · simp [finding?, Segment.IsFault, hlarge, errorAt]
      · simp [finding?, Segment.IsFault, hlarge]
  | unknown c =>
      cases hstrict : setting.options.strict with
      | false => simp [finding?, Segment.IsFault, hstrict, skippedAt]
      | true => simp [finding?, Segment.IsFault, hstrict, errorAt]
  | _ => simp [finding?, Segment.IsFault]

theorem findingsFrom_map_location (setting : Setting) (cursor : Cursor) (segs : List Segment) :
    (setting.findingsFrom cursor segs).map (·.location) =
      ((placed cursor segs).filter (·.2.IsFault)).map fun p => some (setting.locate p.1) := by
  induction segs generalizing cursor with
  | nil => rfl
  | cons s segs ih =>
      rw [findingsFrom_cons, List.map_append, ih, placed, List.filter_cons, ← Option.toList_map,
        finding?_map_location]
      by_cases hfault : s.IsFault
      · simp [hfault]
      · simp [hfault]

theorem findingsFrom_eq_nil (setting : Setting) (cursor : Cursor) {segs : List Segment}
    (h : ∀ s ∈ segs, ¬s.IsFault) : setting.findingsFrom cursor segs = [] := by
  have hnone : (placed cursor segs).filter (·.2.IsFault) = [] := by
    refine List.filter_eq_nil_iff.mpr fun p hp => ?_
    simpa using h p.2 (snd_mem_of_mem_placed hp)
  -- As many findings as locations, so none.
  have hlocations := setting.findingsFrom_map_location cursor segs
  rw [hnone] at hlocations
  exact List.map_eq_nil_iff.mp hlocations

end Setting

/-- A session that keeps going reports exactly the faults of its source. If they are replaced by
as many spaces, even a strict session that fails fast ends without a word on the source, with the
same tokens and at the same place. -/
theorem tokenize_recovers (setting : Setting) (htable : setting.table.KeywordsOnly)
    (hkeep : setting.options.failFast = false) {segs : List Segment}
    (hsegs : Segmentation setting.source segs) :
    let kept := (Session.start setting).tokenize
    let clean := (Session.start { setting with
      source := segs.flatMap Segment.blanked
      options := { setting.options with strict := true, failFast := true } }).tokenize
    kept.1.diagnostics.map (·.location) =
        ((placed ⟨0, 0⟩ segs).filter (·.2.IsFault)).map (fun p => some (setting.locate p.1)) ∧
      kept.2 = .ok kept.1.tokens ∧ clean.2 = .ok kept.1.tokens ∧
      clean.1.tokens = kept.1.tokens ∧ clean.1.diagnostics = [] ∧
      clean.1.cursor = kept.1.cursor := by
  intro kept clean
  obtain ⟨hkept, hktokens, hkreport, hkcursor⟩ :=
    Session.tokenize_start_keepGoing setting htable hkeep hsegs
  -- Without a fault among its segments nothing stops the clean session and nothing is reported.
  have hgood : ∀ t ∈ segs.flatMap Segment.blanks, ¬t.IsFault := by
    intro t ht
    obtain ⟨s, -, ht⟩ := List.mem_flatMap.mp ht
    exact Segment.not_isFault_of_mem_blanks ht
  obtain ⟨hclean, hctokens, hcreport, hccursor⟩ :=
    Session.tokenize_start_of_forall_not_stops { setting with
      source := segs.flatMap Segment.blanked
      options := { setting.options with strict := true, failFast := true } } hsegs.blanked
      fun t ht => Setting.not_stops_of_not_isFault _ htable (hgood t ht)
  have htokens : clean.1.tokens = kept.1.tokens := by
    rw [hctokens, hktokens]
    exact tokensFrom_flatMap_blanks hsegs.isShaped setting.table ⟨0, 0⟩
  refine ⟨?_, hkept, ?_, htokens, ?_, ?_⟩
  · rw [hkreport, setting.findingsFrom_map_location]
  · rw [hclean, htokens]
  · rw [hcreport, Setting.findingsFrom_eq_nil _ _ hgood]
  · rw [hccursor, hkcursor, ← hsegs.flatMap_text]
    exact advance_flatMap_blanked hsegs.isShaped ⟨0, 0⟩

/-- Faults between neighbours that no blank sets apart from them. -/
theorem tokenize_recovers_glued :
    let setting : Setting :=
      ⟨['(', '3', '0', '0', '0', '0', '0', '0', '0', '0', '0', 'b', '@', '7'], ['a'], .default,
        { failFast := false }⟩
    let kept := (Session.start setting).tokenize
    let clean := (Session.start { setting with
      source := ['(', ' ', ' ', ' ', ' ', ' ', ' ', ' ', ' ', ' ', ' ', 'b', ' ', '7']
      options := { setting.options with strict := true, failFast := true } }).tokenize
    kept.1.diagnostics.length = 2 ∧
      clean.2 = .ok [Token.symbol .openParen 0 0, Token.identifier ['b'] 0 11,
        Token.literal ['7'] ⟨.int, 7⟩ 0 13] ∧
      clean.1.diagnostics = [] ∧ clean.1.cursor = kept.1.cursor := by
  intro setting kept clean
  have hsegs : Segmentation setting.source
      [.symbol .openParen, .digits ['3', '0', '0', '0', '0', '0', '0', '0', '0', '0'],
        .word ['b'], .unknown '@', .digits ['7']] := by
    decide +kernel
  obtain ⟨hreport, -, hclean, -, hnone, hcursor⟩ :=
    tokenize_recovers setting KeywordTable.keywordsOnly_default rfl hsegs
  have htokens : kept.1.tokens = [Token.symbol .openParen 0 0, Token.identifier ['b'] 0 11,
      Token.literal ['7'] ⟨.int, 7⟩ 0 13] := by
    decide +kernel
  refine ⟨?_, hclean.trans (congrArg Except.ok htokens), hnone, hcursor⟩
  rw [← List.length_map (f := (·.location)), hreport]
  decide

end MiniLex
