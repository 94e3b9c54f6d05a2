import MiniLex.Proofs.Scan

/-!
What stands at an offset of a source. A session cuts the text from its cursor on into segments, but
all that a scan looks at are characters of the whole source, at offsets that are counted from its
start. The next segment of a session is the one that stands at its cursor, and every later one
stands at its place.
-/

namespace MiniLex

/-! ### Characters at offsets -/

section

variable {source : Text} {offset : Int}

@[simp] theorem charAt?_natCast (source : Text) (n : Nat) : charAt? source n = source[n]? := by
  have hoffset : ¬(n : Int) < 0 := by omega
  rw [charAt?, if_neg hoffset, Int.toNat_natCast]

theorem charAt?_length_append (first second : Text) :
    charAt? (first ++ second) first.length = second.head? := by
  rw [charAt?_natCast, List.getElem?_append_right (Nat.le_refl _), Nat.sub_self,
    List.head?_eq_getElem?]

theorem charAt?_eq_none_iff :
    charAt? source offset = none ↔ offset < 0 ∨ source.length ≤ offset := by
  by_cases hoffset : offset < 0
  · simp [charAt?, hoffset]
  · rw [charAt?, if_neg hoffset, List.getElem?_eq_none_iff]
    omega

theorem nonneg_of_charAt? {c : Char} (h : charAt? source offset = some c) : 0 ≤ offset := by
  by_contra hneg
  rw [charAt?_eq_none_iff.mpr (.inl (Int.not_le.mp hneg))] at h
  contradiction

theorem charAt?_drop (source : Text) (n k : Nat) :
    charAt? (source.drop n) k = charAt? source (n + k) := by
  rw [← Int.natCast_add, charAt?_natCast, charAt?_natCast, List.getElem?_drop]

end

/-! ### Segments at offsets -/

namespace Segment

/-- A segment that stands in a source: the characters from the offset on are its own, and the one
behind them does not go on with it. -/
structure StandsAt (s : Segment) (source : Text) (offset : Int) : Prop where
  shaped : s.IsShaped
  charAt?_eq : ∀ k < s.text.length, charAt? source (offset + k) = s.text[k]?
  ends : s.EndsBefore (charAt? source (offset + s.text.length))

variable {s : Segment} {source : Text} {offset : Int}

theorem StandsAt.charAt?_eq_head? (h : s.StandsAt source offset) :
    charAt? source offset = s.text.head? := by
  have hfirst := h.charAt?_eq 0 (List.length_pos_iff.mpr h.shaped.text_ne_nil)
  rwa [Int.natCast_zero, Int.add_zero, ← List.head?_eq_getElem?] at hfirst

theorem StandsAt.offset_nonneg (h : s.StandsAt source offset) : 0 ≤ offset := by
  obtain ⟨c, tail, htext, -⟩ := h.shaped.eq_ofLexeme
  exact nonneg_of_charAt? (h.charAt?_eq_head?.trans (congrArg List.head? htext))

theorem standsAt_of_append {front back : Text} (hshape : s.IsShaped)
    (hend : s.EndsBefore back.head?) : s.StandsAt (front ++ (s.text ++ back)) front.length := by
  refine ⟨hshape, fun k hk => ?_, ?_⟩
  · rw [← Int.natCast_add, charAt?_natCast, List.getElem?_append_right (Nat.le_add_right _ _),
      Nat.add_sub_cancel_left, List.getElem?_append_left hk]
  · rwa [← Int.natCast_add, ← List.length_append, ← List.append_assoc, charAt?_length_append]

/-- Around a segment that stands in a source there are the characters before it and behind it. -/
theorem StandsAt.exists_append (h : s.StandsAt source offset) :
    ∃ front back, source = front ++ (s.text ++ back) ∧ offset = front.length ∧
      s.EndsBefore back.head? := by
  obtain ⟨n, rfl⟩ := Int.eq_ofNat_of_zero_le h.offset_nonneg
  have hlook (k : Nat) : (source.drop n)[k]? = charAt? source (n + k) := by
    rw [← charAt?_natCast, charAt?_drop]
  obtain ⟨back, hback⟩ : s.text <+: source.drop n := by
    refine List.prefix_iff_getElem?.mpr fun k hk => ?_
    rw [hlook, h.charAt?_eq k hk, List.getElem?_eq_getElem hk]
  have hlength : n ≤ source.length := by
    have hdrop := congrArg List.length hback
    have htext := List.length_pos_iff.mpr h.shaped.text_ne_nil
    rw [List.length_append, List.length_drop] at hdrop
    omega
  refine ⟨source.take n, back, ?_, ?_, ?_⟩
  · rw [hback, List.take_append_drop]
  · rw [List.length_take_of_le hlength]
  · have hnext : charAt? source (n + s.text.length) = back.head? := by
      rw [← hlook, ← hback, List.getElem?_append_right (Nat.le_refl _), Nat.sub_self,
        List.head?_eq_getElem?]
    exact hnext ▸ h.ends

end Segment

theorem Segmentation.exists_append_of_mem_placed {rest : Text} {segs : List Segment}
    (h : Segmentation rest segs) {cursor : Cursor} {p : Cursor × Segment}
    (hp : p ∈ placed cursor segs) :
    ∃ front back, rest = front ++ (p.2.text ++ back) ∧ p.1 = cursor.advance front ∧
      p.2.IsShaped ∧ p.2.EndsBefore back.head? := by
  induction h generalizing cursor with
  | nil => cases hp
  | @cons s rest segs hshape hend hrest ih =>
      rcases List.mem_cons.mp hp with rfl | hp
      · exact ⟨[], rest, rfl, (Cursor.advance_nil cursor).symm, hshape, hend⟩
      · obtain ⟨front, back, rfl, hplace, hp⟩ := ih hp
        refine ⟨s.text ++ front, back, (List.append_assoc _ _ _).symm, ?_, hp⟩
        rw [hplace, Cursor.advance_append]

theorem Segmentation.standsAt_of_mem_placed {front rest : Text} {segs : List Segment}
    (h : Segmentation rest segs) {cursor : Cursor} (hplace : cursor.position = front.length)
    {p : Cursor × Segment} (hp : p ∈ placed cursor segs) :
    p.2.StandsAt (front ++ rest) p.1.position := by
  obtain ⟨inner, back, rfl, hcursor, hshape, hend⟩ := h.exists_append_of_mem_placed hp
  have hposition : p.1.position = (front ++ inner).length := by
    rw [hcursor, Cursor.advance, hplace, List.length_append]
    rfl
  rw [hposition, ← List.append_assoc]
  exact Segment.standsAt_of_append hshape hend

/-! ### What a session finds at its cursor -/

namespace Session

variable {s t : Session}

/-- What is left to scan, by look-ups in the whole source. -/
theorem getElem?_remaining (h : 0 ≤ s.cursor.position) (k : Nat) :
    s.remaining[k]? = charAt? s.setting.source (s.cursor.position + k) := by
  obtain ⟨n, hn⟩ := Int.eq_ofNat_of_zero_le h
  rw [remaining, if_neg (Int.not_lt.mpr h), hn, Int.toNat_natCast, ← charAt?_natCast, charAt?_drop]

theorem remaining_eq_of_charAt?_eq (hs : 0 ≤ s.cursor.position) (ht : 0 ≤ t.cursor.position)
    (h : ∀ k : Nat, charAt? s.setting.source (s.cursor.position + k) =
      charAt? t.setting.source (t.cursor.position + k)) : s.remaining = t.remaining := by
  refine List.ext_getElem? fun k => ?_
  rw [getElem?_remaining hs, getElem?_remaining ht, h]

theorem remaining_eq_nil_iff :
    s.remaining = [] ↔ charAt? s.setting.source s.cursor.position = none := by
  by_cases hneg : s.cursor.position < 0
  · rw [remaining, if_pos hneg, charAt?, if_pos hneg]
    exact iff_of_true rfl rfl
  · rw [remaining, if_neg hneg, charAt?, if_neg hneg, List.drop_eq_nil_iff,
      List.getElem?_eq_none_iff]

/-- There is something left to scan only in front of a cursor within the source. -/
theorem source_eq_append_remaining (h : s.remaining ≠ []) :
    ∃ front, s.setting.source = front ++ s.remaining ∧ s.cursor.position = front.length := by
  by_cases hneg : s.cursor.position < 0
  · rw [remaining, if_pos hneg] at h
    contradiction
  · rw [remaining, if_neg hneg] at h ⊢
    refine ⟨s.setting.source.take s.cursor.position.toNat, (List.take_append_drop _ _).symm, ?_⟩
    have hlt := List.length_pos_iff.mpr h
    rw [List.length_drop] at hlt
    rw [List.length_take]
    omega

/-- Every segment that a session has left stands in the source at its place. -/
theorem standsAt_of_mem_placed {p : Cursor × Segment}
    (hp : p ∈ placed s.cursor (segments s.remaining)) :
    p.2.StandsAt s.setting.source p.1.position := by
  have hrest : s.remaining ≠ [] := by
    intro hend
    rw [hend, segments] at hp
    cases hp
  obtain ⟨front, hsource, hplace⟩ := source_eq_append_remaining hrest
  rw [hsource]
  exact (segmentation_segments s.remaining).standsAt_of_mem_placed hplace hp

/-- The next segment of a session is the one that stands at its cursor. -/
theorem head?_segments_remaining_iff {next : Segment} :
    (segments s.remaining).head? = some next ↔
      next.StandsAt s.setting.source s.cursor.position := by
  constructor
  · intro hhead
    obtain ⟨segs, hsegs⟩ := List.head?_eq_some_iff.mp hhead
    refine standsAt_of_mem_placed (p := (s.cursor, next)) ?_
    rw [hsegs]
    exact List.mem_cons_self
  · intro hnext
    obtain ⟨front, back, hsource, hplace, hend⟩ := hnext.exists_append
    have hremaining : s.remaining = next.text ++ back := by
      rw [remaining, hplace, if_neg (by omega), hsource, Int.toNat_natCast, List.drop_left]
    have hsegs := Segmentation.cons hnext.shaped hend (segmentation_segments back)
    rw [hremaining, ← hsegs.eq_segments]
    rfl

end Session

end MiniLex
