import MiniLex.Proofs.Printing
import MiniLex.Proofs.Wrapping

/-!
The lines above a table. A title is cut at its line feeds, and what is too wide for the table is
wrapped; the pieces are brought to the middle, without the blanks at their ends. So nothing but
blanks is lost of a title, and nothing but blanks is gained.
-/

namespace MiniLex

namespace StyledText

/-! ### Cuts -/

variable {s t : StyledText}

theorem slice_sublist (s : StyledText) (first stop : Nat) :
    (s.slice first stop).text.Sublist s.text :=
  (List.drop_sublist first _).trans (List.take_sublist stop _)

theorem sublist_of_mem_cutFrom {gap offset : Nat} {lengths : List Nat}
    (h : t ∈ s.cutFrom gap offset lengths) : t.text.Sublist s.text := by
  induction lengths generalizing offset with
  | nil => simp [cutFrom] at h
  | cons n ns ih =>
      rw [cutFrom, List.mem_cons] at h
      rcases h with rfl | h
      · exact s.slice_sublist _ _
      · exact ih h

theorem sublist_of_mem_cut {gap : Nat} {lengths : List Nat} (h : t ∈ s.cut gap lengths) :
    t.text.Sublist s.text := by
  unfold cut at h
  split at h
  · rw [List.mem_singleton.mp h]
  · rw [List.mem_singleton.mp h]
  · exact sublist_of_mem_cutFrom h

theorem cut_ne_nil (s : StyledText) (gap : Nat) (lengths : List Nat) : s.cut gap lengths ≠ [] := by
  unfold cut
  split
  · simp
  · simp
  · next hnil _ =>
      obtain ⟨n, ns, rfl⟩ := List.exists_cons_of_ne_nil hnil
      simp [cutFrom]

theorem text_take (s : StyledText) (n : Nat) : (s.take n).text = s.text.take n := by
  unfold take
  split
  · rfl
  · next hlong => rw [List.take_of_length_le (Nat.le_of_not_lt hlong)]

end StyledText

namespace Console

/-! ### Blanks -/

theorem blanks_append_blanks (n m : Nat) : blanks n ++ blanks m = blanks (n + m) :=
  List.replicate_append_replicate

theorem not_mem_blanks {c : Char} (h : c ≠ ' ') (n : Nat) : c ∉ blanks n :=
  fun hmem => h (List.eq_of_mem_replicate hmem)

theorem pad_centre (width : Nat) (s : Text) :
    let margin := width - lineWidth s
    Align.centre.pad width s = blanks (margin / 2) ++ s ++ blanks (margin - margin / 2) := by
  intro margin
  have hrest : width - (margin / 2 + lineWidth s) = margin - margin / 2 := by omega
  rw [Align.pad, fill, lineWidth_blanks_append, hrest]

namespace Table

/-- The lines above a table. -/
def heading (t : Table) (title : Text) : List Text :=
  (if title = [] then [] else titleLines t.width ⟨display title, []⟩).map fun line =>
    Align.centre.pad t.width line.text

end Table

end Console

end MiniLex
