import MiniLex.CharClass
import MiniLex.Scan
import MiniLex.Token
import Mathlib.Data.List.Basic
import Mathlib.Logic.ExistsUnique
import Mathlib.Tactic.SplitIfs

/-!
Segmentations of a source, said without the function that computes one. Every segment has the
shape of its kind, and no word and no run of digits could take in the character behind it. A
source has exactly one segmentation, and `segments` is it.
-/

namespace MiniLex

/-! ### Classes of characters -/

/-- No basic digit has the property Alphabetic, so words and numbers start apart. -/
theorem Text.not_isAlphabetic_of_isDigit {c : Char} (hc : c.isDigit) :
    Text.isAlphabetic c = false := by
  have hrange : 48 ≤ c.toNat ∧ c.toNat ≤ 57 := Char.isDigit_iff_toNat.mp hc
  have hdigits : ∀ n < 58, 48 ≤ n → Text.alphabeticTree.contains n = false := by
    decide +kernel
  exact hdigits c.toNat (by omega) hrange.1

theorem isIdentifierChar_of_isDigit {c : Char} (hc : c.isDigit) : isIdentifierChar c := by
  simp [isIdentifierChar, hc]

theorem isLineBreak_iff {c : Char} : isLineBreak c ↔ c = '\n' ∨ c = '\r' := by
  simp [isLineBreak]

theorem not_isIdentifierChar_of_isLineBreak {c : Char} (hc : isLineBreak c) :
    isIdentifierChar c = false := by
  rcases isLineBreak_iff.mp hc with rfl | rfl
  · decide
  · decide

theorem not_isIdentifierChar_space : isIdentifierChar ' ' = false := by
  decide

namespace CharClass

theorem of_eq_alphabetic_iff {c : Char} :
    of c = .alphabetic ↔ Text.isAlphabetic c ∨ c = '_' := by
  unfold of
  split_ifs <;> simp_all

theorem of_eq_numeric_iff {c : Char} : of c = .numeric ↔ c.isDigit := by
  constructor
  · unfold of
    split_ifs <;> simp_all
  · intro hc
    have hletter := Text.not_isAlphabetic_of_isDigit hc
    have hline : c ≠ '_' := by
      rintro rfl
      contradiction
    simp [of, hletter, hline, hc]

theorem of_eq_whitespace_iff {c : Char} : of c = .whitespace ↔ c = ' ' ∨ c = '\t' := by
  constructor
  · unfold of
    split_ifs <;> simp_all
  · rintro (rfl | rfl)
    · decide
    · decide

theorem of_eq_newline_iff {c : Char} : of c = .newline ↔ c = '\n' ∨ c = '\r' := by
  constructor
  · unfold of
    split_ifs <;> simp_all [isLineBreak_iff]
  · rintro (rfl | rfl)
    · decide
    · decide

theorem of_eq_nonAlphabetic_iff {c : Char} :
    of c = .nonAlphabetic ↔
      ¬Text.isAlphabetic c ∧ c ≠ '_' ∧ ¬c.isDigit ∧ c ≠ ' ' ∧ c ≠ '\t' ∧ c ≠ '\n' ∧ c ≠ '\r' := by
  grind [of, isLineBreak_iff]

@[simp] theorem of_char (s : Symbol) : of s.char = .nonAlphabetic := by
  cases s <;> decide

end CharClass

/-! ### Shapes of segments -/

def IsWord : Text → Prop
  | [] => False
  | first :: tail => (Text.isAlphabetic first ∨ first = '_') ∧ ∀ c ∈ tail, isIdentifierChar c

def IsDigitRun (text : Text) : Prop :=
  text ≠ [] ∧ ∀ c ∈ text, c.isDigit

def IsUnknown (c : Char) : Prop :=
  ¬Text.isAlphabetic c ∧ c ≠ '_' ∧ ¬c.isDigit ∧ c ≠ ' ' ∧ c ≠ '\t' ∧ c ≠ '\n' ∧ c ≠ '\r' ∧
    ∀ s : Symbol, c ≠ s.char

namespace Segment

/-- The shape of each kind of segment. A symbol has it by its type. -/
def IsShaped : Segment → Prop
  | blank c => c = ' ' ∨ c = '\t'
  | newline c => c = '\n' ∨ c = '\r'
  | word text => IsWord text
  | digits text => IsDigitRun text
  | symbol _ => True
  | unknown c => IsUnknown c

/-- Whether a segment is as long as it can be with `next` behind it. -/
def EndsBefore (s : Segment) (next : Option Char) : Prop :=
  match s with
  | word _ => ∀ c ∈ next, ¬isIdentifierChar c
  | digits _ => ∀ c ∈ next, ¬c.isDigit
  | _ => True

end Segment

/-- The ways to cut a source into segments, each as long as it can be. -/
inductive Segmentation : Text → List Segment → Prop
  | nil : Segmentation [] []
  | cons {s : Segment} {rest : Text} {segs : List Segment} (hshape : s.IsShaped)
      (hend : s.EndsBefore rest.head?) (hrest : Segmentation rest segs) :
      Segmentation (s.text ++ rest) (s :: segs)

namespace Segment

/-- A segment of the right shape is what its first character makes of its text. -/
theorem IsShaped.eq_ofLexeme {s : Segment} (h : s.IsShaped) :
    ∃ c tail, s.text = c :: tail ∧ s = ofLexeme c tail ∧ ∀ d ∈ tail, continues c d := by
  cases s with
  | blank c =>
      have hclass := CharClass.of_eq_whitespace_iff.mpr h
      exact ⟨c, [], rfl, by simp [ofLexeme, hclass], by simp⟩
  | newline c =>
      have hclass := CharClass.of_eq_newline_iff.mpr h
      exact ⟨c, [], rfl, by simp [ofLexeme, hclass], by simp⟩
  | word text =>
      cases text with
      | nil => exact h.elim
      | cons c tail =>
          have hclass := CharClass.of_eq_alphabetic_iff.mpr h.1
          exact ⟨c, tail, rfl, by simp [ofLexeme, hclass], by simpa [continues, hclass] using h.2⟩
  | digits text =>
      cases text with
      | nil => exact absurd rfl h.1
      | cons c tail =>
          have hdigits := List.forall_mem_cons.mp h.2
          have hclass := CharClass.of_eq_numeric_iff.mpr hdigits.1
          exact ⟨c, tail, rfl, by simp [ofLexeme, hclass],
            by simpa [continues, hclass] using hdigits.2⟩
  | symbol s => exact ⟨s.char, [], rfl, by simp [ofLexeme], by simp⟩
  | unknown c =>
      obtain ⟨hletter, hline, hdigit, hspace, htab, hfeed, hreturn, hsymbol⟩ := h
      have hclass := CharClass.of_eq_nonAlphabetic_iff.mpr
        ⟨hletter, hline, hdigit, hspace, htab, hfeed, hreturn⟩
      have hnone : Symbol.ofChar? c = none := by
        cases hfound : Symbol.ofChar? c with
        | none => rfl
        | some s => exact absurd (Symbol.char_of_ofChar? hfound).symm (hsymbol s)
      exact ⟨c, [], rfl, by simp [ofLexeme, hclass, hnone], by simp⟩

theorem IsShaped.text_ne_nil {s : Segment} (h : s.IsShaped) : s.text ≠ [] := by
  obtain ⟨c, tail, htext, -⟩ := h.eq_ofLexeme
  simp [htext]

theorem isShaped_ofLexeme {c : Char} {tail : Text} (h : ∀ d ∈ tail, continues c d) :
    (ofLexeme c tail).IsShaped := by
  cases hclass : CharClass.of c with
  | whitespace =>
      rw [ofLexeme, hclass]
      exact CharClass.of_eq_whitespace_iff.mp hclass
  | newline =>
      rw [ofLexeme, hclass]
      exact CharClass.of_eq_newline_iff.mp hclass
  | alphabetic =>
      rw [ofLexeme, hclass]
      exact ⟨CharClass.of_eq_alphabetic_iff.mp hclass, by simpa [continues, hclass] using h⟩
  | numeric =>
      have htail : ∀ d ∈ tail, d.isDigit := by simpa [continues, hclass] using h
      rw [ofLexeme, hclass]
      exact ⟨List.cons_ne_nil c tail,
        List.forall_mem_cons.mpr ⟨CharClass.of_eq_numeric_iff.mp hclass, htail⟩⟩
  | nonAlphabetic =>
      cases hfound : Symbol.ofChar? c with
      | some s => simp [ofLexeme, hclass, hfound, IsShaped]
      | none =>
          have hsymbol (s : Symbol) : c ≠ s.char := by
            rintro rfl
            simp at hfound
          obtain ⟨hletter, hline, hdigit, hspace, htab, hfeed, hreturn⟩ :=
            CharClass.of_eq_nonAlphabetic_iff.mp hclass
          simp only [ofLexeme, hclass, hfound]
          exact ⟨hletter, hline, hdigit, hspace, htab, hfeed, hreturn, hsymbol⟩

/-- A segment ends where its first character lets no further character in. -/
theorem endsBefore_ofLexeme_iff (c : Char) (tail : Text) (next : Option Char) :
    (ofLexeme c tail).EndsBefore next ↔ ∀ d ∈ next, continues c d = false := by
  cases hclass : CharClass.of c with
  | whitespace => simp [ofLexeme, continues, hclass, EndsBefore]
  | newline => simp [ofLexeme, continues, hclass, EndsBefore]
  | alphabetic => simp [ofLexeme, continues, hclass, EndsBefore]
  | numeric => simp [ofLexeme, continues, hclass, EndsBefore]
  | nonAlphabetic =>
      cases hfound : Symbol.ofChar? c with
      | some s => simp [ofLexeme, continues, hclass, hfound, EndsBefore]
      | none => simp [ofLexeme, continues, hclass, hfound, EndsBefore]

theorem EndsBefore.mono {s : Segment} {next other : Option Char} (h : s.EndsBefore next)
    (hsub : ∀ c ∈ other, c ∈ next) : s.EndsBefore other := by
  cases s with
  | word text => exact fun c hc => h c (hsub c hc)
  | digits text => exact fun c hc => h c (hsub c hc)
  | _ => trivial

end Segment

theorem not_of_mem_head?_dropWhile (p : Char → Bool) (text : Text) :
    ∀ c ∈ (text.dropWhile p).head?, p c = false := by
  intro c hc
  have hstop := List.head?_dropWhile_not p text
  rwa [hc] at hstop

/-- What `p` holds of up to a place where it fails is taken up to that place and no further. -/
theorem takeWhile_append_of_boundary {α : Type} {p : α → Bool} {first rest : List α}
    (hin : ∀ a ∈ first, p a) (hout : ∀ a ∈ rest.head?, p a = false) :
    (first ++ rest).takeWhile p = first ∧ (first ++ rest).dropWhile p = rest := by
  rw [List.takeWhile_append_of_pos hin, List.dropWhile_append_of_pos hin]
  cases rest with
  | nil => simp
  | cons a rest =>
      have ha : p a = false := hout a rfl
      simp [ha]

theorem segmentation_segments (source : Text) : Segmentation source (segments source) := by
  fun_induction segments source with
  | case1 => exact .nil
  | case2 c cs ih =>
      have hshape : (Segment.ofLexeme c (cs.takeWhile (Segment.continues c))).IsShaped :=
        Segment.isShaped_ofLexeme (List.all_eq_true.mp List.all_takeWhile)
      have hend : (Segment.ofLexeme c (cs.takeWhile (Segment.continues c))).EndsBefore
          (cs.dropWhile (Segment.continues c)).head? :=
        (Segment.endsBefore_ofLexeme_iff _ _ _).mpr (not_of_mem_head?_dropWhile _ cs)
      have hcons := Segmentation.cons hshape hend ih
      rwa [Segment.text_ofLexeme, List.cons_append, List.takeWhile_append_dropWhile] at hcons

namespace Segmentation

variable {source : Text} {segs : List Segment}

/-- The first segment is determined by the source, so by induction all of them are. -/
theorem eq_segments (h : Segmentation source segs) : segs = segments source := by
  induction h with
  | nil => simp [segments]
  | @cons s rest segs hshape hend hrest ih =>
      -- The first character tells how long its segment goes on, and both cuts end it there.
      obtain ⟨c, tail, htext, hs, hin⟩ := hshape.eq_ofLexeme
      have hout : ∀ d ∈ rest.head?, Segment.continues c d = false :=
        (Segment.endsBefore_ofLexeme_iff c tail _).mp (hs ▸ hend)
      obtain ⟨htake, hdrop⟩ := takeWhile_append_of_boundary hin hout
      rw [htext, List.cons_append, segments, htake, hdrop, ← hs, ← ih]

theorem iff_eq_segments : Segmentation source segs ↔ segs = segments source :=
  ⟨eq_segments, fun h => h ▸ segmentation_segments source⟩

instance (source : Text) (segs : List Segment) : Decidable (Segmentation source segs) :=
  decidable_of_iff (segs = segments source) iff_eq_segments.symm

theorem flatMap_text (h : Segmentation source segs) : segs.flatMap Segment.text = source := by
  rw [h.eq_segments, flatMap_text_segments]

theorem isShaped (h : Segmentation source segs) : ∀ s ∈ segs, s.IsShaped := by
  induction h with
  | nil => simp
  | cons hshape hend hrest ih => exact List.forall_mem_cons.mpr ⟨hshape, ih⟩

/-- Cut between two of its segments, a source falls into two parts with those segments each. -/
theorem split {before after : List Segment} (h : Segmentation source (before ++ after)) :
    Segmentation (before.flatMap Segment.text) before ∧
      Segmentation (after.flatMap Segment.text) after := by
  induction before generalizing source with
  | nil =>
      refine ⟨.nil, ?_⟩
      rwa [← h.flatMap_text] at h
  | cons s before ih =>
      rw [List.cons_append] at h
      cases h with
      | @cons _ rest _ hshape hend hrest =>
          obtain ⟨hbefore, hafter⟩ := ih hrest
          -- Behind `s` stands what stood there before the cut, or nothing any more.
          have hnext : ∀ c ∈ (before.flatMap Segment.text).head?, c ∈ rest.head? := by
            intro c hc
            rw [← hrest.flatMap_text, List.flatMap_append]
            exact List.mem_head?_append_of_mem_head? hc
          exact ⟨.cons hshape (hend.mono hnext) hbefore, hafter⟩

theorem existsUnique (source : Text) : ∃! segs, Segmentation source segs :=
  ⟨segments source, segmentation_segments source, fun _ h => h.eq_segments⟩

end Segmentation

end MiniLex
