import MiniLex.Proofs.Printing
import MiniLex.Proofs.ShownText

/-!
Coloured diagnostics. The texts in a diagnostic are escaped one by one and put together with the
tags of its level. No tag can start in one of them and end in another, so the tags of the level are
the only ones that take effect. What is shown of a text is the text with some backslashes missing,
so nothing that is lost in one text can be made up for by another. The exception is a line of the
source that ends in a single backslash: there one more is shown, and the two texts are told apart by
the number of backslashes above the caret.
-/

namespace MiniLex

namespace Location

open Markup

theorem mem_stamp (l : Location) :
    ∀ c ∈ ':' :: Text.ofInt l.line ++ ':' :: Text.ofInt l.column, inTag c ∧ c ≠ '\\' := by
  have hnumber : ∀ n : Int, ∀ c ∈ ':' :: Text.ofInt n, inTag c ∧ c ≠ '\\' := by
    intro n c hc
    have hchar : c = ':' ∨ c.isDigit ∨ c = '-' := (List.mem_cons.mp hc).imp_right Text.mem_ofInt
    have hnone : ∀ d ∈ ['[', ']', '\\'], ¬(d = ':' ∨ d.isDigit ∨ d = '-') := by
      simp [Char.isDigit]
    have hother : ∀ d ∈ ['[', ']', '\\'], c ≠ d := by
      rintro d hd rfl
      exact hnone c hd hchar
    simpa [inTag, and_assoc] using hother
  exact List.forall_mem_append.mpr ⟨hnumber _, hnumber _⟩

theorem trailingSlashes_display (l : Location) : trailingSlashes l.display = 0 := by
  have hstamp : '\\' ∉ Text.ofInt l.line ++ ':' :: Text.ofInt l.column :=
    fun hmem => (mem_stamp l '\\' (List.mem_cons_of_mem ':' hmem)).2 rfl
  rw [display, List.append_assoc, List.cons_append, trailingSlashes_append_cons (by decide)]
  exact trailingSlashes_of_not_mem hstamp

theorem shown_escape_display_eq_iff {l : Location} :
    shown (escape l.display) = l.display ↔ ¬HasStrayEscape l.file := by
  have hstray : HasStrayEscape l.display ↔ HasStrayEscape l.file := by
    rw [display, List.append_assoc]
    exact hasStrayEscape_append l.file fun c hc => (mem_stamp l c hc).1
  rw [shown_escape_eq_iff, hstray, trailingSlashes_display]
  simp

end Location

namespace Diagnostic

open Markup

variable (d : Diagnostic)

/-- What stands in front of the headline. -/
def lead (write : Text → Text) : Text :=
  d.location.elim [] fun l => write l.display ++ ": ".toList

def trail (write : Text → Text) : Text :=
  d.location.elim [] fun l =>
    if l.rawLine = [] then []
    else "\n  ".toList ++ (write l.rawLine ++ ("\n  ".toList ++ l.caretPadding ++ "^".toList))

theorem layout_eq (write : Text → Text) (headline : Text) :
    d.layout write headline = d.lead write ++ (headline ++ d.trail write) := by
  unfold layout lead trail
  cases d.location with
  | none => exact (List.append_nil headline).symm
  | some l => simp only [Option.elim_some, List.append_assoc]

/-! ### Tags -/

theorem liveTags_lead : liveTags (d.lead escape) = [] := by
  unfold lead
  cases d.location with
  | none => exact liveTags_nil
  | some l =>
      have hcolon : ∀ c ∈ ": ".toList, c ≠ '[' ∧ c ≠ '\\' := by simp
      exact (liveTags_escape_append_of_head? _ (by decide) (by simp)).trans
        (liveTags_eq_nil_of_forall hcolon)

theorem trailingSlashes_lead (write : Text → Text) : trailingSlashes (d.lead write) = 0 := by
  unfold lead
  cases d.location with
  | none => rfl
  | some l => exact trailingSlashes_eq_zero_iff.mpr (by simp)

theorem trail_escape : d.trail escape = d.location.elim [] excerpt := by
  unfold trail excerpt
  simp only [List.append_assoc]

theorem liveTags_trail : liveTags (d.trail escape) = [] := by
  rw [trail_escape]
  cases d.location with
  | none => exact liveTags_nil
  | some l => exact liveTags_excerpt l

/-! ### Shown texts -/

theorem shown_lead : shown (d.lead escape) = d.lead (shown ∘ escape) := by
  unfold lead
  cases d.location with
  | none => exact shown_nil
  | some l => exact shown_append _ (by simp [inTag])

theorem shown_trail : shown (d.trail escape) = d.trail (shown ∘ escape) := by
  unfold trail
  cases d.location with
  | none => exact shown_nil
  | some l =>
      simp only [Option.elim_some]
      split
      · exact shown_nil
      · rw [shown_append_of_forall (by simp), shown_append _ fun c hc => (mem_caretLine l c hc).2]
        rfl

theorem lead_sublist : (d.lead (shown ∘ escape)).Sublist (d.lead id) := by
  unfold lead
  cases d.location with
  | none => exact List.Sublist.refl []
  | some l =>
      have hend : trailingSlashes l.display ≠ 1 := by simp [l.trailingSlashes_display]
      exact (shown_escape_sublist hend).append_right _

theorem lead_eq_iff : d.lead (shown ∘ escape) = d.lead id ↔
    ∀ l ∈ d.location, ¬HasStrayEscape l.file := by
  unfold lead
  cases d.location with
  | none => simp
  | some l => simp [Location.shown_escape_display_eq_iff]

variable {d}

theorem trail_sublist (h : ∀ l ∈ d.location, trailingSlashes l.rawLine ≠ 1) :
    (d.trail (shown ∘ escape)).Sublist (d.trail id) := by
  unfold trail
  cases hlocation : d.location with
  | none => exact List.Sublist.refl []
  | some l =>
      simp only [Option.elim_some]
      split
      · exact List.Sublist.refl []
      · exact ((shown_escape_sublist (h l hlocation)).append_right _).append_left _

theorem trail_eq_iff (h : ∀ l ∈ d.location, trailingSlashes l.rawLine ≠ 1) :
    d.trail (shown ∘ escape) = d.trail id ↔ ∀ l ∈ d.location, ¬HasStrayEscape l.rawLine := by
  unfold trail
  cases hlocation : d.location with
  | none => exact iff_of_true rfl (by simp)
  | some l =>
      simp only [Option.elim_some, Option.mem_some_iff, forall_eq']
      split
      · next hline => simp [hline]
      · rw [List.append_cancel_left_eq, List.append_cancel_right_eq, Function.comp, id,
          shown_escape_eq_iff, and_iff_left (h l hlocation)]

/-- A headline is plain behind its level, so that only its message matters. -/
theorem exists_headline_eq (d : Diagnostic) :
    ∃ word, '[' ∉ word ∧ d.headline = word ++ ' ' :: d.message := by
  refine ⟨d.level.word ++ [':'], ?_, by simp [headline]⟩
  cases d.level with
  | error => decide
  | warning => decide

theorem trailingSlashes_headline (h : d.message.getLast? ≠ some '\\') :
    trailingSlashes d.headline = 0 := by
  obtain ⟨word, -, hheadline⟩ := d.exists_headline_eq
  rw [hheadline, trailingSlashes_append_cons (by decide)]
  exact trailingSlashes_eq_zero_iff.mpr h

theorem shown_escape_headline_eq_iff (h : d.message.getLast? ≠ some '\\') :
    shown (escape d.headline) = d.headline ↔ ¬HasStrayEscape d.message := by
  have hstray : HasStrayEscape d.headline ↔ HasStrayEscape d.message := by
    obtain ⟨word, hword, hheadline⟩ := d.exists_headline_eq
    rw [hheadline, hasStrayEscape_append_cons hword (by decide) (by decide)]
  rw [shown_escape_eq_iff, hstray, trailingSlashes_headline h]
  simp

/-- A line of the source that ends in a single backslash is not shown as it is, whatever stands in
front of it. -/
theorem append_trail_ne {l : Location} (hlocation : d.location = some l)
    (hend : trailingSlashes l.rawLine = 1) (s t : Text) :
    s ++ d.trail (shown ∘ escape) ≠ t ++ d.trail id := by
  have hline : l.rawLine ≠ [] := by
    intro hnil
    rw [hnil] at hend
    contradiction
  intro h
  simp only [trail, hlocation, Option.elim_some, if_neg hline, ← List.append_assoc,
    List.append_cancel_right_eq] at h
  have hgap (front line : Text) :
      trailingSlashes (front ++ "\n  ".toList ++ line) = trailingSlashes line := by
    have hsplit : front ++ "\n  ".toList ++ line = (front ++ "\n ".toList) ++ ' ' :: line := by simp
    rw [hsplit, trailingSlashes_append_cons (by decide)]
  -- Above the caret one text ends in one backslash, and the other in two at least.
  have hcount := congrArg trailingSlashes h
  rw [hgap, hgap, id, hend] at hcount
  exact absurd hcount (one_lt_trailingSlashes_shown_escape hend).ne'

theorem append_eq_append_iff_of_sublist {s s' t t' : Text} (hs : s.Sublist s')
    (ht : t.Sublist t') : s ++ t = s' ++ t' ↔ s = s' ∧ t = t' := by
  refine ⟨fun h => ?_, fun h => by rw [h.1, h.2]⟩
  have hlength := congrArg List.length h
  have hsle := hs.length_le
  have htle := ht.length_le
  simp only [List.length_append] at hlength
  exact ⟨hs.eq_of_length (by omega), ht.eq_of_length (by omega)⟩

/-- The parts of a diagnostic, each as it is shown, make the plain text if and only if no backslash
is lost in them and the line of the source does not end in a single one. -/
theorem append_eq_plain_iff (hmessage : d.message.getLast? ≠ some '\\') :
    d.lead (shown ∘ escape) ++ (shown (escape d.headline) ++ d.trail (shown ∘ escape)) = d.plain ↔
      ¬HasStrayEscape d.message ∧ ∀ l ∈ d.location,
        ¬HasStrayEscape l.file ∧ ¬HasStrayEscape l.rawLine ∧ trailingSlashes l.rawLine ≠ 1 := by
  rw [plain, layout_eq]
  by_cases hend : ∀ l ∈ d.location, trailingSlashes l.rawLine ≠ 1
  · -- Each part is shown with some backslashes missing at most, so that none makes up for another.
    have hheadline : trailingSlashes d.headline ≠ 1 := by simp [trailingSlashes_headline hmessage]
    have hshown := shown_escape_sublist hheadline
    have htrail := trail_sublist hend
    rw [append_eq_append_iff_of_sublist d.lead_sublist (hshown.append htrail),
      append_eq_append_iff_of_sublist hshown htrail, lead_eq_iff,
      shown_escape_headline_eq_iff hmessage, trail_eq_iff hend]
    grind
  · obtain ⟨l, hlocation, hsingle⟩ : ∃ l ∈ d.location, trailingSlashes l.rawLine = 1 := by
      simpa using hend
    rw [← List.append_assoc, ← List.append_assoc]
    refine iff_of_false (append_trail_ne hlocation hsingle _ _) ?_
    rintro ⟨-, hall⟩
    exact (hall l hlocation).2.2 hsingle

/-! ### The diagnostic as a whole -/

/-- No text in a diagnostic can bring in markup: the tags of the level around the headline are the
only ones that take effect, whatever the file, the message and the line of the source hold, and the
rest is shown as in the plain form but for stray escapes and a single backslash at the end. -/
theorem markup_shows_plain_iff (d : Diagnostic) (hmessage : d.message.getLast? ≠ some '\\') :
    d.markup = d.lead escape ++ (styled d.level.style (escape d.headline) ++ d.trail escape) ∧
    liveTags d.markup = [d.level.style, '/' :: d.level.style] ∧
    ∃ before inner after,
      render id (d.lead escape) = .ok ⟨before, []⟩ ∧
      render id (escape d.headline) = .ok ⟨inner, []⟩ ∧
      render id (d.trail escape) = .ok ⟨after, []⟩ ∧
      render id d.markup = .ok ⟨before ++ (inner ++ after),
        [⟨before.length, before.length + inner.length, d.level.style⟩]⟩ ∧
      (before ++ (inner ++ after) = d.plain ↔
        ¬HasStrayEscape d.message ∧ ∀ l ∈ d.location,
          ¬HasStrayEscape l.file ∧ ¬HasStrayEscape l.rawLine ∧ trailingSlashes l.rawLine ≠ 1) := by
  have hstyle : IsStyle d.level.style := isStyle_of_mem_houseStyles d.level.style_mem_houseStyles
  have hmarkup : d.markup =
      d.lead escape ++ (styled d.level.style (escape d.headline) ++ d.trail escape) :=
    d.layout_eq escape _
  have hseam : trailingSlashes (escape d.headline) = 0 :=
    trailingSlashes_escape (trailingSlashes_headline hmessage)
  refine ⟨hmarkup, ?_, shown (d.lead escape), shown (escape d.headline), shown (d.trail escape),
    render_of_liveTags_eq_nil d.liveTags_lead, render_of_liveTags_eq_nil (liveTags_escape _),
    render_of_liveTags_eq_nil d.liveTags_trail, ?_, ?_⟩
  · -- The tag of the level opens first, so nothing before it can be closed behind the seam.
    have hopen : firstBracket (styled d.level.style (escape d.headline) ++ d.trail escape) ≠
        some ']' := by
      simp [firstBracket, styled, inTag]
    rw [hmarkup, liveTags_append _ hopen, d.liveTags_lead, d.trailingSlashes_lead]
    simp [liveTags_styled_append hstyle.body (liveTags_escape _), hseam, d.liveTags_trail]
  · rw [hmarkup]
    exact render_styled hstyle d.liveTags_lead (liveTags_escape _) d.liveTags_trail
      (d.trailingSlashes_lead escape) hseam
  · rw [shown_lead, shown_trail]
    exact append_eq_plain_iff hmessage

/-- Tags in the file, the message and the line of the source are shown as they are. A line that
loses one backslash and gains another is not. -/
theorem markup_shows_plain_iff_tags :
    let d (line : Text) : Diagnostic :=
      ⟨.warning, "a\\[/yellow] [".toList, some ⟨-1, 3, "[red]\\".toList, line⟩, none⟩
    (∀ line, (d line).message.getLast? ≠ some '\\') ∧
      (∃ r, render id (d "\\\\[/] [b\\\\".toList).markup = .ok r ∧
        r.text = (d "\\\\[/] [b\\\\".toList).plain) ∧
      ∃ r, render id (d "\\[ x\\".toList).markup = .ok r ∧
        r.text ≠ (d "\\[ x\\".toList).plain := by
  intro d
  have hmessage : ∀ line, (d line).message.getLast? ≠ some '\\' := by
    intro line
    show "a\\[/yellow] [".toList.getLast? ≠ some '\\'
    decide
  obtain ⟨-, -, before, inner, after, -, -, -, hrender, hiff⟩ :=
    markup_shows_plain_iff (d "\\\\[/] [b\\\\".toList) (hmessage _)
  obtain ⟨-, -, before', inner', after', -, -, -, hrender', hiff'⟩ :=
    markup_shows_plain_iff (d "\\[ x\\".toList) (hmessage _)
  refine ⟨hmessage, ⟨_, hrender, hiff.mpr ?_⟩, ⟨_, hrender', fun heq => ?_⟩⟩
  · decide +kernel
  · exact absurd (hiff'.mp heq) (by decide +kernel)

end Diagnostic

end MiniLex
