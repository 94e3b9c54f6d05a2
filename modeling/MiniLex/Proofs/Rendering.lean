import MiniLex.Console.Print
import MiniLex.Proofs.Markup
import Mathlib.Data.List.Basic

/-!
Markup that can be shown. If the live tags of some markup open known styles and close only what is
open, then following them cannot fail, nor can looking up the styles of what they enclose. Markup
without an opening bracket has no tags at all and is shown as it stands.
-/

namespace MiniLex

namespace Markup

/-! ### Styles -/

/-- A style that a tag can ask for by this text alone: its words make a style whose name is the same
text. -/
structure IsStyle (style : Text) : Prop where
  body : IsBody style
  not_mem_equals : '=' ∉ style
  head_ne_slash : style.head? ≠ some '/'
  head_ne_at : style.head? ≠ some '@'
  trim_ne_nil : Text.trim style ≠ []
  read : ∃ s, Style.read {} (Text.words style) = .ok s ∧ List.intercalate [' '] s.words = style

theorem IsStyle.ne_equals {style : Text} (h : IsStyle style) : ∀ c ∈ style, c ≠ '=' := by
  rintro c hc rfl
  exact h.not_mem_equals hc

theorem IsStyle.styleName_eq {style : Text} (h : IsStyle style) : styleName style = .ok style := by
  obtain ⟨s, hread, hwords⟩ := h.read
  rw [styleName, Style.canonicalName, hread]
  exact congrArg Except.ok hwords

theorem IsStyle.fault?_eq_none {style : Text} (h : IsStyle style) : Style.fault? style = none := by
  obtain ⟨s, hread, -⟩ := h.read
  rw [Style.fault?, hread]

theorem read_of_isHex {word : Text} (hwords : Text.words word = [word])
    (hlower : Text.lower word = word) (hother : Attribute.ofName? word = none)
    (hhex : Colour.isHex word) :
    Style.read {} (Text.words word) = .ok { colour := some word } := by
  have hcolour : Colour.ofWord word = .ok word := by
    simp [Colour.ofWord, hlower, hhex, pure, Except.pure]
  rw [hwords, Style.read, Style.add, hlower, hother]
  simp only [hcolour]
  rfl

def namedStyles : List (Text × Style) :=
  [("red".toList, { colour := some "red".toList }),
   ("yellow".toList, { colour := some "yellow".toList }),
   ("cyan".toList, { colour := some "cyan".toList }),
   ("green".toList, { colour := some "green".toList }),
   ("bold".toList, { switches := [(.bold, true)] })]

def houseStyles : List (Text × Style) :=
  ("#9b59b6".toList, { colour := some "#9b59b6".toList }) :: namedStyles

theorem read_of_mem_houseStyles :
    ∀ e ∈ houseStyles, Style.read {} (Text.words e.1) = .ok e.2 := by
  refine List.forall_mem_cons.mpr ⟨?_, by decide +kernel⟩
  exact read_of_isHex (by decide +kernel) (by decide +kernel) (by decide +kernel)
    (by decide +kernel)

theorem isStyle_of_mem_houseStyles {style : Text} (h : style ∈ houseStyles.map (·.1)) :
    IsStyle style := by
  have hshape : ∀ e ∈ houseStyles, IsBody e.1 ∧ '=' ∉ e.1 ∧
      e.1.head? ≠ some '/' ∧ e.1.head? ≠ some '@' ∧ Text.trim e.1 ≠ [] ∧
      List.intercalate [' '] e.2.words = e.1 := by
    decide +kernel
  obtain ⟨e, he, rfl⟩ := List.mem_map.mp h
  obtain ⟨hbody, hequals, hslash, hat, htrim, hwords⟩ := hshape e he
  exact ⟨hbody, hequals, hslash, hat, htrim, e.2, read_of_mem_houseStyles e he, hwords⟩

/-! ### Following tags -/

/-- Tags that can be followed while some styles are open, the latest in front: each opens a style or
closes one that is open. -/
inductive CanFollow : List Text → List Text → Prop
  | nil {opened : List Text} : CanFollow opened []
  | opening {opened bodies : List Text} {style : Text} (hstyle : IsStyle style)
      (h : CanFollow (style :: opened) bodies) : CanFollow opened (style :: bodies)
  | closing {opened bodies : List Text} {style : Text} (hmem : style ∈ opened)
      (h : CanFollow (opened.erase style) bodies) : CanFollow opened (('/' :: style) :: bodies)

/-- An open tag that asks for a known style. -/
structure OpenTag.IsKnown (t : OpenTag) : Prop where
  style : IsStyle t.name
  argument : t.argument? = none

theorem OpenTag.IsKnown.fault?_span {t : OpenTag} (h : t.IsKnown) (stop : Nat) :
    Style.fault? (t.span stop).style = none := by
  have hstyle : (t.span stop).style = t.name := by
    simp [span, OpenTag.style, h.argument]
  rw [hstyle, h.style.fault?_eq_none]

theorem OpenTag.IsKnown.close_eq {t : OpenTag} (h : t.IsKnown) (stop : Nat) :
    t.close stop = .ok [t.span stop] := by
  have hstyle : ¬t.isAction := by simpa [isAction] using h.style.head_ne_at
  rw [close, if_neg hstyle]

theorem follow_opening {style : Text} (h : IsStyle style) (position shown : Nat)
    (tags : List OpenTag) :
    follow position shown style tags = .ok (⟨style, none, shown⟩ :: tags, []) := by
  have htake : style.takeWhile (· != '=') = style := by
    simpa using h.ne_equals
  have hdrop : style.dropWhile (· != '=') = [] := by
    simpa using h.ne_equals
  rw [follow.eq_def, htake, hdrop]
  split
  · exact absurd rfl h.head_ne_slash
  · rw [h.styleName_eq]
    rfl

theorem follow_closing {style : Text} {tags : List OpenTag} (htags : ∀ t ∈ tags, t.IsKnown)
    (hmem : style ∈ tags.map (·.name)) (position shown : Nat) :
    ∃ t ∈ tags, follow position shown ('/' :: style) tags =
      .ok (tags.eraseP (·.name == style), [t.span shown]) := by
  obtain ⟨u, hu, rfl⟩ := List.mem_map.mp hmem
  have hstyle : IsStyle u.name := (htags u hu).style
  have htake : ('/' :: u.name).takeWhile (· != '=') = '/' :: u.name := by
    simpa using hstyle.ne_equals
  obtain ⟨t, hfind⟩ : ∃ t, tags.find? (·.name == u.name) = some t := by
    rw [← Option.isSome_iff_exists, List.find?_isSome]
    exact ⟨u, hu, by simp⟩
  have ht : t ∈ tags := List.mem_of_find?_eq_some hfind
  refine ⟨t, ht, ?_⟩
  simp only [follow, htake, if_neg hstyle.trim_ne_nil, hstyle.styleName_eq, hfind,
    (htags t ht).close_eq, bind, Except.bind, pure, Except.pure]

theorem follow_of_canFollow {tags : List OpenTag} {body : Text} {bodies : List Text}
    (htags : ∀ t ∈ tags, t.IsKnown) (h : CanFollow (tags.map (·.name)) (body :: bodies))
    (position shown : Nat) :
    ∃ tags' closed, follow position shown body tags = .ok (tags', closed) ∧
      (∀ t ∈ tags', t.IsKnown) ∧ (∀ p ∈ closed, Style.fault? p.style = none) ∧
      CanFollow (tags'.map (·.name)) bodies := by
  cases h with
  | opening hstyle h =>
      refine ⟨_, _, follow_opening hstyle position shown tags, ?_, by simp, h⟩
      exact List.forall_mem_cons.mpr ⟨⟨hstyle, rfl⟩, htags⟩
  | @closing _ _ style hmem h =>
      obtain ⟨t, ht, hfollow⟩ := follow_closing htags hmem position shown
      refine ⟨_, _, hfollow, fun u hu => htags u (List.mem_of_mem_eraseP hu), ?_, ?_⟩
      · intro p hp
        rw [List.mem_singleton.mp hp]
        exact (htags t ht).fault?_span shown
      · have hnames : (tags.eraseP (·.name == style)).map (·.name) =
            (tags.map (·.name)).erase style := by
          have hsame : (fun t : OpenTag => t.name == style) =
              (fun name => style == name) ∘ fun t => t.name := by
            funext t
            exact Bool.beq_comm
          rw [List.erase_eq_eraseP, List.eraseP_map, hsame]
        rw [hnames]
        exact h

/-- Following tags that can be followed shows a text, and no style of it is at fault. -/
theorem renderPieces_eq_ok (display : Text → Text) {ps : List Piece} {tags : List OpenTag}
    (htags : ∀ t ∈ tags, t.IsKnown)
    (h : CanFollow (tags.map (·.name)) (ps.filterMap Piece.live?)) (position shown : Nat) :
    ∃ r, renderPieces display position shown tags ps = .ok r ∧
      ∀ p ∈ r.spans, Style.fault? p.style = none := by
  induction ps generalizing tags position shown with
  | nil =>
      refine ⟨_, rfl, fun p hp => ?_⟩
      obtain ⟨t, ht, rfl⟩ := List.mem_map.mp hp
      exact (htags t ht).fault?_span shown
  | cons piece ps ih =>
      cases piece with
      | plain run =>
          obtain ⟨r, hr, hspans⟩ := ih htags h (position + run.length)
            (shown + (display (unescapeBrackets run)).length)
          refine ⟨⟨display (unescapeBrackets run) ++ r.text, r.spans⟩, ?_, hspans⟩
          simp only [renderPieces, hr, bind, Except.bind, pure, Except.pure]
      | tag slashes body =>
          by_cases hodd : slashes % 2 = 1
          · have hlive : (Piece.tag slashes body).live? = none := by simp [Piece.live?, hodd]
            rw [List.filterMap_cons_none hlive] at h
            have hrest := ih htags h (position + slashes + body.length + 2)
            obtain ⟨r, hr, hspans⟩ := hrest (shown +
              (List.replicate (slashes / 2) '\\' ++ display ('[' :: body ++ [']'])).length)
            refine ⟨⟨List.replicate (slashes / 2) '\\' ++ display ('[' :: body ++ [']']) ++ r.text,
              r.spans⟩, ?_, hspans⟩
            simp only [renderPieces, if_pos hodd, hr, bind, Except.bind, pure, Except.pure]
          · -- A live tag is followed, and the rest can be followed with the tags that stay open.
            have hlive : (Piece.tag slashes body).live? = some body := if_pos (by omega)
            rw [List.filterMap_cons_some hlive] at h
            obtain ⟨tags', closed, hfollow, htags', hclosed, h'⟩ :=
              follow_of_canFollow htags h (position + slashes)
                (shown + (List.replicate (slashes / 2) '\\').length)
            obtain ⟨r, hr, hspans⟩ := ih htags' h' (position + slashes + body.length + 2)
              (shown + (List.replicate (slashes / 2) '\\').length)
            refine ⟨⟨List.replicate (slashes / 2) '\\' ++ r.text, closed ++ r.spans⟩, ?_, ?_⟩
            · simp only [renderPieces, if_neg hodd, hfollow, hr, bind, Except.bind, pure,
                Except.pure]
            · exact List.forall_mem_append.mpr ⟨hclosed, hspans⟩

theorem render_eq_ok (display : Text → Text) {markup : Text}
    (h : CanFollow [] (liveTags markup)) :
    ∃ r, render display markup = .ok r ∧ ∀ p ∈ r.spans, Style.fault? p.style = none := by
  have hnone : ∀ t ∈ ([] : List OpenTag), t.IsKnown := by simp
  obtain ⟨r, hr, hspans⟩ := renderPieces_eq_ok display hnone h 0 0
  refine ⟨{ r with spans := r.spans.reverse.mergeSort fun a b => a.first ≤ b.first }, ?_, ?_⟩
  · simp only [render, hr, bind, Except.bind, pure, Except.pure]
  · intro p hp
    exact hspans p (by simpa using hp)

/-! ### Texts without a tag -/

theorem pieces_of_not_mem {s : Text} (h : '[' ∉ s) :
    pieces s = if s = [] then [] else [.plain s] := by
  induction s with
  | nil => simp [pieces]
  | cons c cs ih =>
      have hnone : tag? ((c :: cs).dropWhile (· == '\\')) = none := by
        refine tag?_of_head?_ne fun hhead => h ?_
        exact (List.dropWhile_suffix _).subset (List.mem_of_head? hhead)
      have hcs : '[' ∉ cs := fun hmem => h (List.mem_cons_of_mem c hmem)
      rw [pieces_cons_of_tag?_eq_none hnone, ih hcs]
      cases cs with
      | nil => rfl
      | cons d ds => rfl

theorem unescapeBrackets_of_not_mem {s : Text} (h : '[' ∉ s) : unescapeBrackets s = s := by
  fun_induction unescapeBrackets s with
  | case1 cs ih => simp at h
  | case2 c cs _ ih =>
      rw [ih fun hmem => h (List.mem_cons_of_mem c hmem)]
  | case3 => rfl

theorem render_of_not_mem {display : Text → Text} (hdisplay : display [] = []) {s : Text}
    (h : '[' ∉ s) : render display s = .ok ⟨display s, []⟩ := by
  rw [render, pieces_of_not_mem h]
  by_cases hs : s = []
  · subst s
    simp [hdisplay, renderPieces, bind, Except.bind, pure, Except.pure]
  · simp [hs, renderPieces, unescapeBrackets_of_not_mem h, bind, Except.bind, pure, Except.pure]

theorem trailingSlashes_of_not_mem {s : Text} (h : '\\' ∉ s) : trailingSlashes s = 0 := by
  induction s with
  | nil => rfl
  | cons c cs ih =>
      rw [List.mem_cons, not_or] at h
      obtain ⟨hc, hcs⟩ := h
      rw [trailingSlashes_cons ⟨c, List.mem_cons_self, Ne.symm hc⟩, ih hcs]

theorem escaped_of_not_mem {s : Text} (h : '[' ∉ s) : escaped s = s := by
  rw [escaped, pieces_of_not_mem h]
  split
  · next hs => simp [hs]
  · simp [Piece.escaped]

theorem escape_of_not_mem {s : Text} (hopen : '[' ∉ s) (hslash : '\\' ∉ s) : escape s = s := by
  have hend : ¬trailingSlashes (escaped s) = 1 := by
    rw [escaped_of_not_mem hopen, trailingSlashes_of_not_mem hslash]
    decide
  exact (if_neg hend).trans (escaped_of_not_mem hopen)

end Markup

namespace Console

/-- Markup whose tags can be followed is printed. -/
theorem printMarkup_eq_ok {markup : Text} (h : Markup.CanFollow [] (Markup.liveTags markup)) :
    ∃ text, printMarkup markup = .ok text := by
  obtain ⟨r, hr, hspans⟩ := Markup.render_eq_ok display h
  have hfault : r.fault? = none := List.findSome?_eq_none_iff.mpr hspans
  refine ⟨printed r.text, ?_⟩
  simp only [printMarkup, hr, hfault, bind, Except.bind]

end Console

end MiniLex
