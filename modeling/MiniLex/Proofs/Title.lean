import MiniLex.Proofs.Heading
import MiniLex.Proofs.Verdict
import MiniLex.Proofs.ShownText

/-!
The title of a table, which is the path of the file. It is markup, and unlike all other text that
the user gives it is not escaped; so a tag in a path takes effect. Colons, backslashes and control
characters apart, a path that fits over the table is shown as it is, but for its live tags and for
the blanks at its end, which are cut off and made up for by the blanks that fill the line. A live
tag takes an opening bracket away, and nothing that happens to the title brings it back.
-/

namespace MiniLex

namespace Markup

/-! ### Markup without backslashes -/

theorem unescapeBrackets_sublist (s : Text) : (unescapeBrackets s).Sublist s := by
  fun_induction unescapeBrackets s with
  | case1 cs ih => exact (ih.cons_cons '[').cons '\\'
  | case2 c cs _ ih => exact ih.cons_cons c
  | case3 => exact .refl []

theorem renderPieces_congr {f g : Text → Text} {ps : List Piece}
    (h : ∀ t, t ⊆ ps.flatMap Piece.source → f t = g t) (position count : Nat)
    (tags : List OpenTag) :
    renderPieces f position count tags ps = renderPieces g position count tags ps := by
  induction ps generalizing position count tags with
  | nil => rfl
  | cons piece ps ih =>
      rw [List.flatMap_cons] at h
      have hrest := ih fun t ht => h t (List.subset_append_of_subset_right _ ht)
      cases piece with
      | plain run =>
          have hrun : f (unescapeBrackets run) = g (unescapeBrackets run) :=
            h _ (List.subset_append_of_subset_left _ (unescapeBrackets_sublist run).subset)
          simp only [renderPieces, hrun, hrest]
      -- The text that is displayed for an escaped tag is a part of its source.
      | tag slashes body =>
          have hbody : f ('[' :: body ++ [']']) = g ('[' :: body ++ [']']) := by
            refine h _ (List.subset_append_of_subset_left _ ?_)
            rw [Piece.source, List.append_assoc]
            exact List.subset_append_right _ _
          simp only [renderPieces, hbody, hrest]

theorem render_congr {f g : Text → Text} {s : Text} (h : ∀ t, t ⊆ s → f t = g t) :
    render f s = render g s := by
  rw [render, render, renderPieces_congr]
  rwa [flatMap_source_pieces]

/-- If tags can be followed, then the text that is shown does not depend on what they ask for. -/
theorem text_eq_of_renderPieces {ps : List Piece} {position count : Nat} {tags : List OpenTag}
    {r : StyledText} (h : renderPieces id position count tags ps = .ok r) :
    r.text = ps.flatMap Piece.shown := by
  induction ps generalizing position count tags r with
  | nil =>
      cases h
      rfl
  | cons piece ps ih =>
      cases piece with
      | plain run =>
          simp only [renderPieces, bind, Except.bind] at h
          split at h
          · contradiction
          · next rest hrest =>
              cases h
              rw [List.flatMap_cons, ih hrest]
              rfl
      | tag slashes body =>
          simp only [renderPieces, bind, Except.bind] at h
          split at h
          · next hodd =>
              split at h
              · contradiction
              · next rest hrest =>
                  cases h
                  rw [List.flatMap_cons, ih hrest, Piece.shown, if_pos hodd]
                  rfl
          · next heven =>
              split at h
              · contradiction
              · split at h
                · contradiction
                · next rest hrest =>
                    cases h
                    rw [List.flatMap_cons, ih hrest, Piece.shown, if_neg heven, List.append_nil]

theorem text_eq_of_render {s : Text} {r : StyledText} (h : render id s = .ok r) :
    r.text = shown s := by
  simp only [render, bind, Except.bind] at h
  split at h
  · contradiction
  · next whole hwhole =>
      cases h
      show whole.text = shown s
      exact text_eq_of_renderPieces hwhole

theorem Piece.shown_sublist (piece : Piece) : piece.shown.Sublist piece.source := by
  cases piece with
  | plain run => exact unescapeBrackets_sublist run
  | tag slashes body =>
      have hhalf : (List.replicate (slashes / 2) '\\').Sublist (List.replicate slashes '\\') :=
        (List.replicate_sublist_replicate _).mpr (Nat.div_le_self slashes 2)
      rw [shown, source, List.append_assoc]
      refine hhalf.append ?_
      split
      · exact .refl _
      · exact List.nil_sublist _

theorem shown_sublist (s : Text) : (shown s).Sublist s := by
  have hpieces (ps : List Piece) :
      (ps.flatMap Piece.shown).Sublist (ps.flatMap Piece.source) := by
    induction ps with
    | nil => exact .refl []
    | cons piece ps ih => exact piece.shown_sublist.append ih
  calc
    (shown s).Sublist ((pieces s).flatMap Piece.source) := hpieces (pieces s)
    _ = s := flatMap_source_pieces s

theorem slashes_eq_zero {slashes : Nat} {s : Text} (h : '\\' ∉ List.replicate slashes '\\' ++ s) :
    slashes = 0 := by
  simpa using fun hmem => h (List.mem_append_left s hmem)

/-- Without backslashes, what is not shown is the live tags; a bracket goes with each of them. -/
theorem count_shown_add_length_liveTags {s : Text} (h : '\\' ∉ s) :
    (shown s).count '[' + (liveTags s).length = s.count '[' := by
  induction s using pieceInduction with
  | nil => simp
  | tag slashes body rest hbody ih =>
      obtain rfl : slashes = 0 := slashes_eq_zero h
      have hopen : body.count '[' = 0 :=
        List.count_eq_zero.mpr (not_mem_of_forall_inTag hbody.inTag)
      have hrest : '\\' ∉ rest := fun hmem => h (by simp [hmem])
      have hlive : liveTags (List.replicate 0 '\\' ++ ('[' :: body ++ ']' :: rest)) =
          body :: liveTags rest := by
        rw [liveTags_tag hbody]
        rfl
      have hcount : ('[' :: body ++ ']' :: rest).count '[' = rest.count '[' + 1 := by
        simp [hopen]
      rw [shown_tag hbody, hlive, List.replicate_zero, List.nil_append, hcount, List.length_cons,
        ← ih hrest]
      rfl
  | char c cs hnone ih =>
      rw [List.mem_cons, not_or] at h
      rw [shown_cons_of_tag?_eq_none hnone, if_neg fun hc => h.1 hc.1.symm,
        liveTags_cons_of_tag?_eq_none hnone, List.count_cons, List.count_cons, ← ih h.2]
      omega

theorem shown_eq_self {s : Text} (h : '\\' ∉ s) (htags : liveTags s = []) : shown s = s := by
  induction s using pieceInduction with
  | nil => simp
  | tag slashes body rest hbody ih =>
      obtain rfl : slashes = 0 := slashes_eq_zero h
      rw [liveTags_tag hbody] at htags
      simp at htags
  | char c cs hnone ih =>
      rw [List.mem_cons, not_or] at h
      rw [liveTags_cons_of_tag?_eq_none hnone] at htags
      rw [shown_cons_of_tag?_eq_none hnone, if_neg fun hc => h.1 hc.1.symm, ih h.2 htags]

end Markup

namespace Console

/-! ### Lines between blanks -/

theorem count_blanks {c : Char} (h : c ≠ ' ') (n : Nat) : (blanks n).count c = 0 :=
  List.count_eq_zero.mpr (not_mem_blanks h n)

theorem not_mem_between_blanks {c : Char} {s : Text} (hc : c ≠ ' ') (h : c ∉ s) (n m : Nat) :
    c ∉ blanks n ++ s ++ blanks m := by
  simp [not_mem_blanks hc, h]

theorem rtakeWhile_blanks {s : Text} (hsome : s ≠ []) (hlast : s.getLast hsome ≠ ' ') (n : Nat) :
    (s ++ blanks n).rtakeWhile (· == ' ') = blanks n := by
  induction n with
  | zero =>
      rw [blanks, List.replicate_zero, List.append_nil, List.rtakeWhile_eq_nil_iff]
      exact fun _ => by simpa using hlast
  | succ n ih =>
      rw [blanks, List.replicate_succ', ← List.append_assoc, List.rtakeWhile_concat_pos _ _ _ rfl,
        ← blanks, ih]

section

variable {s : Text} {n m k l : Nat}

/-- If a text stands between blanks with something behind it, where it stood without before, then
what is behind it is blanks: no other character can be gained. -/
theorem eq_blanks_of_between {cut : Text}
    (h : blanks n ++ s ++ blanks m = blanks k ++ (s ++ cut) ++ blanks l) :
    cut = blanks cut.length := by
  have hnone (n : Nat) : (blanks n).countP (· != ' ') = 0 := by
    simp [blanks, List.countP_replicate]
  have hcount := congrArg (List.countP (· != ' ')) h
  simp only [List.countP_append, hnone] at hcount
  have hzero : cut.countP (· != ' ') = 0 := by omega
  refine List.eq_replicate_iff.mpr ⟨rfl, fun c hc => ?_⟩
  simpa using List.countP_eq_zero.mp hzero c hc

/-- A text that ends in no blank fixes how many blanks are behind it. -/
theorem le_of_between (hsome : s ≠ []) (hlast : s.getLast hsome ≠ ' ') {j : Nat}
    (h : blanks n ++ s ++ blanks m = blanks k ++ (s ++ blanks j) ++ blanks l) : j ≤ m := by
  have hends (n m : Nat) : (blanks n ++ s ++ blanks m).rtakeWhile (· == ' ') = blanks m :=
    rtakeWhile_blanks (by simp [hsome]) (by simpa [hsome] using hlast) m
  have hboth := congrArg (List.rtakeWhile (· == ' ')) h
  rw [← List.append_assoc, List.append_assoc _ (blanks j), blanks_append_blanks, hends,
    hends] at hboth
  have hlength : m = j + l := by simpa [blanks] using congrArg List.length hboth
  omega

end

/-! ### Titles -/

namespace Table

theorem expandStyled_of_not_mem {s : StyledText} (h : '\t' ∉ s.text) : expandStyled s = s :=
  if_neg (by simpa using h)

theorem sublist_of_mem_titleLines {width : Nat} {title line : StyledText}
    (htab : '\t' ∉ title.text) (h : line ∈ titleLines width title) :
    line.text.Sublist title.text := by
  obtain ⟨whole, hwhole, rfl⟩ := List.mem_map.mp h
  obtain ⟨part, hpart, hwhole⟩ := List.mem_flatMap.mp hwhole
  obtain ⟨first, hfirst, rfl⟩ := List.mem_map.mp hpart
  have hsub : first.text.Sublist title.text := StyledText.sublist_of_mem_cut hfirst
  rw [expandStyled_of_not_mem fun hmem => htab (hsub.subset hmem)] at hwhole
  rw [StyledText.text_take]
  exact ((List.take_sublist _ _).trans (StyledText.sublist_of_mem_cut hwhole)).trans hsub

theorem titleLines_ne_nil (width : Nat) (title : StyledText) : titleLines width title ≠ [] := by
  obtain ⟨first, rest, hcut⟩ := List.exists_cons_of_ne_nil
    (title.cut_ne_nil 1 ((linesOf title.text).map List.length))
  simp [titleLines, hcut, StyledText.cut_ne_nil]

theorem titleLines_of_fits {width : Nat} {title : Text} (htab : '\t' ∉ title) (hfeed : '\n' ∉ title)
    (hfits : lineWidth title ≤ width) :
    (titleLines width ⟨title, []⟩).map (·.text) = [Text.trimRight title] := by
  have hlines : linesOf title = [title] := List.splitOn_eq_singleton hfeed
  have hprefix : title.take (Text.trimRight title).length = Text.trimRight title :=
    (List.prefix_iff_eq_take.mp (List.rdropWhile_prefix Text.isBlank title)).symm
  simp only [titleLines, hlines, StyledText.cut, List.map_cons, List.map_nil, List.flatMap_cons,
    List.flatMap_nil, List.append_nil, expandStyled_of_not_mem (s := ⟨title, []⟩) htab,
    wrap_eq_self .fold hfits, StyledText.text_take, hprefix]

def under (t : Table) (title : StyledText) : Text :=
  ((titleLines t.width title).map (fun line => Align.centre.pad t.width line.text) ++
    t.lines).flatMap (· ++ ['\n'])

variable {t : Table} {title : Text} {shown : StyledText}

theorem print_eq_under (hsome : title ≠ []) (hrender : Markup.render display title = .ok shown)
    (hbare : shown.IsBare) : t.print title = .ok (t.under shown) := by
  have hfault : (titleLines t.width shown).findSome? (·.fault?) = none :=
    List.findSome?_eq_none_iff.mpr fun line hline =>
      (isBare_titleLines hbare t.width line hline).fault?_eq_none
  simp only [print, hrender, if_neg hsome, hfault, bind, Except.bind, pure, Except.pure, under]

theorem exists_of_print_eq_ok (hsome : title ≠ []) {text : Text} (h : t.print title = .ok text) :
    ∃ shown, Markup.render display title = .ok shown ∧ text = t.under shown := by
  cases hrender : Markup.render display title with
  | error e => simp [print, hrender, bind, Except.bind] at h
  | ok shown =>
      simp only [print, hrender, if_neg hsome, bind, Except.bind] at h
      split at h
      · contradiction
      · cases h
        exact ⟨shown, rfl, rfl⟩

theorem exists_under_eq (t : Table) {title : StyledText} {line : Text} {lines : List Text}
    (h : (titleLines t.width title).map (·.text) = line :: lines) :
    ∃ rest, t.under title = Align.centre.pad t.width line ++ '\n' :: rest := by
  have hmap : (titleLines t.width title).map (fun line => Align.centre.pad t.width line.text) =
      (line :: lines).map (Align.centre.pad t.width) := by
    rw [← h, List.map_map]
    rfl
  refine ⟨(lines.map (Align.centre.pad t.width) ++ t.lines).flatMap (· ++ ['\n']), ?_⟩
  rw [under, hmap, List.map_cons, List.cons_append, List.flatMap_cons, List.append_assoc]
  rfl

end Table

/-! ### First lines -/

/-- The first line of a text holds a title, between blanks. -/
def HeadedBy (title text : Text) : Prop :=
  ∃ before after rest, text = blanks before ++ title ++ blanks after ++ '\n' :: rest

theorem headedBy_iff {title line rest : Text} (htitle : '\n' ∉ title) (hline : '\n' ∉ line) :
    HeadedBy title (line ++ '\n' :: rest) ↔
      ∃ before after, line = blanks before ++ title ++ blanks after := by
  constructor
  · rintro ⟨before, after, rest', heq⟩
    refine ⟨before, after, ?_⟩
    -- Both sides are taken up to the first line feed.
    have htake {s : Text} (h : '\n' ∉ s) (t : Text) :
        (s ++ '\n' :: t).takeWhile (· != '\n') = s := by
      refine (takeWhile_append_of_boundary (fun c hc => ?_) (by simp)).1
      exact bne_iff_ne.mpr fun hfeed => h (hfeed ▸ hc)
    have hboth := congrArg (List.takeWhile (· != '\n')) heq
    rwa [htake hline, htake (not_mem_between_blanks (by decide) htitle before after)] at hboth
  · rintro ⟨before, after, rfl⟩
    exact ⟨before, after, rest, rfl⟩

theorem headedBy_pad_iff {title line rest : Text} {width : Nat} (htitle : '\n' ∉ title)
    (hline : '\n' ∉ line) :
    HeadedBy title (Align.centre.pad width line ++ '\n' :: rest) ↔
      ∃ before after, Align.centre.pad width line = blanks before ++ title ++ blanks after := by
  refine headedBy_iff htitle ?_
  rw [pad_centre]
  exact not_mem_between_blanks (by decide) hline _ _

/-- A title keeps the blanks at its end if the blanks that stand there anyway make up for them. -/
def KeepsEnd (width : Nat) (title : Text) : Prop :=
  let shown := Text.trimRight title
  let margin := width - lineWidth shown
  ∃ n, title = shown ++ blanks n ∧ (shown = [] ∨ n ≤ margin - margin / 2)

/-- A title in the middle of a line, without the blanks at its end, still stands there as a whole if
and only if it keeps its end. -/
theorem exists_pad_trimRight_iff {width : Nat} {title : Text} (hfits : lineWidth title ≤ width) :
    (∃ before after, Align.centre.pad width (Text.trimRight title) =
      blanks before ++ title ++ blanks after) ↔ KeepsEnd width title := by
  let shown := Text.trimRight title
  let margin := width - lineWidth shown
  have hpad : Align.centre.pad width shown =
      blanks (margin / 2) ++ shown ++ blanks (margin - margin / 2) := pad_centre width shown
  constructor
  · rintro ⟨before, after, heq⟩
    let cut := title.rtakeWhile Text.isBlank
    have hwhole : title = shown ++ cut := List.rdropWhile_append_rtakeWhile.symm
    have hline : blanks (margin / 2) ++ shown ++ blanks (margin - margin / 2) =
        blanks before ++ (shown ++ cut) ++ blanks after := by
      rw [← hpad, ← hwhole]
      exact heq
    -- The line holds `shown` once, so what is cut off the title lies among the blanks behind it.
    have hcut : cut = blanks cut.length := eq_blanks_of_between hline
    refine ⟨cut.length, hcut ▸ hwhole, ?_⟩
    by_cases hnil : shown = []
    · exact .inl hnil
    · have hlast : shown.getLast hnil ≠ ' ' := by
        intro hblank
        apply List.rdropWhile_last_not Text.isBlank title hnil
        show Text.isBlank (shown.getLast hnil)
        rw [hblank]
        decide
      rw [hcut] at hline
      exact .inr (le_of_between hnil hlast hline)
  · rintro ⟨n, hwhole, hnil | hroom⟩
    · -- Nothing but blanks: they are among those that fill the line.
      have htitle : title = blanks n := by rwa [hnil, List.nil_append] at hwhole
      have hwidth : lineWidth title = n := by
        simpa [htitle, lineWidth] using lineWidth_blanks_append n []
      have hmargin : margin = width := by
        show width - lineWidth shown = width
        rw [show shown = [] from hnil]
        rfl
      refine ⟨0, width - n, ?_⟩
      rw [hpad, show shown = [] from hnil, hmargin, htitle, List.append_nil, blanks_append_blanks,
        blanks_append_blanks, blanks_append_blanks]
      congr 1
      omega
    · have hsplit : n + (margin - margin / 2 - n) = margin - margin / 2 :=
        Nat.add_sub_cancel' hroom
      refine ⟨margin / 2, margin - margin / 2 - n, ?_⟩
      calc
        Align.centre.pad width shown
            = blanks (margin / 2) ++ shown ++ (blanks n ++ blanks (margin - margin / 2 - n)) := by
              rw [hpad, blanks_append_blanks, hsplit]
        _ = blanks (margin / 2) ++ (shown ++ blanks n) ++ blanks (margin - margin / 2 - n) := by
              simp only [List.append_assoc]
        _ = blanks (margin / 2) ++ title ++ blanks (margin - margin / 2 - n) := by
              rw [← show title = shown ++ blanks n from hwhole]

/-- Characters that steer a device and show nothing. -/
def isControl (c : Char) : Bool :=
  c.toNat < 0x20 || 0x7F ≤ c.toNat && c.toNat < 0xA0

/-- A text that holds no short code, no escape and no control character, so that nothing but tags
can change it on the way to the console. -/
structure IsTitle (s : Text) : Prop where
  ne_nil : s ≠ []
  colon : ':' ∉ s
  slash : '\\' ∉ s
  control : ∀ c ∈ s, isControl c = false

instance : DecidablePred IsTitle := fun s =>
  decidable_of_iff (s ≠ [] ∧ ':' ∉ s ∧ '\\' ∉ s ∧ s.all (!isControl ·)) <| by
    constructor
    · rintro ⟨hsome, hcolon, hslash, hcontrol⟩
      exact ⟨hsome, hcolon, hslash, by simpa using hcontrol⟩
    · rintro ⟨hsome, hcolon, hslash, hcontrol⟩
      exact ⟨hsome, hcolon, hslash, by simpa using hcontrol⟩

namespace IsTitle

variable {title : Text}

theorem not_mem (h : IsTitle title) {c : Char} (hc : isControl c = true) : c ∉ title := by
  intro hmem
  rw [h.control c hmem] at hc
  contradiction

theorem render_eq (h : IsTitle title) :
    Markup.render display title = Markup.render id title := by
  have hcontrol {c : Char} (hc : isDropped c) : isControl c := by
    simp only [isDropped, Bool.or_eq_true, beq_iff_eq] at hc
    rcases hc with (((rfl | rfl) | rfl) | rfl) | rfl
    all_goals rfl
  refine Markup.render_congr fun t ht => display_eq_self (fun hmem => h.colon (ht hmem)) ?_
  intro c hc
  rw [Bool.eq_false_iff]
  exact fun hdropped => h.not_mem (hcontrol hdropped) (ht hc)

theorem render_eq_self (h : IsTitle title) (htags : Markup.liveTags title = []) :
    Markup.render display title = .ok ⟨title, []⟩ := by
  rw [h.render_eq, Markup.render_of_liveTags_eq_nil htags, Markup.shown_eq_self h.slash htags]

/-- A live tag takes a bracket away, which nothing brings back. -/
theorem not_headedBy_under (h : IsTitle title) (htags : Markup.liveTags title ≠ [])
    {shown : StyledText} (hrender : Markup.render display title = .ok shown) (t : Table) :
    ¬HeadedBy title (t.under shown) := by
  have htext : shown.text = Markup.shown title := Markup.text_eq_of_render (h.render_eq ▸ hrender)
  have hcount : shown.text.count '[' < title.count '[' := by
    have htaken := Markup.count_shown_add_length_liveTags h.slash
    have hsome : 0 < (Markup.liveTags title).length := List.length_pos_iff.mpr htags
    rw [htext]
    omega
  have hmissing {c : Char} (hc : isControl c) : c ∉ shown.text := by
    rw [htext]
    exact fun hmem => h.not_mem hc ((Markup.shown_sublist title).subset hmem)
  obtain ⟨line, lines, hlines⟩ := List.exists_cons_of_ne_nil (Table.titleLines_ne_nil t.width shown)
  have hsub : line.text.Sublist shown.text :=
    Table.sublist_of_mem_titleLines (hmissing rfl) (hlines ▸ List.mem_cons_self)
  have hfirst : (Table.titleLines t.width shown).map (·.text) =
      line.text :: lines.map (·.text) := by
    rw [hlines, List.map_cons]
  obtain ⟨rest, hunder⟩ := t.exists_under_eq hfirst
  rw [hunder, headedBy_pad_iff (h.not_mem rfl) fun hmem => hmissing rfl (hsub.subset hmem)]
  rintro ⟨before, after, heq⟩
  -- The line has no more brackets than the shown text, and so fewer than the title.
  have hbrackets := congrArg (List.count '[') heq
  rw [pad_centre] at hbrackets
  simp only [List.count_append, count_blanks (c := '[') (by decide)] at hbrackets
  have hfewer := hsub.count_le '['
  omega

/-- The titles under which a table is printed with the title as its first line. -/
theorem exists_print_headedBy_iff (h : IsTitle title) {t : Table}
    (hfits : lineWidth title ≤ t.width) :
    (∃ text, t.print title = .ok text ∧ HeadedBy title text) ↔
      Markup.liveTags title = [] ∧ KeepsEnd t.width title := by
  by_cases htags : Markup.liveTags title = []
  · have hprint : t.print title = .ok (t.under ⟨title, []⟩) :=
      Table.print_eq_under h.ne_nil (h.render_eq_self htags) rfl
    obtain ⟨rest, hunder⟩ :=
      t.exists_under_eq (Table.titleLines_of_fits (h.not_mem rfl) (h.not_mem rfl) hfits)
    have hfeed : '\n' ∉ Text.trimRight title := fun hmem =>
      h.not_mem rfl ((List.rdropWhile_prefix Text.isBlank title).subset hmem)
    have hheaded : HeadedBy title (t.under ⟨title, []⟩) ↔ KeepsEnd t.width title := by
      rw [hunder, headedBy_pad_iff (h.not_mem rfl) hfeed, exists_pad_trimRight_iff hfits]
    simp [hprint, hheaded, htags]
  · refine iff_of_false ?_ fun hkept => htags hkept.1
    rintro ⟨text, hprint, hheaded⟩
    obtain ⟨shown, hrender, rfl⟩ := Table.exists_of_print_eq_ok h.ne_nil hprint
    exact h.not_headedBy_under htags hrender t hheaded

end IsTitle

end Console

/-! ### Paths -/

theorem Analysis.exists_readSource_of_ofFile {files : FileSystem} {path : Text} {options : Options}
    {table : KeywordTable} {a : Analysis} (h : (ofFile files path options table).2 = .ok a) :
    ∃ source, readSource files path .utf8 = .ok source ∧ a.file = path ∧
      a.tokens = tokensFrom table ⟨0, 0⟩ (segments source) := by
  cases hread : readSource files path .utf8 with
  | error e => simp [ofFile, hread] at h
  | ok source =>
      let setting : Setting := ⟨source, path, table, options⟩
      simp only [ofFile, hread, ofText_snd] at h
      rcases setting.forall_not_stops_or_stopsFirst (segments source) with hgo | ⟨before, s, hfirst⟩
      · obtain ⟨hresult, htokens, -⟩ := Session.tokenize_start_of_forall_not_stops setting
          (segmentation_segments source) hgo
        rw [hresult] at h
        cases h
        exact ⟨source, rfl, rfl, htokens⟩
      · obtain ⟨⟨reason, -, hresult⟩, -⟩ := Session.tokenize_start_of_stopsFirst setting
          (segmentation_segments source) hfirst
        rw [hresult] at h
        contradiction

namespace Command

variable {args : List Text} {request : Request} {env : Environment} {files : FileSystem}
  {table : KeywordTable} {a : Analysis}

theorem run_eq_of_isOk (hparse : parse args = .ok (.run request))
    (hanalysis : (Analysis.ofFile files request.input (request.options env) table).2 = .ok a)
    (hok : a.isOk) :
    let finished := run args env files table
    (finished.ending, finished.output.stdout) =
      match listingText request.format a.tokens a.file with
      | .ok text => (.ok ExitCode.ok, text)
      | .error e => (.error (.markup e), []) := by
  obtain ⟨asides, hasides, hserve⟩ := serve_eq request env files table
  have hanswer : answer request.format (.ok a) = (listing request.format a, .ok ExitCode.ok) :=
    if_pos hok
  rw [hanalysis, hanswer] at hserve
  refine (run_eq_of_serve hparse hasides hserve).trans ?_
  exact ending_of_listing _ request.format a

theorem run_headedBy_iff_print (hparse : parse args = .ok (.run request))
    (hformat : request.format = .table)
    (hanalysis : (Analysis.ofFile files request.input (request.options env) table).2 = .ok a)
    (hok : a.isOk) :
    let finished := run args env files table
    finished.ending = .ok ExitCode.ok ∧
        Console.HeadedBy request.input finished.output.stdout ↔
      ∃ text, (Token.tableOf a.tokens).print request.input = .ok text ∧
        Console.HeadedBy request.input text := by
  intro finished
  obtain ⟨source, -, hfile, htokens⟩ := Analysis.exists_readSource_of_ofFile hanalysis
  have hshape : ∀ t ∈ a.tokens, t.IsShaped := by
    rw [htokens]
    exact fun t ht => isShaped_of_mem_tokensFrom ht
  -- Tokens of a scan fill their cells as they are, so the table is the one that was asked for.
  have hlisting : listingText request.format a.tokens a.file =
      (Token.tableOf a.tokens).print request.input := by
    rw [hformat, hfile]
    exact Token.tableListing_eq hshape request.input
  have hrun : (finished.ending, finished.output.stdout) = _ := run_eq_of_isOk hparse hanalysis hok
  rw [hlisting] at hrun
  cases hprint : (Token.tableOf a.tokens).print request.input with
  | error e =>
      simp only [hprint, Prod.mk.injEq] at hrun
      simp [hrun]
  | ok text =>
      simp only [hprint, Prod.mk.injEq] at hrun
      simp [hrun]

/-- Under which paths a table of tokens is listed with the path as its first line: but for blanks at
the end of the path, all that can go wrong is a live tag in it. -/
theorem run_table_headedBy_iff (hparse : parse args = .ok (.run request))
    (hformat : request.format = .table)
    (hanalysis : (Analysis.ofFile files request.input (request.options env) table).2 = .ok a)
    (hok : a.isOk) (htitle : Console.IsTitle request.input)
    (hfits : Console.lineWidth request.input ≤ (Token.tableOf a.tokens).width) :
    let finished := run args env files table
    finished.ending = .ok ExitCode.ok ∧
        Console.HeadedBy request.input finished.output.stdout ↔
      Markup.liveTags request.input = [] ∧
        Console.KeepsEnd (Token.tableOf a.tokens).width request.input :=
  (run_headedBy_iff_print hparse hformat hanalysis hok).trans
    (htitle.exists_print_headedBy_iff hfits)

/-- Blanks in a path, a few at its end among them, and brackets that make no tag do no harm. -/
theorem run_table_headedBy_iff_no_tag :
    let path := "my dir/[1] x.c  ".toList
    let files : FileSystem := fun _ => .ok "x".toUTF8.toList
    let finished := run [path] [] files .default
    Console.IsTitle path ∧ finished.ending = .ok 0 ∧
      Console.HeadedBy path finished.output.stdout := by
  intro path files finished
  let request : Request := ⟨path, false, false, .table, false⟩
  let a : Analysis := ⟨path, [Token.identifier ['x'] 0 0], {}⟩
  have hparse : parse [path] = .ok (.run request) := by decide +kernel
  have hanalysis : (Analysis.ofFile files path (request.options []) .default).2 = .ok a := by
    decide +kernel
  have htitle : Console.IsTitle path := by decide +kernel
  have hfits : Console.lineWidth path ≤ (Token.tableOf a.tokens).width := by decide +kernel
  have htags : Markup.liveTags path = [] := by decide +kernel
  have hkept : Console.KeepsEnd (Token.tableOf a.tokens).width path :=
    ⟨2, by decide +kernel, .inr (by decide +kernel)⟩
  exact ⟨htitle, (run_table_headedBy_iff hparse rfl hanalysis rfl htitle hfits).mpr
    ⟨htags, hkept⟩⟩

/-- A tag in a path is followed: one that opens a style is left out of the first line, and one that
closes nothing takes the whole listing away. -/
theorem run_table_follows_tags :
    let files : FileSystem := fun _ => .ok "x".toUTF8.toList
    let opened := run ["a[b].c".toList] [] files .default
    let closed := run ["a[/b].c".toList] [] files .default
    Console.IsTitle "a[b].c".toList ∧ opened.ending = .ok 0 ∧
      ¬Console.HeadedBy "a[b].c".toList opened.output.stdout ∧
    Console.IsTitle "a[/b].c".toList ∧ closed.ending ≠ .ok 0 ∧ closed.output.stdout = [] := by
  intro files opened closed
  let request : Request := ⟨"a[b].c".toList, false, false, .table, false⟩
  let a : Analysis := ⟨"a[b].c".toList, [Token.identifier ['x'] 0 0], {}⟩
  have hparse : parse ["a[b].c".toList] = .ok (.run request) := by decide +kernel
  have hanalysis : (Analysis.ofFile files request.input (request.options []) .default).2 =
      .ok a := by
    decide +kernel
  have htitle : Console.IsTitle "a[b].c".toList := by decide +kernel
  have hfits : Console.lineWidth "a[b].c".toList ≤ (Token.tableOf a.tokens).width := by
    decide +kernel
  have hending : opened.ending = .ok 0 := by decide +kernel
  refine ⟨htitle, hending, fun hheaded => ?_, by decide +kernel, by decide +kernel,
    by decide +kernel⟩
  have hprint := (run_headedBy_iff_print hparse rfl hanalysis rfl).mp ⟨hending, hheaded⟩
  have htags := ((htitle.exists_print_headedBy_iff hfits).mp hprint).1
  exact absurd htags (by decide +kernel)

end Command

end MiniLex
