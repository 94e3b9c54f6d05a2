import MiniLex.Proofs.Rendering

/-!
What markup shows. Half the backslashes in front of a tag are shown, and the tag itself if an odd
one escapes it; elsewhere a backslash goes if an opening bracket follows. An escaped text therefore
shows itself, but for two things: a backslash in front of a bracket that starts no tag is lost, and
a single backslash at the end comes out double.
-/

namespace MiniLex.Markup

/-- What a piece shows. A tag that takes effect shows nothing but backslashes. -/
def Piece.shown : Piece → Text
  | plain run => unescapeBrackets run
  | tag slashes body =>
    List.replicate (slashes / 2) '\\' ++ if slashes % 2 = 1 then '[' :: body ++ [']'] else []

/-- The text that markup shows, whatever its tags ask for. -/
def shown (s : Text) : Text :=
  (pieces s).flatMap Piece.shown

/-- A backslash right in front of an opening bracket that starts no tag. -/
def HasStrayEscape (s : Text) : Prop :=
  ∃ front back, s = front ++ '\\' :: '[' :: back ∧ tag? ('[' :: back) = none

/-! ### Shown texts, piece by piece -/

@[simp] theorem shown_nil : shown [] = [] := by
  simp [shown, pieces]

theorem shown_tag {body : Text} (hbody : IsBody body) (slashes : Nat) (rest : Text) :
    shown (List.replicate slashes '\\' ++ ('[' :: body ++ ']' :: rest)) =
      (Piece.tag slashes body).shown ++ shown rest := by
  rw [shown, pieces_tag hbody, List.flatMap_cons, ← shown]

theorem unescapeBrackets_cons {c : Char} {run : Text}
    (h : ¬(c = '\\' ∧ run.head? = some '[')) :
    unescapeBrackets (c :: run) = c :: unescapeBrackets run := by
  rw [unescapeBrackets]
  rintro rest rfl rfl
  exact h ⟨rfl, rfl⟩

theorem pushChar_eq (c : Char) (ps : List Piece) :
    ∃ run qs, pushChar c ps = .plain (c :: run) :: qs := by
  unfold pushChar
  split
  · exact ⟨_, _, rfl⟩
  · exact ⟨_, _, rfl⟩

/-- A character in front of pieces is shown, unless it is a backslash that escapes a bracket. -/
theorem flatMap_shown_pushChar {c : Char} {ps : List Piece}
    (h : ¬(c = '\\' ∧ (ps.flatMap Piece.source).head? = some '[')) :
    (pushChar c ps).flatMap Piece.shown = c :: ps.flatMap Piece.shown := by
  unfold pushChar
  split
  · next run ps =>
      have hrun : ¬(c = '\\' ∧ run.head? = some '[') := by
        rintro ⟨hc, hhead⟩
        exact h ⟨hc, by simp [Piece.source, hhead]⟩
      simp [Piece.shown, unescapeBrackets_cons hrun]
  · simp [Piece.shown, unescapeBrackets]

theorem shown_cons_of_tag?_eq_none {c : Char} {cs : Text}
    (h : tag? ((c :: cs).dropWhile (· == '\\')) = none) :
    shown (c :: cs) = if c = '\\' ∧ cs.head? = some '[' then shown cs else c :: shown cs := by
  rw [shown, pieces_cons_of_tag?_eq_none h]
  split
  · next hescape =>
      obtain ⟨rfl, hhead⟩ := hescape
      obtain ⟨ds, rfl⟩ := List.head?_eq_some_iff.mp hhead
      -- The bracket starts no tag, so it stands at the front of a run, and the backslash before it.
      have hnone : tag? (('[' :: ds).dropWhile (· == '\\')) = none := by simpa using h
      obtain ⟨run, ps, hrun⟩ := pushChar_eq '[' (pieces ds)
      rw [shown, pieces_cons_of_tag?_eq_none hnone, hrun]
      rfl
  · next hplain =>
      rw [flatMap_shown_pushChar, ← shown]
      rwa [flatMap_source_pieces]

theorem shown_of_not_mem {s : Text} (h : '[' ∉ s) : shown s = s := by
  rw [shown, pieces_of_not_mem h]
  split
  · next hs => simp [hs]
  · simp [Piece.shown, unescapeBrackets_of_not_mem h]

theorem not_mem_of_forall_inTag {s : Text} (h : ∀ c ∈ s, inTag c) : '[' ∉ s :=
  fun hmem => absurd (h '[' hmem) (by decide)

theorem shown_append (s : Text) {t : Text} (ht : ∀ c ∈ t, inTag c) :
    shown (s ++ t) = shown s ++ t := by
  have hopen : '[' ∉ t := not_mem_of_forall_inTag ht
  induction s using pieceInduction with
  | nil => simp [shown_of_not_mem hopen]
  | tag slashes body rest hbody ih =>
      rw [tag_append, shown_tag hbody, shown_tag hbody, ih, List.append_assoc]
  | char c cs h ih =>
      by_cases hall : ∃ d ∈ c :: cs, d ≠ '\\'
      · have hnone := tag?_dropWhile_append_of_eq_none hall h (firstBracket_ne_of_forall ht)
        rw [List.cons_append] at hnone ⊢
        rw [shown_cons_of_tag?_eq_none hnone, shown_cons_of_tag?_eq_none h, ih]
        -- Whether `c` escapes a bracket is told by the next character, and `t` brings no bracket.
        have hhead : (cs ++ t).head? = some '[' ↔ cs.head? = some '[' := by
          cases cs with
          | nil =>
              simp only [List.nil_append, List.head?_nil, reduceCtorEq, iff_false]
              exact fun hhead => hopen (List.mem_of_head? hhead)
          | cons d ds => rfl
        simp only [hhead]
        split
        · rfl
        · rfl
      · -- Nothing but backslashes, and no bracket behind them.
        have hslashes : '[' ∉ c :: cs := fun hmem => hall ⟨'[', hmem, by decide⟩
        have hwhole : '[' ∉ (c :: cs) ++ t := by
          rw [List.mem_append, not_or]
          exact ⟨hslashes, hopen⟩
        rw [shown_of_not_mem hslashes, shown_of_not_mem hwhole]

theorem shown_append_of_forall {run : Text} (h : ∀ c ∈ run, c ≠ '[' ∧ c ≠ '\\') (s : Text) :
    shown (run ++ s) = run ++ shown s := by
  induction run with
  | nil => rfl
  | cons c cs ih =>
      obtain ⟨⟨hopen, hslash⟩, hrest⟩ := List.forall_mem_cons.mp h
      have hnone : tag? ((c :: (cs ++ s)).dropWhile (· == '\\')) = none := by
        rw [List.dropWhile_cons_of_neg (by simpa using hslash)]
        exact tag?_of_head?_ne (by simpa using hopen)
      rw [List.cons_append, shown_cons_of_tag?_eq_none hnone, if_neg fun hc => hslash hc.1,
        ih hrest, List.cons_append]

/-! ### Rendering -/

/-- Pieces whose tags are all escaped, in front of other pieces: what they show is put in front. -/
theorem renderPieces_append {ps : List Piece} (h : ps.filterMap Piece.live? = [])
    (qs : List Piece) (tags : List OpenTag) (position count : Nat) :
    renderPieces id position count tags (ps ++ qs) =
      (renderPieces id (position + (ps.flatMap Piece.source).length)
        (count + (ps.flatMap Piece.shown).length) tags qs).map fun r =>
          ⟨ps.flatMap Piece.shown ++ r.text, r.spans⟩ := by
  induction ps generalizing position count with
  | nil =>
      cases hrest : renderPieces id position count tags qs with
      | error e => simp [hrest, Except.map]
      | ok r => simp [hrest, Except.map]
  | cons piece ps ih =>
      obtain ⟨hlive, hrest⟩ : piece.live? = none ∧ ps.filterMap Piece.live? = [] := by
        cases hlive : piece.live? with
        | none => exact ⟨rfl, by simpa [List.filterMap_cons, hlive] using h⟩
        | some body => simp [hlive] at h
      cases piece with
      | plain run =>
          simp only [List.cons_append, renderPieces, ih hrest, List.flatMap_cons, Piece.source,
            Piece.shown, List.length_append, Nat.add_assoc, id]
          cases renderPieces id _ _ tags qs with
          | error e => rfl
          | ok r => simp [Except.map, bind, Except.bind, pure, Except.pure]
      | tag slashes body =>
          -- The tag is not live, so the last of its backslashes escapes it.
          have hodd : slashes % 2 = 1 := by
            rw [Piece.live?] at hlive
            split at hlive
            · contradiction
            · omega
          have hsource : position + (Piece.tag slashes body).source.length =
              position + slashes + body.length + 2 := by
            simp only [Piece.source, List.length_append, List.length_cons, List.length_replicate,
              List.length_nil]
            omega
          have htext : (Piece.tag slashes body).shown =
              List.replicate (slashes / 2) '\\' ++ ('[' :: body ++ [']']) := by
            rw [Piece.shown, if_pos hodd]
          simp only [List.cons_append, renderPieces, if_pos hodd, ih hrest, List.flatMap_cons,
            List.length_append, ← Nat.add_assoc, hsource, htext, id]
          cases renderPieces id _ _ tags qs with
          | error e => rfl
          | ok r => simp [Except.map, bind, Except.bind, pure, Except.pure]

theorem renderPieces_live {body : Text} {tags tags' : List OpenTag} {closed : List Span}
    {position count : Nat} (h : follow position count body tags = .ok (tags', closed))
    (ps : List Piece) :
    renderPieces id position count tags (.tag 0 body :: ps) =
      (renderPieces id (position + body.length + 2) count tags' ps).map fun r =>
        ⟨r.text, closed ++ r.spans⟩ := by
  simp only [renderPieces, Nat.zero_mod, Nat.zero_div, List.replicate_zero, List.length_nil,
    Nat.add_zero, h, bind, Except.bind, if_neg Nat.zero_ne_one]
  cases renderPieces id _ count tags' ps with
  | error e => rfl
  | ok r => rfl

theorem follow_closing_singleton {style : Text} (h : IsStyle style)
    (position first stop : Nat) :
    follow position stop ('/' :: style) [⟨style, none, first⟩] =
      .ok ([], [⟨first, stop, style⟩]) := by
  have hknown : ∀ t ∈ [(⟨style, none, first⟩ : OpenTag)], t.IsKnown := by
    simpa using ⟨h, rfl⟩
  have hmem : style ∈ [(⟨style, none, first⟩ : OpenTag)].map (·.name) := by simp
  obtain ⟨t, ht, hfollow⟩ := follow_closing hknown hmem position stop
  rw [hfollow, List.mem_singleton.mp ht]
  simp [OpenTag.span, OpenTag.style]

/-! ### Tags between other text -/

theorem pushChar_append_tag (c : Char) (ps : List Piece) (slashes : Nat) (body : Text)
    (qs : List Piece) :
    pushChar c (ps ++ .tag slashes body :: qs) = pushChar c ps ++ .tag slashes body :: qs := by
  cases ps with
  | nil => rfl
  | cons piece ps =>
      cases piece with
      | plain run => rfl
      | tag slashes' body' => rfl

theorem pieces_append_tag {s body : Text} (hs : trailingSlashes s = 0) (hbody : IsBody body)
    (rest : Text) :
    pieces (s ++ ('[' :: body ++ ']' :: rest)) = pieces s ++ .tag 0 body :: pieces rest := by
  induction s using pieceInduction with
  | nil => simpa [pieces] using pieces_tag hbody 0 rest
  | tag slashes body' rest' hbody' ih =>
      rw [trailingSlashes_tag] at hs
      rw [tag_append, pieces_tag hbody', pieces_tag hbody', ih hs, List.cons_append]
  | char c cs h ih =>
      -- If there were backslashes alone, they would all be in front of the tag.
      have hall : ∃ d ∈ c :: cs, d ≠ '\\' := by
        by_contra hslashes
        have hreplicate : c :: cs = List.replicate (c :: cs).length '\\' :=
          List.eq_replicate_iff.mpr ⟨rfl, by simpa using hslashes⟩
        rw [hreplicate, trailingSlashes_replicate] at hs
        simp at hs
      have hnone := tag?_dropWhile_append_of_eq_none hall h
        (t := '[' :: body ++ ']' :: rest) (by simp [firstBracket, inTag])
      rw [trailingSlashes_cons hall] at hs
      rw [List.cons_append] at hnone ⊢
      rw [pieces_cons_of_tag?_eq_none hnone, pieces_cons_of_tag?_eq_none h, ih hs,
        pushChar_append_tag]

theorem render_of_liveTags_eq_nil {s : Text} (h : liveTags s = []) :
    render id s = .ok ⟨shown s, []⟩ := by
  have hpieces := renderPieces_append h [] [] 0 0
  rw [List.append_nil] at hpieces
  rw [render, hpieces]
  simp [renderPieces, shown, Except.map, bind, Except.bind, pure, Except.pure]

/-- A styled text between others, with no live tag in any of them: what is shown of the text in the
middle, and that alone, has the style. -/
theorem render_styled {style before inner after : Text} (hstyle : IsStyle style)
    (hbefore : liveTags before = []) (hinner : liveTags inner = []) (hafter : liveTags after = [])
    (hseam : trailingSlashes before = 0) (hseam' : trailingSlashes inner = 0) :
    render id (before ++ (styled style inner ++ after)) =
      .ok ⟨shown before ++ (shown inner ++ shown after),
        [⟨(shown before).length, (shown before).length + (shown inner).length, style⟩]⟩ := by
  have hpieces : pieces (before ++ (styled style inner ++ after)) =
      pieces before ++ .tag 0 style :: (pieces inner ++ .tag 0 ('/' :: style) :: pieces after) := by
    have hwhole : styled style inner ++ after =
        '[' :: style ++ ']' :: (inner ++ ('[' :: '/' :: style ++ ']' :: after)) := by
      simp [styled]
    rw [hwhole, pieces_append_tag hseam hstyle.body, pieces_append_tag hseam' hstyle.body.slash]
  have hrest (position count : Nat) := renderPieces_append hafter [] [] position count
  simp only [List.append_nil] at hrest
  rw [render, hpieces, renderPieces_append hbefore, renderPieces_live (follow_opening hstyle _ _ _),
    renderPieces_append hinner, renderPieces_live (follow_closing_singleton hstyle _ _ _), hrest]
  simp [renderPieces, shown, Except.map, bind, Except.bind, pure, Except.pure]

/-! ### Stray escapes -/

@[simp] theorem not_hasStrayEscape_nil : ¬HasStrayEscape [] := by
  rintro ⟨front, back, h, -⟩
  simp at h

theorem hasStrayEscape_cons {c : Char} {cs : Text} :
    HasStrayEscape (c :: cs) ↔
      (c = '\\' ∧ cs.head? = some '[' ∧ tag? cs = none) ∨ HasStrayEscape cs := by
  constructor
  · rintro ⟨front, back, h, hnone⟩
    cases front with
    | nil =>
        obtain ⟨rfl, rfl⟩ : c = '\\' ∧ cs = '[' :: back := by simpa using h
        exact .inl ⟨rfl, rfl, hnone⟩
    | cons d ds =>
        obtain ⟨rfl, rfl⟩ : c = d ∧ cs = ds ++ '\\' :: '[' :: back := by simpa using h
        exact .inr ⟨ds, back, rfl, hnone⟩
  · rintro (⟨rfl, hhead, hnone⟩ | ⟨front, back, rfl, hnone⟩)
    · obtain ⟨back, rfl⟩ := List.head?_eq_some_iff.mp hhead
      exact ⟨[], back, rfl, hnone⟩
    · exact ⟨c :: front, back, rfl, hnone⟩

instance decidableHasStrayEscape : DecidablePred HasStrayEscape
  | [] => isFalse not_hasStrayEscape_nil
  | _ :: cs =>
    have := decidableHasStrayEscape cs
    decidable_of_iff' _ hasStrayEscape_cons

theorem hasStrayEscape_append_cons {run : Text} {c : Char} (hrun : '[' ∉ run) (hopen : c ≠ '[')
    (hslash : c ≠ '\\') (s : Text) : HasStrayEscape (run ++ c :: s) ↔ HasStrayEscape s := by
  induction run with
  | nil => simp [hasStrayEscape_cons, hslash]
  | cons d ds ih =>
      obtain ⟨-, hds⟩ : '[' ≠ d ∧ '[' ∉ ds := by simpa using hrun
      have hhead : (ds ++ c :: s).head? ≠ some '[' := by
        cases ds with
        | nil => simpa using hopen
        | cons e es =>
            rintro heq
            exact hds (List.mem_of_head? (by simpa using heq))
      rw [List.cons_append, hasStrayEscape_cons, ih hds]
      exact or_iff_right fun hstray => hhead hstray.2.1

theorem hasStrayEscape_tag {body : Text} (hbody : IsBody body) (slashes : Nat) (rest : Text) :
    HasStrayEscape (List.replicate slashes '\\' ++ ('[' :: body ++ ']' :: rest)) ↔
      HasStrayEscape rest := by
  have hopen : '[' ∉ body := not_mem_of_forall_inTag hbody.inTag
  induction slashes with
  | zero =>
      rw [List.replicate_zero, List.nil_append, List.cons_append, hasStrayEscape_cons,
        hasStrayEscape_append_cons hopen (by decide) (by decide)]
      simp
  | succ n ih =>
      rw [List.replicate_succ, List.cons_append, hasStrayEscape_cons]
      refine (or_congr_right ih).trans (or_iff_right ?_)
      rintro ⟨-, hhead, hnone⟩
      cases n with
      | zero =>
          rw [List.replicate_zero, List.nil_append, tag?_eq_some_iff.mpr ⟨hbody, rfl⟩] at hnone
          contradiction
      | succ n => simp [List.replicate_succ] at hhead

theorem tag?_append_eq_none_iff {s t : Text} (hs : s ≠ []) (ht : firstBracket t ≠ some ']') :
    tag? (s ++ t) = none ↔ tag? s = none := by
  refine ⟨fun h => ?_, fun h => tag?_append_of_eq_none hs h ht⟩
  cases htag : tag? s with
  | none => rfl
  | some tag =>
      obtain ⟨hbody, rfl⟩ := tag?_eq_some_iff.mp htag
      have hwhole : tag? ('[' :: tag.1 ++ ']' :: tag.2 ++ t) = some (tag.1, tag.2 ++ t) :=
        tag?_eq_some_iff.mpr ⟨hbody, by simp⟩
      rw [h] at hwhole
      contradiction

theorem hasStrayEscape_append (s : Text) {t : Text} (ht : ∀ c ∈ t, inTag c) :
    HasStrayEscape (s ++ t) ↔ HasStrayEscape s := by
  have hopen : '[' ∉ t := not_mem_of_forall_inTag ht
  induction s with
  | nil =>
      simp only [List.nil_append, not_hasStrayEscape_nil, iff_false]
      rintro ⟨front, back, rfl, -⟩
      simp at hopen
  | cons c cs ih =>
      rw [List.cons_append, hasStrayEscape_cons, hasStrayEscape_cons]
      refine or_congr ?_ ih
      cases cs with
      | nil =>
          have hhead : t.head? ≠ some '[' := fun hhead => hopen (List.mem_of_head? hhead)
          simp [hhead]
      | cons d ds =>
          rw [tag?_append_eq_none_iff (List.cons_ne_nil d ds) (firstBracket_ne_of_forall ht)]
          rfl

/-! ### Escaped texts -/

theorem head?_escaped {s : Text} (h : tag? (s.dropWhile (· == '\\')) = none) :
    (escaped s).head? = s.head? := by
  cases s with
  | nil => simp
  | cons c cs => rw [escaped_cons_of_tag?_eq_none h, List.head?_cons, List.head?_cons]

theorem shown_escaped_tag {body : Text} (hbody : IsBody body) (slashes : Nat) (rest : Text) :
    shown (escaped (List.replicate slashes '\\' ++ ('[' :: body ++ ']' :: rest))) =
      List.replicate slashes '\\' ++ ('[' :: body ++ ']' :: shown (escaped rest)) := by
  have hhalf : (2 * slashes + 1) / 2 = slashes := by omega
  have hodd : (2 * slashes + 1) % 2 = 1 := by omega
  rw [escaped_tag hbody, shown_tag hbody, Piece.shown, hhalf, if_pos hodd]
  simp

theorem shown_escaped_cons {c : Char} {cs : Text}
    (h : tag? ((c :: cs).dropWhile (· == '\\')) = none) :
    shown (escaped (c :: cs)) =
      if c = '\\' ∧ cs.head? = some '[' then shown (escaped cs) else c :: shown (escaped cs) := by
  have hnone := tag?_escaped_of_eq_none h
  rw [escaped_cons_of_tag?_eq_none h] at hnone ⊢
  rw [shown_cons_of_tag?_eq_none hnone]
  by_cases hslash : c = '\\'
  · subst c
    rw [head?_escaped (by simpa using h)]
  · simp [hslash]

/-- Nothing is shown of an escaped text that it does not hold. -/
theorem shown_escaped_sublist (s : Text) : (shown (escaped s)).Sublist s := by
  induction s using pieceInduction with
  | nil => simp
  | tag slashes body rest hbody ih =>
      rw [shown_escaped_tag hbody]
      exact ((ih.cons_cons ']').append_left ('[' :: body)).append_left _
  | char c cs h ih =>
      rw [shown_escaped_cons h]
      split
      · exact ih.cons c
      · exact ih.cons_cons c

theorem shown_escaped_eq_iff {s : Text} : shown (escaped s) = s ↔ ¬HasStrayEscape s := by
  induction s using pieceInduction with
  | nil => simp
  | tag slashes body rest hbody ih =>
      rw [shown_escaped_tag hbody, hasStrayEscape_tag hbody, ← ih]
      simp
  | char c cs h ih =>
      rw [shown_escaped_cons h, hasStrayEscape_cons]
      split
      · next hescape =>
          obtain ⟨rfl, hhead⟩ := hescape
          obtain ⟨ds, rfl⟩ := List.head?_eq_some_iff.mp hhead
          have hnone : tag? ('[' :: ds) = none := by simpa using h
          -- The backslash is lost, and nothing behind it can make up for it.
          have hlength := (shown_escaped_sublist ('[' :: ds)).length_le
          have hne : shown (escaped ('[' :: ds)) ≠ '\\' :: '[' :: ds := by
            intro heq
            rw [heq, List.length_cons] at hlength
            omega
          simp [hne, hnone]
      · next hplain =>
          have hfirst : ¬(c = '\\' ∧ cs.head? = some '[' ∧ tag? cs = none) :=
            fun hstray => hplain ⟨hstray.1, hstray.2.1⟩
          simp [hfirst, ih]

theorem getLast?_shown_escaped (s : Text) : (shown (escaped s)).getLast? = s.getLast? := by
  induction s using pieceInduction with
  | nil => simp
  | tag slashes body rest hbody ih =>
      rw [shown_escaped_tag hbody]
      simp [List.getLast?_cons, ih]
  | char c cs h ih =>
      rw [shown_escaped_cons h]
      split
      · next hescape =>
          obtain ⟨ds, rfl⟩ := List.head?_eq_some_iff.mp hescape.2
          rw [ih, List.getLast?_cons_cons]
      · rw [List.getLast?_cons, List.getLast?_cons, ih]

/-! ### Backslashes at the end -/

theorem trailingSlashes_concat (s : Text) :
    trailingSlashes (s ++ ['\\']) = trailingSlashes s + 1 := by
  simp [trailingSlashes]

theorem trailingSlashes_eq_zero_iff {s : Text} :
    trailingSlashes s = 0 ↔ s.getLast? ≠ some '\\' := by
  rcases List.eq_nil_or_concat s with rfl | ⟨s, c, rfl⟩
  · simp [trailingSlashes]
  · rw [List.concat_eq_append]
    by_cases hc : c = '\\'
    · simp [hc, trailingSlashes_concat]
    · rw [trailingSlashes_append_cons hc]
      simp [hc, trailingSlashes]

theorem sublist_escaped (s : Text) : s.Sublist (escaped s) := by
  induction s using pieceInduction with
  | nil => simp
  | tag slashes body rest hbody ih =>
      rw [escaped_tag hbody]
      have hslashes :
          (List.replicate slashes '\\').Sublist (List.replicate (2 * slashes + 1) '\\') :=
        (List.replicate_sublist_replicate _).mpr (by omega)
      exact hslashes.append ((ih.cons_cons ']').append_left ('[' :: body))
  | char c cs h ih =>
      rw [escaped_cons_of_tag?_eq_none h]
      exact ih.cons_cons c

theorem trailingSlashes_escaped (s : Text) : trailingSlashes (escaped s) = trailingSlashes s := by
  induction s using pieceInduction with
  | nil => simp
  | tag slashes body rest hbody ih =>
      rw [escaped_tag hbody, trailingSlashes_tag, trailingSlashes_tag, ih]
  | char c cs h ih =>
      rw [escaped_cons_of_tag?_eq_none h]
      by_cases hall : ∃ d ∈ c :: cs, d ≠ '\\'
      · have hall' : ∃ d ∈ c :: escaped cs, d ≠ '\\' := by
          obtain ⟨d, hd, hne⟩ := hall
          exact ⟨d, ((sublist_escaped cs).cons_cons c).subset hd, hne⟩
        rw [trailingSlashes_cons hall, trailingSlashes_cons hall', ih]
      · have hopen : '[' ∉ c :: cs := fun hmem => hall ⟨'[', hmem, by decide⟩
        rw [← escaped_cons_of_tag?_eq_none h, escaped_of_not_mem hopen]

theorem escape_eq_ite (s : Text) :
    escape s = if trailingSlashes s = 1 then escaped s ++ ['\\'] else escaped s := by
  rw [← trailingSlashes_escaped]
  rfl

theorem trailingSlashes_escape {s : Text} (h : trailingSlashes s = 0) :
    trailingSlashes (escape s) = 0 := by
  rw [escape_eq_ite, if_neg (by omega), trailingSlashes_escaped, h]

theorem shown_escape (s : Text) :
    shown (escape s) =
      if trailingSlashes s = 1 then shown (escaped s) ++ ['\\'] else shown (escaped s) := by
  rw [escape_eq_ite]
  split
  · exact shown_append _ (by simp [inTag])
  · rfl

theorem shown_escape_sublist {s : Text} (h : trailingSlashes s ≠ 1) :
    (shown (escape s)).Sublist s := by
  rw [shown_escape, if_neg h]
  exact shown_escaped_sublist s

theorem one_lt_trailingSlashes_shown_escape {s : Text} (h : trailingSlashes s = 1) :
    1 < trailingSlashes (shown (escape s)) := by
  have hslash : trailingSlashes (shown (escaped s)) ≠ 0 := by
    rw [Ne, trailingSlashes_eq_zero_iff, getLast?_shown_escaped, ← trailingSlashes_eq_zero_iff, h]
    decide
  rw [shown_escape, if_pos h, trailingSlashes_concat]
  omega

/-- The texts that show themselves when they are escaped. -/
theorem shown_escape_eq_iff {s : Text} :
    shown (escape s) = s ↔ ¬HasStrayEscape s ∧ trailingSlashes s ≠ 1 := by
  by_cases hend : trailingSlashes s = 1
  · have hne : shown (escape s) ≠ s := by
      intro heq
      have hmore := one_lt_trailingSlashes_shown_escape hend
      rw [heq, hend] at hmore
      exact lt_irrefl 1 hmore
    simp [hne, hend]
  · rw [shown_escape, if_neg hend, shown_escaped_eq_iff]
    simp [hend]

end MiniLex.Markup
