import MiniLex.Console.Markup
import MiniLex.Proofs.Segmentation
import Mathlib.Data.List.TakeWhile

/-!
The tags of markup that take effect. A tag is live if no backslash escapes it; whether markup can be
followed depends on its live tags alone. The live tags of a text that is put together are those of
its parts, as long as no bracket is closed across a seam and the backslashes at the end of one part
are counted with the next. An escaped text has none, whatever it holds.
-/

namespace MiniLex.Markup

/-! ### Tags -/

def IsBody : Text → Prop
  | [] => False
  | c :: cs => startsTag c ∧ ∀ d ∈ cs, inTag d

instance : DecidablePred IsBody
  | [] => isFalse id
  | c :: cs => decidable_of_iff (startsTag c ∧ cs.all inTag) (by simp [IsBody])

def firstBracket (s : Text) : Option Char :=
  s.find? (!inTag ·)

theorem firstBracket_ne_of_forall {s : Text} (h : ∀ c ∈ s, inTag c) :
    firstBracket s ≠ some ']' := by
  have hnone : firstBracket s = none := by simpa [firstBracket] using h
  rw [hnone]
  simp

theorem inTag_of_startsTag {c : Char} (h : startsTag c) : inTag c := by
  have hopen : c ≠ '[' := by
    rintro rfl
    contradiction
  have hclose : c ≠ ']' := by
    rintro rfl
    contradiction
  simp [inTag, hopen, hclose]

theorem IsBody.inTag {body : Text} (h : IsBody body) : ∀ d ∈ body, inTag d := by
  cases body with
  | nil => exact h.elim
  | cons c cs => exact List.forall_mem_cons.mpr ⟨inTag_of_startsTag h.1, h.2⟩

theorem IsBody.slash {body : Text} (h : IsBody body) : IsBody ('/' :: body) :=
  ⟨rfl, h.inTag⟩

theorem tag?_eq_some_iff {s body rest : Text} :
    tag? s = some (body, rest) ↔ IsBody body ∧ s = '[' :: body ++ ']' :: rest := by
  constructor
  · intro h
    refine ⟨?_, eq_of_tag? h⟩
    unfold tag? at h
    split at h
    next c cs =>
      split at h
      next hstart =>
        split at h
        next hrest =>
          simp only [Option.some.injEq, Prod.mk.injEq] at h
          obtain ⟨rfl, rfl⟩ := h
          exact ⟨hstart, List.all_eq_true.mp List.all_takeWhile⟩
        next => contradiction
      next => contradiction
    next => contradiction
  · rintro ⟨hbody, rfl⟩
    cases body with
    | nil => exact hbody.elim
    | cons c cs =>
        have hout : ∀ d ∈ (']' :: rest).head?, Markup.inTag d = false := by simp [Markup.inTag]
        obtain ⟨htake, hdrop⟩ := takeWhile_append_of_boundary hbody.2 hout
        simp [tag?, hbody.1, htake, hdrop]

theorem tag?_of_head?_ne {s : Text} (h : s.head? ≠ some '[') : tag? s = none := by
  cases s with
  | nil => rfl
  | cons c cs =>
      have hc : c ≠ '[' := by simpa using h
      cases htag : tag? (c :: cs) with
      | none => rfl
      | some tag =>
          obtain ⟨-, heq⟩ := tag?_eq_some_iff.mp htag
          simp [hc] at heq

/-- An open bracket makes a tag if the right character follows and it is closed before the next one
opens. -/
theorem isSome_tag?_iff {s : Text} :
    (tag? ('[' :: s)).isSome ↔ (∃ c ∈ s.head?, startsTag c) ∧ firstBracket s = some ']' := by
  constructor
  · intro h
    obtain ⟨⟨body, rest⟩, htag⟩ := Option.isSome_iff_exists.mp h
    obtain ⟨hbody, heq⟩ := tag?_eq_some_iff.mp htag
    obtain rfl : s = body ++ ']' :: rest := by simpa using heq
    constructor
    · cases body with
      | nil => exact hbody.elim
      | cons c cs => exact ⟨c, rfl, hbody.1⟩
    · have hnone : firstBracket body = none := by
        simpa [firstBracket] using hbody.inTag
      rw [firstBracket, List.find?_append, ← firstBracket, hnone]
      rfl
  · rintro ⟨⟨c, hc, hstart⟩, hclose⟩
    obtain ⟨-, body, rest, rfl, hbody⟩ := List.find?_eq_some_iff_append.mp hclose
    have hmem : IsBody body := by
      cases body with
      | nil =>
          obtain rfl : ']' = c := by simpa using hc
          exact absurd hstart (by decide)
      | cons d ds =>
          obtain rfl : d = c := by simpa using hc
          exact ⟨hstart, fun e he => by simpa using hbody e (List.mem_cons_of_mem d he)⟩
    rw [← List.cons_append, tag?_eq_some_iff.mpr ⟨hmem, rfl⟩]
    rfl

/-- What stands behind a text makes a tag of its front only by closing a bracket. -/
theorem tag?_append_of_eq_none {s t : Text} (hs : s ≠ []) (h : tag? s = none)
    (ht : firstBracket t ≠ some ']') : tag? (s ++ t) = none := by
  cases s with
  | nil => exact absurd rfl hs
  | cons c cs =>
      by_cases hc : c = '['
      · subst c
        rw [← Option.not_isSome_iff_eq_none, isSome_tag?_iff] at h
        rw [List.cons_append, ← Option.not_isSome_iff_eq_none, isSome_tag?_iff]
        -- If the bracket that closes the tag stood in `t`, it would be the first one there.
        rintro ⟨hstart, hclose⟩
        apply h
        rw [firstBracket, List.find?_append, ← firstBracket, ← firstBracket] at hclose
        cases hfirst : firstBracket cs with
        | none =>
            rw [hfirst, Option.none_or] at hclose
            exact absurd hclose ht
        | some d =>
            rw [hfirst, Option.some_or] at hclose
            refine ⟨?_, hclose⟩
            cases cs with
            | nil => simp [firstBracket] at hfirst
            | cons e es => exact hstart
      · exact tag?_of_head?_ne (by simpa using hc)

theorem tag?_dropWhile_append_of_eq_none {s t : Text} (hs : ∃ c ∈ s, c ≠ '\\')
    (h : tag? (s.dropWhile (· == '\\')) = none) (ht : firstBracket t ≠ some ']') :
    tag? ((s ++ t).dropWhile (· == '\\')) = none := by
  have hne : s.dropWhile (· == '\\') ≠ [] := by
    obtain ⟨c, hc, hslash⟩ := hs
    intro hnil
    exact hslash (by simpa using List.dropWhile_eq_nil_iff.mp hnil c hc)
  rw [List.dropWhile_append, if_neg (by simpa using hne)]
  exact tag?_append_of_eq_none hne h ht

theorem tag_append (slashes : Nat) (body rest t : Text) :
    List.replicate slashes '\\' ++ ('[' :: body ++ ']' :: rest) ++ t =
      List.replicate slashes '\\' ++ ('[' :: body ++ ']' :: (rest ++ t)) := by
  simp

/-! ### Live tags -/

/-- The body of a piece that is a tag and takes effect. -/
def Piece.live? : Piece → Option Text
  | plain _ => none
  | tag slashes body => if slashes % 2 = 0 then some body else none

/-- The bodies of the tags that take effect, in order. -/
def liveTags (s : Text) : List Text :=
  (pieces s).filterMap Piece.live?

@[simp] theorem liveTags_nil : liveTags [] = [] := by
  simp [liveTags, pieces]

theorem filterMap_live?_pushChar (c : Char) (ps : List Piece) :
    (pushChar c ps).filterMap Piece.live? = ps.filterMap Piece.live? := by
  unfold pushChar
  split
  · rfl
  · rfl

theorem pieces_cons_of_tag? {c : Char} {cs body rest : Text}
    (h : tag? ((c :: cs).dropWhile (· == '\\')) = some (body, rest)) :
    pieces (c :: cs) = .tag ((c :: cs).takeWhile (· == '\\')).length body :: pieces rest := by
  rw [pieces]
  split
  · next body' rest' h' =>
      cases h.symm.trans h'
      rfl
  · next h' =>
      rw [h] at h'
      contradiction

theorem pieces_cons_of_tag?_eq_none {c : Char} {cs : Text}
    (h : tag? ((c :: cs).dropWhile (· == '\\')) = none) :
    pieces (c :: cs) = pushChar c (pieces cs) := by
  rw [pieces]
  split
  · next body rest h' =>
      rw [h] at h'
      contradiction
  · rfl

theorem liveTags_cons_of_tag?_eq_none {c : Char} {cs : Text}
    (h : tag? ((c :: cs).dropWhile (· == '\\')) = none) :
    liveTags (c :: cs) = liveTags cs := by
  rw [liveTags, pieces_cons_of_tag?_eq_none h, filterMap_live?_pushChar, liveTags]

/-- A text with a tag at its front, behind some backslashes. -/
theorem pieces_tag {body : Text} (hbody : IsBody body) (slashes : Nat) (rest : Text) :
    pieces (List.replicate slashes '\\' ++ ('[' :: body ++ ']' :: rest)) =
      .tag slashes body :: pieces rest := by
  have hin : ∀ c ∈ List.replicate slashes '\\', (c == '\\') = true := by simp
  have hout : ∀ c ∈ ('[' :: body ++ ']' :: rest).head?, (c == '\\') = false := by simp
  obtain ⟨htake, hdrop⟩ := takeWhile_append_of_boundary hin hout
  have htag : tag? ('[' :: body ++ ']' :: rest) = some (body, rest) :=
    tag?_eq_some_iff.mpr ⟨hbody, rfl⟩
  cases hs : List.replicate slashes '\\' ++ ('[' :: body ++ ']' :: rest) with
  | nil => simp at hs
  | cons c cs =>
      rw [hs] at htake hdrop
      rw [pieces_cons_of_tag? (hdrop ▸ htag), htake, List.length_replicate]

/-- Induction along the pieces of a text: a text is empty, or a tag behind some backslashes stands
in front of the rest, or a character does that is no part of such a tag. -/
@[elab_as_elim]
theorem pieceInduction {motive : Text → Prop} (nil : motive [])
    (tag : ∀ (slashes : Nat) (body rest : Text), IsBody body → motive rest →
      motive (List.replicate slashes '\\' ++ ('[' :: body ++ ']' :: rest)))
    (char : ∀ (c : Char) (cs : Text), tag? ((c :: cs).dropWhile (· == '\\')) = none →
      motive cs → motive (c :: cs))
    (s : Text) : motive s := by
  induction s using pieces.induct with
  | case1 => exact nil
  | case2 c cs body rest h ih =>
      obtain ⟨hbody, hdrop⟩ := tag?_eq_some_iff.mp h
      have hwhole := List.takeWhile_append_dropWhile (p := (· == '\\')) (l := c :: cs)
      rw [hdrop, takeWhile_slash] at hwhole
      exact hwhole ▸ tag _ body rest hbody ih
  | case3 c cs h ih => exact char c cs h ih

theorem liveTags_tag {body : Text} (hbody : IsBody body) (slashes : Nat) (rest : Text) :
    liveTags (List.replicate slashes '\\' ++ ('[' :: body ++ ']' :: rest)) =
      if slashes % 2 = 0 then body :: liveTags rest else liveTags rest := by
  rw [liveTags, pieces_tag hbody, List.filterMap_cons, Piece.live?]
  by_cases heven : slashes % 2 = 0
  · simp [heven, liveTags]
  · simp [heven, liveTags]

theorem liveTags_cons {c : Char} (hopen : c ≠ '[') (hslash : c ≠ '\\') (cs : Text) :
    liveTags (c :: cs) = liveTags cs := by
  apply liveTags_cons_of_tag?_eq_none
  rw [List.dropWhile_cons_of_neg (by simpa using hslash)]
  exact tag?_of_head?_ne (by simpa using hopen)

theorem liveTags_append_of_forall {run : Text} (h : ∀ c ∈ run, c ≠ '[' ∧ c ≠ '\\') (s : Text) :
    liveTags (run ++ s) = liveTags s := by
  induction run with
  | nil => rfl
  | cons c cs ih =>
      obtain ⟨⟨hopen, hslash⟩, hrest⟩ := List.forall_mem_cons.mp h
      rw [List.cons_append, liveTags_cons hopen hslash, ih hrest]

theorem liveTags_eq_nil_of_forall {s : Text} (h : ∀ c ∈ s, c ≠ '[' ∧ c ≠ '\\') :
    liveTags s = [] := by
  simpa using liveTags_append_of_forall h []

theorem liveTags_replicate_append {s : Text} (h : ∀ c ∈ s.head?, c ≠ '[' ∧ c ≠ '\\') (n : Nat) :
    liveTags (List.replicate n '\\' ++ s) = liveTags s := by
  induction n with
  | zero => rfl
  | succ n ih =>
      rw [List.replicate_succ, List.cons_append, liveTags_cons_of_tag?_eq_none, ih]
      rw [← List.cons_append, ← List.replicate_succ]
      have hin : ∀ c ∈ List.replicate (n + 1) '\\', (c == '\\') = true := by simp
      have hout : ∀ c ∈ s.head?, (c == '\\') = false := fun c hc => by simpa using (h c hc).2
      rw [(takeWhile_append_of_boundary hin hout).2]
      refine tag?_of_head?_ne fun hhead => ?_
      exact (h '[' hhead).1 rfl

/-! ### Seams -/

theorem trailingSlashes_replicate (n : Nat) : trailingSlashes (List.replicate n '\\') = n := by
  simp [trailingSlashes]

theorem trailingSlashes_cons {c : Char} {cs : Text} (h : ∃ d ∈ c :: cs, d ≠ '\\') :
    trailingSlashes (c :: cs) = trailingSlashes cs := by
  rw [trailingSlashes, trailingSlashes, List.reverse_cons, List.takeWhile_append]
  split
  · next hall =>
      have hslashes : cs.reverse.takeWhile (· == '\\') = cs.reverse :=
        (List.takeWhile_prefix _).eq_of_length hall
      have hc : c ≠ '\\' := by
        rintro rfl
        obtain ⟨d, hd, hne⟩ := h
        have hmem : d ∈ cs := by simpa [hne] using hd
        have hslash := List.takeWhile_eq_self_iff.mp hslashes d (List.mem_reverse.mpr hmem)
        exact hne (by simpa using hslash)
      rw [List.takeWhile_cons_of_neg (by simpa using hc), List.append_nil, hslashes]
  · rfl

theorem trailingSlashes_append_cons {c : Char} (hc : c ≠ '\\') (s t : Text) :
    trailingSlashes (s ++ c :: t) = trailingSlashes t := by
  induction s with
  | nil => exact trailingSlashes_cons ⟨c, List.mem_cons_self, hc⟩
  | cons d ds ih =>
      rw [List.cons_append, trailingSlashes_cons ⟨c, by simp, hc⟩, ih]

theorem trailingSlashes_tag (slashes : Nat) (body rest : Text) :
    trailingSlashes (List.replicate slashes '\\' ++ ('[' :: body ++ ']' :: rest)) =
      trailingSlashes rest := by
  rw [← List.append_assoc]
  exact trailingSlashes_append_cons (by decide) _ rest

/-- The live tags of two texts put together. No tag spans the seam, but the backslashes in front of
it count for a tag behind it. -/
theorem liveTags_append (s : Text) {t : Text} (ht : firstBracket t ≠ some ']') :
    liveTags (s ++ t) =
      liveTags s ++ liveTags (List.replicate (trailingSlashes s) '\\' ++ t) := by
  induction s using pieceInduction with
  | nil => simp [trailingSlashes]
  | tag slashes body rest hbody ih =>
      rw [trailingSlashes_tag, tag_append, liveTags_tag hbody, ih, liveTags_tag hbody]
      split
      · rfl
      · rfl
  | char c cs h ih =>
      by_cases hall : ∃ d ∈ c :: cs, d ≠ '\\'
      · -- The tag would have to be in front of the seam, and there is none.
        have hnone := tag?_dropWhile_append_of_eq_none hall h ht
        rw [List.cons_append] at hnone ⊢
        rw [liveTags_cons_of_tag?_eq_none hnone, ih,
          liveTags_cons_of_tag?_eq_none h, trailingSlashes_cons hall]
      · have hreplicate : c :: cs = List.replicate (c :: cs).length '\\' :=
          List.eq_replicate_iff.mpr ⟨rfl, by simpa using hall⟩
        have hlive : liveTags (List.replicate (c :: cs).length '\\') = [] := by
          simpa using liveTags_replicate_append (s := []) (by simp) (c :: cs).length
        rw [hreplicate, trailingSlashes_replicate, hlive, List.nil_append]

/-! ### Escaped texts -/

/-- A text with all its tags escaped, before the backslash at its end is looked at. -/
def escaped (s : Text) : Text :=
  (pieces s).flatMap Piece.escaped

theorem escape_eq (s : Text) : escape s = escaped s ∨ escape s = escaped s ++ ['\\'] := by
  by_cases hend : trailingSlashes (escaped s) = 1
  · exact .inr (if_pos hend)
  · exact .inl (if_neg hend)

theorem flatMap_escaped_pushChar (c : Char) (ps : List Piece) :
    (pushChar c ps).flatMap Piece.escaped = c :: ps.flatMap Piece.escaped := by
  unfold pushChar
  split <;> simp [Piece.escaped]

@[simp] theorem escaped_nil : escaped [] = [] := by
  simp [escaped, pieces]

theorem escaped_cons_of_tag?_eq_none {c : Char} {cs : Text}
    (h : tag? ((c :: cs).dropWhile (· == '\\')) = none) : escaped (c :: cs) = c :: escaped cs := by
  rw [escaped, pieces_cons_of_tag?_eq_none h, flatMap_escaped_pushChar, escaped]

theorem escaped_tag {body : Text} (hbody : IsBody body) (slashes : Nat) (rest : Text) :
    escaped (List.replicate slashes '\\' ++ ('[' :: body ++ ']' :: rest)) =
      List.replicate (2 * slashes + 1) '\\' ++ ('[' :: body ++ ']' :: escaped rest) := by
  rw [escaped, pieces_tag hbody, List.flatMap_cons, ← escaped]
  simp [Piece.escaped]

theorem firstBracket_cons (c : Char) (s : Text) :
    firstBracket (c :: s) = if inTag c then firstBracket s else some c := by
  cases hc : inTag c with
  | false => simp [firstBracket, hc]
  | true => simp [firstBracket, hc]

theorem firstBracket_replicate_append (n : Nat) (s : Text) :
    firstBracket (List.replicate n '\\' ++ s) = firstBracket s := by
  induction n with
  | zero => rfl
  | succ n ih =>
      rw [List.replicate_succ, List.cons_append, firstBracket_cons, if_pos (by decide), ih]

/-- Escaping adds backslashes and no bracket. -/
theorem firstBracket_escaped (s : Text) : firstBracket (escaped s) = firstBracket s := by
  induction s using pieceInduction with
  | nil => simp
  | tag slashes body rest hbody ih =>
      rw [escaped_tag hbody, firstBracket_replicate_append, firstBracket_replicate_append,
        List.cons_append, List.cons_append, firstBracket_cons, firstBracket_cons]
      rfl
  | char c cs h ih => rw [escaped_cons_of_tag?_eq_none h, firstBracket_cons, firstBracket_cons, ih]

theorem mem_head?_of_mem_head?_escaped {s : Text} {c : Char} (hc : c ∈ (escaped s).head?)
    (hstart : startsTag c) : c ∈ s.head? := by
  induction s using pieceInduction with
  | nil => simp at hc
  | tag slashes body rest hbody ih =>
      rw [escaped_tag hbody, List.replicate_succ] at hc
      obtain rfl : '\\' = c := by simpa using hc
      contradiction
  | char d cs h ih =>
      rw [escaped_cons_of_tag?_eq_none h] at hc
      exact hc

theorem tag?_escaped_of_eq_none {s : Text} (h : tag? (s.dropWhile (· == '\\')) = none) :
    tag? ((escaped s).dropWhile (· == '\\')) = none := by
  induction s using pieceInduction with
  | nil => simpa using h
  | tag slashes body rest hbody ih =>
      have hin : ∀ c ∈ List.replicate slashes '\\', (c == '\\') = true := by simp
      have hout : ∀ c ∈ ('[' :: body ++ ']' :: rest).head?, (c == '\\') = false := by simp
      rw [(takeWhile_append_of_boundary hin hout).2, tag?_eq_some_iff.mpr ⟨hbody, rfl⟩] at h
      contradiction
  | char c cs hnone ih =>
      rw [escaped_cons_of_tag?_eq_none hnone]
      by_cases hslash : c = '\\'
      · subst c
        rw [List.dropWhile_cons_of_pos (by rfl)] at h ⊢
        exact ih h
      · rw [List.dropWhile_cons_of_neg (by simpa using hslash)] at h ⊢
        by_cases hopen : c = '['
        · subst c
          rw [← Option.not_isSome_iff_eq_none, isSome_tag?_iff] at h ⊢
          -- Escaping adds backslashes alone, which are no brackets and start no tag.
          rintro ⟨⟨d, hd, hstart⟩, hclose⟩
          rw [firstBracket_escaped] at hclose
          exact h ⟨⟨d, mem_head?_of_mem_head?_escaped hd hstart, hstart⟩, hclose⟩
        · exact tag?_of_head?_ne (by simpa using hopen)

theorem liveTags_escaped (s : Text) : liveTags (escaped s) = [] := by
  induction s using pieceInduction with
  | nil => simp
  | tag slashes body rest hbody ih =>
      have hodd : ¬(2 * slashes + 1) % 2 = 0 := by omega
      rw [escaped_tag hbody, liveTags_tag hbody, if_neg hodd, ih]
  | char c cs h ih =>
      have hnone := tag?_escaped_of_eq_none h
      rw [escaped_cons_of_tag?_eq_none h] at hnone ⊢
      rw [liveTags_cons_of_tag?_eq_none hnone, ih]

/-- No tag of an escaped text takes effect. -/
theorem liveTags_escape (s : Text) : liveTags (escape s) = [] := by
  rcases escape_eq s with h | h
  · rw [h, liveTags_escaped]
  · have hslashes :
        liveTags (List.replicate (trailingSlashes (escaped s)) '\\' ++ ['\\']) = [] := by
      rw [← List.replicate_succ']
      simpa using liveTags_replicate_append (s := []) (by simp) _
    rw [h, liveTags_append _ (by decide), liveTags_escaped, hslashes, List.append_nil]

theorem liveTags_escape_append (s : Text) {t : Text} (ht : firstBracket t ≠ some ']') :
    liveTags (escape s ++ t) =
      liveTags (List.replicate (trailingSlashes (escape s)) '\\' ++ t) := by
  rw [liveTags_append _ ht, liveTags_escape, List.nil_append]

theorem liveTags_escape_append_of_head? (s : Text) {t : Text} (ht : firstBracket t ≠ some ']')
    (hhead : ∀ c ∈ t.head?, c ≠ '[' ∧ c ≠ '\\') : liveTags (escape s ++ t) = liveTags t := by
  rw [liveTags_escape_append s ht, liveTags_replicate_append hhead]

/-- The tags of a style, around a text in which none takes effect. A text that ends in an odd number
of backslashes escapes the closing tag. -/
theorem liveTags_styled_append {style inner : Text} (hstyle : IsBody style)
    (hinner : liveTags inner = []) (rest : Text) :
    liveTags (styled style inner ++ rest) =
      if trailingSlashes inner % 2 = 0 then style :: ('/' :: style) :: liveTags rest
      else style :: liveTags rest := by
  have hopen := liveTags_tag hstyle 0 (inner ++ ('[' :: '/' :: style ++ ']' :: rest))
  have hbracket : firstBracket ('[' :: '/' :: style ++ ']' :: rest) ≠ some ']' := by
    simp [firstBracket, inTag]
  have hclose := liveTags_tag hstyle.slash (trailingSlashes inner) rest
  have hwhole : styled style inner ++ rest =
      '[' :: style ++ ']' :: (inner ++ ('[' :: '/' :: style ++ ']' :: rest)) := by
    simp [styled]
  rw [hwhole]
  simp only [List.replicate_zero, List.nil_append, Nat.zero_mod, if_pos] at hopen
  rw [hopen, liveTags_append _ hbracket, hinner, List.nil_append, hclose]
  split
  · rfl
  · rfl

end MiniLex.Markup
