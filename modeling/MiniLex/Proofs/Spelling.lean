import MiniLex.Proofs.Concatenation
import MiniLex.Proofs.Recovery

/-!
Tokens that are spelled out and scanned again. A token is spelled by one segment, and blanks or line
breaks behind it keep that segment from running on; so the segments of the whole text are those of
the tokens and of the gaps between them. No scan stops at any of these or has anything to report of
them, and each token comes back at the place where its text was put.
-/

namespace MiniLex

def IsBlankText (text : Text) : Prop :=
  ∀ c ∈ text, c = ' ' ∨ c = '\t' ∨ c = '\n' ∨ c = '\r'

/-- What stands between two tokens: blanks and line breaks, at least one of them. -/
def IsGap (gap : Text) : Prop :=
  gap ≠ [] ∧ IsBlankText gap

/-- The texts of tokens, each with the gap that stands behind it. -/
def spell (tokens : List Token) (gaps : List Text) : Text :=
  (List.zipWith (fun t gap => t.text ++ gap) tokens gaps).flatten

namespace Token

def moveTo (cursor : Cursor) (t : Token) : Token :=
  { t with line := cursor.line, position := cursor.position }

/-- The tokens that a scan over a table could have made of their own texts, wherever they are said
to stand. -/
inductive IsValidFor (table : KeywordTable) : Token → Prop
  | keyword {text : Text} {k : Keyword} {line position : Int} (hword : IsWord text)
      (hentry : table.get? text = some (.keyword k)) :
      IsValidFor table (Token.keyword k line position text)
  | identifier {text : Text} {line position : Int} (hword : IsWord text)
      (hentry : table.get? text = none) : IsValidFor table (Token.identifier text line position)
  | literal {text : Text} {n line position : Int} (hrun : IsDigitRun text)
      (hvalue : n = Text.digitsValue text) (hfits : n ≤ Value.int32Max) :
      IsValidFor table (Token.literal text ⟨.int, n⟩ line position)
  | symbol {s : Symbol} {line position : Int} : IsValidFor table (Token.symbol s line position)

/-- The segment that spells a token. -/
def segment (t : Token) : Segment :=
  match t.body with
  | .keyword _ | .identifier _ => .word t.text
  | .literal _ => .digits t.text
  | .symbol s => .symbol s

end Token

def spellSegments (tokens : List Token) (gaps : List Text) : List Segment :=
  (List.zipWith (fun t gap => t.segment :: segments gap) tokens gaps).flatten

@[simp] theorem spell_nil (gaps : List Text) : spell [] gaps = [] := rfl

@[simp] theorem spell_cons (t : Token) (tokens : List Token) (gap : Text) (gaps : List Text) :
    spell (t :: tokens) (gap :: gaps) = t.text ++ (gap ++ spell tokens gaps) := by
  simp [spell]

@[simp] theorem spellSegments_cons (t : Token) (tokens : List Token) (gap : Text)
    (gaps : List Text) :
    spellSegments (t :: tokens) (gap :: gaps) =
      [t.segment] ++ (segments gap ++ spellSegments tokens gaps) := by
  simp [spellSegments]

/-! ### Segments without a fault -/

/-- A segment that no scan over a table stops at or reports. -/
def Segment.IsClean (table : KeywordTable) (s : Segment) : Prop :=
  ¬s.IsFault ∧ ∀ text payload, s = .word text → table.get? text = some payload →
    ∃ k, payload = .keyword k

theorem Segment.IsClean.not_stops {setting : Setting} {s : Segment}
    (h : s.IsClean setting.table) : ¬setting.Stops s := by
  cases s with
  | word text =>
      rintro ⟨payload, hentry, hpayload⟩
      obtain ⟨k, hk⟩ := h.2 text payload rfl hentry
      exact hpayload k hk
  | digits text => exact fun hstop => h.1 hstop.2
  | unknown c => exact absurd trivial h.1
  | _ => exact id

theorem Session.tokenize_start_of_forall_isClean (setting : Setting) {segs : List Segment}
    (hsegs : Segmentation setting.source segs) (hclean : ∀ s ∈ segs, s.IsClean setting.table) :
    let run := (start setting).tokenize
    run.1.diagnostics = [] ∧ run.2 = .ok (tokensFrom setting.table ⟨0, 0⟩ segs) := by
  obtain ⟨hresult, htokens, hreport, -⟩ := tokenize_start_of_forall_not_stops setting hsegs
    fun s hs => (hclean s hs).not_stops
  refine ⟨?_, ?_⟩
  · rw [hreport, setting.findingsFrom_eq_nil _ fun s hs => (hclean s hs).1]
  · rw [hresult, htokens]

/-! ### Gaps -/

namespace IsBlankText

variable {gap : Text}

theorem not_isIdentifierChar (h : IsBlankText gap) :
    ∀ c ∈ gap, ¬isIdentifierChar c := by
  intro c hc
  rcases h c hc with rfl | rfl | rfl | rfl
  · decide
  · decide
  · decide
  · decide

theorem eq_of_mem_segments (h : IsBlankText gap) {s : Segment}
    (hs : s ∈ segments gap) : ∃ c, s = .blank c ∨ s = .newline c := by
  obtain ⟨c, tail, htext, hlexeme, -⟩ :=
    ((segmentation_segments gap).isShaped s hs).eq_ofLexeme
  have hc : c ∈ gap := by
    rw [← flatMap_text_segments gap]
    exact List.mem_flatMap.mpr ⟨s, hs, by simp [htext]⟩
  refine ⟨c, ?_⟩
  rw [hlexeme]
  rcases h c hc with rfl | rfl | rfl | rfl
  · exact .inl rfl
  · exact .inl rfl
  · exact .inr rfl
  · exact .inr rfl

theorem isClean (h : IsBlankText gap) (table : KeywordTable) :
    ∀ s ∈ segments gap, s.IsClean table := by
  intro s hs
  obtain ⟨c, rfl | rfl⟩ := h.eq_of_mem_segments hs
  · exact ⟨id, by rintro text payload ⟨⟩⟩
  · exact ⟨id, by rintro text payload ⟨⟩⟩

theorem tokensFrom_eq_nil (h : IsBlankText gap) (table : KeywordTable)
    (cursor : Cursor) : tokensFrom table cursor (segments gap) = [] := by
  refine List.filterMap_eq_nil_iff.mpr fun p hp => ?_
  obtain ⟨c, hs | hs⟩ := h.eq_of_mem_segments (snd_mem_of_mem_placed hp)
  · rw [hs]
    rfl
  · rw [hs]
    rfl

end IsBlankText

/-! ### Valid tokens -/

namespace Token.IsValidFor

variable {table : KeywordTable} {t : Token}

theorem text_segment (h : t.IsValidFor table) : t.segment.text = t.text := by
  cases h with
  | keyword => rfl
  | identifier => rfl
  | literal => rfl
  | symbol => rfl

theorem isShaped_segment (h : t.IsValidFor table) : t.segment.IsShaped := by
  cases h with
  | keyword hword => exact hword
  | identifier hword => exact hword
  | literal hrun => exact hrun
  | symbol => trivial

theorem isClean_segment (h : t.IsValidFor table) : t.segment.IsClean table := by
  cases h with
  | @keyword text k _ _ hword hentry =>
      refine ⟨id, ?_⟩
      rintro _ payload ⟨⟩ hpayload
      exact ⟨k, Option.some.inj (hpayload.symm.trans hentry)⟩
  | identifier hword hentry =>
      refine ⟨id, ?_⟩
      rintro _ payload ⟨⟩ hpayload
      cases hentry.symm.trans hpayload
  | literal hrun hvalue hfits =>
      subst hvalue
      exact ⟨Int.not_lt.mpr hfits, by rintro text payload ⟨⟩⟩
  | symbol => exact ⟨id, by rintro text payload ⟨⟩⟩

theorem token?_segment (h : t.IsValidFor table) (cursor : Cursor) :
    t.segment.token? table cursor = some (t.moveTo cursor) := by
  cases h with
  | keyword hword hentry =>
      simp [segment, Token.keyword, Segment.token?, KeywordTable.keyword?, hentry, moveTo]
  | identifier hword hentry =>
      simp [segment, Token.identifier, Segment.token?, KeywordTable.keyword?, hentry, moveTo]
  | literal hrun hvalue hfits =>
      subst hvalue
      exact if_neg (Int.not_lt.mpr hfits)
  | symbol => rfl

theorem segmentation (h : t.IsValidFor table) : Segmentation t.text [t.segment] := by
  have hend : t.segment.EndsBefore ([] : Text).head? :=
    t.segment.endsBefore_of_not_isIdentifierChar (by simp)
  have hone := Segmentation.cons h.isShaped_segment hend .nil
  rwa [List.append_nil, h.text_segment] at hone

end Token.IsValidFor

theorem Segment.isValidFor_of_token? {table : KeywordTable} (htable : table.KeywordsOnly)
    {cursor : Cursor} {s : Segment} {t : Token} (hshape : s.IsShaped)
    (h : s.token? table cursor = some t) : t.IsValidFor table := by
  rcases token?_cases h with ⟨text, k, rfl, hentry, rfl⟩ | ⟨text, rfl, hentry, rfl⟩ |
    ⟨text, rfl, hfits, rfl⟩ | ⟨sym, rfl, rfl⟩
  · refine .keyword hshape ?_
    unfold KeywordTable.keyword? at hentry
    split at hentry
    · next found hfound => rw [hfound, Option.some.inj hentry]
    · contradiction
  · refine .identifier hshape ?_
    cases hfound : table.get? text with
    | none => rfl
    | some payload =>
        obtain ⟨k, rfl⟩ := htable text payload hfound
        simp [KeywordTable.keyword?, hfound] at hentry
  · exact .literal hshape rfl (Int.not_lt.mp hfits)
  · exact .symbol

/-! ### Texts of tokens and gaps -/

section

variable {table : KeywordTable} {tokens : List Token} {gaps : List Text}

/-- With a gap between any two tokens, each token and each gap keeps its segments. -/
theorem segmentation_spell (hvalid : ∀ t ∈ tokens, t.IsValidFor table)
    (hgaps : ∀ gap ∈ gaps, IsGap gap) (hlength : gaps.length = tokens.length - 1) :
    Segmentation (spell tokens (gaps ++ [[]])) (spellSegments tokens (gaps ++ [[]])) := by
  induction tokens generalizing gaps with
  | nil => exact .nil
  | cons t tokens ih =>
      obtain ⟨ht, hvalid⟩ := List.forall_mem_cons.mp hvalid
      cases gaps with
      | nil =>
          obtain rfl : tokens = [] := List.length_eq_zero_iff.mp hlength.symm
          simpa [segments, spellSegments] using ht.segmentation
      | cons gap gaps =>
          obtain ⟨⟨hne, hblank⟩, hgaps⟩ := List.forall_mem_cons.mp hgaps
          have hother := hblank.not_isIdentifierChar
          have hrest := ih hvalid hgaps (by simp only [List.length_cons] at hlength; omega)
          rw [List.cons_append, spell_cons, spellSegments_cons]
          -- There is a seam on either side of a gap, for no character of it goes on with a word.
          refine ht.segmentation.append ((segmentation_segments gap).append hrest ?_) ?_
          · exact fun c hc d _ => .inl (hother c (List.mem_of_getLast? hc))
          · intro c _ d hd
            rw [List.head?_append_of_ne_nil _ hne] at hd
            exact .inr (hother d (List.mem_of_head? hd))

theorem isClean_of_mem_spellSegments (hvalid : ∀ t ∈ tokens, t.IsValidFor table)
    (hgaps : ∀ gap ∈ gaps, IsBlankText gap) :
    ∀ s ∈ spellSegments tokens gaps, s.IsClean table := by
  intro s hs
  obtain ⟨part, hpart, hs⟩ := List.mem_flatten.mp hs
  rw [← List.map_uncurry_zip_eq_zipWith] at hpart
  obtain ⟨⟨t, gap⟩, hpair, rfl⟩ := List.mem_map.mp hpart
  obtain ⟨ht, hgap⟩ := List.of_mem_zip hpair
  rcases List.mem_cons.mp hs with rfl | hs
  · exact (hvalid t ht).isClean_segment
  · exact (hgaps gap hgap).isClean table s hs

theorem tokensFrom_spellSegments (hvalid : ∀ t ∈ tokens, t.IsValidFor table)
    (hgaps : ∀ gap ∈ gaps, IsBlankText gap) (hlength : tokens.length ≤ gaps.length)
    (cursor : Cursor) :
    tokensFrom table cursor (spellSegments tokens gaps) =
      tokens.mapIdx fun i t => t.moveTo (cursor.advance (spell (tokens.take i) gaps)) := by
  induction tokens generalizing gaps cursor with
  | nil => rfl
  | cons t tokens ih =>
      obtain ⟨ht, hvalid⟩ := List.forall_mem_cons.mp hvalid
      cases gaps with
      | nil => simp at hlength
      | cons gap gaps =>
          obtain ⟨hgap, hgaps⟩ := List.forall_mem_cons.mp hgaps
          have hrest := ih hvalid hgaps (by simpa using hlength)
            ((cursor.advance t.text).advance gap)
          rw [spellSegments_cons, List.singleton_append, tokensFrom_cons, ht.token?_segment,
            ht.text_segment, tokensFrom_append, hgap.tokensFrom_eq_nil, flatMap_text_segments,
            hrest, List.mapIdx_cons]
          simp

end

/-- Tokens that every scan over the table gives back. Put a gap between any two of them that follow
each other, and nothing behind the last: whatever the options, a fresh session over that text ends
without a diagnostic and gives the tokens in their order, each where its text was put. -/
def IsReadBack (table : KeywordTable) (tokens : List Token) : Prop :=
  ∀ gaps : List Text, gaps.length = tokens.length - 1 → (∀ gap ∈ gaps, IsGap gap) →
    ∀ (file : Text) (options : Options),
      let gapsBehind := gaps ++ [[]]
      let run := (Session.start ⟨spell tokens gapsBehind, file, table, options⟩).tokenize
      run.1.diagnostics = [] ∧
        run.2 = .ok (tokens.mapIdx fun i t =>
          t.moveTo (Cursor.advance ⟨0, 0⟩ (spell (tokens.take i) gapsBehind)))

theorem isReadBack_of_isValidFor {table : KeywordTable} {tokens : List Token}
    (hvalid : ∀ t ∈ tokens, t.IsValidFor table) : IsReadBack table tokens := by
  intro gaps hlength hgaps file options gapsBehind run
  have hblank : ∀ gap ∈ gapsBehind, IsBlankText gap := by
    refine List.forall_mem_append.mpr ⟨fun gap hgap => (hgaps gap hgap).2, ?_⟩
    simp [IsBlankText]
  have hcount : tokens.length ≤ gapsBehind.length := by
    simp only [gapsBehind, List.length_append, List.length_singleton]
    omega
  obtain ⟨hreport, hresult⟩ := Session.tokenize_start_of_forall_isClean
    ⟨spell tokens gapsBehind, file, table, options⟩ (segmentation_spell hvalid hgaps hlength)
    (isClean_of_mem_spellSegments hvalid hblank)
  rw [tokensFrom_spellSegments hvalid hblank hcount] at hresult
  exact ⟨hreport, hresult⟩

/-- The tokens of a fresh session that keeps going over keywords alone are read back from their
texts, and so are any tokens that are valid for a table. -/
theorem tokenize_spell_reads_back (setting : Setting) :
    (setting.table.KeywordsOnly → setting.options.failFast = false →
      let kept := (Session.start setting).tokenize
      kept.2 = .ok kept.1.tokens ∧ IsReadBack setting.table kept.1.tokens) ∧
    ∀ tokens : List Token, (∀ t ∈ tokens, t.IsValidFor setting.table) →
      IsReadBack setting.table tokens := by
  refine ⟨fun htable hkeep => ?_, fun tokens hvalid => isReadBack_of_isValidFor hvalid⟩
  have hsegs := segmentation_segments setting.source
  obtain ⟨hresult, htokens, -⟩ := Session.tokenize_start_keepGoing setting htable hkeep hsegs
  refine ⟨hresult, isReadBack_of_isValidFor fun t ht => ?_⟩
  rw [htokens] at ht
  obtain ⟨p, hp, htoken⟩ := List.mem_filterMap.mp ht
  exact Segment.isValidFor_of_token? htable
    (hsegs.isShaped p.2 (snd_mem_of_mem_placed hp)) htoken

/-- A keyword with a spelling of its own, glued to other tokens and to a character that is passed
over, and one token that no scan has made. -/
theorem tokenize_spell_reads_back_glued :
    let table : KeywordTable := ⟨[(['i'], .keyword .int)]⟩
    let setting : Setting :=
      ⟨['i', '(', 'x', '1', '@', '0', '7'], ['f'], table, { failFast := false }⟩
    let kept := (Session.start setting).tokenize
    let gaps := [[' '], ['\r', '\n', '\t'], ['\n']]
    let run (tokens : List Token) (gaps : List Text) :=
      (Session.start ⟨spell tokens (gaps ++ [[]]), ['g'], table, { strict := true }⟩).tokenize
    kept.2 = .ok [Token.keyword .int 0 0 ['i'], Token.symbol .openParen 0 1,
        Token.identifier ['x', '1'] 0 2, Token.literal ['0', '7'] ⟨.int, 7⟩ 0 5] ∧
      (run kept.1.tokens gaps).2 = .ok [Token.keyword .int 0 0 ['i'], Token.symbol .openParen 0 2,
        Token.identifier ['x', '1'] 2 6, Token.literal ['0', '7'] ⟨.int, 7⟩ 3 9] ∧
      (run kept.1.tokens gaps).1.diagnostics = [] ∧
      (run [Token.identifier ['i', 'n', 't'] (-3) 8] []).2 =
        .ok [Token.identifier ['i', 'n', 't'] 0 0] := by
  intro table setting kept gaps run
  have hgaps : ∀ gap ∈ gaps, IsGap gap := by simp [gaps, IsGap, IsBlankText]
  have htokens : kept.1.tokens = [Token.keyword .int 0 0 ['i'], Token.symbol .openParen 0 1,
      Token.identifier ['x', '1'] 0 2, Token.literal ['0', '7'] ⟨.int, 7⟩ 0 5] := by
    decide +kernel
  have htable : table.KeywordsOnly := KeywordTable.keywordsOnly_of_entries (by simp [table])
  have hname : (Token.identifier ['i', 'n', 't'] (-3) 8).IsValidFor table :=
    .identifier ⟨by decide +kernel, List.all_eq_true.mp (by decide +kernel)⟩ (by decide)
  obtain ⟨hkept, hbuilt⟩ := tokenize_spell_reads_back setting
  obtain ⟨hresult, hback⟩ := hkept htable rfl
  obtain ⟨hreport, hread⟩ := hback gaps (by rw [htokens]; rfl) hgaps ['g'] { strict := true }
  obtain ⟨-, hnamed⟩ := hbuilt [Token.identifier ['i', 'n', 't'] (-3) 8] (by simpa using hname)
    [] rfl (by simp) ['g'] { strict := true }
  refine ⟨hresult.trans (congrArg Except.ok htokens), hread.trans ?_, hreport, hnamed⟩
  rw [show (Session.start setting).tokenize.1.tokens = _ from htokens]
  decide

end MiniLex
