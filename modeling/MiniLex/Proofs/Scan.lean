import MiniLex.Proofs.Literal
import MiniLex.Proofs.Segmentation
import MiniLex.Scan

/-!
What a scan makes of the segments of a source. A segment stops the scan, or it has a token, or a
finding to report, or nothing; this module says which, kind by kind, and shows that one step does
as much and that a scan adds up its steps until the first segment that stops it.
-/

namespace MiniLex

namespace KeywordTable

/-- Every entry of the table is a keyword; an absent payload is no entry. -/
def KeywordsOnly (table : KeywordTable) : Prop :=
  ∀ word payload, table.get? word = some payload → ∃ k, payload = .keyword k

def keyword? (table : KeywordTable) (word : Text) : Option Keyword :=
  match table.get? word with
  | some (.keyword k) => some k
  | _ => none

theorem keywordsOnly_of_entries {table : KeywordTable}
    (h : ∀ entry ∈ table.entries, entry.2 = .absent ∨ ∃ k, entry.2 = .keyword k) :
    table.KeywordsOnly := by
  intro word payload hget
  cases hlookup : table.entries.lookup word with
  | none => simp [get?, hlookup] at hget
  | some found =>
      obtain ⟨before, after, hentries, -⟩ := List.lookup_eq_some_iff.mp hlookup
      rcases h (word, found) (by simp [hentries]) with rfl | ⟨k, rfl⟩
      · simp [get?, hlookup] at hget
      · exact ⟨k, by simpa [get?, hlookup] using hget.symm⟩

theorem keywordsOnly_default : KeywordTable.default.KeywordsOnly := by
  apply keywordsOnly_of_entries
  intro entry hentry
  obtain ⟨k, -, rfl⟩ := List.mem_map.mp hentry
  exact .inr ⟨k, rfl⟩

end KeywordTable

def Literal.Overflows (digits : Text) : Prop :=
  Value.int32Max < Text.digitsValue digits

instance (digits : Text) : Decidable (Literal.Overflows digits) :=
  inferInstanceAs (Decidable (Value.int32Max < Text.digitsValue digits))

/-! ### Places -/

/-- The place behind a text that starts at the cursor. -/
def Cursor.advance (cursor : Cursor) (text : Text) : Cursor :=
  ⟨cursor.position + text.length, cursor.line + text.countP isLineBreak⟩

/-- Segments with the places where they start, the first of them at the cursor. -/
def placed (cursor : Cursor) : List Segment → List (Cursor × Segment)
  | [] => []
  | s :: segs => (cursor, s) :: placed (cursor.advance s.text) segs

@[simp] theorem Cursor.advance_nil (cursor : Cursor) : cursor.advance [] = cursor := by
  simp [advance]

@[simp] theorem Cursor.advance_append (cursor : Cursor) (first second : Text) :
    cursor.advance (first ++ second) = (cursor.advance first).advance second := by
  simp [advance, Int.add_assoc]

theorem placed_append (cursor : Cursor) (before after : List Segment) :
    placed cursor (before ++ after) =
      placed cursor before ++ placed (cursor.advance (before.flatMap Segment.text)) after := by
  induction before generalizing cursor with
  | nil => simp [placed]
  | cons s before ih => simp [placed, ih]

theorem snd_mem_of_mem_placed {cursor : Cursor} {segs : List Segment} {p : Cursor × Segment}
    (hp : p ∈ placed cursor segs) : p.2 ∈ segs := by
  induction segs generalizing cursor with
  | nil => simp [placed] at hp
  | cons s segs ih =>
      rcases List.mem_cons.mp hp with rfl | hp
      · exact List.mem_cons_self
      · exact List.mem_cons_of_mem s (ih hp)

theorem position_le_of_mem_placed {cursor : Cursor} {segs : List Segment} {p : Cursor × Segment}
    (hp : p ∈ placed cursor segs) : cursor.position ≤ p.1.position := by
  induction segs generalizing cursor with
  | nil => simp [placed] at hp
  | cons s segs ih =>
      rcases List.mem_cons.mp hp with rfl | hp
      · exact Int.le_refl _
      · have hrest := ih hp
        simp only [Cursor.advance] at hrest
        omega

/-- Segments of the right shape are not empty, so each starts before the end of the last one. -/
theorem position_lt_of_mem_placed {cursor : Cursor} {segs : List Segment} {p : Cursor × Segment}
    (hshape : ∀ s ∈ segs, s.IsShaped) (hp : p ∈ placed cursor segs) :
    p.1.position < (cursor.advance (segs.flatMap Segment.text)).position := by
  induction segs generalizing cursor with
  | nil => simp [placed] at hp
  | cons s segs ih =>
      obtain ⟨hs, hshape⟩ := List.forall_mem_cons.mp hshape
      rw [List.flatMap_cons, Cursor.advance_append]
      rcases List.mem_cons.mp hp with rfl | hp
      · have hlength : 0 < s.text.length := List.length_pos_iff.mpr hs.text_ne_nil
        simp only [Cursor.advance]
        omega
      · exact ih hshape hp

theorem IsWord.isIdentifierChar {text : Text} (h : IsWord text) :
    ∀ c ∈ text, isIdentifierChar c := by
  cases text with
  | nil => exact h.elim
  | cons first tail =>
      refine List.forall_mem_cons.mpr ⟨?_, h.2⟩
      rcases h.1 with hletter | rfl
      · simp [MiniLex.isIdentifierChar, hletter]
      · decide

theorem countP_isLineBreak_eq_zero {text : Text} (h : ∀ c ∈ text, isIdentifierChar c) :
    text.countP isLineBreak = 0 := by
  refine List.countP_eq_zero.mpr fun c hc hbreak => ?_
  have hword := h c hc
  rw [not_isIdentifierChar_of_isLineBreak hbreak] at hword
  contradiction

/-- Only a segment that is a line break holds one, so counting those segments counts them all. -/
theorem Segment.IsShaped.breaks_eq {s : Segment} (h : s.IsShaped) :
    s.breaks = s.text.countP isLineBreak := by
  cases s with
  | blank c =>
      rcases h with rfl | rfl
      · rfl
      · rfl
  | newline c =>
      rcases h with rfl | rfl
      · rfl
      · rfl
  | word text =>
      have hzero := countP_isLineBreak_eq_zero (IsWord.isIdentifierChar h)
      simp [Segment.breaks, Segment.text, hzero]
  | digits text =>
      have hzero := countP_isLineBreak_eq_zero fun c hc => isIdentifierChar_of_isDigit (h.2 c hc)
      simp [Segment.breaks, Segment.text, hzero]
  | symbol s => cases s <;> rfl
  | unknown c =>
      obtain ⟨-, -, -, -, -, hfeed, hreturn, -⟩ := h
      simp [Segment.breaks, Segment.text, isLineBreak, hfeed, hreturn]

theorem Segment.IsShaped.past_eq {s : Segment} (h : s.IsShaped) (cursor : Cursor) :
    cursor.past s = cursor.advance s.text := by
  rw [Cursor.past, Cursor.advance, h.breaks_eq]

/-! ### What becomes of a segment -/

def Segment.token? (table : KeywordTable) (cursor : Cursor) : Segment → Option Token
  | word text =>
    match table.keyword? text with
    | some k => some (Token.keyword k cursor.line cursor.position text)
    | none => some (Token.identifier text cursor.line cursor.position)
  | digits text =>
    if Literal.Overflows text then none
    else some (Token.literal text ⟨.int, Text.digitsValue text⟩ cursor.line cursor.position)
  | symbol s => some (Token.symbol s cursor.line cursor.position)
  | _ => none

def tokensFrom (table : KeywordTable) (cursor : Cursor) (segs : List Segment) : List Token :=
  (placed cursor segs).filterMap fun p => p.2.token? table p.1

theorem Segment.token?_cases {table : KeywordTable} {cursor : Cursor} {s : Segment} {t : Token}
    (h : s.token? table cursor = some t) :
    (∃ text k, s = word text ∧ table.keyword? text = some k ∧
      t = Token.keyword k cursor.line cursor.position text) ∨
    (∃ text, s = word text ∧ table.keyword? text = none ∧
      t = Token.identifier text cursor.line cursor.position) ∨
    (∃ text, s = digits text ∧ ¬Literal.Overflows text ∧
      t = Token.literal text ⟨.int, Text.digitsValue text⟩ cursor.line cursor.position) ∨
    (∃ sym, s = symbol sym ∧ t = Token.symbol sym cursor.line cursor.position) := by
  cases s with
  | word text =>
      cases hentry : table.keyword? text with
      | some k =>
          simp only [token?, hentry] at h
          exact .inl ⟨text, k, rfl, hentry, (Option.some.inj h).symm⟩
      | none =>
          simp only [token?, hentry] at h
          exact .inr (.inl ⟨text, rfl, hentry, (Option.some.inj h).symm⟩)
  | digits text =>
      by_cases hlarge : Literal.Overflows text
      · simp [token?, hlarge] at h
      · simp only [token?, if_neg hlarge] at h
        exact .inr (.inr (.inl ⟨text, rfl, hlarge, (Option.some.inj h).symm⟩))
  | symbol sym => exact .inr (.inr (.inr ⟨sym, rfl, (Option.some.inj h).symm⟩))
  | _ => contradiction

theorem Segment.position_of_token? {table : KeywordTable} {cursor : Cursor} {s : Segment}
    {t : Token} (h : s.token? table cursor = some t) : t.position = cursor.position := by
  rcases token?_cases h with ⟨_, _, _, _, rfl⟩ | ⟨_, _, _, rfl⟩ | ⟨_, _, _, rfl⟩ | ⟨_, _, rfl⟩
  · rfl
  · rfl
  · rfl
  · rfl

section

variable {table : KeywordTable} {cursor : Cursor} {segs : List Segment} {t : Token}

theorem position_le_of_mem_tokensFrom (ht : t ∈ tokensFrom table cursor segs) :
    cursor.position ≤ t.position := by
  obtain ⟨p, hp, htoken⟩ := List.mem_filterMap.mp ht
  rw [Segment.position_of_token? htoken]
  exact position_le_of_mem_placed hp

theorem position_lt_of_mem_tokensFrom (hshape : ∀ s ∈ segs, s.IsShaped)
    (ht : t ∈ tokensFrom table cursor segs) :
    t.position < (cursor.advance (segs.flatMap Segment.text)).position := by
  obtain ⟨p, hp, htoken⟩ := List.mem_filterMap.mp ht
  rw [Segment.position_of_token? htoken]
  exact position_lt_of_mem_placed hshape hp

theorem tokensFrom_cons (table : KeywordTable) (cursor : Cursor) (s : Segment)
    (segs : List Segment) :
    tokensFrom table cursor (s :: segs) =
      (s.token? table cursor).toList ++ tokensFrom table (cursor.advance s.text) segs := by
  simp only [tokensFrom, placed, List.filterMap_cons]
  cases s.token? table cursor <;> rfl

theorem tokensFrom_append (table : KeywordTable) (cursor : Cursor) (before after : List Segment) :
    tokensFrom table cursor (before ++ after) =
      tokensFrom table cursor before ++
        tokensFrom table (cursor.advance (before.flatMap Segment.text)) after := by
  simp [tokensFrom, placed_append]

/-- The tokens before a place between two segments are those of the segments before it. -/
theorem filter_tokensFrom_append {before : List Segment} (hshape : ∀ s ∈ before, s.IsShaped)
    (table : KeywordTable) (cursor : Cursor) (after : List Segment) :
    (tokensFrom table cursor (before ++ after)).filter
        (fun t => t.position < (cursor.advance (before.flatMap Segment.text)).position) =
      tokensFrom table cursor before := by
  rw [tokensFrom_append, List.filter_append]
  have hbefore : ∀ t ∈ tokensFrom table cursor before,
      t.position < (cursor.advance (before.flatMap Segment.text)).position := fun t ht =>
    position_lt_of_mem_tokensFrom hshape ht
  have hafter : ∀ t ∈ tokensFrom table (cursor.advance (before.flatMap Segment.text)) after,
      ¬t.position < (cursor.advance (before.flatMap Segment.text)).position := fun t ht =>
    Int.not_lt.mpr (position_le_of_mem_tokensFrom ht)
  rw [List.filter_eq_self.mpr (by simpa using hbefore),
    List.filter_eq_nil_iff.mpr (by simpa using hafter), List.append_nil]

end

/-- The reason that a segment at the cursor has to stop a scan. -/
inductive StopReason (table : KeywordTable) (cursor : Cursor) : Segment → Stop → Prop
  | misuse {word : Text} {payload : Payload} (hentry : table.get? word = some payload) :
      StopReason table cursor (.word word) (.internal (.wrongPayload .keyword payload))
  | overflow {text : Text} :
      StopReason table cursor (.digits text)
        (.lexical ⟨.overflow text, cursor.line, cursor.position⟩)
  | unknown {c : Char} :
      StopReason table cursor (.unknown c)
        (.lexical ⟨.unknownCharacter [c], cursor.line, cursor.position⟩)

theorem StopReason.unique {table : KeywordTable} {cursor : Cursor} {s : Segment}
    {first second : Stop} (h : StopReason table cursor s first)
    (h' : StopReason table cursor s second) : first = second := by
  -- Only for a word does the reason depend on more than the segment and its place.
  cases h with
  | misuse hentry =>
      cases h' with
      | misuse hentry' => rw [Option.some.inj (hentry.symm.trans hentry')]
  | overflow =>
      cases h'
      rfl
  | unknown =>
      cases h'
      rfl

namespace Setting

def errorAt (setting : Setting) (cursor : Cursor) (cause : LexicalCause) : Diagnostic :=
  ⟨.error, cause.message, some (setting.locate cursor),
    some (.lexical ⟨cause, cursor.line, cursor.position⟩)⟩

def skippedAt (setting : Setting) (cursor : Cursor) (c : Char) : Diagnostic :=
  ⟨.warning, "skipped unknown character ".toList ++ Text.quoted [c],
    some (setting.locate cursor), none⟩

/-- What a scan that goes on reports of a segment. Numbers that do not fit are errors; unknown
characters are errors in a strict scan and skipped in any other. -/
def finding? (setting : Setting) (cursor : Cursor) : Segment → Option Diagnostic
  | .digits text =>
    if Literal.Overflows text then some (setting.errorAt cursor (.overflow text)) else none
  | .unknown c =>
    if setting.options.strict then some (setting.errorAt cursor (.unknownCharacter [c]))
    else some (setting.skippedAt cursor c)
  | _ => none

theorem finding?_cases {setting : Setting} {cursor : Cursor} {s : Segment} {d : Diagnostic}
    (h : setting.finding? cursor s = some d) :
    (∃ text, s = .digits text ∧ Literal.Overflows text ∧
      d = setting.errorAt cursor (.overflow text)) ∨
    (∃ c, s = .unknown c ∧ setting.options.strict ∧
      d = setting.errorAt cursor (.unknownCharacter [c])) ∨
    (∃ c, s = .unknown c ∧ ¬setting.options.strict ∧ d = setting.skippedAt cursor c) := by
  cases s with
  | digits text =>
      obtain ⟨hlarge, hd⟩ := Option.ite_none_right_eq_some.mp h
      exact .inl ⟨text, rfl, hlarge, (Option.some.inj hd).symm⟩
  | unknown c =>
      by_cases hstrict : setting.options.strict
      · simp only [finding?, if_pos hstrict] at h
        exact .inr (.inl ⟨c, rfl, hstrict, (Option.some.inj h).symm⟩)
      · simp only [finding?, if_neg hstrict] at h
        exact .inr (.inr ⟨c, rfl, hstrict, (Option.some.inj h).symm⟩)
  | _ => contradiction

def findingsFrom (setting : Setting) (cursor : Cursor) (segs : List Segment) : List Diagnostic :=
  (placed cursor segs).filterMap fun p => setting.finding? p.1 p.2

theorem findingsFrom_cons (setting : Setting) (cursor : Cursor) (s : Segment)
    (segs : List Segment) :
    setting.findingsFrom cursor (s :: segs) =
      (setting.finding? cursor s).toList ++ setting.findingsFrom (cursor.advance s.text) segs := by
  simp only [findingsFrom, placed, List.filterMap_cons]
  cases setting.finding? cursor s <;> rfl

theorem findingsFrom_append (setting : Setting) (cursor : Cursor) (before after : List Segment) :
    setting.findingsFrom cursor (before ++ after) =
      setting.findingsFrom cursor before ++
        setting.findingsFrom (cursor.advance (before.flatMap Segment.text)) after := by
  simp [findingsFrom, placed_append]

/-- The segments that end a scan: words with an entry that is no keyword always, numbers that do
not fit if the scan fails fast, unknown characters if it is strict as well. -/
def Stops (setting : Setting) : Segment → Prop
  | .word text => ∃ payload, setting.table.get? text = some payload ∧ ∀ k, payload ≠ .keyword k
  | .digits text => setting.options.failFast ∧ Literal.Overflows text
  | .unknown _ => setting.options.failFast ∧ setting.options.strict
  | _ => False

theorem not_stops_word (setting : Setting) (htable : setting.table.KeywordsOnly) (text : Text) :
    ¬setting.Stops (.word text) := by
  rintro ⟨payload, hentry, hpayload⟩
  obtain ⟨k, hk⟩ := htable text payload hentry
  exact hpayload k hk

theorem not_stops_of_keepGoing (setting : Setting) (htable : setting.table.KeywordsOnly)
    (hkeep : setting.options.failFast = false) (s : Segment) : ¬setting.Stops s := by
  cases s with
  | word text => exact setting.not_stops_word htable text
  | _ => simp [Stops, hkeep]

variable {setting : Setting}

theorem fail_of_failFast (hfast : setting.options.failFast) (cursor : Cursor)
    (cause : LexicalCause) :
    setting.fail cursor cause = .stop (.lexical ⟨cause, cursor.line, cursor.position⟩) := by
  simp [fail, hfast]

theorem fail_of_not_failFast (hfast : ¬setting.options.failFast) (cursor : Cursor)
    (cause : LexicalCause) :
    setting.fail cursor cause = .report (setting.errorAt cursor cause) [] := by
  simp [fail, hfast, errorAt, LexicalError.message]

theorem scanWord_of_stops {text : Text} (hstop : setting.Stops (.word text)) (cursor : Cursor) :
    ∃ reason, StopReason setting.table cursor (.word text) reason ∧
      setting.scanWord cursor text = .stop reason := by
  obtain ⟨payload, hentry, hpayload⟩ := hstop
  -- The token is refused by the check on its payload, before any token is made.
  have hmake : TokenBody.make .keyword payload = .error (.wrongPayload .keyword payload) := by
    cases payload <;> simp_all [TokenBody.make]
  refine ⟨_, .misuse hentry, ?_⟩
  simp [scanWord, hentry, Token.make, hmake, Except.map]

theorem scanWord_of_not_stops {text : Text} (hgo : ¬setting.Stops (.word text))
    (cursor : Cursor) :
    ∃ t, (Segment.word text).token? setting.table cursor = some t ∧
      setting.scanWord cursor text = .token t := by
  cases hentry : setting.table.get? text with
  | none =>
      refine ⟨Token.identifier text cursor.line cursor.position, ?_, ?_⟩
      · simp [Segment.token?, KeywordTable.keyword?, hentry]
      · simp [scanWord, hentry]
  | some payload =>
      have hkeyword : ∃ k, payload = .keyword k := by
        simpa [Stops, hentry] using hgo
      obtain ⟨k, rfl⟩ := hkeyword
      refine ⟨Token.keyword k cursor.line cursor.position text, ?_, ?_⟩
      · simp [Segment.token?, KeywordTable.keyword?, hentry]
      · simp [scanWord, hentry, Token.make, TokenBody.make, Except.map, Token.keyword]

theorem scanDigits_of_overflows {text : Text} (hrun : IsDigitRun text)
    (hlarge : Literal.Overflows text) (cursor : Cursor) :
    setting.scanDigits cursor text = setting.fail cursor (.overflow text) := by
  have hnone : Literal.value? text = none := by
    rw [Literal.value?_eq hrun.2, if_neg (Int.not_le.mpr hlarge)]
  rw [scanDigits, hnone]

theorem scanDigits_of_not_overflows {text : Text} (hrun : IsDigitRun text)
    (hfits : ¬Literal.Overflows text) (cursor : Cursor) :
    setting.scanDigits cursor text =
      .token (Token.literal text ⟨.int, Text.digitsValue text⟩ cursor.line cursor.position) := by
  have hle : (Text.digitsValue text : Int) ≤ Value.int32Max := Int.not_lt.mp hfits
  have hsome : Literal.value? text = some (Text.digitsValue text) := by
    rw [Literal.value?_eq hrun.2, if_pos hle]
  simp only [scanDigits, hsome, Literal.ofInt_natCast hle]

/-- All that one step can do. -/
theorem step_cases (setting : Setting) {s : Segment} (hshape : s.IsShaped) (cursor : Cursor) :
    (setting.Stops s ∧
      ∃ reason, StopReason setting.table cursor s reason ∧ setting.step cursor s = .stop reason) ∨
    (¬setting.Stops s ∧
      ((s.token? setting.table cursor = none ∧ setting.finding? cursor s = none ∧
          setting.step cursor s = .pass) ∨
       (∃ t, s.token? setting.table cursor = some t ∧ setting.finding? cursor s = none ∧
          setting.step cursor s = .token t) ∨
       (∃ d records, s.token? setting.table cursor = none ∧
          setting.finding? cursor s = some d ∧ setting.step cursor s = .report d records))) := by
  cases s with
  | blank c => exact .inr ⟨id, .inl ⟨rfl, rfl, rfl⟩⟩
  | newline c => exact .inr ⟨id, .inl ⟨rfl, rfl, rfl⟩⟩
  | symbol s => exact .inr ⟨id, .inr (.inl ⟨_, rfl, rfl, rfl⟩)⟩
  | word text =>
      by_cases hstop : setting.Stops (.word text)
      · exact .inl ⟨hstop, scanWord_of_stops hstop cursor⟩
      · obtain ⟨t, htoken, hstep⟩ := scanWord_of_not_stops hstop cursor
        exact .inr ⟨hstop, .inr (.inl ⟨t, htoken, rfl, hstep⟩)⟩
  -- A number and an unknown character stop the scan, are reported or pass, as the options say.
  | digits text =>
      by_cases hlarge : Literal.Overflows text
      · have hstep : setting.step cursor (.digits text) = setting.fail cursor (.overflow text) :=
          scanDigits_of_overflows hshape hlarge cursor
        by_cases hfast : setting.options.failFast
        · refine .inl ⟨⟨hfast, hlarge⟩, _, .overflow, ?_⟩
          rw [hstep, fail_of_failFast hfast]
        · refine .inr ⟨fun hstop => hfast hstop.1, .inr (.inr
            ⟨_, [], if_pos hlarge, if_pos hlarge, ?_⟩)⟩
          rw [hstep, fail_of_not_failFast hfast]
      · exact .inr ⟨fun hstop => hlarge hstop.2, .inr (.inl ⟨_, if_neg hlarge, if_neg hlarge,
          scanDigits_of_not_overflows hshape hlarge cursor⟩)⟩
  | unknown c =>
      by_cases hstrict : setting.options.strict
      · have hstep : setting.step cursor (.unknown c) =
            setting.fail cursor (.unknownCharacter [c]) := by
          simp [step, scanUnknown, hstrict]
        by_cases hfast : setting.options.failFast
        · refine .inl ⟨⟨hfast, hstrict⟩, _, .unknown, ?_⟩
          rw [hstep, fail_of_failFast hfast]
        · refine .inr ⟨fun hstop => hfast hstop.1, .inr (.inr ⟨_, [], rfl, if_pos hstrict, ?_⟩)⟩
          rw [hstep, fail_of_not_failFast hfast]
      · refine .inr ⟨fun hstop => hstrict hstop.2, .inr (.inr
          ⟨_, [.skipped c cursor.line cursor.position], rfl, if_neg hstrict, ?_⟩)⟩
        simp [step, scanUnknown, hstrict, skippedAt]

theorem scan_cons {s : Segment} (hshape : s.IsShaped) (hgo : ¬setting.Stops s) (cursor : Cursor)
    (segs : List Segment) :
    let here := setting.scan cursor (s :: segs)
    let rest := setting.scan (cursor.advance s.text) segs
    here.tokens = (s.token? setting.table cursor).toList ++ rest.tokens ∧
      here.diagnostics = (setting.finding? cursor s).toList ++ rest.diagnostics ∧
      here.cursor = rest.cursor ∧ here.stop = rest.stop := by
  rcases setting.step_cases hshape cursor with ⟨hstop, -⟩ | ⟨-, hstep⟩
  · exact absurd hstop hgo
  · rcases hstep with ⟨htoken, hfinding, hstep⟩ | ⟨t, htoken, hfinding, hstep⟩ |
      ⟨d, records, htoken, hfinding, hstep⟩
    · simp [scan, hstep, htoken, hfinding, hshape.past_eq]
    · simp [scan, hstep, htoken, hfinding, hshape.past_eq]
    · simp [scan, hstep, htoken, hfinding, hshape.past_eq]

theorem scan_cons_of_stops {s : Segment} (hshape : s.IsShaped) (hstop : setting.Stops s)
    (cursor : Cursor) (segs : List Segment) :
    ∃ reason, StopReason setting.table cursor s reason ∧
      setting.scan cursor (s :: segs) = ⟨[], [], [], cursor, some reason⟩ := by
  rcases setting.step_cases hshape cursor with ⟨-, reason, hreason, hstep⟩ | ⟨hgo, -⟩
  · exact ⟨reason, hreason, by simp [scan, hstep]⟩
  · exact absurd hstop hgo

/-- A scan adds up what it makes of segments that do not stop it, then goes on behind them. -/
theorem scan_append {before : List Segment} (hshape : ∀ s ∈ before, s.IsShaped)
    (hgo : ∀ s ∈ before, ¬setting.Stops s) (after : List Segment) (cursor : Cursor) :
    let scan := setting.scan cursor (before ++ after)
    let rest := setting.scan (cursor.advance (before.flatMap Segment.text)) after
    scan.tokens = tokensFrom setting.table cursor before ++ rest.tokens ∧
      scan.diagnostics = setting.findingsFrom cursor before ++ rest.diagnostics ∧
      scan.cursor = rest.cursor ∧ scan.stop = rest.stop := by
  induction before generalizing cursor with
  | nil => simp [tokensFrom, findingsFrom, placed]
  | cons s before ih =>
      obtain ⟨hs, hshape⟩ := List.forall_mem_cons.mp hshape
      obtain ⟨hgos, hgo⟩ := List.forall_mem_cons.mp hgo
      -- What `s` adds stands in front of what the induction finds from the place behind `s`.
      obtain ⟨htokens, hdiagnostics, hcursor, hstop⟩ := ih hshape hgo (cursor.advance s.text)
      obtain ⟨htokens', hdiagnostics', hcursor', hstop'⟩ :=
        scan_cons hs hgos cursor (before ++ after)
      rw [List.flatMap_cons, Cursor.advance_append, List.cons_append]
      refine ⟨?_, ?_, ?_, ?_⟩
      · rw [htokens', htokens, tokensFrom_cons, List.append_assoc]
      · rw [hdiagnostics', hdiagnostics, findingsFrom_cons, List.append_assoc]
      · rw [hcursor', hcursor]
      · rw [hstop', hstop]

theorem scan_of_forall_not_stops {segs : List Segment} (hshape : ∀ s ∈ segs, s.IsShaped)
    (hgo : ∀ s ∈ segs, ¬setting.Stops s) (cursor : Cursor) :
    let scan := setting.scan cursor segs
    scan.tokens = tokensFrom setting.table cursor segs ∧
      scan.diagnostics = setting.findingsFrom cursor segs ∧
      scan.cursor = cursor.advance (segs.flatMap Segment.text) ∧ scan.stop = none := by
  simpa [scan] using scan_append hshape hgo [] cursor

/-- The earliest segment that stops a scan, behind segments that do not. -/
def StopsFirst (setting : Setting) (segs before : List Segment) (s : Segment) : Prop :=
  (∃ after, segs = before ++ s :: after) ∧ (∀ t ∈ before, ¬setting.Stops t) ∧ setting.Stops s

/-- Either nothing stops a scan, or something is the first to stop it. -/
theorem forall_not_stops_or_stopsFirst (setting : Setting) (segs : List Segment) :
    (∀ s ∈ segs, ¬setting.Stops s) ∨ ∃ before s, setting.StopsFirst segs before s := by
  classical
  cases hfind : segs.find? fun s => decide (setting.Stops s) with
  | none => exact .inl (by simpa using hfind)
  | some s =>
      obtain ⟨hs, before, after, hsegs, hbefore⟩ := List.find?_eq_some_iff_append.mp hfind
      exact .inr ⟨before, s, ⟨after, hsegs⟩, by simpa using hbefore, by simpa using hs⟩

/-- A scan keeps what it made of the segments before the one that stops it, and stands there. -/
theorem scan_of_stopsFirst {segs before : List Segment} {s : Segment}
    (hshape : ∀ s ∈ segs, s.IsShaped) (h : setting.StopsFirst segs before s) (cursor : Cursor) :
    let scan := setting.scan cursor segs
    let place := cursor.advance (before.flatMap Segment.text)
    scan.tokens = tokensFrom setting.table cursor before ∧
      scan.diagnostics = setting.findingsFrom cursor before ∧
      scan.cursor = place ∧
      ∃ reason, StopReason setting.table place s reason ∧ scan.stop = some reason := by
  intro scan place
  obtain ⟨⟨after, rfl⟩, hgo, hstop⟩ := h
  have hs : s.IsShaped := hshape s (by simp)
  have hbefore : ∀ t ∈ before, t.IsShaped := fun t ht => hshape t (List.mem_append_left _ ht)
  obtain ⟨reason, hreason, hscan⟩ := scan_cons_of_stops hs hstop place after
  obtain ⟨htokens, hdiagnostics, hcursor, hend⟩ := scan_append hbefore hgo (s :: after) cursor
  rw [hscan] at htokens hdiagnostics hcursor hend
  exact ⟨by simpa using htokens, by simpa using hdiagnostics, hcursor, reason, hreason, hend⟩

end Setting

/-! ### Fresh sessions -/

namespace Session

variable {segs : List Segment}

theorem tokenize_start (setting : Setting) :
    let scan := setting.scan ⟨0, 0⟩ (segments setting.source)
    let run := (start setting).tokenize
    run.1.tokens = scan.tokens ∧ run.1.diagnostics = scan.diagnostics ∧
      run.1.cursor = scan.cursor ∧
      run.2 = match scan.stop with
        | none => .ok scan.tokens
        | some reason => .error reason := by
  have hremaining : (start setting).remaining = setting.source := rfl
  simp only [tokenize, hremaining]
  simp only [start, absorb]
  cases (setting.scan ⟨0, 0⟩ (segments setting.source)).stop with
  | none => simp [diagnostics]
  | some reason => cases reason <;> simp [diagnostics]

theorem isCounted_tokenize {s : Session} (h : s.report.IsCounted) :
    s.tokenize.1.report.IsCounted := by
  have hscan := h.addAll (s.setting.scan s.cursor (segments s.remaining)).diagnostics
  unfold tokenize
  split
  · exact h
  · exact h
  · extract_lets scan after
    split
    · exact hscan
    · exact hscan
    · exact hscan

theorem isCounted_tokenize_start (setting : Setting) :
    (start setting).tokenize.1.report.IsCounted :=
  isCounted_tokenize Report.isCounted_empty

/-- A fresh session that no segment stops gives all tokens and findings of its source. -/
theorem tokenize_start_of_forall_not_stops (setting : Setting)
    (hsegs : Segmentation setting.source segs) (hgo : ∀ s ∈ segs, ¬setting.Stops s) :
    let run := (start setting).tokenize
    run.2 = .ok run.1.tokens ∧
      run.1.tokens = tokensFrom setting.table ⟨0, 0⟩ segs ∧
      run.1.diagnostics = setting.findingsFrom ⟨0, 0⟩ segs ∧
      run.1.cursor = Cursor.advance ⟨0, 0⟩ setting.source := by
  obtain ⟨htokens, hdiagnostics, hcursor, hresult⟩ := tokenize_start setting
  obtain ⟨htokens', hdiagnostics', hcursor', hstop⟩ :=
    Setting.scan_of_forall_not_stops hsegs.isShaped hgo ⟨0, 0⟩
  rw [← hsegs.eq_segments] at htokens hdiagnostics hcursor hresult
  refine ⟨?_, ?_, ?_, ?_⟩
  · rw [hresult, hstop, htokens]
  · rw [htokens, htokens']
  · rw [hdiagnostics, hdiagnostics']
  · rw [hcursor, hcursor', hsegs.flatMap_text]

theorem tokenize_start_keepGoing (setting : Setting) (htable : setting.table.KeywordsOnly)
    (hkeep : setting.options.failFast = false) (hsegs : Segmentation setting.source segs) :
    let run := (start setting).tokenize
    run.2 = .ok run.1.tokens ∧
      run.1.tokens = tokensFrom setting.table ⟨0, 0⟩ segs ∧
      run.1.diagnostics = setting.findingsFrom ⟨0, 0⟩ segs ∧
      run.1.cursor = Cursor.advance ⟨0, 0⟩ setting.source :=
  tokenize_start_of_forall_not_stops setting hsegs fun s _ =>
    setting.not_stops_of_keepGoing htable hkeep s

/-- A fresh session that a segment stops gives the tokens and findings before that segment. -/
theorem tokenize_start_of_stopsFirst (setting : Setting)
    (hsegs : Segmentation setting.source segs) {before : List Segment} {s : Segment}
    (hfirst : setting.StopsFirst segs before s) :
    let run := (start setting).tokenize
    let place := Cursor.advance ⟨0, 0⟩ (before.flatMap Segment.text)
    (∃ reason, StopReason setting.table place s reason ∧ run.2 = .error reason) ∧
      run.1.tokens = tokensFrom setting.table ⟨0, 0⟩ before ∧
      run.1.diagnostics = setting.findingsFrom ⟨0, 0⟩ before ∧
      run.1.cursor = place := by
  obtain ⟨htokens, hdiagnostics, hcursor, hresult⟩ := tokenize_start setting
  obtain ⟨htokens', hdiagnostics', hcursor', reason, hreason, hstop⟩ :=
    Setting.scan_of_stopsFirst hsegs.isShaped hfirst ⟨0, 0⟩
  rw [← hsegs.eq_segments] at htokens hdiagnostics hcursor hresult
  refine ⟨⟨reason, hreason, ?_⟩, ?_, ?_, ?_⟩
  · rw [hresult, hstop]
  · rw [htokens, htokens']
  · rw [hdiagnostics, hdiagnostics']
  · rw [hcursor, hcursor']

end Session

end MiniLex
