import MiniLex.Proofs.JsonReader
import MiniLex.Proofs.Segmentation

/-!
The text of a JSON value is read as that value, and it is ASCII. Each part of the text is followed
by any rest here, since what is written is cut into lexemes from its start; only digits need a rest
that does not go on with them, and in the text of a value none does.
-/

namespace MiniLex.Json

/-! ### Strings -/

theorem hexValue?_digitChar : ∀ n < 16, hexValue? n.digitChar = some n := by
  decide

theorem hex_succ {width : Nat} (hwidth : 0 < width) (n : Nat) :
    Text.hex (width + 1) n = Text.hex width (n / 16) ++ [(n % 16).digitChar] := by
  unfold Text.hex
  by_cases h : n < 16
  · obtain ⟨k, rfl⟩ : ∃ k, width = k + 1 := ⟨width - 1, by omega⟩
    rw [Nat.toDigits_of_lt_base h, Nat.div_eq_of_lt h, Nat.mod_eq_of_lt h, Nat.toDigits_zero]
    simp only [List.length_cons, List.length_nil, Nat.add_sub_cancel, ← List.replicate_succ']
  · rw [Nat.toDigits_of_base_le (by decide) (by omega)]
    simp only [List.length_append, List.length_cons, List.length_nil, Nat.add_sub_add_right,
      List.append_assoc]

theorem hex_four {n : Nat} (h : n < 0x10000) :
    Text.hex 4 n = [(n / 16 / 16 / 16).digitChar, (n / 16 / 16 % 16).digitChar,
      (n / 16 % 16).digitChar, (n % 16).digitChar] := by
  rw [hex_succ (by decide), hex_succ (by decide), hex_succ (by decide), Text.hex,
    Nat.toDigits_of_lt_base (by omega)]
  rfl

theorem unit?_hexDigits {n : Nat} (h : n < 0x10000) :
    unit? (n / 16 / 16 / 16).digitChar (n / 16 / 16 % 16).digitChar (n / 16 % 16).digitChar
      (n % 16).digitChar = some n := by
  rw [unit?, hexValue?_digitChar _ (by omega), hexValue?_digitChar _ (by omega),
    hexValue?_digitChar _ (by omega), hexValue?_digitChar _ (by omega)]
  show some ((n / 16 / 16 / 16 * 16 + n / 16 / 16 % 16) * 0x100 +
    (n / 16 % 16 * 16 + n % 16)) = some n
  congr 1
  omega

theorem readUnits_unitEscape {n : Nat} (h : n < 0x10000) (rest : Text) :
    readUnits (unitEscape n ++ rest) = pushUnit n (readUnits rest) := by
  rw [unitEscape, hex_four h]
  show readUnits ('\\' :: 'u' :: _ :: _ :: _ :: _ :: rest) = _
  rw [readUnits, unit?_hexDigits h]
  rfl

def codeUnits (c : Char) : List Nat :=
  if c.toNat < 0x10000 then [c.toNat]
  else [0xD800 + (c.toNat - 0x10000) / 0x400, 0xDC00 + (c.toNat - 0x10000) % 0x400]

theorem readUnits_cons {c : Char} (hlow : ' ' ≤ c) (hquote : c ≠ '"') (hslash : c ≠ '\\')
    (rest : Text) :
    readUnits (c :: rest) = pushUnit c.toNat (readUnits rest) := by
  rw [readUnits]
  · exact if_neg (by simpa [hslash] using hlow)
  · exact hquote
  · intro _ _ _ _ _ h
    exact absurd h hslash
  · intro _ _ h
    exact absurd h hslash

theorem readUnits_escape {e c : Char} (h : escaped? e = some c) (rest : Text) :
    readUnits ('\\' :: e :: rest) = pushUnit c.toNat (readUnits rest) := by
  have hne : e ≠ 'u' := by
    rintro rfl
    have hnone : escaped? 'u' = none := by decide
    rw [hnone] at h
    contradiction
  rw [readUnits]
  · rw [h]
    rfl
  · intro _ _ _ _ _ heq
    exact absurd heq hne

theorem codeUnits_of_lt {c : Char} (h : c.toNat < 0x10000) : codeUnits c = [c.toNat] :=
  if_pos h

/-- A character is written as a letter behind a backslash, as itself, or in hexadecimal digits. -/
theorem escapeChar_cases (c : Char) :
    (∃ e, escapeChar c = ['\\', e] ∧ escaped? e = some c ∧ e.toNat < 128 ∧ c.toNat < 128) ∨
    (escapeChar c = [c] ∧ ' ' ≤ c ∧ c.toNat < 128 ∧ c ≠ '"' ∧ c ≠ '\\') ∨
    escapeChar c = codeEscape c.toNat := by
  unfold escapeChar
  split
  · next h =>
      simp only [Bool.or_eq_true, decide_eq_true_eq] at h
      rcases h with rfl | rfl <;> exact .inl ⟨_, rfl, by decide⟩
  split
  · next h => exact .inl ⟨'n', rfl, by subst h; decide⟩
  split
  · next h => exact .inl ⟨'r', rfl, by subst h; decide⟩
  split
  · next h => exact .inl ⟨'t', rfl, by subst h; decide⟩
  split
  · next h => exact .inl ⟨'b', rfl, by subst h; decide⟩
  split
  · next h => exact .inl ⟨'f', rfl, by subst h; decide⟩
  split
  · next hspecial _ _ _ _ _ h =>
      simp only [Bool.or_eq_true, decide_eq_true_eq, not_or] at hspecial
      have hlast : c.toNat ≤ '~'.toNat := h.2
      exact .inr (.inl ⟨rfl, h.1, Nat.lt_of_le_of_lt hlast (by decide), hspecial⟩)
  · exact .inr (.inr rfl)

theorem readUnits_escapeChar (c : Char) (rest : Text) :
    readUnits (escapeChar c ++ rest) = (codeUnits c).foldr pushUnit (readUnits rest) := by
  rcases escapeChar_cases c with ⟨e, hescape, he, -, hc⟩ | ⟨hescape, hlow, hc, hne⟩ | hescape
  · rw [hescape, codeUnits_of_lt (by omega)]
    exact readUnits_escape he rest
  · rw [hescape, codeUnits_of_lt (by omega)]
    exact readUnits_cons hlow hne.1 hne.2 rest
  · rw [hescape]
    unfold codeEscape codeUnits
    split
    · exact readUnits_unitEscape (by omega) rest
    · have hvalid : c.toNat.isValidChar := c.valid
      unfold Nat.isValidChar at hvalid
      rw [List.append_assoc, readUnits_unitEscape (by omega), readUnits_unitEscape (by omega)]
      rfl

theorem joinUnits_codeUnits (c : Char) (units : List Nat) :
    joinUnits (codeUnits c ++ units) = (joinUnits units).map (c :: ·) := by
  have hvalid : c.toNat.isValidChar := c.valid
  unfold Nat.isValidChar at hvalid
  unfold codeUnits
  split
  · rw [List.singleton_append, joinUnits.eq_def]
    simp only
    rw [if_neg (by simp [isHighSurrogate]; omega),
      if_neg (by simp [isLowSurrogate]; omega), Char.ofNat_toNat]
    rfl
  · rw [List.cons_append, List.singleton_append, joinUnits.eq_def]
    simp only
    rw [if_pos (by simp [isHighSurrogate]; omega), if_pos (by simp [isLowSurrogate]; omega)]
    have hcode : 0x10000 + (0xD800 + (c.toNat - 0x10000) / 0x400 - 0xD800) * 0x400 +
        (0xDC00 + (c.toNat - 0x10000) % 0x400 - 0xDC00) = c.toNat := by
      omega
    rw [joinPair, hcode, Char.ofNat_toNat]
    rfl

theorem foldr_pushUnit (front units : List Nat) (rest : Text) :
    front.foldr pushUnit (some (units, rest)) = some (front ++ units, rest) := by
  induction front with
  | nil => rfl
  | cons n front ih =>
      rw [List.foldr_cons, ih]
      rfl

theorem readUnits_flatMap_escapeChar (s rest : Text) :
    readUnits (s.flatMap escapeChar ++ '"' :: rest) = some (s.flatMap codeUnits, rest) := by
  induction s with
  | nil => rw [List.flatMap_nil, List.nil_append, readUnits, List.flatMap_nil]
  | cons c s ih =>
      rw [List.flatMap_cons, List.append_assoc, readUnits_escapeChar, ih, foldr_pushUnit,
        List.flatMap_cons]

theorem joinUnits_flatMap_codeUnits (s : Text) : joinUnits (s.flatMap codeUnits) = some s := by
  induction s with
  | nil => rw [List.flatMap_nil, joinUnits]
  | cons c s ih => rw [List.flatMap_cons, joinUnits_codeUnits, ih, Option.map_some]

/-! ### Lexemes -/

theorem lexemes_space {c : Char} (h : isSpace c) (rest : Text) :
    lexemes (c :: rest) = lexemes rest := by
  rw [lexemes, if_pos h]

theorem lexemes_of_lexeme? {c : Char} {rest behind : Text} {l : Lexeme} (hspace : isSpace c = false)
    (h : lexeme? (c :: rest) = some (l, behind)) :
    lexemes (c :: rest) = (lexemes behind).map (l :: ·) := by
  rw [lexemes, if_neg (by simp [hspace])]
  split
  · next hnone => simp [hnone] at h
  · next l' behind' hsome =>
      rw [hsome] at h
      cases h
      rfl

theorem lexemes_newLine (depth : Nat) (rest : Text) :
    lexemes (newLine depth ++ rest) = lexemes rest := by
  have hspaces (n : Nat) : lexemes (List.replicate n ' ' ++ rest) = lexemes rest := by
    induction n with
    | zero => rfl
    | succ n ih => rw [List.replicate_succ, List.cons_append, lexemes_space (by decide), ih]
  rw [newLine, List.cons_append, lexemes_space (by decide), hspaces]

theorem lexemes_punctuation {c : Char} {l : Lexeme} (h : punctuation.lookup c = some l)
    (rest : Text) : lexemes (c :: rest) = (lexemes rest).map (l :: ·) := by
  have hmem : (c, l) ∈ punctuation := by
    obtain ⟨before, behind, hsplit, -⟩ := List.lookup_eq_some_iff.mp h
    rw [hsplit]
    exact List.mem_append_right before List.mem_cons_self
  simp only [punctuation, List.mem_cons, Prod.mk.injEq, List.not_mem_nil, or_false] at hmem
  rcases hmem with ⟨rfl, rfl⟩ | ⟨rfl, rfl⟩ | ⟨rfl, rfl⟩ | ⟨rfl, rfl⟩ | ⟨rfl, rfl⟩ | ⟨rfl, rfl⟩ <;>
    exact lexemes_of_lexeme? (by decide) rfl

theorem lexemes_null (rest : Text) :
    lexemes ("null".toList ++ rest) = (lexemes rest).map (.null :: ·) := by
  rw [show "null".toList = ['n', 'u', 'l', 'l'] by decide]
  exact lexemes_of_lexeme? (by decide) rfl

theorem lexemes_renderText (s rest : Text) :
    lexemes (renderText s ++ rest) = (lexemes rest).map (.text s :: ·) := by
  rw [renderText, List.cons_append, List.cons_append, List.append_assoc]
  refine lexemes_of_lexeme? (by decide) ?_
  rw [lexeme?, List.singleton_append, readUnits_flatMap_escapeChar]
  show (do let s ← joinUnits (s.flatMap codeUnits); return (Lexeme.text s, rest)) = _
  rw [joinUnits_flatMap_codeUnits]
  rfl

/-- Nothing in front of which a number could go on. -/
def EndsNumber (rest : Text) : Prop :=
  ∀ c ∈ rest.head?, c.isDigit = false

theorem eq_zero_of_head?_ofNat {n : Nat} (h : (Text.ofNat n).head? = some '0') : n = 0 := by
  induction n using Nat.strongRecOn with
  | ind n ih =>
      unfold Text.ofNat at h ih
      by_cases hn : n < 10
      · rw [Nat.toDigits_of_lt_base hn] at h
        have hdigit : ∀ k < 10, [k.digitChar].head? = some '0' → k = 0 := by decide
        exact hdigit n hn h
      · rw [Nat.toDigits_of_base_le (by decide) (by omega),
          List.head?_append_of_ne_nil _ Nat.toDigits_ne_nil] at h
        have := ih (n / 10) (by omega) h
        omega

theorem readNatural_ofNat (n : Nat) {rest : Text} (h : EndsNumber rest) :
    readNatural (Text.ofNat n ++ rest) = some (n, rest) := by
  have hdigits (c : Char) (hc : c ∈ Text.ofNat n) : c.isDigit :=
    Nat.isDigit_of_mem_toDigits (by decide) (by decide) hc
  obtain ⟨htake, hdrop⟩ := takeWhile_append_of_boundary hdigits h
  have hnatural : isNatural (Text.ofNat n) := by
    simp only [isNatural, Bool.and_eq_true, Bool.or_eq_true, decide_eq_true_eq]
    refine ⟨Nat.toDigits_ne_nil, ?_⟩
    by_cases hhead : (Text.ofNat n).head? = some '0'
    · rw [eq_zero_of_head?_ofNat hhead]
      exact .inr rfl
    · exact .inl hhead
  rw [readNatural, htake, if_pos hnatural, hdrop, Text.digitsValue_ofNat]

theorem lexeme?_digit {c : Char} (hc : c.isDigit) (rest : Text) :
    lexeme? (c :: rest) = (readNatural (c :: rest)).map fun (n, rest) => (.number n, rest) := by
  have hpunctuation : punctuation.lookup c = none := by
    have hmarks : ∀ p ∈ punctuation, p.1.isDigit = false := by decide
    rw [List.lookup_eq_none_iff]
    intro p hp
    rw [bne_iff_ne]
    rintro rfl
    rw [hmarks p hp] at hc
    contradiction
  rw [lexeme?]
  · rw [hpunctuation]
    cases readNatural (c :: rest) <;> rfl
  · rintro _ rfl
    contradiction
  · rintro rfl
    contradiction
  · rintro rfl
    contradiction

theorem isSpace_of_isDigit {c : Char} (hc : c.isDigit) : isSpace c = false := by
  cases h : isSpace c with
  | false => rfl
  | true =>
      simp only [isSpace, Bool.or_eq_true, decide_eq_true_eq] at h
      rcases h with ((rfl | rfl) | rfl) | rfl <;> contradiction

theorem lexemes_ofInt (n : Int) {rest : Text} (h : EndsNumber rest) :
    lexemes (Text.ofInt n ++ rest) = (lexemes rest).map (.number n :: ·) := by
  cases n with
  | ofNat n =>
      have hread := readNatural_ofNat n h
      obtain ⟨c, digits, hdigits⟩ : ∃ c digits, Text.ofNat n = c :: digits :=
        List.exists_cons_of_ne_nil Nat.toDigits_ne_nil
      have hc : c.isDigit := by
        have hmem : c ∈ Text.ofNat n := hdigits ▸ List.mem_cons_self
        exact Nat.isDigit_of_mem_toDigits (by decide) (by decide) hmem
      rw [Text.ofInt, hdigits, List.cons_append]
      rw [hdigits, List.cons_append] at hread
      refine lexemes_of_lexeme? (isSpace_of_isDigit hc) ?_
      rw [lexeme?_digit hc, hread]
      rfl
  | negSucc n =>
      rw [Text.ofInt, List.cons_append]
      refine lexemes_of_lexeme? (by decide) ?_
      rw [lexeme?, readNatural_ofNat (n + 1) h]
      rfl

theorem endsNumber_cons {c : Char} (h : c.isDigit = false) (rest : Text) :
    EndsNumber (c :: rest) := by
  rintro _ ⟨⟩
  exact h

theorem endsNumber_newLine (depth : Nat) (rest : Text) : EndsNumber (newLine depth ++ rest) :=
  endsNumber_cons (by decide) _

theorem endsNumber_renderItems (items : List Json) (depth : Nat) {rest : Text}
    (h : EndsNumber rest) : EndsNumber (renderItems depth items ++ rest) := by
  cases items with
  | nil => rwa [renderItems]
  | cons item items =>
      simp only [renderItems, List.cons_append]
      exact endsNumber_cons (by decide) _

theorem endsNumber_renderFields (fields : List (Text × Json)) (depth : Nat) {rest : Text}
    (h : EndsNumber rest) : EndsNumber (renderFields depth fields ++ rest) := by
  cases fields with
  | nil => rwa [renderFields]
  | cons field fields =>
      simp only [renderFields, List.cons_append]
      exact endsNumber_cons (by decide) _

theorem lexemes_colon (rest : Text) :
    lexemes (": ".toList ++ rest) = (lexemes rest).map (.colon :: ·) := by
  rw [show ": ".toList = [':', ' '] by decide, List.cons_append, List.singleton_append,
    lexemes_punctuation rfl, lexemes_space (by decide)]

/-! ### Values -/

mutual

theorem lexemes_render (v : Json) (depth : Nat) {rest : Text} (h : EndsNumber rest) :
    lexemes (v.render depth ++ rest) = (lexemes rest).map (v.spelled ++ ·) := by
  cases v with
  | null =>
      rw [render]
      exact lexemes_null rest
  | number n =>
      rw [render]
      exact lexemes_ofInt n h
  | text s =>
      rw [render]
      exact lexemes_renderText s rest
  | array items =>
      cases items with
      | nil =>
          rw [render, show "[]".toList = ['[', ']'] by decide, List.cons_append,
            List.singleton_append, lexemes_punctuation rfl,
            lexemes_punctuation rfl, Option.map_map]
          rfl
      | cons item items =>
          -- A line break or a comma stands behind each item, so that a number ends there.
          rw [render, show "]".toList = [']'] by decide]
          simp only [List.cons_append, List.append_assoc, List.nil_append]
          rw [lexemes_punctuation rfl, lexemes_newLine,
            lexemes_render item _ (endsNumber_renderItems items _ (endsNumber_newLine _ _)),
            lexemes_renderItems items _ (endsNumber_newLine _ _), lexemes_newLine,
            lexemes_punctuation rfl]
          simp only [Option.map_map, Function.comp_def, spelled, List.cons_append,
            List.append_assoc, List.nil_append]
  | object fields =>
      cases fields with
      | nil =>
          rw [render, List.cons_append,
            List.singleton_append, lexemes_punctuation rfl,
            lexemes_punctuation rfl, Option.map_map]
          rfl
      | cons field fields =>
          rw [render]
          simp only [List.cons_append, List.append_assoc, List.nil_append]
          rw [lexemes_punctuation rfl, lexemes_newLine, lexemes_renderText, lexemes_colon,
            lexemes_render field.2 _ (endsNumber_renderFields fields _ (endsNumber_newLine _ _)),
            lexemes_renderFields fields _ (endsNumber_newLine _ _), lexemes_newLine,
            lexemes_punctuation rfl]
          simp only [Option.map_map, Function.comp_def, spelled, List.cons_append,
            List.append_assoc, List.nil_append]

theorem lexemes_renderItems (items : List Json) (depth : Nat) {rest : Text} (h : EndsNumber rest) :
    lexemes (renderItems depth items ++ rest) = (lexemes rest).map (spelledItems items ++ ·) := by
  cases items with
  | nil => simp [renderItems, spelledItems]
  | cons item items =>
      simp only [renderItems, List.cons_append, List.append_assoc]
      rw [lexemes_punctuation rfl, lexemes_newLine,
        lexemes_render item _ (endsNumber_renderItems items _ h), lexemes_renderItems items _ h]
      simp only [Option.map_map, Function.comp_def, spelledItems, List.cons_append,
        List.append_assoc]

theorem lexemes_renderFields (fields : List (Text × Json)) (depth : Nat) {rest : Text}
    (h : EndsNumber rest) :
    lexemes (renderFields depth fields ++ rest) =
      (lexemes rest).map (spelledFields fields ++ ·) := by
  cases fields with
  | nil => simp [renderFields, spelledFields]
  | cons field fields =>
      simp only [renderFields, List.cons_append, List.append_assoc]
      rw [lexemes_punctuation rfl, lexemes_newLine, lexemes_renderText, lexemes_colon,
        lexemes_render field.2 _ (endsNumber_renderFields fields _ h),
        lexemes_renderFields fields _ h]
      simp only [Option.map_map, Function.comp_def, spelledFields, List.cons_append,
        List.append_assoc]

end

theorem decode_render_append (v : Json) (depth : Nat) {rest : Text} (h : ∀ c ∈ rest, isSpace c) :
    decode (v.render depth ++ rest) = some v := by
  have hrest : lexemes rest = some [] := by
    induction rest with
    | nil => rw [lexemes]
    | cons c rest ih =>
        rw [List.forall_mem_cons] at h
        rw [lexemes_space h.1, ih h.2]
  -- White space ends the value, since no digit is a space.
  have hends : EndsNumber rest := by
    cases rest with
    | nil => simp [EndsNumber]
    | cons c rest =>
        refine endsNumber_cons ?_ rest
        cases hc : c.isDigit with
        | false => rfl
        | true =>
            have hspace := h c List.mem_cons_self
            rw [isSpace_of_isDigit hc] at hspace
            contradiction
  rw [decode, lexemes_render v depth hends, hrest]
  show expect [] (v.spelled ++ []) = some v
  rw [expect_spelled_append, proceed]

/-! ### ASCII -/

def IsAscii (s : Text) : Prop :=
  ∀ c ∈ s, c.toNat < 128

instance : DecidablePred IsAscii := fun s =>
  decidable_of_iff (s.all (·.toNat < 128)) (by simp [IsAscii])

@[simp] theorem isAscii_nil : IsAscii [] :=
  List.forall_mem_nil _

@[simp] theorem isAscii_cons {c : Char} {s : Text} :
    IsAscii (c :: s) ↔ c.toNat < 128 ∧ IsAscii s :=
  List.forall_mem_cons

@[simp] theorem isAscii_append {s t : Text} : IsAscii (s ++ t) ↔ IsAscii s ∧ IsAscii t :=
  List.forall_mem_append

theorem isAscii_ofInt (n : Int) : IsAscii (Text.ofInt n) := by
  have hdigits (k : Nat) : IsAscii (Text.ofNat k) := by
    intro c hc
    have hdigit : c.isDigit := Nat.isDigit_of_mem_toDigits (by decide) (by decide) hc
    simp only [Char.isDigit, Bool.and_eq_true, decide_eq_true_eq] at hdigit
    have hlast : c.toNat ≤ '9'.toNat := hdigit.2
    exact Nat.lt_of_le_of_lt hlast (by decide)
  cases n with
  | ofNat n => exact hdigits n
  | negSucc n => exact isAscii_cons.mpr ⟨by decide, hdigits (n + 1)⟩

theorem isAscii_unitEscape {n : Nat} (h : n < 0x10000) : IsAscii (unitEscape n) := by
  have hdigit : ∀ k < 16, k.digitChar.toNat < 128 := by decide
  rw [unitEscape, hex_four h, isAscii_append]
  refine ⟨by decide, ?_⟩
  simp only [isAscii_cons, isAscii_nil, and_true]
  exact ⟨hdigit _ (by omega), hdigit _ (by omega), hdigit _ (by omega), hdigit _ (by omega)⟩

theorem isAscii_escapeChar (c : Char) : IsAscii (escapeChar c) := by
  rcases escapeChar_cases c with ⟨e, hescape, -, he, -⟩ | ⟨hescape, -, hc, -⟩ | hescape
  · rw [hescape]
    simp [he]
  · rw [hescape]
    simp [hc]
  · have hvalid : c.toNat.isValidChar := c.valid
    unfold Nat.isValidChar at hvalid
    rw [hescape, codeEscape]
    split
    · exact isAscii_unitEscape (by omega)
    · exact isAscii_append.mpr ⟨isAscii_unitEscape (by omega), isAscii_unitEscape (by omega)⟩

theorem isAscii_renderText (s : Text) : IsAscii (renderText s) := by
  have hbody : IsAscii (s.flatMap escapeChar) := by
    intro c hc
    obtain ⟨d, -, hd⟩ := List.mem_flatMap.mp hc
    exact isAscii_escapeChar d c hd
  simp [renderText, hbody]

theorem isAscii_newLine (depth : Nat) : IsAscii (newLine depth) := by
  refine isAscii_cons.mpr ⟨by decide, fun c hc => ?_⟩
  rw [List.eq_of_mem_replicate hc]
  decide

mutual

theorem isAscii_render (v : Json) (depth : Nat) : IsAscii (v.render depth) := by
  cases v with
  | null =>
      rw [render]
      decide
  | number n =>
      rw [render]
      exact isAscii_ofInt n
  | text s =>
      rw [render]
      exact isAscii_renderText s
  | array items =>
      cases items with
      | nil =>
          rw [render]
          decide
      | cons item items =>
          simp [render, isAscii_newLine, isAscii_render item, isAscii_renderItems items]
  | object fields =>
      cases fields with
      | nil =>
          rw [render]
          decide
      | cons field fields =>
          simp [render, isAscii_newLine, isAscii_renderText, isAscii_render field.2,
            isAscii_renderFields fields]

theorem isAscii_renderItems (items : List Json) (depth : Nat) :
    IsAscii (renderItems depth items) := by
  cases items with
  | nil => simp [renderItems]
  | cons item items =>
      simp [renderItems, isAscii_newLine, isAscii_render item, isAscii_renderItems items]

theorem isAscii_renderFields (fields : List (Text × Json)) (depth : Nat) :
    IsAscii (renderFields depth fields) := by
  cases fields with
  | nil => simp [renderFields]
  | cons field fields =>
      simp [renderFields, isAscii_newLine, isAscii_renderText, isAscii_render field.2,
        isAscii_renderFields fields]

end

end MiniLex.Json
