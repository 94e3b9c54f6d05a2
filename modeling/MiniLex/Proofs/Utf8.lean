import MiniLex.Source
import Mathlib.Order.Bounds.Defs
import Mathlib.Tactic.ByContra

/-!
Reading UTF-8 is exact. What may stand in a sequence of bytes is said here by tables alone: how many
bytes the first one announces, and in which range each of them must lie. A sequence without a fault
is the encoding of one character, so bytes are the encoding of a text up to their first fault; the
decoder gives that text if there is no fault, and else reports it. Since what starts a broken
sequence is broken as well, no longer part in front is valid.
-/

namespace MiniLex

namespace Text.Utf8

def followers? (b : Nat) : Option Nat :=
  if b < 0x80 then some 0
  else if b < 0xC2 then none
  else if b < 0xE0 then some 1
  else if b < 0xF0 then some 2
  else if b < 0xF5 then some 3
  else none

/-- The range of the second byte, which may be narrower than that of the later ones. -/
def secondRange (b : Nat) : Nat × Nat :=
  if b = 0xE0 then (0xA0, 0xBF)
  else if b = 0xED then (0x80, 0x9F)
  else if b = 0xF0 then (0x90, 0xBF)
  else if b = 0xF4 then (0x80, 0x8F)
  else (0x80, 0xBF)

def continuationFault? : Nat → Nat × Nat → List UInt8 → Option Reason
  | 0, _, _ => none
  | _ + 1, _, [] => some .unexpectedEnd
  | missing + 1, (low, high), b :: bs =>
    if low ≤ b.toNat ∧ b.toNat ≤ high then continuationFault? missing (0x80, 0xBF) bs
    else some .invalidContinuation

/-- What is wrong with the sequence that bytes start with. -/
def sequenceFault? : List UInt8 → Option Reason
  | [] => none
  | b :: bs =>
    match followers? b.toNat with
    | none => some .invalidStart
    | some missing => continuationFault? missing (secondRange b.toNat) bs

def leadBits (missing b : Nat) : Nat :=
  match missing with
  | 0 => b
  | 1 => b % 0x20
  | 2 => b % 0x10
  | _ => b % 0x08

theorem within_secondRange_iff {b x : Nat} :
    (secondRange b).1 ≤ x ∧ x ≤ (secondRange b).2 ↔
      (0x80 ≤ x ∧ x ≤ 0xBF) ∧ (b = 0xE0 → 0xA0 ≤ x) ∧ (b = 0xED → x ≤ 0x9F) ∧
        (b = 0xF0 → 0x90 ≤ x) ∧ (b = 0xF4 → x ≤ 0x8F) := by
  unfold secondRange
  grind

theorem secondRange_bounds (b : Nat) : 0x80 ≤ (secondRange b).1 ∧ (secondRange b).2 ≤ 0xBF := by
  unfold secondRange
  grind

theorem followers?_eq_zero_iff {b : Nat} : followers? b = some 0 ↔ b < 0x80 := by
  unfold followers?
  grind

theorem lead?_eq {b : Nat} (hb : 0x80 ≤ b) (offset : Nat) :
    lead? offset b = (followers? b).map fun missing =>
      ⟨offset, leadBits missing b, missing, (secondRange b).1, (secondRange b).2⟩ := by
  unfold lead? followers? secondRange leadBits
  grind

theorem decodeFrom_of_continuationFault? {p : Pending} {bs : List UInt8} {r : Reason}
    (h : continuationFault? p.missing (p.low, p.high) bs = some r) (offset : Nat) :
    decodeFrom offset (some p) bs = .error ⟨r, p.start⟩ := by
  induction bs generalizing p offset with
  | nil =>
      cases hmissing : p.missing with
      | zero => simp [hmissing, continuationFault?] at h
      | succ n =>
          rw [hmissing, continuationFault?] at h
          cases h
          rfl
  | cons b bs ih =>
      cases hmissing : p.missing with
      | zero => simp [hmissing, continuationFault?] at h
      | succ n =>
          rw [hmissing, continuationFault?] at h
          split at h
          · next hrange =>
              -- After the last byte nothing could be missing any more, so this is not the last one.
              have hmore : ¬p.missing ≤ 1 := by
                intro hlast
                obtain rfl : n = 0 := by omega
                simp [continuationFault?] at h
              rw [decodeFrom, if_pos hrange, if_neg hmore]
              refine ih ?_ (offset + 1)
              rw [hmissing]
              exact h
          · next hrange =>
              cases h
              rw [decodeFrom, if_neg hrange]

theorem decodeFrom_of_sequenceFault? {bytes : List UInt8} {r : Reason}
    (h : sequenceFault? bytes = some r) (offset : Nat) :
    decodeFrom offset none bytes = .error ⟨r, offset⟩ := by
  cases bytes with
  | nil => contradiction
  | cons b bs =>
      have hlarge : 0x80 ≤ b.toNat := by
        by_contra hsmall
        simp [sequenceFault?, followers?, Nat.lt_of_not_le hsmall, continuationFault?] at h
      rw [decodeFrom, if_neg (by omega), lead?_eq hlarge]
      rw [sequenceFault?] at h
      cases hfollowers : followers? b.toNat with
      | none =>
          rw [hfollowers] at h
          cases h
          rfl
      | some missing =>
          rw [hfollowers] at h
          exact decodeFrom_of_continuationFault? h _

/-! ### Sequences -/

/-- A first byte with the bytes that it announces. -/
structure IsSequence (b : UInt8) (more : List UInt8) : Prop where
  followers : followers? b.toNat = some more.length
  continues : continuationFault? more.length (secondRange b.toNat) more = none

def addBits (bits : Nat) (x : UInt8) : Nat :=
  bits * 0x40 + x.toNat % 0x40

def assemble (bits : Nat) : List UInt8 → Nat
  | [] => bits
  | x :: more => assemble (addBits bits x) more

def codePoint (b : UInt8) (more : List UInt8) : Nat :=
  assemble (leadBits more.length b.toNat) more

theorem continuationFault?_append (more rest : List UInt8) (range : Nat × Nat) :
    continuationFault? more.length range (more ++ rest) =
      continuationFault? more.length range more := by
  induction more generalizing range with
  | nil => rfl
  | cons x more ih =>
      simp only [List.cons_append, List.length_cons, continuationFault?, ih]

theorem exists_eq_append_of_continuationFault? {missing : Nat} {range : Nat × Nat}
    {bs : List UInt8} (h : continuationFault? missing range bs = none) :
    ∃ more rest, bs = more ++ rest ∧ more.length = missing := by
  induction missing generalizing range bs with
  | zero => exact ⟨[], bs, rfl, rfl⟩
  | succ missing ih =>
      cases bs with
      | nil => simp [continuationFault?] at h
      | cons b bs =>
          rw [continuationFault?] at h
          split at h
          · obtain ⟨more, rest, rfl, rfl⟩ := ih h
            exact ⟨b :: more, rest, rfl, rfl⟩
          · contradiction

theorem sequenceFault?_cons_eq_none_iff {b : UInt8} {bs : List UInt8} :
    sequenceFault? (b :: bs) = none ↔ ∃ more rest, bs = more ++ rest ∧ IsSequence b more := by
  rw [sequenceFault?]
  constructor
  · intro h
    cases hfollowers : followers? b.toNat with
    | none => simp [hfollowers] at h
    | some missing =>
        rw [hfollowers] at h
        obtain ⟨more, rest, rfl, rfl⟩ := exists_eq_append_of_continuationFault? h
        exact ⟨more, rest, rfl, hfollowers, (continuationFault?_append more rest _).symm.trans h⟩
  · rintro ⟨more, rest, rfl, hfollowers, hcontinues⟩
    rw [hfollowers]
    exact (continuationFault?_append more rest _).trans hcontinues

/-- A sequence under way is completed by the bytes that it misses. -/
theorem decodeFrom_pending {p : Pending} {more : List UInt8} (hmissing : p.missing = more.length)
    (hsome : more ≠ []) (hlow : 0x80 ≤ p.low) (hhigh : p.high ≤ 0xBF)
    (h : continuationFault? more.length (p.low, p.high) more = none)
    (rest : List UInt8) (offset : Nat) :
    decodeFrom offset (some p) (more ++ rest) =
      (decodeFrom (offset + more.length) none rest).map
        (Char.ofNat (assemble p.bits more) :: ·) := by
  induction more generalizing p offset with
  | nil => contradiction
  | cons x more ih =>
      rw [List.length_cons, continuationFault?] at h
      split at h
      · next hrange =>
          have hbits : p.bits * 0x40 + (x.toNat - 0x80) = addBits p.bits x := by
            unfold addBits
            omega
          rw [List.cons_append, decodeFrom, if_pos hrange, hbits, assemble]
          -- The last byte completes the character; before that the sequence stays under way.
          cases more with
          | nil =>
              rw [if_pos (by simp [hmissing])]
              rfl
          | cons y more =>
              rw [if_neg (by simp [hmissing])]
              refine (ih (by simp [hmissing]) (by simp) (by simp) (by simp) h (offset + 1)).trans ?_
              rw [Nat.add_assoc, Nat.add_comm 1]
              rfl
      · contradiction

theorem IsSequence.decodeFrom {b : UInt8} {more : List UInt8} (h : IsSequence b more)
    (rest : List UInt8) (offset : Nat) :
    decodeFrom offset none (b :: more ++ rest) =
      (decodeFrom (offset + (b :: more).length) none rest).map
        (Char.ofNat (codePoint b more) :: ·) := by
  cases more with
  | nil =>
      have hb : b.toNat < 0x80 := followers?_eq_zero_iff.mp h.followers
      rw [List.cons_append, Utf8.decodeFrom, if_pos hb]
      rfl
  | cons x more =>
      have hb : ¬b.toNat < 0x80 := by
        intro hb
        have hzero := followers?_eq_zero_iff.mpr hb
        rw [h.followers] at hzero
        simp at hzero
      rw [List.cons_append, Utf8.decodeFrom, if_neg hb, lead?_eq (by omega), h.followers]
      refine (decodeFrom_pending rfl (by simp) (secondRange_bounds _).1 (secondRange_bounds _).2
        h.continues rest (offset + 1)).trans ?_
      rw [Nat.add_assoc offset, Nat.add_comm 1]
      rfl

/-! ### Characters -/

theorem encodeChar_cases (c : Char) :
    (c.toNat < 0x80 ∧ String.utf8EncodeChar c = [UInt8.ofNat c.toNat]) ∨
    (0x80 ≤ c.toNat ∧ c.toNat < 0x800 ∧ String.utf8EncodeChar c =
      [UInt8.ofNat (c.toNat / 0x40 + 0xC0), UInt8.ofNat (c.toNat % 0x40 + 0x80)]) ∨
    (0x800 ≤ c.toNat ∧ c.toNat < 0x10000 ∧ String.utf8EncodeChar c =
      [UInt8.ofNat (c.toNat / 0x1000 + 0xE0), UInt8.ofNat (c.toNat / 0x40 % 0x40 + 0x80),
        UInt8.ofNat (c.toNat % 0x40 + 0x80)]) ∨
    (0x10000 ≤ c.toNat ∧ String.utf8EncodeChar c =
      [UInt8.ofNat (c.toNat / 0x40000 + 0xF0), UInt8.ofNat (c.toNat / 0x1000 % 0x40 + 0x80),
        UInt8.ofNat (c.toNat / 0x40 % 0x40 + 0x80), UInt8.ofNat (c.toNat % 0x40 + 0x80)]) := by
  have hvalid : c.toNat.isValidChar := c.valid
  have hval : c.val.toNat = c.toNat := rfl
  unfold String.utf8EncodeChar
  simp only [hval]
  by_cases h₁ : c.toNat ≤ 0x7F
  · exact .inl ⟨by omega, if_pos h₁⟩
  rw [if_neg h₁]
  by_cases h₂ : c.toNat ≤ 0x7FF
  · refine .inr (.inl ⟨by omega, by omega, ?_⟩)
    rw [if_pos h₂, Nat.mod_eq_of_lt (a := c.toNat / 64) (by omega)]
  rw [if_neg h₂]
  by_cases h₃ : c.toNat ≤ 0xFFFF
  · refine .inr (.inr (.inl ⟨by omega, by omega, ?_⟩))
    rw [if_pos h₃, Nat.mod_eq_of_lt (a := c.toNat / 4096) (by omega)]
  · refine .inr (.inr (.inr ⟨by omega, ?_⟩))
    rw [if_neg h₃, Nat.mod_eq_of_lt (a := c.toNat / 262144) (by omega)]

theorem isSequence_nil_iff {b : UInt8} : IsSequence b [] ↔ b.toNat < 0x80 :=
  ⟨fun h => followers?_eq_zero_iff.mp h.followers,
    fun h => ⟨followers?_eq_zero_iff.mpr h, rfl⟩⟩

theorem isSequence_singleton_iff {b x : UInt8} : IsSequence b [x] ↔
    (0xC2 ≤ b.toNat ∧ b.toNat ≤ 0xDF) ∧ 0x80 ≤ x.toNat ∧ x.toNat ≤ 0xBF := by
  constructor
  · rintro ⟨hfollowers, hcontinues⟩
    simp only [List.length_cons, List.length_nil, continuationFault?] at hfollowers hcontinues
    unfold followers? secondRange at *
    grind
  · rintro ⟨hb, hx⟩
    constructor
    · unfold followers?
      grind
    · simp only [List.length_cons, List.length_nil, continuationFault?]
      unfold secondRange
      grind

theorem isSequence_pair_iff {b x y : UInt8} : IsSequence b [x, y] ↔
    (0xE0 ≤ b.toNat ∧ b.toNat ≤ 0xEF) ∧
      ((secondRange b.toNat).1 ≤ x.toNat ∧ x.toNat ≤ (secondRange b.toNat).2) ∧
      0x80 ≤ y.toNat ∧ y.toNat ≤ 0xBF := by
  constructor
  · rintro ⟨hfollowers, hcontinues⟩
    simp only [List.length_cons, List.length_nil, continuationFault?] at hfollowers hcontinues
    unfold followers? at hfollowers
    grind
  · rintro ⟨hb, hx, hy⟩
    constructor
    · unfold followers?
      grind
    · simp only [List.length_cons, List.length_nil, continuationFault?]
      grind

theorem isSequence_triple_iff {b x y z : UInt8} : IsSequence b [x, y, z] ↔
    (0xF0 ≤ b.toNat ∧ b.toNat ≤ 0xF4) ∧
      ((secondRange b.toNat).1 ≤ x.toNat ∧ x.toNat ≤ (secondRange b.toNat).2) ∧
      (0x80 ≤ y.toNat ∧ y.toNat ≤ 0xBF) ∧ 0x80 ≤ z.toNat ∧ z.toNat ≤ 0xBF := by
  constructor
  · rintro ⟨hfollowers, hcontinues⟩
    simp only [List.length_cons, List.length_nil, continuationFault?] at hfollowers hcontinues
    unfold followers? at hfollowers
    grind
  · rintro ⟨hb, hx, hy, hz⟩
    constructor
    · unfold followers?
      grind
    · simp only [List.length_cons, List.length_nil, continuationFault?]
      grind

theorem followers?_le {b n : Nat} (h : followers? b = some n) : n ≤ 3 := by
  unfold followers? at h
  grind

theorem exists_isSequence_of_encodeChar (c : Char) :
    ∃ b more, String.utf8EncodeChar c = b :: more ∧ IsSequence b more ∧
      codePoint b more = c.toNat := by
  have hvalid : c.toNat.isValidChar := c.valid
  have hbyte {n : Nat} (h : n < 256) : (UInt8.ofNat n).toNat = n := by
    rw [UInt8.toNat_ofNat', Nat.mod_eq_of_lt h]
  rcases encodeChar_cases c with ⟨h, henc⟩ | ⟨h, h', henc⟩ | ⟨h, h', henc⟩ | ⟨h, henc⟩
  · refine ⟨_, _, henc, isSequence_nil_iff.mpr ?_, ?_⟩
    · rwa [hbyte (by omega)]
    · exact hbyte (by omega)
  · refine ⟨_, _, henc, isSequence_singleton_iff.mpr ?_, ?_⟩
    · rw [hbyte (by omega), hbyte (by omega)]
      omega
    · simp only [codePoint, assemble, addBits, leadBits, List.length_cons, List.length_nil]
      rw [hbyte (by omega), hbyte (by omega)]
      omega
  · refine ⟨_, _, henc, isSequence_pair_iff.mpr ?_, ?_⟩
    · rw [within_secondRange_iff, hbyte (by omega), hbyte (by omega), hbyte (by omega)]
      unfold Nat.isValidChar at hvalid
      omega
    · simp only [codePoint, assemble, addBits, leadBits, List.length_cons, List.length_nil]
      rw [hbyte (by omega), hbyte (by omega), hbyte (by omega)]
      omega
  · have hlimit : c.toNat < 0x110000 := by
      unfold Nat.isValidChar at hvalid
      omega
    refine ⟨_, _, henc, isSequence_triple_iff.mpr ?_, ?_⟩
    · rw [within_secondRange_iff, hbyte (by omega), hbyte (by omega), hbyte (by omega),
        hbyte (by omega)]
      omega
    · simp only [codePoint, assemble, addBits, leadBits, List.length_cons, List.length_nil]
      rw [hbyte (by omega), hbyte (by omega), hbyte (by omega), hbyte (by omega)]
      omega

theorem toNat_charOfNat {n : Nat} (h : n.isValidChar) : (Char.ofNat n).toNat = n := by
  rw [Char.ofNat, dif_pos h]
  rfl

theorem IsSequence.encodeChar_codePoint {b : UInt8} {more : List UInt8} (h : IsSequence b more) :
    String.utf8EncodeChar (Char.ofNat (codePoint b more)) = b :: more := by
  have hbyte (x : UInt8) {n : Nat} (hn : n = x.toNat) : UInt8.ofNat n = x := by
    rw [hn, UInt8.ofNat_toNat]
  have hlength := followers?_le h.followers
  -- By the number of bytes that follow; their ranges leave one length of encoding each.
  match more with
  | [] =>
      have hb := isSequence_nil_iff.mp h
      have hcode : codePoint b [] = b.toNat := rfl
      have hchar := toNat_charOfNat (n := codePoint b []) (.inl (by omega))
      rcases encodeChar_cases (Char.ofNat (codePoint b [])) with
        ⟨-, henc⟩ | ⟨_, _⟩ | ⟨_, _⟩ | ⟨_, _⟩
      · rw [henc, hbyte b (by omega)]
      all_goals omega
  | [x] =>
      have hbytes := isSequence_singleton_iff.mp h
      have hcode : codePoint b [x] = b.toNat % 0x20 * 0x40 + x.toNat % 0x40 := rfl
      have hchar := toNat_charOfNat (n := codePoint b [x]) (.inl (by omega))
      rcases encodeChar_cases (Char.ofNat (codePoint b [x])) with
        ⟨_, _⟩ | ⟨-, -, henc⟩ | ⟨_, _⟩ | ⟨_, _⟩
      · omega
      · rw [henc, hbyte b (by omega), hbyte x (by omega)]
      all_goals omega
  | [x, y] =>
      obtain ⟨hb, hx, hy⟩ := isSequence_pair_iff.mp h
      rw [within_secondRange_iff] at hx
      have hcode : codePoint b [x, y] =
        (b.toNat % 0x10 * 0x40 + x.toNat % 0x40) * 0x40 + y.toNat % 0x40 := rfl
      have hchar := toNat_charOfNat (n := codePoint b [x, y]) (by unfold Nat.isValidChar; omega)
      rcases encodeChar_cases (Char.ofNat (codePoint b [x, y])) with
        ⟨_, _⟩ | ⟨_, _, _⟩ | ⟨-, -, henc⟩ | ⟨_, _⟩
      · omega
      · omega
      · rw [henc, hbyte b (by omega), hbyte x (by omega), hbyte y (by omega)]
      · omega
  | [x, y, z] =>
      obtain ⟨hb, hx, hy, hz⟩ := isSequence_triple_iff.mp h
      rw [within_secondRange_iff] at hx
      have hcode : codePoint b [x, y, z] =
        ((b.toNat % 0x08 * 0x40 + x.toNat % 0x40) * 0x40 + y.toNat % 0x40) * 0x40 +
          z.toNat % 0x40 := rfl
      have hchar := toNat_charOfNat (n := codePoint b [x, y, z]) (.inr (by omega))
      rcases encodeChar_cases (Char.ofNat (codePoint b [x, y, z])) with
        ⟨_, _⟩ | ⟨_, _, _⟩ | ⟨_, _, _⟩ | ⟨-, henc⟩
      · omega
      · omega
      · omega
      · rw [henc, hbyte b (by omega), hbyte x (by omega), hbyte y (by omega), hbyte z (by omega)]
  | _ :: _ :: _ :: _ :: _ =>
      simp only [List.length_cons] at hlength
      omega

/-! ### Texts -/

theorem sequenceFault?_encodeChar_append (c : Char) (rest : List UInt8) :
    sequenceFault? (String.utf8EncodeChar c ++ rest) = none := by
  obtain ⟨b, more, henc, hsequence, -⟩ := exists_isSequence_of_encodeChar c
  rw [henc]
  exact sequenceFault?_cons_eq_none_iff.mpr ⟨more, rest, rfl, hsequence⟩

theorem exists_encodeChar_append {bytes : List UInt8} (hsome : bytes ≠ [])
    (h : sequenceFault? bytes = none) :
    ∃ c rest, bytes = String.utf8EncodeChar c ++ rest := by
  obtain ⟨b, bs, rfl⟩ := List.exists_cons_of_ne_nil hsome
  obtain ⟨more, rest, rfl, hsequence⟩ := sequenceFault?_cons_eq_none_iff.mp h
  exact ⟨_, rest, by rw [hsequence.encodeChar_codePoint, List.cons_append]⟩

/-- What starts a broken sequence is broken as well, for want of bytes if for nothing else. -/
theorem exists_sequenceFault?_of_isPrefix {bytes front : List UInt8} {r : Reason}
    (h : sequenceFault? bytes = some r) (hfront : front <+: bytes) (hsome : front ≠ []) :
    ∃ r', sequenceFault? front = some r' := by
  rw [← Option.isSome_iff_exists, Option.isSome_iff_ne_none]
  intro hnone
  obtain ⟨back, rfl⟩ := hfront
  obtain ⟨c, rest, rfl⟩ := exists_encodeChar_append hsome hnone
  rw [List.append_assoc, sequenceFault?_encodeChar_append] at h
  contradiction

theorem encode_cons (c : Char) (s : Text) :
    encode (c :: s) = String.utf8EncodeChar c ++ encode s :=
  List.flatMap_cons

theorem decodeFrom_encodeChar_append (c : Char) (rest : List UInt8) (offset : Nat) :
    decodeFrom offset none (String.utf8EncodeChar c ++ rest) =
      (decodeFrom (offset + (String.utf8EncodeChar c).length) none rest).map (c :: ·) := by
  obtain ⟨b, more, henc, hsequence, hcode⟩ := exists_isSequence_of_encodeChar c
  rw [henc, hsequence.decodeFrom, hcode, Char.ofNat_toNat]

theorem decodeFrom_encode_append (s : Text) (rest : List UInt8) (offset : Nat) :
    decodeFrom offset none (encode s ++ rest) =
      (decodeFrom (offset + (encode s).length) none rest).map (s ++ ·) := by
  induction s generalizing offset with
  | nil =>
      cases h : decodeFrom offset none rest <;> simp [encode, h, Except.map]
  | cons c s ih =>
      rw [encode_cons, List.append_assoc, decodeFrom_encodeChar_append, ih, List.length_append,
        Nat.add_assoc]
      cases decodeFrom (offset + ((String.utf8EncodeChar c).length + (encode s).length)) none rest
        <;> rfl

@[simp] theorem decode_encode (s : Text) : decode (encode s) = .ok s := by
  have h := decodeFrom_encode_append s [] 0
  rw [List.append_nil] at h
  rw [decode, h, decodeFrom, Except.map, List.append_nil]

theorem decode_encode_append_of_sequenceFault? {tail : List UInt8} {r : Reason}
    (h : sequenceFault? tail = some r) (s : Text) :
    decode (encode s ++ tail) = .error ⟨r, (encode s).length⟩ := by
  rw [decode, decodeFrom_encode_append, decodeFrom_of_sequenceFault? h, Nat.zero_add]
  rfl

/-- Bytes are the encoding of a text up to a sequence that is broken, if there is one. -/
theorem exists_encode_append (bytes : List UInt8) :
    ∃ s tail, bytes = encode s ++ tail ∧ (tail = [] ∨ ∃ r, sequenceFault? tail = some r) := by
  -- On the number of bytes, since one step takes a whole sequence away.
  induction hlength : bytes.length using Nat.strongRecOn generalizing bytes with
  | ind n ih =>
      by_cases hsome : bytes = []
      · exact ⟨[], [], hsome, .inl rfl⟩
      cases hfault : sequenceFault? bytes with
      | some r => exact ⟨[], bytes, rfl, .inr ⟨r, hfault⟩⟩
      | none =>
          obtain ⟨c, rest, rfl⟩ := exists_encodeChar_append hsome hfault
          have hshorter : rest.length < n := by
            obtain ⟨b, more, henc, -⟩ := exists_isSequence_of_encodeChar c
            rw [← hlength, henc, List.length_append, List.length_cons]
            omega
          obtain ⟨s, tail, rfl, htail⟩ := ih rest.length hshorter rest rfl
          exact ⟨c :: s, tail, by rw [encode_cons, List.append_assoc], htail⟩

theorem decode_eq_ok_iff {bytes : List UInt8} {s : Text} :
    decode bytes = .ok s ↔ bytes = encode s := by
  constructor
  · intro h
    obtain ⟨s', tail, rfl, rfl | ⟨r, hfault⟩⟩ := exists_encode_append bytes
    · rw [List.append_nil, decode_encode, Except.ok.injEq] at h
      rw [List.append_nil, h]
    · rw [decode_encode_append_of_sequenceFault? hfault] at h
      contradiction
  · rintro rfl
    exact decode_encode s

/-- The longest part in front that is valid ends where the first broken sequence starts. -/
theorem isGreatest_length_encode {tail : List UInt8} {r : Reason}
    (h : sequenceFault? tail = some r) (s : Text) :
    IsGreatest {k | k ≤ (encode s ++ tail).length ∧ ∃ s', (encode s ++ tail).take k = encode s'}
      (encode s).length := by
  refine ⟨⟨by simp, s, List.take_left⟩, ?_⟩
  rintro k ⟨hk, s', hs'⟩
  by_contra hlong
  rw [List.take_append, List.take_of_length_le (by omega)] at hs'
  -- A longer part would end in the broken sequence, and decoding would report it.
  have hpart : tail.take (k - (encode s).length) ≠ [] := by
    rw [List.length_append] at hk
    rw [Ne, ← List.length_eq_zero_iff, List.length_take]
    omega
  obtain ⟨r', hr'⟩ := exists_sequenceFault?_of_isPrefix h (List.take_prefix _ tail) hpart
  have hdecoded := decode_encode s'
  rw [← hs', decode_encode_append_of_sequenceFault? hr'] at hdecoded
  contradiction

end Text.Utf8

open Text

theorem readSource_utf8_eq {files : FileSystem} {path : Text} {bytes : List UInt8}
    (hpath : '\x00' ∉ path) (hfile : files (Path.parse path) = .ok bytes) :
    readSource files path .utf8 = (Utf8.decode bytes).mapError fun fault =>
      .source ⟨(Path.parse path).display, "not valid utf-8 (".toList ++ fault.reason.message ++
        " at byte ".toList ++ Text.ofNat fault.start ++ ")".toList⟩ := by
  rw [readSource, if_neg (by simpa using hpath), hfile]
  show ((Utf8.decode bytes).mapError _).mapError _ = _
  cases Utf8.decode bytes <;> rfl

/-- Reading a file gives a text exactly if the file holds the encoding of that text. Any other file
is refused at the end of its longest valid part, for what is wrong with the sequence there. -/
theorem readSource_utf8_exact (files : FileSystem) {path : Text} {bytes : List UInt8}
    (hpath : '\x00' ∉ path) (hfile : files (Path.parse path) = .ok bytes) :
    (∀ s, readSource files path .utf8 = .ok s ↔ bytes = Utf8.encode s) ∧
    ((∀ s, bytes ≠ Utf8.encode s) → ∃ n r,
      IsGreatest {k | k ≤ bytes.length ∧ ∃ s, bytes.take k = Utf8.encode s} n ∧
      Utf8.sequenceFault? (bytes.drop n) = some r ∧
      readSource files path .utf8 = .error (.source ⟨(Path.parse path).display,
        "not valid utf-8 (".toList ++ r.message ++ " at byte ".toList ++ Text.ofNat n ++
          ")".toList⟩)) := by
  rw [readSource_utf8_eq hpath hfile]
  constructor
  · intro s
    rw [← Utf8.decode_eq_ok_iff]
    cases Utf8.decode bytes <;> simp [Except.mapError]
  · intro hinvalid
    obtain ⟨s, tail, rfl, rfl | ⟨r, hfault⟩⟩ := Utf8.exists_encode_append bytes
    · exact absurd (List.append_nil _) (hinvalid s)
    · refine ⟨(Utf8.encode s).length, r, Utf8.isGreatest_length_encode hfault s, ?_, ?_⟩
      · rwa [List.drop_left]
      · rw [Utf8.decode_encode_append_of_sequenceFault? hfault]
        rfl

/-- A mark of byte order, a lone return and a null are kept; a surrogate behind them is refused. -/
theorem readSource_utf8_exact_mixed :
    let text : Text := ['\uFEFF', '\r', '\x00', '😀']
    let intact : FileSystem := fun _ => .ok (Utf8.encode text)
    let bytes : List UInt8 := Utf8.encode text ++ [0xED, 0xA0, 0x80]
    let broken : FileSystem := fun _ => .ok bytes
    let path : Text := ['.', '/', 'a', '/', '/', 'b']
    ('\x00' ∉ path ∧ intact (Path.parse path) = .ok (Utf8.encode text) ∧
      readSource intact path .utf8 = .ok text) ∧
    broken (Path.parse path) = .ok bytes ∧ (∀ s, bytes ≠ Utf8.encode s) ∧ ∃ n r,
      IsGreatest {k | k ≤ bytes.length ∧ ∃ s, bytes.take k = Utf8.encode s} n ∧
      Utf8.sequenceFault? (bytes.drop n) = some r ∧
      readSource broken path .utf8 = .error (.source ⟨['a', '/', 'b'],
        "not valid utf-8 (".toList ++ r.message ++ " at byte ".toList ++ Text.ofNat n ++
          ")".toList⟩) := by
  intro text intact bytes broken path
  have hpath : '\x00' ∉ path := by decide
  have hinvalid (s : Text) : bytes ≠ Utf8.encode s := by
    intro hbytes
    have hread := ((readSource_utf8_exact broken hpath rfl).1 s).mpr hbytes
    have hrefused : (readSource broken path .utf8).toOption = none := by decide +kernel
    rw [hread] at hrefused
    contradiction
  exact ⟨⟨hpath, rfl, ((readSource_utf8_exact intact hpath rfl).1 text).mpr rfl⟩, rfl, hinvalid,
    (readSource_utf8_exact broken hpath rfl).2 hinvalid⟩

end MiniLex
