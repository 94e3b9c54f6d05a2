import MiniLex.Scan
import MiniLex.Token
import Mathlib.Algebra.Group.Nat.Defs

/-!
The test for overflow looks at the number of significant digits before it evaluates them. It
accepts exactly the runs of digits whose value fits.
-/

namespace MiniLex.Literal

theorem digitsValue_dropWhile (digits : Text) :
    Text.digitsValue (digits.dropWhile (· == '0')) = Text.digitsValue digits := by
  induction digits with
  | nil => rfl
  | cons c digits ih =>
      by_cases hc : c = '0'
      · subst c
        simpa [Text.digitsValue, Nat.ofDigitChars_cons] using ih
      · simp [hc]

theorem digitsValue_significant (digits : Text) :
    Text.digitsValue (significant digits) = Text.digitsValue digits := by
  rw [← digitsValue_dropWhile digits, significant]
  split
  · next hzeros =>
      rw [hzeros]
      rfl
  · rfl

theorem pow_le_digitsValue_cons {c : Char} (hdigit : c.isDigit) (hc : c ≠ '0') (ds : Text) :
    10 ^ ds.length ≤ Text.digitsValue (c :: ds) := by
  have hrange : 48 ≤ c.toNat ∧ c.toNat ≤ 57 := Char.isDigit_iff_toNat.mp hdigit
  have hne : c.toNat ≠ 48 := by
    intro h
    exact hc (Char.toNat_inj.mp h)
  have hpos : 1 ≤ c.toNat - 48 := by omega
  calc
    10 ^ ds.length = 10 ^ ds.length * 1 := (Nat.mul_one _).symm
    _ ≤ 10 ^ ds.length * (c.toNat - 48) := Nat.mul_le_mul_left _ hpos
    _ ≤ Text.digitsValue (c :: ds) := by
      rw [Text.digitsValue, Nat.ofDigitChars_cons, Nat.ofDigitChars_eq_ofDigitChars_zero]
      simp

/-- More significant digits than the largest literal has make a number that is too large. -/
theorem int32Max_lt_of_maxLength_lt {digits : Text} (hdigits : ∀ c ∈ digits, c.isDigit)
    (hlong : maxLength < (significant digits).length) :
    Value.int32Max < Text.digitsValue digits := by
  have hmax : maxLength = 10 := rfl
  rw [← digitsValue_significant digits]
  unfold significant at hlong ⊢
  split at hlong
  · next hzeros => simp [hmax] at hlong
  · next ds hne =>
      cases hds : digits.dropWhile (· == '0') with
      | nil => exact absurd hds hne
      | cons c tail =>
          have hc : c ≠ '0' := by
            have := List.head?_dropWhile_not (· == '0') digits
            simpa [hds] using this
          have hmem : c ∈ digits :=
            (List.dropWhile_suffix _).subset (hds ▸ List.mem_cons_self)
          -- Ten digits behind a first one other than zero are more than the greatest literal.
          have hpow := pow_le_digitsValue_cons (hdigits c hmem) hc tail
          have hlen : 10 ≤ tail.length := by
            rw [hds, hmax, List.length_cons] at hlong
            omega
          have hten : 10 ^ 10 ≤ 10 ^ tail.length := Nat.pow_le_pow_right (by decide) hlen
          simp only [Value.int32Max]
          omega

theorem isDigit_of_mem_significant {digits : Text} (hdigits : ∀ c ∈ digits, c.isDigit) :
    ∀ c ∈ significant digits, c.isDigit := by
  unfold significant
  split
  · simp
  · exact fun c hc => hdigits c ((List.dropWhile_suffix _).subset hc)

/-- Whatever reads short runs of digits is never asked for more, and tells the numbers that fit from
those that do not. -/
theorem valueBy?_eq {read : Text → Option Nat}
    (hread : ∀ ds : Text, ds ≠ [] → (∀ c ∈ ds, c.isDigit) → ds.length ≤ maxLength →
      read ds = some (Text.digitsValue ds))
    {digits : Text} (hdigits : ∀ c ∈ digits, c.isDigit) :
    valueBy? read digits = some
      (if (Text.digitsValue digits : Int) ≤ Value.int32Max then some (Text.digitsValue digits)
      else none) := by
  rw [valueBy?]
  by_cases hlong : maxLength < (significant digits).length
  · have hlarge := int32Max_lt_of_maxLength_lt hdigits hlong
    rw [if_pos hlong, if_neg (by omega)]
  · have hsome : significant digits ≠ [] := by
      unfold significant
      split <;> simp_all
    rw [if_neg hlong, hread _ hsome (isDigit_of_mem_significant hdigits) (Nat.not_lt.mp hlong),
      digitsValue_significant]
    rfl

/-- The test does not run into the limit of what can be read. -/
theorem valueBy?_evaluate? {digits : Text} (hdigits : ∀ c ∈ digits, c.isDigit) :
    valueBy? Text.evaluate? digits = some
      (if (Text.digitsValue digits : Int) ≤ Value.int32Max then some (Text.digitsValue digits)
      else none) := by
  refine valueBy?_eq (fun ds _ _ hshort => ?_) hdigits
  have hlimit : maxLength ≤ Text.maxDigits := by decide
  rw [Text.evaluate?, if_neg (by omega)]

theorem value?_eq {digits : Text} (hdigits : ∀ c ∈ digits, c.isDigit) :
    value? digits =
      if (Text.digitsValue digits : Int) ≤ Value.int32Max then some (Text.digitsValue digits)
      else none := by
  rw [value?, valueBy?_evaluate? hdigits, Option.getD_some]

theorem ofInt_natCast {n : Nat} (hfits : (n : Int) ≤ Value.int32Max) :
    Value.ofInt n = .ok ⟨.int, n⟩ := by
  have hmin : Value.int32Min ≤ n := by
    simp only [Value.int32Min]
    omega
  rw [Value.ofInt, if_pos ⟨hmin, hfits⟩]

end MiniLex.Literal
