import MiniLex.Proofs.Scan

/-!
The range of literals. A run of digits is scanned as a literal exactly if its value fits in 32
signed bits, however many zeros it starts with and however long it is. The test needs no value of
more than ten digits, so a limit on the digits that can be evaluated does not show.
-/

namespace MiniLex

namespace Literal

theorem overflows_iff {digits : Text} :
    Overflows digits ↔ 2 ^ 31 - 1 < Text.digitsValue digits := by
  simp only [Overflows, Value.int32Max]
  omega

theorem overflows_iff_significant {digits : Text} (hrun : IsDigitRun digits) :
    maxLength < (significant digits).length ∨ Overflows (significant digits) ↔
      Overflows digits := by
  have hvalue : Overflows (significant digits) ↔ Overflows digits := by
    rw [Overflows, Overflows, digitsValue_significant]
  constructor
  · rintro (hlong | hlarge)
    · exact int32Max_lt_of_maxLength_lt hrun.2 hlong
    · exact hvalue.mp hlarge
  · intro hlarge
    exact .inr (hvalue.mpr hlarge)

end Literal

namespace Setting

theorem fail_ne_token (setting : Setting) (cursor : Cursor) (cause : LexicalCause) (t : Token) :
    setting.fail cursor cause ≠ .token t := by
  unfold fail
  split
  · simp
  · simp

theorem scanDigits_eq_fail_iff (setting : Setting) (cursor : Cursor) {digits : Text}
    (hrun : IsDigitRun digits) :
    setting.scanDigits cursor digits = setting.fail cursor (.overflow digits) ↔
      Literal.Overflows digits := by
  constructor
  · intro hfail
    by_contra hfits
    rw [scanDigits_of_not_overflows hrun hfits] at hfail
    exact setting.fail_ne_token _ _ _ hfail.symm
  · intro hlarge
    exact scanDigits_of_overflows hrun hlarge cursor

theorem scanDigits_eq_token_iff (setting : Setting) (cursor : Cursor) {digits : Text}
    (hrun : IsDigitRun digits) :
    setting.scanDigits cursor digits =
        .token (Token.literal digits ⟨.int, Text.digitsValue digits⟩ cursor.line cursor.position) ↔
      ¬Literal.Overflows digits := by
  constructor
  · intro htoken hlarge
    rw [scanDigits_of_overflows hrun hlarge] at htoken
    exact setting.fail_ne_token _ _ _ htoken
  · intro hfits
    exact scanDigits_of_not_overflows hrun hfits cursor

end Setting

/-- A run of digits is refused as an overflow exactly if its value is above the greatest 32-bit
integer, and else becomes a literal with that value and all its digits; the check of the range
behind it cannot fail. Looking at the number of significant digits first does not change the
answer, and it keeps what is evaluated to ten digits. -/
theorem scanDigits_exact (setting : Setting) (cursor : Cursor) {digits : Text}
    (hrun : IsDigitRun digits) :
    let value := Text.digitsValue digits
    let step := setting.scanDigits cursor digits
    (step = setting.fail cursor (.overflow digits) ↔ 2 ^ 31 - 1 < value) ∧
    (step = .token (Token.literal digits ⟨.int, value⟩ cursor.line cursor.position) ↔
      value ≤ 2 ^ 31 - 1) ∧
    (value ≤ 2 ^ 31 - 1 → Value.ofInt value = .ok ⟨.int, value⟩) ∧
    ((Text.ofNat (2 ^ 31 - 1)).length < (Literal.significant digits).length ∨
        2 ^ 31 - 1 < Text.digitsValue (Literal.significant digits) ↔
      2 ^ 31 - 1 < value) ∧
    ∀ read : Text → Option Nat,
      (∀ ds, IsDigitRun ds → ds.length ≤ 10 → read ds = some (Text.digitsValue ds)) →
        Literal.valueBy? read digits = some (Literal.value? digits) := by
  intro value step
  have hten : Literal.maxLength = 10 := rfl
  refine ⟨?_, ?_, ?_, ?_, fun read hread => ?_⟩
  · rw [← Literal.overflows_iff]
    exact setting.scanDigits_eq_fail_iff cursor hrun
  · rw [← Nat.not_lt, ← Literal.overflows_iff]
    exact setting.scanDigits_eq_token_iff cursor hrun
  · intro hfits
    apply Literal.ofInt_natCast
    simp only [Value.int32Max]
    omega
  · rw [← Literal.overflows_iff, ← Literal.overflows_iff]
    exact Literal.overflows_iff_significant hrun
  · -- Whatever reads short runs of digits gives the same answer, as longer ones are never read.
    rw [Literal.value?_eq hrun.2]
    exact Literal.valueBy?_eq (fun ds hsome hdigits hshort =>
      hread ds ⟨hsome, hdigits⟩ (hten ▸ hshort)) hrun.2

/-- The greatest literal behind twelve zeros, and the number behind it. -/
theorem scanDigits_exact_boundary :
    let setting : Setting := ⟨[], [], .default, {}⟩
    let zeros := List.replicate 12 '0'
    let greatest := zeros ++ "2147483647".toList
    let next := zeros ++ "2147483648".toList
    setting.scanDigits ⟨5, 1⟩ greatest = .token (Token.literal greatest ⟨.int, 2147483647⟩ 1 5) ∧
      setting.scanDigits ⟨5, 1⟩ next = .stop (.lexical ⟨.overflow next, 1, 5⟩) := by
  intro setting zeros greatest next
  have hgreatest : IsDigitRun greatest := ⟨by decide, List.all_eq_true.mp (by decide)⟩
  have hnext : IsDigitRun next := ⟨by decide, List.all_eq_true.mp (by decide)⟩
  obtain ⟨-, htoken, -⟩ := scanDigits_exact setting ⟨5, 1⟩ hgreatest
  obtain ⟨hfail, -⟩ := scanDigits_exact setting ⟨5, 1⟩ hnext
  exact ⟨htoken.mpr (by decide), hfail.mpr (by decide)⟩

end MiniLex
