import MiniLex.Console.Print
import Mathlib.Data.Bool.AllAny
import Mathlib.Data.List.Basic

/-!
Short codes in a text. A colon starts a code only if another one follows with no blank between them,
so a text without colons is displayed as it is. Of the codes that are made of digits alone, two are
names of pictures.
-/

namespace MiniLex

namespace Shortcode

theorem replace_nil : replace [] = [] := by
  rw [replace]

theorem replace_cons {c : Char} (h : c ≠ ':') (s : Text) : replace (c :: s) = c :: replace s := by
  rw [replace, if_neg h]

/-- Nothing is replaced in front of the first colon. -/
theorem replace_append {s : Text} (h : ':' ∉ s) (t : Text) : replace (s ++ t) = s ++ replace t := by
  induction s with
  | nil => rfl
  | cons c s ih =>
      rw [List.mem_cons, not_or] at h
      rw [List.cons_append, replace_cons (Ne.symm h.1), ih h.2, List.cons_append]

theorem replace_colon_cons {c : Char} (hcode : inCode c = false) (hcolon : c ≠ ':') (s : Text) :
    replace (':' :: c :: s) = ':' :: replace (c :: s) := by
  rw [replace, if_pos rfl]
  split
  · next rest h =>
      rw [List.dropWhile_cons_of_neg (by simp [hcode])] at h
      exact absurd (List.cons.inj h).1 hcolon
  · rfl

theorem replace_code {code : Text} (h : ∀ c ∈ code, inCode c) (rest : Text) :
    replace (':' :: (code ++ ':' :: rest)) = expand code ++ replace rest := by
  have hdrop : (code ++ ':' :: rest).dropWhile inCode = ':' :: rest := by
    rw [List.dropWhile_append_of_pos h]
    rfl
  have htake : (code ++ ':' :: rest).takeWhile inCode = code := by
    rw [List.takeWhile_append_of_pos h]
    simp [inCode]
  rw [replace, if_pos rfl, htake]
  split
  · next rest' h' =>
      rw [hdrop] at h'
      rw [(List.cons.inj h').2]
  · next h' => exact absurd hdrop (h' rest)

/-! ### Codes of digits -/

def digits : Text := "0123456789".toList

theorem mem_digits {c : Char} (h : c.isDigit) : c ∈ digits := by
  have hall : ∀ n < 58, 48 ≤ n → Char.ofNat n ∈ digits := by decide
  simp only [Char.isDigit, Bool.and_eq_true, decide_eq_true_eq] at h
  have hlow : '0'.toNat ≤ c.toNat := h.1
  have hhigh : c.toNat ≤ '9'.toNat := h.2
  rw [← Char.ofNat_toNat c]
  exact hall c.toNat (Nat.lt_succ_of_le hhigh) hlow

theorem lower_of_isDigit {s : Text} (h : ∀ c ∈ s, c.isDigit) : Text.lower s = s := by
  have hdigit : ∀ c ∈ digits, c ≠ 'İ' ∧ c ≠ 'Σ' ∧ Text.smallLetter c = c :=
    List.all_iff_forall_prop.mp (by decide +kernel)
  have hbehind (before : Text) : Text.lowerBehind before s = s := by
    induction s generalizing before with
    | nil => rfl
    | cons c s ih =>
        obtain ⟨hc, hs⟩ := List.forall_mem_cons.mp h
        obtain ⟨hdotted, hsigma, hsmall⟩ := hdigit c (mem_digits hc)
        rw [Text.lowerBehind, Text.lowerBetween, if_neg hdotted, if_neg hsigma, hsmall,
          ih hs, List.singleton_append]
  exact hbehind []

theorem split_of_isDigit {code : Text} (h : ∀ c ∈ code, c.isDigit) : split code = (code, []) := by
  have hnone : presentations.find? (fun p => p.1.isSuffixOf code) = none := by
    have hother : ∀ p ∈ presentations, p.1.any (!·.isDigit) := by decide
    rw [List.find?_eq_none]
    intro p hp hsuffix
    obtain ⟨c, hc, hdigit⟩ := List.any_eq_true.mp (hother p hp)
    simp [h c ((List.isSuffixOf_iff_suffix.mp hsuffix).subset hc)] at hdigit
  rw [split, hnone]

theorem namesFrom_of_isDigit {c : Char} (h : c.isDigit) :
    Picture.namesFrom c = Picture.namesOther := by
  unfold Picture.namesFrom
  split
  all_goals first | contradiction | rfl

theorem find?_of_isDigit {name : Text} (h : ∀ c ∈ name, c.isDigit) {picture : Text}
    (hfind : Picture.find? name = some picture) :
    name = "100".toList ∨ name = "1234".toList := by
  have hnames : ∀ p ∈ Picture.namesOther, p.1.toList.all Char.isDigit →
      p.1.toList = "100".toList ∨ p.1.toList = "1234".toList := by
    decide
  cases name with
  | nil => cases hfind
  | cons c cs =>
      rw [Picture.find?, namesFrom_of_isDigit (h c List.mem_cons_self)] at hfind
      obtain ⟨p, hp, -⟩ := Option.map_eq_some_iff.mp hfind
      have hname : p.1.toList = c :: cs := by simpa using List.find?_some hp
      rw [← hname] at h ⊢
      exact hnames p (List.mem_of_find?_eq_some hp) (List.all_eq_true.mpr h)

/-- A run of digits between colons is shown as it is, unless it is one of the two names. -/
theorem expand_of_isDigit {code : Text} (h : ∀ c ∈ code, c.isDigit) (hhundred : code ≠ "100".toList)
    (hnumbers : code ≠ "1234".toList) : expand code = ':' :: code ++ [':'] := by
  have hnone : Picture.find? code = none := by
    rw [Option.eq_none_iff_forall_ne_some]
    intro picture hfind
    rcases find?_of_isDigit h hfind with hname | hname
    · exact hhundred hname
    · exact hnumbers hname
  rw [expand, split_of_isDigit h]
  simp only [lower_of_isDigit h, hnone]

theorem inCode_of_isDigit {c : Char} (h : c.isDigit) : inCode c := by
  have hdigit : ∀ c ∈ digits, inCode c := List.all_eq_true.mp (by decide +kernel)
  exact hdigit c (mem_digits h)

end Shortcode

namespace Console

open Shortcode

theorem display_append {s : Text} (h : ':' ∉ s) (hkept : ∀ c ∈ s, isDropped c = false) (t : Text) :
    display (s ++ t) = s ++ display t := by
  rw [display, replace_append h, List.filter_append, display,
    List.filter_eq_self.mpr fun c hc => by simp [hkept c hc]]

theorem display_nil : display [] = [] := by
  rw [display, replace_nil, List.filter_nil]

theorem display_eq_self {s : Text} (h : ':' ∉ s) (hkept : ∀ c ∈ s, isDropped c = false) :
    display s = s := by
  simpa [display_nil] using display_append h hkept []

theorem display_colon_append (s : Text) :
    display (": ".toList ++ s) = ": ".toList ++ display s := by
  rw [show ": ".toList = [':', ' '] by decide, List.cons_append, List.singleton_append, display,
    replace_colon_cons (by decide) (by decide), replace_cons (by decide)]
  rfl

theorem display_code_append {code : Text} (h : ∀ c ∈ code, inCode c) (rest : Text) :
    display (':' :: (code ++ ':' :: rest)) = display (':' :: code ++ [':']) ++ display rest := by
  simp only [display, List.cons_append, replace_code h, replace_nil, List.append_nil,
    List.filter_append]

/-- A number between colons is displayed as it is, with two exceptions. -/
theorem display_code_ofNat {n : Nat} (hhundred : n ≠ 100) (hnumbers : n ≠ 1234) :
    display (':' :: Text.ofNat n ++ [':']) = ':' :: Text.ofNat n ++ [':'] := by
  have hdigits : ∀ c ∈ Text.ofNat n, c.isDigit := fun c hc =>
    Nat.isDigit_of_mem_toDigits (by decide) (by decide) hc
  have hvalue {m : Nat} (hm : n ≠ m) : Text.ofNat n ≠ Text.ofNat m := by
    intro h
    apply hm
    rw [← Text.digitsValue_ofNat n, h, Text.digitsValue_ofNat]
  have hexpand : expand (Text.ofNat n) = ':' :: Text.ofNat n ++ [':'] :=
    expand_of_isDigit hdigits (hvalue hhundred) (hvalue hnumbers)
  have hkept : ∀ c ∈ ':' :: Text.ofNat n ++ [':'], isDropped c = false := by
    have hnone : ∀ c ∈ ':' :: digits, isDropped c = false :=
      List.all_iff_forall_prop.mp (by decide)
    intro c hc
    simp only [List.cons_append, List.mem_cons, List.mem_append, List.not_mem_nil, or_false] at hc
    apply hnone
    rw [List.mem_cons]
    rcases hc with rfl | hc | rfl
    · exact .inl rfl
    · exact .inr (mem_digits (hdigits c hc))
    · exact .inl rfl
  have hcode := replace_code (fun c hc => inCode_of_isDigit (hdigits c hc)) []
  rw [display, List.cons_append, hcode, hexpand, replace_nil, List.append_nil,
    List.filter_eq_self.mpr fun c hc => by simp [hkept c hc], List.cons_append]

end Console

end MiniLex
