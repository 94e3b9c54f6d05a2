import MiniLex.Console.Table
import Mathlib.Data.List.DropRight
import Mathlib.Tactic.SplitIfs

/-!
The width of a line, and lines that need no break. A line is measured character by character, and
what stands in front of a text can make it appear wider in two ways only: a joiner at its end hides
the first character, and a selector may widen the last one. No word ends in a joiner but the last,
so the words of a line are together no wider than the line. A line that fits is therefore kept in
one piece.
-/

namespace MiniLex.Console

namespace Gauge

theorem columns_le_step (g : Gauge) (c : Char) : g.columns ≤ (g.step c).columns := by
  unfold step
  grind

theorem columns_le_foldl (g : Gauge) (s : Text) : g.columns ≤ (s.foldl step g).columns := by
  induction s generalizing g with
  | nil => exact Nat.le_refl _
  | cons c s ih => exact Nat.le_trans (columns_le_step g c) (ih (g.step c))

theorem hidden_step_of_isBlank {c : Char} (h : Text.isBlank c) (g : Gauge) :
    (g.step c).hidden = false := by
  have hjoiner : c ≠ joiner := by
    rintro rfl
    exact absurd h (by decide +kernel)
  have hselector : c ≠ pictureSelector := by
    rintro rfl
    exact absurd h (by decide +kernel)
  unfold step
  grind

/-- A measurement that is `base` columns ahead of another one, which starts afresh. If the latest
character before the start can become a picture, a selector may widen it and bring the first one
further ahead. -/
structure Ahead (picture : Prop) (base : Nat) (g f : Gauge) : Prop where
  hidden : g.hidden = f.hidden
  latest : g.latest = f.latest ∨
    f.latest = none ∧ (g.latest.any (fun d => pictureTree.contains d.toNat) → picture)
  columns : base + f.columns ≤ g.columns
  exact : ¬picture → g.columns = base + f.columns

variable {picture : Prop} {base : Nat} {g f : Gauge}

theorem Ahead.step (h : Ahead picture base g f) (c : Char) :
    Ahead picture base (g.step c) (f.step c) := by
  obtain ⟨hhidden, hlatest, hcolumns, hexact⟩ := h
  unfold Gauge.step
  constructor
  · grind
  · grind
  · grind
  · grind

theorem Ahead.foldl (h : Ahead picture base g f) (s : Text) :
    Ahead picture base (s.foldl Gauge.step g) (s.foldl Gauge.step f) := by
  induction s generalizing g f with
  | nil => exact h
  | cons c s ih => exact ih (h.step c)

/-- A text takes no fewer columns behind another one than alone, unless its first character is
hidden there. -/
theorem add_lineWidth_le (h : g.hidden = false) (s : Text) :
    g.columns + lineWidth s ≤ (s.foldl step g).columns := by
  have hahead : Ahead True g.columns g {} :=
    ⟨h, .inr ⟨rfl, fun _ => trivial⟩, Nat.le_refl _, fun hfalse => absurd trivial hfalse⟩
  exact (hahead.foldl s).columns

end Gauge

theorem lineWidth_append_le (s t : Text) : lineWidth s ≤ lineWidth (s ++ t) := by
  rw [lineWidth, lineWidth, List.foldl_append]
  exact Gauge.columns_le_foldl _ t

theorem lineWidth_blank_cons (s : Text) : lineWidth (' ' :: s) = 1 + lineWidth s := by
  have hahead : Gauge.Ahead False 1 (Gauge.step {} ' ') {} :=
    ⟨by decide +kernel, .inr ⟨rfl, by decide +kernel⟩, by decide +kernel,
      fun _ => by decide +kernel⟩
  exact (hahead.foldl s).exact not_false

theorem lineWidth_blanks_append (n : Nat) (s : Text) :
    lineWidth (blanks n ++ s) = n + lineWidth s := by
  induction n with
  | zero => simp [blanks]
  | succ n ih =>
      rw [blanks, List.replicate_succ, List.cons_append, lineWidth_blank_cons, ← blanks, ih]
      omega

/-! ### Words -/

/-- A word that fits behind a line is put there, and the columns it takes alone are among those that
the whole line takes. -/
theorem put_of_fits (overflow : Overflow) {width : Nat} {p : Page} {g : Gauge} {word : Text}
    (hcolumn : p.column ≤ g.columns) (hhidden : g.hidden = false)
    (hfits : (word.foldl Gauge.step g).columns ≤ width) :
    p.put overflow width word = ⟨p.done, p.line ++ word, p.column + lineWidth word⟩ ∧
      p.column + lineWidth word ≤ (word.foldl Gauge.step g).columns := by
  have hwhole : p.column + lineWidth word ≤ (word.foldl Gauge.step g).columns :=
    Nat.le_trans (Nat.add_le_add_right hcolumn _) (Gauge.add_lineWidth_le hhidden word)
  have htrimmed : lineWidth (Text.trimRight word) ≤ lineWidth word := by
    obtain ⟨back, hback⟩ := List.rdropWhile_prefix Text.isBlank (l := word)
    calc
      lineWidth (Text.trimRight word) ≤ lineWidth (Text.trimRight word ++ back) :=
        lineWidth_append_le _ back
      _ = lineWidth word := congrArg lineWidth hback
  refine ⟨?_, hwhole⟩
  rw [Page.put, if_pos (by omega)]

theorem Gauge.hidden_foldl_append {run : Text} (hsome : run ≠ []) (h : ∀ c ∈ run, Text.isBlank c)
    (s : Text) (g : Gauge) : ((s ++ run).foldl step g).hidden = false := by
  rw [← List.dropLast_append_getLast hsome, ← List.append_assoc, List.foldl_append]
  exact hidden_step_of_isBlank (h _ (List.getLast_mem hsome)) _

/-- The page `p` with a text put behind its current line. -/
def Page.HasPut (p : Page) (s : Text) (q : Page) : Prop :=
  q.done = p.done ∧ q.line = p.line ++ s

section

variable (overflow : Overflow) {width : Nat} {p : Page} {g : Gauge}

/-- A word and the blanks behind it, in front of words that are put behind any line with room. -/
theorem hasPut_cons {word run s : Text} (hrun : ∀ c ∈ run, Text.isBlank c)
    (hend : run = [] → s = []) (hcolumn : p.column ≤ g.columns) (hhidden : g.hidden = false)
    (hfits : ((word ++ run ++ s).foldl Gauge.step g).columns ≤ width)
    (hrest : ∀ {p : Page} {g : Gauge}, p.column ≤ g.columns → g.hidden = false →
      (s.foldl Gauge.step g).columns ≤ width →
        p.HasPut s ((wordsBehind s).foldl (Page.put overflow width) p)) :
    p.HasPut (word ++ run ++ s)
      (((word ++ run) :: wordsBehind s).foldl (Page.put overflow width) p) := by
  rw [List.foldl_append] at hfits
  obtain ⟨hput, hcolumn'⟩ := put_of_fits overflow hcolumn hhidden
    (Nat.le_trans (Gauge.columns_le_foldl _ s) hfits)
  rw [List.foldl_cons, hput]
  by_cases hsome : run = []
  · rw [hend hsome, wordsBehind, List.append_nil]
    exact ⟨rfl, rfl⟩
  · obtain ⟨hdone, hline⟩ :=
      hrest (p := ⟨p.done, p.line ++ (word ++ run), p.column + lineWidth (word ++ run)⟩) hcolumn'
        (Gauge.hidden_foldl_append hsome hrun word g) hfits
    exact ⟨hdone, by rw [hline, List.append_assoc, List.append_assoc]⟩

theorem dropWhile_eq_nil_of_takeWhile {s : Text}
    (h : (s.dropWhile (!Text.isBlank ·)).takeWhile Text.isBlank = []) :
    (s.dropWhile (!Text.isBlank ·)).dropWhile Text.isBlank = [] := by
  have hhead := List.head?_dropWhile_not (!Text.isBlank ·) s
  cases hrest : s.dropWhile (!Text.isBlank ·) with
  | nil => rfl
  | cons c cs =>
      rw [hrest] at h hhead
      have hblank : Text.isBlank c := by simpa using hhead
      rw [List.takeWhile_cons_of_pos hblank] at h
      contradiction

theorem hasPut_wordsBehind {s : Text} (hcolumn : p.column ≤ g.columns) (hhidden : g.hidden = false)
    (hfits : (s.foldl Gauge.step g).columns ≤ width) :
    p.HasPut s ((wordsBehind s).foldl (Page.put overflow width) p) := by
  fun_induction wordsBehind s generalizing p g with
  | case1 => exact ⟨rfl, by simp⟩
  | case2 c cs word =>
      rename_i rest ih
      have hwhole : c :: cs =
          word ++ rest.takeWhile Text.isBlank ++ rest.dropWhile Text.isBlank := by
        rw [List.append_assoc, List.takeWhile_append_dropWhile]
        exact congrArg (c :: ·) List.takeWhile_append_dropWhile.symm
      rw [hwhole] at hfits ⊢
      exact hasPut_cons overflow (List.all_eq_true.mp List.all_takeWhile)
        dropWhile_eq_nil_of_takeWhile hcolumn hhidden hfits ih

end

theorem wrap_eq_self (overflow : Overflow) {width : Nat} {s : Text} (h : lineWidth s ≤ width) :
    wrap overflow width s = [s] := by
  cases hrest : Text.trimLeft s with
  | nil =>
      have hwords : wordsOf s = [] := by rw [wordsOf, hrest, wordsBehind]
      rw [wrap, hwords]
  | cons c cs =>
      let lead := s.takeWhile Text.isBlank
      let word := c :: cs.takeWhile (!Text.isBlank ·)
      let rest := cs.dropWhile (!Text.isBlank ·)
      let run := rest.takeWhile Text.isBlank
      have hwords : wordsOf s =
          (lead ++ word ++ run) :: wordsBehind (rest.dropWhile Text.isBlank) := by
        rw [wordsOf, hrest, wordsBehind, List.append_assoc]
      have hwhole : s = lead ++ word ++ run ++ rest.dropWhile Text.isBlank := by
        calc
          s = lead ++ Text.trimLeft s := List.takeWhile_append_dropWhile.symm
          _ = lead ++ (word ++ rest) := by
            rw [hrest]
            exact congrArg (lead ++ c :: ·) List.takeWhile_append_dropWhile.symm
          _ = lead ++ word ++ run ++ rest.dropWhile Text.isBlank := by
            rw [List.append_assoc _ run, List.takeWhile_append_dropWhile, List.append_assoc]
      have hfits : lineWidth (lead ++ word ++ run ++ rest.dropWhile Text.isBlank) ≤ width :=
        hwhole ▸ h
      -- The whole line fits, so no word starts another one.
      obtain ⟨hdone, hline⟩ := hasPut_cons overflow (p := {})
        (List.all_eq_true.mp List.all_takeWhile) dropWhile_eq_nil_of_takeWhile (Nat.le_refl 0) rfl
        hfits (hasPut_wordsBehind overflow)
      rw [wrap, hwords]
      show Page.lines _ = _
      rw [Page.lines, hdone, hline, List.nil_append, ← hwhole]
      rfl

/-! ### Lines make up the text -/

def Clustering.text (k : Clustering) : Text :=
  k.clusters.reverse.flatMap (·.text)

namespace Page

end Page

/-- A text in which no character hides or widens another one. -/
def IsSteady (s : Text) : Prop :=
  ∀ c ∈ s, c ≠ joiner ∧ c ≠ pictureSelector

theorem Gauge.step_of_steady {g : Gauge} {c : Char} (hg : g.hidden = false)
    (hc : c ≠ joiner ∧ c ≠ pictureSelector) :
    (g.step c).hidden = false ∧ (g.step c).columns = g.columns + charWidth c := by
  simp only [step, hg, hc.1, hc.2, Bool.false_eq_true, if_false]
  split
  · next hzero => exact ⟨hg, by omega⟩
  · exact ⟨rfl, rfl⟩

theorem Gauge.foldl_of_steady {g : Gauge} {s : Text} (hg : g.hidden = false) (hs : IsSteady s) :
    (s.foldl step g).hidden = false ∧
      (s.foldl step g).columns = g.columns + lineWidth s := by
  -- Two measurements with nothing hidden stay equally far apart, whatever their columns.
  have hboth {g f : Gauge} (hg : g.hidden = false) (hf : f.hidden = false) :
      (s.foldl step g).hidden = false ∧
        (s.foldl step g).columns + f.columns = (s.foldl step f).columns + g.columns := by
    induction s generalizing g f with
    | nil => exact ⟨hg, Nat.add_comm _ _⟩
    | cons c s ih =>
        obtain ⟨hc, hs⟩ := List.forall_mem_cons.mp hs
        obtain ⟨hg', hgc⟩ := step_of_steady hg hc
        obtain ⟨hf', hfc⟩ := step_of_steady hf hc
        obtain ⟨hhidden, hcolumns⟩ := ih hs hg' hf'
        refine ⟨hhidden, ?_⟩
        rw [List.foldl_cons, List.foldl_cons]
        omega
  obtain ⟨hhidden, hcolumns⟩ := hboth hg (f := {}) rfl
  refine ⟨hhidden, ?_⟩
  rw [lineWidth]
  exact hcolumns.trans (Nat.add_comm _ _)

theorem lineWidth_append {s t : Text} (hs : IsSteady s) (ht : IsSteady t) :
    lineWidth (s ++ t) = lineWidth s + lineWidth t := by
  rw [lineWidth, List.foldl_append,
    (Gauge.foldl_of_steady (Gauge.foldl_of_steady rfl hs).1 ht).2, ← lineWidth]

theorem lineWidth_singleton {c : Char} (hc : c ≠ joiner ∧ c ≠ pictureSelector) :
    lineWidth [c] = charWidth c := by
  rw [lineWidth, List.foldl_cons, List.foldl_nil, (Gauge.step_of_steady rfl hc).2]
  exact Nat.zero_add _

theorem charWidth_le_two (c : Char) : charWidth c ≤ 2 := by
  unfold charWidth
  split_ifs <;> omega

/-- A cluster as steady texts have them: as wide as its text, and at most two columns wide. -/
structure Cluster.IsSteady (k : Cluster) : Prop where
  text : Console.IsSteady k.text
  columns : k.columns = lineWidth k.text
  le_two : k.columns ≤ 2

theorem Clustering.step_of_steady {k : Clustering} {c : Char} (hhidden : k.hidden = false)
    (hk : ∀ l ∈ k.clusters, l.IsSteady) (hc : c ≠ joiner ∧ c ≠ pictureSelector) :
    (k.step c).hidden = false ∧ ∀ l ∈ (k.step c).clusters, l.IsSteady := by
  have hone : Console.IsSteady [c] := List.forall_mem_singleton.mpr hc
  have hwidth := lineWidth_singleton hc
  simp only [step, hhidden, hc.1, hc.2, Bool.false_eq_true, if_false]
  split
  · next hzero =>
      cases hclusters : k.clusters with
      | nil =>
          have hfirst : Cluster.IsSteady ⟨[c], 0⟩ := ⟨hone, hzero.symm.trans hwidth.symm, by simp⟩
          simpa [extend, hclusters, hhidden] using hfirst
      | cons last before =>
          rw [hclusters] at hk
          obtain ⟨hlast, hbefore⟩ := List.forall_mem_cons.mp hk
          have hlonger : Cluster.IsSteady ⟨last.text ++ [c], last.columns + 0⟩ := by
            refine ⟨List.forall_mem_append.mpr ⟨hlast.text, hone⟩, ?_, hlast.le_two⟩
            rw [lineWidth_append hlast.text hone, ← hlast.columns, hwidth, hzero]
          simpa [extend, hclusters, hhidden] using ⟨hlonger, hbefore⟩
  · exact ⟨rfl, List.forall_mem_cons.mpr ⟨⟨hone, hwidth.symm, charWidth_le_two c⟩, hk⟩⟩

end MiniLex.Console
