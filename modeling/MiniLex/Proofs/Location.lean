import MiniLex.Proofs.LineCount
import Mathlib.Data.List.Induction

/-!
Locations and the lines of a source. A location looks back from a position to the last line break
and forward to the next one, and takes its line number from the counter of the scan. The lines that
a source falls into at its line breaks say what it should find: line and column name the position,
and the text that the location shows is the line of that number.
-/

namespace MiniLex

namespace Text

/-- The lines of a text. Every line break ends one, so there is an empty line between two that
stand together, and there is a last line behind them all. -/
def lines (s : Text) : List Text :=
  s.splitOnP isLineBreak

/-- The number of characters that lines take up, each with the line break behind it. -/
def extent : List Text → Nat
  | [] => 0
  | line :: rest => line.length + 1 + extent rest

/-- A text that is empty or ends with a line break, so that a line starts behind it. -/
def EndsLine (s : Text) : Prop :=
  ∀ c ∈ s.getLast?, isLineBreak c

/-! ### The lines of a text -/

@[simp] theorem lines_nil : lines [] = [[]] := by
  simp [lines]

theorem lines_cons_of_isLineBreak {c : Char} (hc : isLineBreak c) (s : Text) :
    lines (c :: s) = [] :: lines s := by
  rw [lines, List.splitOnP_cons_eq_if_modifyHead, if_pos hc]
  rfl

theorem lines_cons_of_not_isLineBreak {c : Char} (hc : ¬isLineBreak c) {s first : Text}
    {rest : List Text} (hs : lines s = first :: rest) :
    lines (c :: s) = (c :: first) :: rest := by
  rw [lines] at hs
  rw [lines, List.splitOnP_cons_eq_if_modifyHead, if_neg hc, hs]
  rfl

theorem exists_lines_eq_cons (s : Text) : ∃ rest, lines s = firstLine s :: rest := by
  induction s with
  | nil => exact ⟨[], lines_nil⟩
  | cons c s ih =>
      obtain ⟨rest, hs⟩ := ih
      by_cases hc : isLineBreak c
      · refine ⟨lines s, ?_⟩
        rw [lines_cons_of_isLineBreak hc]
        simp [firstLine, hc]
      · refine ⟨rest, ?_⟩
        rw [lines_cons_of_not_isLineBreak hc hs]
        simp [firstLine, hc]

theorem length_lines (s : Text) : (lines s).length = s.countP isLineBreak + 1 := by
  induction s with
  | nil => simp
  | cons c s ih =>
      by_cases hc : isLineBreak c
      · simp [lines_cons_of_isLineBreak hc, hc, ih]
      · obtain ⟨rest, hs⟩ := exists_lines_eq_cons s
        rw [hs] at ih
        rw [lines_cons_of_not_isLineBreak hc hs, List.countP_cons_of_neg hc, ← ih]
        simp

theorem extent_lines (s : Text) : extent (lines s) = s.length + 1 := by
  induction s with
  | nil => simp [extent]
  | cons c s ih =>
      by_cases hc : isLineBreak c
      · rw [lines_cons_of_isLineBreak hc, extent, ih]
        simp only [List.length_nil, List.length_cons]
        omega
      · obtain ⟨rest, hs⟩ := exists_lines_eq_cons s
        rw [hs, extent] at ih
        rw [lines_cons_of_not_isLineBreak hc hs, extent]
        simp only [List.length_cons]
        omega

/-- Behind a text that ends a line the lines are those of the rest. In front of them stands a line
for each of its line breaks, and these lines hold all of it. -/
theorem EndsLine.exists_lines_append {head : Text} (hhead : EndsLine head) :
    ∃ full, full.length = head.countP isLineBreak ∧ extent full = head.length ∧
      ∀ rest, lines (head ++ rest) = full ++ lines rest := by
  rcases List.eq_nil_or_concat' head with rfl | ⟨body, c, rfl⟩
  · exact ⟨[], rfl, rfl, fun rest => rfl⟩
  · have hc : isLineBreak c := hhead c (by simp)
    refine ⟨lines body, ?_, ?_, fun rest => ?_⟩
    · rw [length_lines, List.countP_append]
      simp [hc]
    · rw [extent_lines]
      simp
    · rw [List.append_assoc]
      exact List.splitOnP_append_cons body rest hc

/-! ### The start of a line -/

/-- Cut a text behind its last line break. -/
theorem exists_eq_append_of_endsLine (front : Text) :
    ∃ head tail, front = head ++ tail ∧ EndsLine head ∧ ∀ c ∈ tail, ¬isLineBreak c := by
  induction front using List.reverseRecOn with
  | nil => exact ⟨[], [], rfl, by simp [EndsLine], by simp⟩
  | append_singleton front c ih =>
      by_cases hc : isLineBreak c
      · exact ⟨front ++ [c], [], (List.append_nil _).symm, by simp [EndsLine, hc], by simp⟩
      · obtain ⟨head, tail, rfl, hhead, htail⟩ := ih
        refine ⟨head, tail ++ [c], List.append_assoc _ _ _, hhead, fun d hd => ?_⟩
        rcases List.mem_append.mp hd with hd | hd
        · exact htail d hd
        · rw [List.mem_singleton.mp hd]
          exact hc

theorem sinceBreak_concat (s : Text) (c : Char) :
    sinceBreak (s ++ [c]) = if isLineBreak c then 0 else sinceBreak s + 1 := by
  rw [sinceBreak, List.foldl_concat]
  rfl

theorem EndsLine.sinceBreak_append {head tail : Text} (hhead : EndsLine head)
    (htail : ∀ c ∈ tail, ¬isLineBreak c) : sinceBreak (head ++ tail) = tail.length := by
  induction tail using List.reverseRecOn with
  | nil =>
      rcases List.eq_nil_or_concat' head with rfl | ⟨body, c, rfl⟩
      · rfl
      · have hc : isLineBreak c := hhead c (by simp)
        rw [List.append_nil, sinceBreak_concat, if_pos hc]
        rfl
  | append_singleton tail c ih =>
      have hc : ¬isLineBreak c := htail c (by simp)
      have hrest := ih fun d hd => htail d (List.mem_append_left _ hd)
      rw [← List.append_assoc, sinceBreak_concat, if_neg hc, hrest]
      simp

theorem lineStart_append {head tail back : Text} (hhead : EndsLine head)
    (htail : ∀ c ∈ tail, ¬isLineBreak c) :
    lineStart ((head ++ tail) ++ back) (head ++ tail).length = head.length := by
  rw [lineStart, upTo_length_append, hhead.sinceBreak_append htail, List.length_append]
  omega

theorem firstLine_append {tail : Text} (htail : ∀ c ∈ tail, ¬isLineBreak c) (back : Text) :
    firstLine (tail ++ back) = tail ++ firstLine back := by
  refine List.takeWhile_append_of_pos fun c hc => ?_
  simpa using htail c hc

theorem not_isLineBreak_of_mem_firstLine {s : Text} {c : Char} (hc : c ∈ firstLine s) :
    ¬isLineBreak c := by
  simpa using List.all_eq_true.mp List.all_takeWhile c hc

theorem breaksBefore_eq (source : Text) (p : Nat) :
    breaksBefore source p = (source.take p).countP isLineBreak := by
  have hp : ¬(p : Int) < 0 := by omega
  rw [breaksBefore, upTo, if_neg hp, Int.toNat_natCast]

end Text

/-! ### Locations -/

namespace Location

open Text (EndsLine)

variable {head tail : Text}

theorem of_append (hhead : EndsLine head) (htail : ∀ c ∈ tail, ¬isLineBreak c)
    (back file : Text) (line : Int) :
    of ((head ++ tail) ++ back) file (head ++ tail).length line =
      ⟨line + 1, tail.length + 1, file, tail ++ Text.firstLine back⟩ := by
  have hcolumn : ((head ++ tail).length : Int) - head.length + 1 = tail.length + 1 := by
    rw [List.length_append]
    omega
  have hrest : ((head ++ tail) ++ back).drop head.length = tail ++ back := by
    rw [List.append_assoc, List.drop_left]
  rw [of, Text.lineStart_append hhead htail, hcolumn, hrest, Text.firstLine_append htail]

/-- A location that shows a line of the source, counted from zero among its lines, and a column on
it, its end included, that together with the lines before it makes up the position. -/
structure IsAt (l : Location) (source : Text) (line position : Nat) : Prop where
  line_eq : l.line = line + 1
  rawLine_eq : (Text.lines source)[line]? = some l.rawLine
  column_pos : 1 ≤ l.column
  column_le : l.column ≤ l.rawLine.length + 1
  position_eq : (position : Int) = Text.extent ((Text.lines source).take line) + l.column - 1

theorem isAt_of_append (front back file : Text) :
    (of (front ++ back) file front.length (front.countP isLineBreak)).IsAt (front ++ back)
      (front.countP isLineBreak) front.length := by
  -- `head` ends the line before, and `tail` is what stands before the position on its own line.
  obtain ⟨head, tail, rfl, hhead, htail⟩ := Text.exists_eq_append_of_endsLine front
  obtain ⟨full, hlength, hextent, hlines⟩ := hhead.exists_lines_append
  obtain ⟨rest, hfirst⟩ := Text.exists_lines_eq_cons (tail ++ back)
  rw [Text.firstLine_append htail] at hfirst
  have hcount : (head ++ tail).countP isLineBreak = full.length := by
    rw [List.countP_append, List.countP_eq_zero.mpr htail, hlength, Nat.add_zero]
  have hall : Text.lines ((head ++ tail) ++ back) =
      full ++ (tail ++ Text.firstLine back) :: rest := by
    rw [List.append_assoc, hlines, hfirst]
  rw [of_append hhead htail, hcount]
  refine ⟨rfl, ?_, ?_, ?_, ?_⟩
  · rw [hall]
    simp
  · show (1 : Int) ≤ tail.length + 1
    omega
  · show (tail.length : Int) + 1 ≤ (tail ++ Text.firstLine back).length + 1
    rw [List.length_append]
    omega
  · show ((head ++ tail).length : Int) =
      Text.extent ((Text.lines ((head ++ tail) ++ back)).take full.length) + (tail.length + 1) - 1
    rw [hall, List.take_left, hextent, List.length_append]
    omega

theorem isAt_of_le (file : Text) {source : Text} {p : Nat} (hp : p ≤ source.length) :
    (of source file p (Text.breaksBefore source p)).IsAt source (Text.breaksBefore source p) p := by
  have hat := isAt_of_append (source.take p) (source.drop p) file
  rw [List.take_append_drop, List.length_take, Nat.min_eq_left hp] at hat
  rw [Text.breaksBefore_eq]
  exact hat

theorem IsAt.position_inj {l l' : Location} {source : Text} {line line' p q : Nat}
    (h : l.IsAt source line p) (h' : l'.IsAt source line' q) (hline : l.line = l'.line)
    (hcolumn : l.column = l'.column) : p = q := by
  have hsame : line = line' := by
    have hl := h.line_eq
    have hl' := h'.line_eq
    omega
  subst hsame
  have hp := h.position_eq
  have hq := h'.position_eq
  omega

end Location

/-! ### Diagnostics -/

theorem Setting.not_isLineBreak_of_finding? {setting : Setting} {cursor : Cursor} {s : Segment}
    {d : Diagnostic} (hshape : s.IsShaped) (h : setting.finding? cursor s = some d) :
    ∀ c ∈ s.text, ¬isLineBreak c := by
  rw [← List.countP_eq_zero]
  have hbreaks := hshape.breaks_eq
  rcases finding?_cases h with ⟨text, rfl, -⟩ | ⟨c, rfl, -⟩ | ⟨c, rfl, -⟩
  · exact Int.natCast_eq_zero.mp hbreaks.symm
  · exact Int.natCast_eq_zero.mp hbreaks.symm
  · exact Int.natCast_eq_zero.mp hbreaks.symm

theorem Setting.ReportsAt.exists_location {setting : Setting} {d : Diagnostic} {place : Cursor}
    {s : Segment} (h : setting.ReportsAt d place s) :
    ∃ before after, d.location = some ⟨place.line + 1, before.length + 1, setting.file,
        before ++ (s.text ++ after)⟩ ∧
      ∀ c ∈ before ++ (s.text ++ after), ¬isLineBreak c := by
  obtain ⟨hplaced, hfinding⟩ := h
  obtain ⟨front, back, hsource, hplace, hshape, -⟩ :=
    (segmentation_segments setting.source).exists_append_of_mem_placed hplaced
  have htext := not_isLineBreak_of_finding? hshape hfinding
  obtain ⟨head, tail, rfl, hhead, htail⟩ := Text.exists_eq_append_of_endsLine front
  have hposition : place.position = (head ++ tail).length := by
    rw [show place = _ from hplace]
    exact Int.zero_add _
  refine ⟨tail, Text.firstLine back, ?_, ?_⟩
  · rw [(place_of_finding? hfinding).1, locate, hposition, hsource,
      Location.of_append hhead htail, Text.firstLine_append htext]
  · -- The line is that of `tail` and the segment up to the next line break.
    intro c hc
    rcases List.mem_append.mp hc with hc | hc
    · exact htail c hc
    · rcases List.mem_append.mp hc with hc | hc
      · exact htext c hc
      · exact Text.not_isLineBreak_of_mem_firstLine hc

/-- What a diagnostic names: the lexeme of the error behind it, or the character of which it says
that it was skipped. -/
inductive Diagnostic.Names (d : Diagnostic) : Text → Prop
  | overflow {lexeme : Text} {line position : Int}
      (herror : d.failure = some (.lexical ⟨.overflow lexeme, line, position⟩)) : d.Names lexeme
  | unknown {text : Text} {line position : Int}
      (herror : d.failure = some (.lexical ⟨.unknownCharacter text, line, position⟩)) :
      d.Names text
  | skipped {c : Char} (hnone : d.failure = none)
      (hmessage : d.message = "skipped unknown character ".toList ++ Text.quoted [c]) :
      d.Names [c]

theorem Setting.names_of_finding? {setting : Setting} {cursor : Cursor} {s : Segment}
    {d : Diagnostic} (h : setting.finding? cursor s = some d) : d.Names s.text := by
  rcases finding?_cases h with ⟨text, rfl, -, rfl⟩ | ⟨c, rfl, -, rfl⟩ | ⟨c, rfl, -, rfl⟩
  · exact .overflow rfl
  · exact .unknown rfl
  · exact .skipped rfl rfl

/-- Take any position of a source, its end included, and the number of line breaks before it. The
location shows the line of that number among the lines of the source, its column lies on that line
or just behind it, and together they give back the position; so different positions have different
lines or columns. The location of a diagnostic shows one line, and on that line, from the column on,
stands all of what the diagnostic names. -/
theorem location_inverts_position (setting : Setting) :
    let source := setting.source
    let locate (p : Nat) := setting.locate ⟨p, Text.breaksBefore source p⟩
    (∀ p ≤ source.length, (locate p).IsAt source (Text.breaksBefore source p) p) ∧
    (∀ p q, p ≤ source.length → q ≤ source.length → (locate p).line = (locate q).line →
      (locate p).column = (locate q).column → p = q) ∧
    ∀ d ∈ (Session.start setting).tokenize.1.diagnostics, ∃ location lexeme,
      d.location = some location ∧ d.Names lexeme ∧
      (∀ c ∈ location.rawLine, ¬isLineBreak c) ∧
      (∃ c, lexeme.head? = some c ∧ charAt? location.rawLine (location.column - 1) = some c) ∧
      (location.rawLine.drop (location.column - 1).toNat).take lexeme.length = lexeme := by
  intro source locate
  have hat (p : Nat) (hp : p ≤ source.length) :
      (locate p).IsAt source (Text.breaksBefore source p) p :=
    Location.isAt_of_le setting.file hp
  refine ⟨hat, fun p q hp hq hline hcolumn => ?_, fun d hd => ?_⟩
  · exact (hat p hp).position_inj (hat q hq) hline hcolumn
  · obtain ⟨place, s, hreports⟩ := Session.exists_reportsAt_of_mem_diagnostics hd
    obtain ⟨before, after, hlocation, hraw⟩ := hreports.exists_location
    have hshape : s.IsShaped :=
      (segmentation_segments source).isShaped s (snd_mem_of_mem_placed hreports.1)
    have hcolumn : (before.length : Int) + 1 - 1 = before.length := by omega
    refine ⟨_, s.text, hlocation, Setting.names_of_finding? hreports.2, hraw, ?_, ?_⟩
    · obtain ⟨c, tail, htext, -⟩ := hshape.eq_ofLexeme
      refine ⟨c, by simp [htext], ?_⟩
      rw [hcolumn, charAt?_length_append, htext]
      rfl
    · show ((before ++ (s.text ++ after)).drop ((before.length : Int) + 1 - 1).toNat).take
        s.text.length = s.text
      rw [hcolumn, Int.toNat_natCast, List.drop_left, List.take_left]

/-- The position between a carriage return and a line feed, which is an empty line of its own, and
a number that does not fit behind a blank on the line after it. -/
theorem location_inverts_position_between :
    let digits := ['3', '0', '0', '0', '0', '0', '0', '0', '0', '0']
    let setting : Setting :=
      ⟨['a', '\r', '\n', ' '] ++ digits ++ [';', '\n'], ['f'], .default, { failFast := false }⟩
    let between := setting.locate ⟨2, 1⟩
    let d := setting.errorAt ⟨4, 2⟩ (.overflow digits)
    between = ⟨2, 1, ['f'], []⟩ ∧ between.IsAt setting.source 1 2 ∧
      (Session.start setting).tokenize.1.diagnostics = [d] ∧
      d.location = some ⟨3, 2, ['f'], [' '] ++ digits ++ [';']⟩ ∧
      ∃ lexeme, d.Names lexeme ∧
        (([' '] ++ digits ++ [';']).drop 1).take lexeme.length = lexeme := by
  intro digits setting between d
  have hreport : (Session.start setting).tokenize.1.diagnostics = [d] := by decide +kernel
  have hplace : d.location = some ⟨3, 2, ['f'], [' '] ++ digits ++ [';']⟩ := by decide
  obtain ⟨hat, -, hdiagnostics⟩ := location_inverts_position setting
  obtain ⟨location, lexeme, hlocation, hnames, -, -, hshown⟩ :=
    hdiagnostics d (by rw [hreport]; exact List.mem_singleton_self _)
  cases hplace.symm.trans hlocation
  exact ⟨by decide, hat 2 (by decide), hreport, hplace, lexeme, hnames, hshown⟩

end MiniLex
