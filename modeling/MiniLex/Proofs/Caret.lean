import MiniLex.Proofs.Location

/-!
The caret under a diagnostic. Three parts have to agree for it to stand under the right character:
the cursor of the scan, the column and the line that a location finds again, and the padding, which
keeps the tabs of the line. Tabs are worth whatever leads to the next multiple of some width, so
what matters is that the padding is as wide as what stands before the character, from any column on.
-/

namespace MiniLex

namespace Text

/-- A text with its tabs filled up with blanks to the next multiple of `stop`, from a column on.
Every other character is one column wide. -/
def expandFrom (stop column : Nat) : Text → Text
  | [] => []
  | c :: cs =>
    if c = '\t' then
      List.replicate (stop - column % stop) ' ' ++
        expandFrom stop (column + (stop - column % stop)) cs
    else c :: expandFrom stop (column + 1) cs

/-- The column at which the character at an index of a line is displayed. -/
def displayColumn (stop : Nat) (line : Text) (index : Nat) : Nat :=
  (Console.expandLine List.length stop (line.take index)).length

theorem expandFrom_append (stop column : Nat) (first second : Text) :
    expandFrom stop column (first ++ second) = expandFrom stop column first ++
      expandFrom stop (column + (expandFrom stop column first).length) second := by
  induction first generalizing column with
  | nil => simp [expandFrom]
  | cons c cs ih =>
      by_cases hc : c = '\t'
      · simp [expandFrom, hc, ih, Nat.add_assoc]
      · simp [expandFrom, hc, ih, Nat.add_assoc, Nat.add_comm 1]

/-- Blanks that keep the tabs of a text are as wide as the text. -/
theorem expandFrom_map_blank (stop column : Nat) (s : Text) :
    expandFrom stop column (s.map fun c => if c = '\t' then '\t' else ' ') =
      List.replicate (expandFrom stop column s).length ' ' := by
  induction s generalizing column with
  | nil => rfl
  | cons c cs ih =>
      by_cases hc : c = '\t'
      · simp [expandFrom, hc, ih]
      · simp [expandFrom, hc, ih, List.replicate_succ]

/-! ### Lines of the console -/

/-- The gap behind a blank that stands for a tab, which is measured from the next column on. -/
theorem gap_add_one {stop : Nat} (hstop : 1 ≤ stop) (column : Nat) :
    (stop - (column + 1) % stop) % stop + 1 = stop - column % stop := by
  have hlt : column % stop < stop := Nat.mod_lt column hstop
  rw [← Nat.mod_add_mod]
  by_cases hlast : column % stop + 1 = stop
  · rw [hlast, Nat.mod_self, Nat.sub_zero, Nat.mod_self]
    omega
  · have hnext : (column % stop + 1) % stop = column % stop + 1 := Nat.mod_eq_of_lt (by omega)
    rw [hnext, Nat.mod_eq_of_lt (by omega)]
    omega

/-- The console puts the parts between tabs together again with the blanks of `expandFrom`. -/
theorem joinParts_splitOn {stop : Nat} (hstop : 1 ≤ stop) (column : Nat) (s : Text) :
    Console.joinParts List.length stop column (s.splitOn '\t') = expandFrom stop column s := by
  induction s generalizing column with
  | nil => rfl
  | cons c cs ih =>
      obtain ⟨part, parts, hparts⟩ := List.exists_cons_of_ne_nil (List.splitOn_ne_nil '\t' cs)
      rw [List.splitOn, List.splitOnP_cons_eq_if_modifyHead, ← List.splitOn]
      by_cases hc : c = '\t'
      · have hgap := gap_add_one hstop column
        rw [if_pos (by simpa using hc), expandFrom, if_pos hc, ← hgap, ← Nat.add_assoc, ← ih,
          hparts, Console.joinParts]
        · simp [Nat.add_assoc, Nat.add_comm 1]
        · simp
      · rw [if_neg (by simpa using hc), expandFrom, if_neg hc, ← ih, hparts]
        cases parts with
        | nil => rfl
        | cons next rest => simp [Console.joinParts, Nat.add_assoc, Nat.add_comm 1]

theorem expandLine_eq {stop : Nat} (hstop : 1 ≤ stop) (line : Text) :
    Console.expandLine List.length stop line = expandFrom stop 0 line :=
  joinParts_splitOn hstop 0 line

theorem getElem?_expandLine {stop : Nat} (hstop : 1 ≤ stop) (before after : Text) {c : Char}
    (hc : c ≠ '\t') :
    (Console.expandLine List.length stop (before ++ c :: after))[displayColumn stop
      (before ++ c :: after) before.length]? = some c := by
  rw [displayColumn, List.take_left, expandLine_eq hstop, expandLine_eq hstop, expandFrom_append,
    expandFrom, if_neg hc]
  simp

/-- A caret behind blanks that keep the tabs of a text stands right behind the text. -/
theorem expandLine_caret {stop : Nat} (hstop : 1 ≤ stop) (before after : Text) :
    Console.expandLine List.length stop
        ((before.map fun c => if c = '\t' then '\t' else ' ') ++ ['^']) =
      List.replicate (displayColumn stop (before ++ after) before.length) ' ' ++ ['^'] := by
  rw [displayColumn, List.take_left, expandLine_eq hstop, expandLine_eq hstop, expandFrom_append,
    expandFrom_map_blank]
  rfl

theorem lines_append_two {line last : Text} (hline : ∀ c ∈ line, ¬isLineBreak c)
    (hlast : ∀ c ∈ last, ¬isLineBreak c) (above : Text) :
    lines (above ++ '\n' :: (line ++ '\n' :: last)) = lines above ++ [line, last] := by
  have hbreak : isLineBreak '\n' = true := rfl
  have hone {s : Text} (hs : ∀ c ∈ s, ¬isLineBreak c) : s.splitOnP isLineBreak = [s] :=
    List.splitOnP_eq_singleton fun c hc => by simpa using hs c hc
  rw [lines, List.splitOnP_append_cons _ _ hbreak, List.splitOnP_append_cons _ _ hbreak,
    hone hline, hone hlast]
  rfl

end Text

/-! ### Diagnostics -/

theorem Location.caretPadding_append (line : Int) (file before after : Text) :
    caretPadding ⟨line, before.length + 1, file, before ++ after⟩ =
      before.map fun c => if c = '\t' then '\t' else ' ' := by
  have hcolumn : (before.length : Int) + 1 - 1 = before.length := by omega
  simp only [caretPadding, hcolumn, Text.upTo_length_append]

theorem Setting.exists_head_of_finding? {setting : Setting} {cursor : Cursor} {s : Segment}
    {d : Diagnostic} (hshape : s.IsShaped) (h : setting.finding? cursor s = some d) :
    ∃ c tail, s.text = c :: tail ∧ c ≠ '\t' := by
  rcases finding?_cases h with ⟨text, rfl, -⟩ | ⟨c, rfl, -⟩ | ⟨c, rfl, -⟩
  · cases text with
    | nil => exact absurd rfl hshape.1
    | cons c tail =>
        refine ⟨c, tail, rfl, ?_⟩
        rintro rfl
        exact absurd (hshape.2 '\t' List.mem_cons_self) (by decide)
  · obtain ⟨-, -, -, -, htab, -⟩ := hshape
    exact ⟨c, [], rfl, htab⟩
  · obtain ⟨-, -, -, -, htab, -⟩ := hshape
    exact ⟨c, [], rfl, htab⟩

theorem Setting.ReportsAt.charAt?_eq {setting : Setting} {d : Diagnostic} {place : Cursor}
    {s : Segment} (h : setting.ReportsAt d place s) :
    s.IsShaped ∧ charAt? setting.source place.position = s.text.head? := by
  have hstands : s.StandsAt setting.source place.position :=
    Session.standsAt_of_mem_placed (s := Session.start setting) h.1
  exact ⟨hstands.shaped, hstands.charAt?_eq_head?⟩

theorem Diagnostic.lines_plain {d : Diagnostic} {l : Location} (hlocation : d.location = some l)
    (hraw : l.rawLine ≠ []) (hbreaks : ∀ c ∈ l.rawLine, ¬isLineBreak c) :
    ∃ above, Text.lines d.plain =
      above ++ ["  ".toList ++ l.rawLine, "  ".toList ++ l.caretPadding ++ ['^']] := by
  have hline : ∀ c ∈ "  ".toList ++ l.rawLine, ¬isLineBreak c :=
    List.forall_mem_append.mpr ⟨by simp [isLineBreak], hbreaks⟩
  have hpadding : ∀ c ∈ l.caretPadding, ¬isLineBreak c := by
    intro c hc
    obtain ⟨e, -, rfl⟩ := List.mem_map.mp hc
    split
    · decide
    · decide
  have hlast : ∀ c ∈ "  ".toList ++ l.caretPadding ++ ['^'], ¬isLineBreak c :=
    List.forall_mem_append.mpr
      ⟨List.forall_mem_append.mpr ⟨by simp [isLineBreak], hpadding⟩, by simp [isLineBreak]⟩
  refine ⟨Text.lines (l.display ++ ": ".toList ++ d.headline), ?_⟩
  rw [← Text.lines_append_two hline hlast]
  simp [plain, layout, hlocation, hraw]

/-- Take any width of tabs. A diagnostic ends with two lines: the line of the source behind two
blanks, and a caret behind its padding and two blanks. With the tabs of both filled up, there are
blanks alone before the caret, and it stands in the column in which the character of the source at
the place of the report is displayed on the line above; that character is what is shown there. -/
theorem caret_below_reported (setting : Setting) {stop : Nat} (hstop : 1 ≤ stop) :
    ∀ d ∈ (Session.start setting).tokenize.1.diagnostics,
      ∃ place s c, setting.ReportsAt d place s ∧
        charAt? setting.source place.position = some c ∧
        let location := setting.locate place
        let sourceLine := "  ".toList ++ location.rawLine
        let caretLine := "  ".toList ++ location.caretPadding ++ ['^']
        let index := 2 + (place.position - Text.lineStart setting.source place.position).toNat
        let column := Text.displayColumn stop sourceLine index
        d.location = some location ∧
          (∃ above, Text.lines d.plain = above ++ [sourceLine, caretLine]) ∧
          sourceLine[index]? = some c ∧
          (Console.expandLine List.length stop sourceLine)[column]? = some c ∧
          Console.expandLine List.length stop caretLine = List.replicate column ' ' ++ ['^'] := by
  intro d hd
  obtain ⟨place, s, hreports⟩ := Session.exists_reportsAt_of_mem_diagnostics hd
  obtain ⟨hshape, hchar⟩ := hreports.charAt?_eq
  obtain ⟨c, tail, htext, htab⟩ := Setting.exists_head_of_finding? hshape hreports.2
  obtain ⟨before, after, hlocation, hbreaks⟩ := hreports.exists_location
  have hlocate := (Setting.place_of_finding? hreports.2).1
  have hsame : setting.locate place =
      ⟨place.line + 1, before.length + 1, setting.file, before ++ (s.text ++ after)⟩ :=
    Option.some.inj (hlocate.symm.trans hlocation)
  -- The column of the location is what lies between the start of the line and the place.
  have hcolumn : place.position - Text.lineStart setting.source place.position + 1 =
      before.length + 1 := congrArg Location.column hsame
  have hindex : 2 + (place.position - Text.lineStart setting.source place.position).toNat =
      ("  ".toList ++ before).length := by
    rw [List.length_append, show "  ".toList.length = 2 from rfl]
    omega
  have hpadding : "  ".toList ++ (setting.locate place).caretPadding =
      ("  ".toList ++ before).map fun c => if c = '\t' then '\t' else ' ' := by
    rw [hsame, Location.caretPadding_append, List.map_append]
    rfl
  have hline : "  ".toList ++ (setting.locate place).rawLine =
      ("  ".toList ++ before) ++ c :: (tail ++ after) := by
    rw [hsame, htext, List.append_assoc]
    rfl
  refine ⟨place, s, c, hreports, by rw [hchar, htext]; rfl, ?_⟩
  simp only [hline, hindex, hpadding]
  refine ⟨hlocate, ?_, ?_, Text.getElem?_expandLine hstop _ _ htab,
    Text.expandLine_caret hstop _ _⟩
  · rw [← hline, ← hpadding]
    refine Diagnostic.lines_plain hlocate ?_ ?_
    · rw [hsame, htext]
      simp
    · rw [hsame]
      exact hbreaks
  · simp

/-- A character that is passed over, behind two tabs of different width on the second line. -/
theorem caret_below_reported_tabs :
    let setting : Setting :=
      ⟨['a', '\n', '\t', 'b', '\t', '@'], ['f'], .default, { failFast := false }⟩
    let d := setting.skippedAt ⟨5, 1⟩ '@'
    let sourceLine := [' ', ' ', '\t', 'b', '\t', '@']
    let caretLine := [' ', ' ', '\t', ' ', '\t', '^']
    (Session.start setting).tokenize.1.diagnostics = [d] ∧
      (∃ above, Text.lines d.plain = above ++ [sourceLine, caretLine]) ∧
      (∃ place s, setting.ReportsAt d place s ∧
        charAt? setting.source place.position = some '@') ∧
      (Console.expandLine List.length 4 sourceLine)[8]? = some '@' ∧
      Console.expandLine List.length 4 caretLine = List.replicate 8 ' ' ++ ['^'] := by
  intro setting d sourceLine caretLine
  have hreport : (Session.start setting).tokenize.1.diagnostics = [d] := by decide +kernel
  have hplace : d.location = some ⟨2, 4, ['f'], ['\t', 'b', '\t', '@']⟩ := by decide
  have hshown : (Console.expandLine List.length 4 sourceLine)[8]? = some '@' := by decide
  have hcaret : Console.expandLine List.length 4 caretLine = List.replicate 8 ' ' ++ ['^'] := by
    decide
  obtain ⟨place, s, c, hreports, hchar, hlocation, hlines, -, hc, hbelow⟩ :=
    caret_below_reported setting (show 1 ≤ 4 by decide) d
      (by rw [hreport]; exact List.mem_singleton_self _)
  rw [← Option.some.inj (hplace.symm.trans hlocation)] at hlines hc hbelow
  have hcolumn := congrArg List.length (hcaret.symm.trans hbelow)
  simp only [List.length_append, List.length_replicate, List.length_singleton,
    Nat.add_right_cancel_iff] at hcolumn
  rw [← hcolumn] at hc
  obtain rfl : '@' = c := Option.some.inj (hshown.symm.trans hc)
  exact ⟨hreport, hlines, ⟨place, s, hreports, hchar⟩, hshown, hcaret⟩

end MiniLex
