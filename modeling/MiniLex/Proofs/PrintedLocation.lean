import MiniLex.Proofs.Injection
import MiniLex.Proofs.Location
import MiniLex.Proofs.Shortcode

/-!
Coloured diagnostics as they are printed. A diagnostic starts with its location, which is no part of
a tag, and so is displayed by itself; there the line stands between two colons, like a short code.
The file name holds no colon, the column has its first colon taken away, and behind the level stands
a blank. So the line alone can be mistaken for a code, and of all numbers 100 and 1234 are: there a
diagnostic does not show where it belongs. Everywhere else it does.
-/

namespace MiniLex

namespace Console

theorem splitOn_append {mark : Char} {s : Text} (h : mark ∉ s) (t : Text) :
    (s ++ t).splitOn mark = (t.splitOn mark).modifyHead (s ++ ·) := by
  induction s with
  | nil => cases h : t.splitOn mark <;> simp [h]
  | cons c s ih =>
      rw [List.mem_cons, not_or] at h
      rw [List.cons_append, List.splitOn, List.splitOnP_cons_eq_if_modifyHead,
        if_neg (by simpa using Ne.symm h.1), ← List.splitOn, ih h.2, List.modifyHead_modifyHead]
      rfl

/-- Printing leaves alone what stands in front of the first tab and the first line feed. -/
theorem exists_printed_append {s : Text} (htab : '\t' ∉ s) (hfeed : '\n' ∉ s) (t : Text) :
    ∃ rest, printed (s ++ t) = s ++ rest := by
  obtain ⟨line, lines, hlines⟩ := List.exists_cons_of_ne_nil (List.splitOn_ne_nil '\n' t)
  obtain ⟨part, parts, hparts⟩ := List.exists_cons_of_ne_nil (List.splitOn_ne_nil '\t' line)
  -- The first part of the first line is longer by `s`, and all other parts stay as they are.
  have hline : ∃ rest, expandLine lineWidth tabStop (s ++ line) = s ++ rest := by
    rw [expandLine, splitOn_append htab, hparts, List.modifyHead_cons]
    cases parts with
    | nil => exact ⟨part, rfl⟩
    | cons next parts =>
        rw [joinParts]
        · exact ⟨_, by rw [List.append_assoc, List.append_assoc]⟩
        · simp
  obtain ⟨rest, hrest⟩ := hline
  rw [printed, expandTabs, linesOf, splitOn_append hfeed, hlines, List.modifyHead_cons,
    List.map_cons, hrest]
  cases lines with
  | nil => exact ⟨rest ++ ['\n'], by simp⟩
  | cons next lines =>
      rw [List.map_cons, List.intercalate_cons_cons, List.append_assoc, List.append_assoc,
        List.append_assoc]
      exact ⟨_, rfl⟩

end Console

namespace Markup

variable {display : Text → Text} {position count : Nat} {tags : List OpenTag} {ps : List Piece}
  {r : StyledText}

theorem exists_renderPieces_of_plain {run : Text}
    (h : renderPieces display position count tags (.plain run :: ps) = .ok r) :
    ∃ position' count' r', renderPieces display position' count' tags ps = .ok r' ∧
      r.text = display (unescapeBrackets run) ++ r'.text := by
  rw [renderPieces] at h
  cases hrest : renderPieces display (position + run.length)
      (count + (display (unescapeBrackets run)).length) tags ps with
  | error e => simp [hrest, bind, Except.bind] at h
  | ok r' =>
      simp only [hrest, bind, Except.bind, pure, Except.pure, Except.ok.injEq] at h
      exact ⟨_, _, r', hrest, by rw [← h]⟩

theorem exists_renderPieces_of_tag {body : Text}
    (h : renderPieces display position count tags (.tag 0 body :: ps) = .ok r) :
    ∃ position' count' tags' r', renderPieces display position' count' tags' ps = .ok r' ∧
      r.text = r'.text := by
  rw [renderPieces] at h
  simp only [Nat.zero_mod, Nat.zero_div, List.replicate_zero, List.length_nil, Nat.add_zero,
    if_neg Nat.zero_ne_one, bind, Except.bind] at h
  split at h
  · contradiction
  · next followed hfollow =>
      split at h
      · contradiction
      · next r' hrest =>
          simp only [pure, Except.pure, Except.ok.injEq, List.nil_append] at h
          exact ⟨_, _, _, r', hrest, by rw [← h]⟩

theorem tag?_dropWhile_eq_none {c : Char} (hopen : c ≠ '[') (hslash : c ≠ '\\') (s : Text) :
    tag? ((c :: s).dropWhile (· == '\\')) = none := by
  rw [List.dropWhile_cons_of_neg (by simpa using hslash)]
  exact tag?_of_head?_ne (by simpa using hopen)

theorem exists_pieces_append {word : Text} (hword : word ≠ [])
    (h : ∀ c ∈ word, c ≠ '[' ∧ c ≠ '\\') (s : Text) :
    ∃ run ps, pieces (word ++ s) = .plain (word ++ run) :: ps := by
  induction word with
  | nil => contradiction
  | cons c cs ih =>
      obtain ⟨⟨hopen, hslash⟩, hrest⟩ := List.forall_mem_cons.mp h
      rw [List.cons_append,
        pieces_cons_of_tag?_eq_none (tag?_dropWhile_eq_none hopen hslash (cs ++ s))]
      cases cs with
      | nil => exact pushChar_eq c (pieces s)
      | cons d ds =>
          obtain ⟨run, ps, hpieces⟩ := ih (by simp) hrest
          rw [hpieces]
          exact ⟨run, ps, rfl⟩

theorem exists_escape_append {word : Text} (h : ∀ c ∈ word, c ≠ '[' ∧ c ≠ '\\') (s : Text) :
    ∃ t, escape (word ++ s) = word ++ t := by
  have hescaped : escaped (word ++ s) = word ++ escaped s := by
    induction word with
    | nil => rfl
    | cons c cs ih =>
        obtain ⟨⟨hopen, hslash⟩, hrest⟩ := List.forall_mem_cons.mp h
        rw [List.cons_append,
          escaped_cons_of_tag?_eq_none (tag?_dropWhile_eq_none hopen hslash (cs ++ s)), ih hrest,
          List.cons_append]
  rcases escape_eq (word ++ s) with hescape | hescape
  · exact ⟨_, hescape.trans hescaped⟩
  · exact ⟨_, by rw [hescape, hescaped, List.append_assoc]⟩

theorem unescapeBrackets_append {word : Text} (h : '\\' ∉ word) (s : Text) :
    unescapeBrackets (word ++ s) = word ++ unescapeBrackets s := by
  induction word with
  | nil => rfl
  | cons c cs ih =>
      rw [List.mem_cons, not_or] at h
      rw [List.cons_append, unescapeBrackets_cons (by simp [Ne.symm h.1]), ih h.2, List.cons_append]

end Markup


theorem Location.bracket_not_mem_display (l : Location) (h : '[' ∉ l.file) : '[' ∉ l.display := by
  rw [display, List.append_assoc, List.mem_append, not_or]
  exact ⟨h, Markup.not_mem_of_forall_inTag fun c hc => (l.mem_stamp c hc).1⟩

theorem Location.slash_not_mem_display (l : Location) (h : '\\' ∉ l.file) : '\\' ∉ l.display := by
  rw [display, List.append_assoc, List.mem_append, not_or]
  exact ⟨h, fun hmem => (l.mem_stamp _ hmem).2 rfl⟩

theorem Console.exists_renderPieces_of_printMarkup {markup text : Text}
    (h : printMarkup markup = .ok text) :
    ∃ r, Markup.renderPieces display 0 0 [] (Markup.pieces markup) = .ok r ∧
      text = printed r.text := by
  rw [printMarkup, Markup.render] at h
  cases hr : Markup.renderPieces display 0 0 [] (Markup.pieces markup) with
  | error e => simp [hr, bind, Except.bind] at h
  | ok r =>
      simp only [hr, bind, Except.bind, pure, Except.pure] at h
      split at h
      · contradiction
      · exact ⟨r, rfl, (Except.ok.inj h).symm⟩

namespace Diagnostic

open Markup

def opening (d : Diagnostic) : Text :=
  d.level.word ++ ": ".toList

theorem mem_opening (d : Diagnostic) : ∀ c ∈ d.opening, c ≠ '[' ∧ c ≠ '\\' := by
  unfold opening
  cases d.level with
  | error => exact List.all_iff_forall_prop.mp (by decide)
  | warning => exact List.all_iff_forall_prop.mp (by decide)

theorem exists_pieces_markup {d : Diagnostic} {l : Location} (hlocation : d.location = some l)
    (hopen : '[' ∉ l.file) (hslash : '\\' ∉ l.file) :
    ∃ run ps, pieces d.markup = .plain (l.display ++ ": ".toList) ::
      .tag 0 d.level.style :: .plain (d.opening ++ run) :: ps := by
  have hstyle : IsStyle d.level.style := isStyle_of_mem_houseStyles d.level.style_mem_houseStyles
  have hlead : d.lead escape = l.display ++ ": ".toList := by
    rw [lead, hlocation, Option.elim_some,
      escape_of_not_mem (l.bracket_not_mem_display hopen) (l.slash_not_mem_display hslash)]
  have hbracket : '[' ∉ l.display ++ ": ".toList := by
    simpa using l.bracket_not_mem_display hopen
  -- The word for the level holds nothing to escape, so it opens the run behind the tag.
  obtain ⟨inner, hinner⟩ := exists_escape_append d.mem_opening d.message
  have hwhole : styled d.level.style (escape d.headline) ++ d.trail escape =
      '[' :: d.level.style ++ ']' :: (d.opening ++ (inner ++ ("[/".toList ++ (d.level.style ++
        ("]".toList ++ d.trail escape))))) := by
    have hheadline : escape d.headline = d.opening ++ inner := hinner
    simp [styled, hheadline]
  have hsome : d.opening ≠ [] := by simp [opening]
  obtain ⟨run, ps, hrun⟩ := exists_pieces_append hsome d.mem_opening
    (inner ++ ("[/".toList ++ (d.level.style ++ ("]".toList ++ d.trail escape))))
  refine ⟨run, ps, ?_⟩
  have hpieces := pieces_append_tag (d.trailingSlashes_lead escape) hstyle.body
    (d.opening ++ (inner ++ ("[/".toList ++ (d.level.style ++ ("]".toList ++ d.trail escape)))))
  rw [markup, layout_eq, hwhole, hpieces, hlead, pieces_of_not_mem hbracket, if_neg (by simp), hrun]
  rfl

theorem display_opening_append (d : Diagnostic) (s : Text) :
    Console.display (d.opening ++ s) = d.opening ++ Console.display s := by
  have hword : ':' ∉ d.level.word ∧ ∀ c ∈ d.level.word, Console.isDropped c = false := by
    cases d.level with
    | error => exact ⟨by decide, List.all_iff_forall_prop.mp (by decide)⟩
    | warning => exact ⟨by decide, List.all_iff_forall_prop.mp (by decide)⟩
  rw [opening, List.append_assoc, Console.display_append hword.1 hword.2,
    Console.display_colon_append, List.append_assoc]

/-- A coloured diagnostic is printed, and what is printed starts with the displayed location and the
word for the level. -/
theorem exists_print_eq {d : Diagnostic} {l : Location} (hlocation : d.location = some l)
    (hopen : '[' ∉ l.file) (hslash : '\\' ∉ l.file) :
    ∃ text rest, d.print true = .ok text ∧
      text = Console.printed
        (Console.display (l.display ++ ": ".toList) ++ (d.opening ++ rest)) := by
  obtain ⟨text, htext⟩ := Console.printMarkup_eq_ok d.canFollow_markup
  obtain ⟨r, hr, rfl⟩ := Console.exists_renderPieces_of_printMarkup htext
  obtain ⟨run, ps, hpieces⟩ := exists_pieces_markup hlocation hopen hslash
  rw [hpieces] at hr
  obtain ⟨_, _, r₁, hr₁, hfirst⟩ := exists_renderPieces_of_plain hr
  obtain ⟨_, _, _, r₂, hr₂, hsecond⟩ := exists_renderPieces_of_tag hr₁
  obtain ⟨_, _, r₃, -, hthird⟩ := exists_renderPieces_of_plain hr₂
  have hslashes : '\\' ∉ d.opening := fun hmem => (d.mem_opening _ hmem).2 rfl
  rw [unescapeBrackets_append hslashes, display_opening_append] at hthird
  refine ⟨_, Console.display (unescapeBrackets run) ++ r₃.text, htext, ?_⟩
  have hbracket : '[' ∉ l.display ++ ": ".toList := by
    simpa using l.bracket_not_mem_display hopen
  rw [hfirst, hsecond, hthird, List.append_assoc, unescapeBrackets_of_not_mem hbracket]

end Diagnostic

/-! ### Locations -/

/-- Letters, digits, underscores, points and slashes. -/
def IsPlainName (file : Text) : Prop :=
  ∀ c ∈ file, isIdentifierChar c ∨ c = '.' ∨ c = '/'

instance : DecidablePred IsPlainName := fun file =>
  decidable_of_iff (file.all fun c => isIdentifierChar c || c == '.' || c == '/')
    (by simp [IsPlainName, or_assoc])

namespace IsPlainName

def excluded : List Char :=
  ['\t', '\n'] ++ Console.unshown

variable {file : Text} (h : IsPlainName file)

include h

theorem not_mem : ∀ c ∈ excluded, c ∉ file := by
  have hnone : ∀ c ∈ excluded, ¬(isIdentifierChar c ∨ c = '.' ∨ c = '/') :=
    List.all_iff_forall_prop.mp (by decide +kernel)
  intro c hc hmem
  exact hnone c hc (h c hmem)

theorem isShowable : Console.IsShowable file :=
  fun c hc hmem => h.not_mem c (List.mem_append_right _ hmem) hc

theorem display_append (s : Text) : Console.display (file ++ s) = file ++ Console.display s :=
  Console.display_append (h.not_mem ':' (by decide)) h.isShowable.isDropped_eq_false s

end IsPlainName

theorem isPlainName_ofNat (n : Nat) : IsPlainName (Text.ofNat n) := by
  intro c hc
  have hdigit : c.isDigit := Nat.isDigit_of_mem_toDigits (by decide) (by decide) hc
  exact .inl (isIdentifierChar_of_isDigit hdigit)

theorem Location.display_display {l : Location} {line column : Nat} (hfile : IsPlainName l.file)
    (hline : l.line = line) (hcolumn : l.column = column) :
    Console.display (l.display ++ ": ".toList) =
      l.file ++ (Console.display (':' :: Text.ofNat line ++ [':']) ++
        (Text.ofNat column ++ ": ".toList)) := by
  have hstamp : l.display ++ ": ".toList = l.file ++ (':' :: (Text.ofNat line ++ ':' ::
      (Text.ofNat column ++ ": ".toList))) := by
    simp [display, hline, hcolumn, Text.ofInt]
  have hcode : ∀ c ∈ Text.ofNat line, Shortcode.inCode c := by
    intro c hc
    exact Shortcode.inCode_of_isDigit (Nat.isDigit_of_mem_toDigits (by decide) (by decide) hc)
  have hend : Console.display ": ".toList = ": ".toList := by
    simpa [Console.display_nil] using Console.display_colon_append []
  rw [hstamp, hfile.display_append, Console.display_code_append hcode,
    (isPlainName_ofNat column).display_append, hend]

namespace Diagnostic

/-- What stands in front of the message of a diagnostic with a location: the location and the
level. -/
def stamp (d : Diagnostic) (l : Location) : Text :=
  l.file ++ ':' :: Text.ofInt l.line ++ ':' :: Text.ofInt l.column ++ ": ".toList ++
    d.level.word ++ ": ".toList

variable {d : Diagnostic} {l : Location} {line column : Nat}

theorem stamp_eq (d : Diagnostic) (hline : l.line = line) (hcolumn : l.column = column) :
    d.stamp l = l.file ++ ((':' :: Text.ofNat line ++ [':']) ++
      (Text.ofNat column ++ ": ".toList)) ++ d.opening := by
  simp [stamp, opening, hline, hcolumn, Text.ofInt]

theorem not_mem_stamp (hfile : IsPlainName l.file) (hline : l.line = line)
    (hcolumn : l.column = column) : ∀ c ∈ ['\t', '\n'], c ∉ d.stamp l := by
  intro c hc
  have hmem : c ∈ IsPlainName.excluded := List.mem_append_left _ hc
  have hopening : c ∉ d.opening := by
    have hlevel (level : Level) : ∀ c ∈ ['\t', '\n'], c ∉ level.word ++ ": ".toList := by
      cases level with
      | error => exact List.all_iff_forall_prop.mp (by decide)
      | warning => exact List.all_iff_forall_prop.mp (by decide)
    exact hlevel d.level c hc
  have hcolon : c ≠ ':' ∧ c ≠ ' ' := by
    simp only [List.mem_cons, List.not_mem_nil, or_false] at hc
    rcases hc with rfl | rfl <;> decide
  rw [stamp_eq d hline hcolumn]
  simp [hfile.not_mem c hmem, (isPlainName_ofNat line).not_mem c hmem,
    (isPlainName_ofNat column).not_mem c hmem, hopening, hcolon]

/-- A number that names a picture is displayed as that picture. -/
theorem exists_display_code (h : ¬(line ≠ 100 ∧ line ≠ 1234)) :
    ∃ picture, Console.display (':' :: Text.ofNat line ++ [':']) = [picture] ∧
      picture ∉ ['\t', '\n', ':'] := by
  have hline : line = 100 ∨ line = 1234 := by omega
  rcases hline with rfl | rfl
  · exact ⟨'💯', by decide +kernel, by decide⟩
  · exact ⟨'🔢', by decide +kernel, by decide⟩

/-- A diagnostic is printed behind its stamp, unless its line is the name of a picture. -/
theorem exists_print_stamp_iff (hlocation : d.location = some l) (hfile : IsPlainName l.file)
    (hline : l.line = line) (hcolumn : l.column = column) :
    ∃ text, d.print true = .ok text ∧ (d.stamp l <+: text ↔ line ≠ 100 ∧ line ≠ 1234) := by
  obtain ⟨text, rest, hprint, htext⟩ := exists_print_eq hlocation
    (hfile.not_mem '[' (by decide)) (hfile.not_mem '\\' (by decide))
  refine ⟨text, hprint, ?_⟩
  rw [Location.display_display hfile hline hcolumn] at htext
  by_cases hnumber : line ≠ 100 ∧ line ≠ 1234
  · rw [Console.display_code_ofNat hnumber.1 hnumber.2, ← List.append_assoc,
      ← stamp_eq d hline hcolumn] at htext
    -- The stamp holds no tab and no line feed, so it is printed as it is displayed.
    have hmem := not_mem_stamp (d := d) hfile hline hcolumn
    obtain ⟨shown, hshown⟩ := Console.exists_printed_append (hmem '\t' (by decide))
      (hmem '\n' (by decide)) rest
    exact iff_of_true ⟨shown, (htext.trans hshown).symm⟩ hnumber
  · -- The picture stands where the stamp has its first colon.
    obtain ⟨picture, hpicture, hother⟩ := exists_display_code hnumber
    simp only [List.mem_cons, List.not_mem_nil, or_false, not_or] at hother
    have htab : '\t' ∉ l.file ++ [picture] := by
      simp [hfile.not_mem '\t' (by decide), Ne.symm hother.1]
    have hfeed : '\n' ∉ l.file ++ [picture] := by
      simp [hfile.not_mem '\n' (by decide), Ne.symm hother.2.1]
    obtain ⟨shown, hshown⟩ := Console.exists_printed_append htab hfeed
      (Text.ofNat column ++ ": ".toList ++ (d.opening ++ rest))
    have hstart : text = l.file ++ picture :: shown := by
      rw [htext, hpicture]
      simpa using hshown
    refine iff_of_false ?_ hnumber
    rw [hstart, stamp_eq d hline hcolumn, List.append_assoc, List.prefix_append_right_inj]
    intro hprefix
    exact hother.2.2 (List.cons_prefix_cons.mp hprefix).1.symm

end Diagnostic

theorem Session.exists_location_of_mem_diagnostics {setting : Setting} {d : Diagnostic}
    (hd : d ∈ (Session.start setting).tokenize.1.diagnostics) :
    ∃ l, d.location = some l ∧ l.file = setting.file ∧
      ∃ line column : Nat, l.line = line ∧ l.column = column := by
  obtain ⟨place, s, hreports⟩ := Session.exists_reportsAt_of_mem_diagnostics hd
  obtain ⟨before, after, hlocation, -⟩ := hreports.exists_location
  have hcounted : place.line = Text.breaksBefore setting.source place.position :=
    (segmentation_segments setting.source).isCounted_of_mem_placed hreports.1
  refine ⟨_, hlocation, rfl, Text.breaksBefore setting.source place.position + 1,
    before.length + 1, ?_, ?_⟩
  · rw [hcounted]
    rfl
  · rfl

/-- A coloured diagnostic of a fresh session is printed behind its own location and level, unless it
is on a line whose number is the name of a picture. -/
theorem print_shows_location_iff (setting : Setting) (hfile : IsPlainName setting.file)
    {d : Diagnostic} (hd : d ∈ (Session.start setting).tokenize.1.diagnostics) :
    ∃ l text, d.location = some l ∧ l.file = setting.file ∧ d.print true = .ok text ∧
      (d.stamp l <+: text ↔ l.line ≠ 100 ∧ l.line ≠ 1234) := by
  obtain ⟨l, hlocation, hname, line, column, hline, hcolumn⟩ :=
    Session.exists_location_of_mem_diagnostics hd
  obtain ⟨text, hprint, hiff⟩ :=
    Diagnostic.exists_print_stamp_iff hlocation (hname ▸ hfile) hline hcolumn
  refine ⟨l, text, hlocation, hname, hprint, hiff.trans ?_⟩
  rw [hline]
  omega

/-- A warning on the second line shows its location. -/
theorem print_shows_location_iff_second_line :
    let setting : Setting := ⟨['\n', 'a', '@'], "src/a_1.c".toList, .default, {}⟩
    let d : Diagnostic := setting.skippedAt ⟨2, 1⟩ '@'
    IsPlainName setting.file ∧ d ∈ (Session.start setting).tokenize.1.diagnostics ∧
      ∃ text, d.print true = .ok text ∧ "src/a_1.c:2:2: warning: ".toList <+: text := by
  intro setting d
  have hfile : IsPlainName setting.file := by decide +kernel
  have hd : d ∈ (Session.start setting).tokenize.1.diagnostics := by decide +kernel
  refine ⟨hfile, hd, ?_⟩
  obtain ⟨l, text, hlocation, -, hprint, hiff⟩ := print_shows_location_iff setting hfile hd
  obtain rfl : setting.locate ⟨2, 1⟩ = l := Option.some.inj hlocation
  refine ⟨text, hprint, ?_⟩
  have hstamp : d.stamp (setting.locate ⟨2, 1⟩) = "src/a_1.c:2:2: warning: ".toList := by
    decide +kernel
  rw [← hstamp]
  exact hiff.mpr (by decide +kernel)

/-- On line 100 a picture takes the place of the line. -/
theorem print_hides_line_hundred :
    let setting : Setting := ⟨List.replicate 99 '\n' ++ ['@'], "p.c".toList, .default,
      { strict := true, failFast := false }⟩
    IsPlainName setting.file ∧ ∃ d ∈ (Session.start setting).tokenize.1.diagnostics,
      ∃ l text, d.location = some l ∧ d.stamp l = "p.c:100:1: error: ".toList ∧
        d.print true = .ok text ∧ ¬d.stamp l <+: text := by
  intro setting
  have hfile : IsPlainName setting.file := by decide +kernel
  let d : Diagnostic := setting.errorAt ⟨99, 99⟩ (.unknownCharacter ['@'])
  have hd : d ∈ (Session.start setting).tokenize.1.diagnostics := by decide +kernel
  have hline : (setting.locate ⟨99, 99⟩).line = (100 : Nat) := by decide +kernel
  have hcolumn : (setting.locate ⟨99, 99⟩).column = (1 : Nat) := by decide +kernel
  obtain ⟨text, hprint, hiff⟩ :=
    Diagnostic.exists_print_stamp_iff (d := d) rfl hfile hline hcolumn
  exact ⟨hfile, d, hd, _, text, rfl, by decide +kernel, hprint,
    fun hshown => (hiff.mp hshown).1 rfl⟩

end MiniLex
