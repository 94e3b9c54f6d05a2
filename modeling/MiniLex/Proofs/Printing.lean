import MiniLex.Proofs.Integrity
import MiniLex.Proofs.Rendering
import MiniLex.Proofs.Shortcode
import MiniLex.Command.Run

/-!
What is printed beside the listing. Notices and diagnostics are markup around texts that come from
the user, and these are escaped; so they are always printed, and to the error stream alone. The
cells of a table of tokens hold nothing that markup would change, and a title that opens no bracket
is shown as it is.
-/

namespace MiniLex

namespace Markup

theorem canFollow_styled_append {style inner rest : Text} (hstyle : IsStyle style)
    (hinner : liveTags inner = []) (hrest : ∀ opened, CanFollow opened (liveTags rest))
    (opened : List Text) : CanFollow opened (liveTags (styled style inner ++ rest)) := by
  rw [liveTags_styled_append hstyle.body hinner]
  split
  · refine .opening hstyle (.closing List.mem_cons_self ?_)
    rw [List.erase_cons_head]
    exact hrest opened
  · exact .opening hstyle (hrest _)

theorem canFollow_of_liveTags_eq_nil {s : Text} (h : liveTags s = []) (opened : List Text) :
    CanFollow opened (liveTags s) := by
  rw [h]
  exact .nil

end Markup

/-! ### Notices -/

theorem Text.mem_ofInt {n : Int} {c : Char} (h : c ∈ Text.ofInt n) : c.isDigit ∨ c = '-' := by
  cases n with
  | ofNat n => exact .inl (Nat.isDigit_of_mem_toDigits (by decide) (by decide) h)
  | negSucc n =>
      rcases List.mem_cons.mp h with rfl | h
      · exact .inr rfl
      · exact .inl (Nat.isDigit_of_mem_toDigits (by decide) (by decide) h)

namespace Console.Notice

open Markup

theorem liveTags_message (message : Text) : liveTags (' ' :: escape message) = [] := by
  rw [liveTags_cons (by decide) (by decide), liveTags_escape]

theorem canFollow_labelled {style label : Text} (hstyle : style ∈ houseStyles.map (·.1))
    (hlabel : liveTags label = []) (message : Text) :
    CanFollow [] (liveTags (labelled style label message)) :=
  canFollow_styled_append (isStyle_of_mem_houseStyles hstyle) hlabel
    (canFollow_of_liveTags_eq_nil (liveTags_message message)) []

theorem canFollow_markup (n : Notice) : CanFollow [] (liveTags n.markup) := by
  cases n with
  | stage step total message =>
      have hdot : liveTags "●".toList = [] := by decide +kernel
      have hcount : liveTags (Text.ofInt step ++ '/' :: Text.ofInt total) = [] := by
        refine liveTags_eq_nil_of_forall fun c hc => ?_
        have hchar : (c.isDigit ∨ c = '-') ∨ c = '/' := by
          rcases List.mem_append.mp hc with hc | hc
          · exact .inl (Text.mem_ofInt hc)
          · rcases List.mem_cons.mp hc with rfl | hc
            · exact .inr rfl
            · exact .inl (Text.mem_ofInt hc)
        constructor
        · rintro rfl
          revert hchar
          decide
        · rintro rfl
          revert hchar
          decide
      have hcyan : IsStyle "cyan".toList := isStyle_of_mem_houseStyles (by decide)
      have hbold : IsStyle "bold".toList := isStyle_of_mem_houseStyles (by decide)
      -- Two styles one behind the other: each closes before the next one opens.
      have hrest (opened : List Text) : CanFollow opened (liveTags
          (' ' :: (styled "bold".toList (Text.ofInt step ++ '/' :: Text.ofInt total) ++
            ' ' :: escape message))) := by
        rw [liveTags_cons (by decide) (by decide)]
        exact canFollow_styled_append hbold hcount
          (canFollow_of_liveTags_eq_nil (liveTags_message message)) opened
      have hwhole := canFollow_styled_append hcyan hdot hrest []
      rwa [← List.cons_append, ← List.append_assoc] at hwhole
  | info message => exact canFollow_labelled (by decide) (by decide +kernel) message
  | error message => exact canFollow_labelled (by decide) (by decide +kernel) message
  | warning message => exact canFollow_labelled (by decide) (by decide +kernel) message
  | success message => exact canFollow_labelled (by decide) (by decide +kernel) message

end Console.Notice

/-! ### Diagnostics -/

theorem Level.style_mem_houseStyles (level : Level) :
    level.style ∈ Markup.houseStyles.map (·.1) := by
  cases level with
  | error => decide
  | warning => decide

namespace Diagnostic

open Markup

def excerpt (l : Location) : Text :=
  if l.rawLine = [] then []
  else "\n  ".toList ++ escape l.rawLine ++ "\n  ".toList ++ l.caretPadding ++ "^".toList

theorem mem_caretPadding {l : Location} {c : Char} (h : c ∈ l.caretPadding) :
    c = ' ' ∨ c = '\t' := by
  obtain ⟨d, -, rfl⟩ := List.mem_map.mp h
  by_cases hd : d = '\t'
  · exact .inr (if_pos hd)
  · exact .inl (if_neg hd)

/-- The caret and what stands around it holds nothing that markup would look at. -/
theorem mem_caretLine (l : Location) : ∀ c ∈ "\n  ".toList ++ l.caretPadding ++ "^".toList,
    (c ≠ '[' ∧ c ≠ '\\') ∧ inTag c := by
  have hpadding : ∀ c ∈ l.caretPadding, (c ≠ '[' ∧ c ≠ '\\') ∧ inTag c := by
    intro c hc
    rcases mem_caretPadding hc with rfl | rfl
    · decide
    · decide
  exact List.forall_mem_append.mpr
    ⟨List.forall_mem_append.mpr ⟨by simp [inTag], hpadding⟩, by simp [inTag]⟩

theorem liveTags_excerpt (l : Location) : liveTags (excerpt l) = [] := by
  unfold excerpt
  split
  · exact liveTags_nil
  · have hbracket : firstBracket ("\n  ".toList ++ l.caretPadding ++ "^".toList) ≠ some ']' :=
      firstBracket_ne_of_forall fun c hc => (mem_caretLine l c hc).2
    have hgap : ∀ c ∈ "\n  ".toList, c ≠ '[' ∧ c ≠ '\\' := by simp
    have hsplit : "\n  ".toList ++ escape l.rawLine ++ "\n  ".toList ++ l.caretPadding ++
        "^".toList = "\n  ".toList ++ (escape l.rawLine ++
          ("\n  ".toList ++ l.caretPadding ++ "^".toList)) := by
      simp only [List.append_assoc]
    rw [hsplit, liveTags_append_of_forall hgap,
      liveTags_escape_append_of_head? _ hbracket (by simp)]
    exact liveTags_eq_nil_of_forall fun c hc => (mem_caretLine l c hc).1

theorem markup_eq (d : Diagnostic) :
    d.markup = match d.location with
      | none => styled d.level.style (escape d.headline)
      | some l => escape l.display ++
          (": ".toList ++ (styled d.level.style (escape d.headline) ++ excerpt l)) := by
  cases hlocation : d.location with
  | none => simp only [markup, layout, hlocation]
  | some l => simp only [markup, layout, hlocation, excerpt, List.append_assoc]

/-- The tags of a diagnostic open and close the style of its level, whatever its location, its
message and the line of the source hold. -/
theorem canFollow_markup (d : Diagnostic) : CanFollow [] (liveTags d.markup) := by
  have hstyle : IsStyle d.level.style := isStyle_of_mem_houseStyles d.level.style_mem_houseStyles
  have hstyled (rest : Text) (hrest : liveTags rest = []) :
      CanFollow [] (liveTags (styled d.level.style (escape d.headline) ++ rest)) :=
    canFollow_styled_append hstyle (liveTags_escape _) (canFollow_of_liveTags_eq_nil hrest) []
  rw [markup_eq]
  cases d.location with
  | none => simpa using hstyled [] liveTags_nil
  | some l =>
      have hbracket : firstBracket (": ".toList ++
          (styled d.level.style (escape d.headline) ++ excerpt l)) ≠ some ']' := by
        simp [firstBracket, styled, inTag]
      have hcolon : ∀ c ∈ ": ".toList, c ≠ '[' ∧ c ≠ '\\' := by simp
      simp only
      rw [liveTags_escape_append_of_head? _ hbracket (by simp), liveTags_append_of_forall hcolon]
      exact hstyled _ (liveTags_excerpt l)

end Diagnostic

/-! ### Events -/

/-- Events that are no part of a listing. -/
def Event.IsAside : Event → Prop
  | record _ | notice _ | diagnostic _ _ => True
  | listing _ | tokenTable _ _ => False

theorem Event.IsAside.print_eq {event : Event} (h : event.IsAside) (manner : Manner) :
    ∃ text, event.print manner = .ok (Output.toStderr text) := by
  cases event with
  | record r => exact ⟨_, rfl⟩
  | notice n =>
      cases hminimal : manner.minimal with
      | true => exact ⟨_, by simp only [print, hminimal]; rfl⟩
      | false =>
          obtain ⟨text, htext⟩ := Console.printMarkup_eq_ok n.canFollow_markup
          refine ⟨text, ?_⟩
          simp [print, Console.Notice.print, hminimal, htext, Except.map]
  | diagnostic d coloured =>
      cases coloured with
      | false => exact ⟨_, rfl⟩
      | true =>
          obtain ⟨text, htext⟩ := Console.printMarkup_eq_ok d.canFollow_markup
          refine ⟨text, ?_⟩
          simp [print, Diagnostic.print, htext, Except.map]
  | listing text => exact h.elim
  | tokenTable tokens title => exact h.elim

/-- Asides in front of other events change neither what these print to the output stream nor how
they end. -/
theorem printEvents_asides_append {asides : List Event} (h : ∀ e ∈ asides, e.IsAside)
    (manner : Manner) (events : List Event) :
    (printEvents manner (asides ++ events)).1.stdout = (printEvents manner events).1.stdout ∧
      (printEvents manner (asides ++ events)).2 = (printEvents manner events).2 := by
  induction asides with
  | nil => exact ⟨rfl, rfl⟩
  | cons event asides ih =>
      obtain ⟨hevent, hasides⟩ := List.forall_mem_cons.mp h
      obtain ⟨text, htext⟩ := hevent.print_eq manner
      obtain ⟨hstdout, herror⟩ := ih hasides
      constructor
      · simpa [printEvents, htext, Output.append, Output.toStderr] using hstdout
      · simpa [printEvents, htext] using herror

theorem printEvents_cons_asides (event : Event) {asides : List Event}
    (h : ∀ e ∈ asides, e.IsAside) (manner : Manner) :
    let printed := printEvents manner (event :: asides)
    (printed.1.stdout, printed.2) = match event.print manner with
      | .ok output => (output.stdout, none)
      | .error e => ([], some e) := by
  obtain ⟨hstdout, herror⟩ := printEvents_asides_append h manner []
  rw [List.append_nil] at hstdout herror
  cases hprint : event.print manner with
  | error e => simp [printEvents, hprint, Output.empty]
  | ok output => simp [printEvents, hprint, hstdout, herror, Output.append, Output.empty]

/-! ### Tables -/

namespace StyledText

/-- A text without styled parts. -/
def IsBare (s : StyledText) : Prop :=
  s.spans = []

variable {s : StyledText}

theorem IsBare.slice (h : s.IsBare) (first stop : Nat) : (s.slice first stop).IsBare := by
  simp [IsBare, StyledText.slice, show s.spans = [] from h]

theorem IsBare.cutFrom (h : s.IsBare) (gap offset : Nat) (lengths : List Nat) :
    ∀ t ∈ s.cutFrom gap offset lengths, t.IsBare := by
  induction lengths generalizing offset with
  | nil => simp [StyledText.cutFrom]
  | cons n ns ih => exact List.forall_mem_cons.mpr ⟨h.slice _ _, ih _⟩

theorem IsBare.cut (h : s.IsBare) (gap : Nat) (lengths : List Nat) :
    ∀ t ∈ s.cut gap lengths, t.IsBare := by
  unfold StyledText.cut
  split
  · simpa using h
  · simpa using h
  · exact h.cutFrom gap 0 lengths

theorem IsBare.take (h : s.IsBare) (n : Nat) : (s.take n).IsBare := by
  unfold StyledText.take
  split
  · simp [IsBare, show s.spans = [] from h]
  · exact h

theorem IsBare.fault?_eq_none (h : s.IsBare) : s.fault? = none := by
  rw [fault?, show s.spans = [] from h]
  rfl

end StyledText

namespace Console

theorem Table.isBare_expandStyled {s : StyledText} (h : s.IsBare) : (expandStyled s).IsBare := by
  unfold expandStyled
  split
  · simp [StyledText.IsBare, show s.spans = [] from h]
  · exact h

theorem Table.isBare_titleLines {title : StyledText} (h : title.IsBare) (width : Nat) :
    ∀ line ∈ titleLines width title, line.IsBare := by
  intro line hline
  obtain ⟨whole, hwhole, rfl⟩ := List.mem_map.mp hline
  obtain ⟨part, hpart, hwhole⟩ := List.mem_flatMap.mp hwhole
  obtain ⟨first, hfirst, rfl⟩ := List.mem_map.mp hpart
  have hbare : first.IsBare := h.cut _ _ first hfirst
  exact ((Table.isBare_expandStyled hbare).cut _ _ whole hwhole).take _

/-- The characters for which the console may not show a text as it is: they belong to tags and
short codes, or are not printed. -/
def unshown : List Char :=
  ['[', '\\', ':', '\x07', '\x08', '\x0b', '\x0c', '\r']

/-- A text that the console shows as it is, with markup or without. -/
def IsShowable (s : Text) : Prop :=
  ∀ c ∈ s, c ∉ unshown

instance : DecidablePred IsShowable := fun s =>
  decidable_of_iff (s.all fun c => c ∉ unshown) (by simp [IsShowable])

theorem IsShowable.not_mem {s : Text} (h : IsShowable s) : ∀ c ∈ unshown, c ∉ s :=
  fun c hc hmem => h c hmem hc

theorem IsShowable.isDropped_eq_false {s : Text} (h : IsShowable s) :
    ∀ c ∈ s, isDropped c = false := by
  intro c hc
  have hshown := h c hc
  simp_all [unshown, isDropped]

theorem IsShowable.display_eq {s : Text} (h : IsShowable s) : display s = s :=
  display_eq_self (h.not_mem ':' (by decide)) h.isDropped_eq_false

theorem IsShowable.render_escape {s : Text} (h : IsShowable s) :
    Markup.render display (Markup.escape s) = .ok ⟨s, []⟩ := by
  have hopen : '[' ∉ s := h.not_mem '[' (by decide)
  have hslash : '\\' ∉ s := h.not_mem '\\' (by decide)
  rw [Markup.escape_of_not_mem hopen hslash, Markup.render_of_not_mem display_nil hopen,
    h.display_eq]

end Console

end MiniLex
