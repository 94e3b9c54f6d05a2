import MiniLex.Proofs.Outcome
import MiniLex.Proofs.Session
import Mathlib.Data.Finset.Card
import Mathlib.Data.Nat.Find

/-!
Repairs. A session that a misuse stops keeps what it has, and goes on at the word that stopped it
once the table has another entry for that word. In the end it is the session that a scan with the
repaired table would have made at once.
-/

namespace MiniLex

def Segment.word? : Segment → Option Text
  | word text => some text
  | _ => none

/-- The distinct words of a source. -/
def words (source : Text) : Finset Text :=
  ((segments source).filterMap Segment.word?).toFinset

namespace Session

def wordAt? (s : Session) : Option Text :=
  (segments s.remaining).head?.bind Segment.word?

def repair (s : Session) (choice : Option Keyword) : Session :=
  match s.wordAt? with
  | some word => s.setKeyword word (choice.elim .absent .keyword)
  | none => s

/-- The call of a session after at most `n` repairs, one for each call that a misuse has stopped.
The choices are made in advance, so they stand for any way to make them. -/
def repairs (s : Session) (choices : Nat → Option Keyword) :
    Nat → Session × Except Stop (List Token)
  | 0 => s.tokenize
  | n + 1 =>
    match s.repairs choices n with
    | (t, .error (.internal _)) => (t.repair (choices n)).tokenize
    | ended => ended

end Session

/-! ### Scans in parts -/

def Scan.andThen (first second : Scan) : Scan :=
  { second with
    tokens := first.tokens ++ second.tokens
    diagnostics := first.diagnostics ++ second.diagnostics
    records := first.records ++ second.records }

namespace Setting

def withTable (setting : Setting) (table : KeywordTable) : Setting :=
  { setting with table := table }

/-- A table that has the entries of the setting but for words that stop a scan. -/
def Mends (setting : Setting) (table : KeywordTable) : Prop :=
  ∀ word, ¬setting.Stops (.word word) → table.get? word = setting.table.get? word

variable {setting : Setting} {table : KeywordTable}

theorem scan_append_eq_andThen {cursor : Cursor} {before : List Segment}
    (hend : (setting.scan cursor before).stop = none) (after : List Segment) :
    setting.scan cursor (before ++ after) =
      (setting.scan cursor before).andThen
        (setting.scan (setting.scan cursor before).cursor after) := by
  induction before generalizing cursor with
  | nil => rfl
  | cons s before ih =>
      rw [List.cons_append]
      cases hstep : setting.step cursor s with
      | pass =>
          simp only [scan, hstep] at hend ⊢
          exact ih hend
      | token t =>
          simp only [scan, hstep] at hend ⊢
          rw [ih hend]
          rfl
      | report d records =>
          simp only [scan, hstep] at hend ⊢
          rw [ih hend]
          simp [Scan.andThen]
      | stop reason => simp [scan, hstep] at hend

theorem Mends.scan_eq (hmends : setting.Mends table) {segs : List Segment}
    (hgo : ∀ s ∈ segs, ¬setting.Stops s) (cursor : Cursor) :
    (setting.withTable table).scan cursor segs = setting.scan cursor segs := by
  induction segs generalizing cursor with
  | nil => rfl
  | cons s segs ih =>
      obtain ⟨hs, hgo⟩ := List.forall_mem_cons.mp hgo
      have hstep : (setting.withTable table).step cursor s = setting.step cursor s := by
        cases s with
        | word text => simp only [step, scanWord, withTable, hmends text hs]
        | _ => rfl
      simp only [scan, hstep, ih hgo]

theorem Mends.not_stops (hmends : setting.Mends table) {s : Segment} (hgo : ¬setting.Stops s) :
    ¬(setting.withTable table).Stops s := by
  cases s with
  | word text =>
      simp only [Stops, withTable, hmends text hgo]
      exact hgo
  | _ => exact hgo

theorem mends_set {word : Text} (hstops : setting.Stops (.word word)) (payload : Payload) :
    setting.Mends (setting.table.set word payload) := by
  intro other hgo
  refine setting.table.get?_set_of_ne payload ?_
  rintro rfl
  exact hgo hstops

theorem not_stops_set (setting : Setting) (word : Text) (choice : Option Keyword) :
    ¬(setting.withTable (setting.table.set word (choice.elim .absent .keyword))).Stops
      (.word word) := by
  rintro ⟨payload, hentry, hpayload⟩
  rw [withTable, KeywordTable.get?_set_self] at hentry
  cases choice with
  | none => simp at hentry
  | some k =>
      have hkeyword : payload = .keyword k := by simpa using hentry.symm
      exact hpayload k hkeyword

end Setting

/-! ### Sessions that go on -/

namespace Session

theorem conclude_absorb (s : Session) (first second : Scan) :
    (s.absorb first).conclude second = s.conclude (first.andThen second) := by
  cases hstop : second.stop with
  | none => simp [conclude, absorb, Scan.andThen, hstop, Report.addAll_append]
  | some reason =>
      cases reason <;> simp [conclude, absorb, Scan.andThen, hstop, Report.addAll_append]

/-- A session that has scanned some segments from the start of its source on. -/
def behind (setting : Setting) (before : List Segment) : Session :=
  (start setting).absorb (setting.scan ⟨0, 0⟩ before)

variable {setting : Setting} {before after : List Segment}

/-- What is left to scan behind the first segments of a source are the others. -/
theorem segments_remaining_behind (hsegs : Segmentation setting.source (before ++ after))
    (hgo : ∀ s ∈ before, ¬setting.Stops s) :
    segments (behind setting before).remaining = after := by
  obtain ⟨hbefore, hafter⟩ := hsegs.split
  obtain ⟨-, -, hcursor, -⟩ := Setting.scan_of_forall_not_stops hbefore.isShaped hgo ⟨0, 0⟩
  have hposition : (behind setting before).cursor.position =
      (before.flatMap Segment.text).length := by
    simp [behind, absorb, hcursor, Cursor.advance]
  have hsource : (behind setting before).setting.source =
      before.flatMap Segment.text ++ after.flatMap Segment.text := by
    rw [← List.flatMap_append, hsegs.flatMap_text]
    rfl
  have hrest : (behind setting before).remaining = after.flatMap Segment.text := by
    rw [remaining, hposition, hsource, if_neg (by omega), Int.toNat_natCast, List.drop_left]
  rw [hrest]
  exact hafter.eq_segments.symm

/-- A session that has scanned its first segments goes on to what it would be at once. -/
theorem tokenize_behind (hsegs : Segmentation setting.source (before ++ after))
    (hgo : ∀ s ∈ before, ¬setting.Stops s) :
    (behind setting before).tokenize = (start setting).tokenize := by
  obtain ⟨-, -, -, hend⟩ :=
    Setting.scan_of_forall_not_stops hsegs.split.1.isShaped hgo ⟨0, 0⟩
  have hwhole : (start setting).scan = setting.scan ⟨0, 0⟩ (before ++ after) := by
    rw [hsegs.eq_segments]
    rfl
  have hrest : (behind setting before).scan =
      setting.scan (setting.scan ⟨0, 0⟩ before).cursor after := by
    rw [scan, segments_remaining_behind hsegs hgo]
    rfl
  -- The scan of the whole source is that of its first segments and then that of the others.
  calc
    (behind setting before).tokenize =
        (behind setting before).conclude (behind setting before).scan := tokenize_eq_conclude rfl
    _ = (start setting).conclude ((setting.scan ⟨0, 0⟩ before).andThen
        (setting.scan (setting.scan ⟨0, 0⟩ before).cursor after)) := by
      rw [hrest, behind, conclude_absorb]
    _ = (start setting).conclude (start setting).scan := by
      rw [hwhole, Setting.scan_append_eq_andThen hend]
    _ = (start setting).tokenize := (tokenize_eq_conclude rfl).symm

/-- A misuse at the cursor is found again and again, and leaves the session as it is. -/
theorem tokenize_of_misuse {s : Session} (hnew : s.outcome = none) {word : Text}
    (hnext : segments s.remaining = .word word :: after) {payload : Payload}
    (hentry : s.setting.table.get? word = some payload)
    (hstops : s.setting.Stops (.word word)) :
    s.tokenize = (s, .error (.internal (.wrongPayload .keyword payload))) := by
  have hshape : (Segment.word word).IsShaped :=
    (segmentation_segments s.remaining).isShaped _ (by rw [hnext]; exact List.mem_cons_self)
  obtain ⟨reason, hreason, hscan⟩ :=
    Setting.scan_cons_of_stops hshape hstops s.cursor after
  cases hreason.unique (.misuse hentry)
  rw [tokenize_eq_conclude hnew, scan, hnext, hscan]
  simp [conclude, absorb]

theorem exists_behind_of_internal {m : Misuse}
    (h : (start setting).tokenize.2 = .error (.internal m)) :
    ∃ before word after payload,
      Segmentation setting.source (before ++ .word word :: after) ∧
      (∀ s ∈ before, ¬setting.Stops s) ∧ setting.Stops (.word word) ∧
      setting.table.get? word = some payload ∧ m = .wrongPayload .keyword payload ∧
      (start setting).tokenize = (behind setting before, .error (.internal m)) := by
  have hsegs := segmentation_segments setting.source
  obtain ⟨before, word, payload, ⟨⟨after, hsplit⟩, hgo, hstops⟩, hentry, rfl⟩ :=
    (tokenize_start_eq_internal_iff hsegs).mp h
  rw [hsplit] at hsegs
  refine ⟨before, word, after, payload, hsegs, hgo, hstops, hentry, rfl, ?_⟩
  rw [← tokenize_behind hsegs hgo]
  exact tokenize_of_misuse rfl (segments_remaining_behind hsegs hgo) hentry hstops

/-- With a mended table, a session that a misuse has stopped goes on to what a fresh session with
that table would be. -/
theorem tokenize_withTable {m : Misuse} (h : (start setting).tokenize.2 = .error (.internal m))
    {table : KeywordTable} (hmends : setting.Mends table) :
    { (start setting).tokenize.1 with setting := setting.withTable table }.tokenize =
      (start (setting.withTable table)).tokenize := by
  obtain ⟨before, word, after, payload, hsegs, hgo, -, -, -, hstopped⟩ :=
    exists_behind_of_internal h
  have hgo' : ∀ s ∈ before, ¬(setting.withTable table).Stops s := fun s hs =>
    hmends.not_stops (hgo s hs)
  have hsegs' : Segmentation (setting.withTable table).source (before ++ .word word :: after) :=
    hsegs
  -- All that was scanned so far would have been scanned with the mended table as well.
  have hbehind : { behind setting before with setting := setting.withTable table } =
      behind (setting.withTable table) before := by
    rw [behind, behind, hmends.scan_eq hgo]
    rfl
  rw [hstopped, hbehind, tokenize_behind hsegs' hgo']

theorem wordAt?_of_internal {m : Misuse} (h : (start setting).tokenize.2 = .error (.internal m)) :
    ∃ word payload, (start setting).tokenize.1.wordAt? = some word ∧
      word ∈ words setting.source ∧ setting.Stops (.word word) ∧
      setting.table.get? word = some payload ∧ m = .wrongPayload .keyword payload := by
  obtain ⟨before, word, after, payload, hsegs, hgo, hstops, hentry, rfl, hstopped⟩ :=
    exists_behind_of_internal h
  refine ⟨word, payload, ?_, ?_, hstops, hentry, rfl⟩
  · rw [hstopped, wordAt?, segments_remaining_behind hsegs hgo]
    rfl
  · rw [words, ← hsegs.eq_segments]
    simp [Segment.word?]

theorem tokenize_again_of_internal {m : Misuse}
    (h : (start setting).tokenize.2 = .error (.internal m)) :
    (start setting).tokenize.1.tokenize = (start setting).tokenize := by
  obtain ⟨before, word, after, payload, hsegs, hgo, hstops, hentry, rfl, hstopped⟩ :=
    exists_behind_of_internal h
  rw [hstopped]
  exact tokenize_of_misuse rfl (segments_remaining_behind hsegs hgo) hentry hstops

theorem tokenize_repair {m : Misuse} (h : (start setting).tokenize.2 = .error (.internal m))
    {word : Text} (hword : (start setting).tokenize.1.wordAt? = some word)
    (hstops : setting.Stops (.word word)) (choice : Option Keyword) :
    ((start setting).tokenize.1.repair choice).tokenize =
      (start (setting.withTable
        (setting.table.set word (choice.elim .absent .keyword)))).tokenize := by
  rw [repair, hword]
  simp only [setKeyword, setting_tokenize]
  exact tokenize_withTable h (Setting.mends_set hstops _)

/-! ### The whole process -/

variable {choices : Nat → Option Keyword}

theorem repairs_succ {s : Session} {n : Nat} {m : Misuse}
    (h : (s.repairs choices n).2 = .error (.internal m)) :
    s.repairs choices (n + 1) = ((s.repairs choices n).1.repair (choices n)).tokenize := by
  rw [repairs]
  split
  · next hrun => rw [hrun]
  · next hended => exact (hended _ m (Prod.ext rfl h)).elim

theorem repairs_succ_of_ended {s : Session} {n : Nat}
    (h : ∀ m, (s.repairs choices n).2 ≠ .error (.internal m)) :
    s.repairs choices (n + 1) = s.repairs choices n := by
  rw [repairs]
  split
  · next t m hrun => exact (h m (congrArg Prod.snd hrun)).elim
  · rfl

/-- A stage that is where a fresh session would be and has a misuse leads to another such stage,
with one word of the source repaired. -/
theorem repairs_succ_eq_start {n : Nat} {m : Misuse} {table : KeywordTable}
    (hstage : (start setting).repairs choices n = (start (setting.withTable table)).tokenize)
    (hmisuse : ((start setting).repairs choices n).2 = .error (.internal m)) :
    ∃ word ∈ words setting.source, (setting.withTable table).Stops (.word word) ∧
      (start setting).repairs choices (n + 1) =
        (start (setting.withTable
          (table.set word ((choices n).elim .absent .keyword)))).tokenize := by
  have hfresh : (start (setting.withTable table)).tokenize.2 = .error (.internal m) := by
    rw [← hstage, hmisuse]
  obtain ⟨word, payload, hword, hmem, hstops, -⟩ := wordAt?_of_internal hfresh
  refine ⟨word, hmem, hstops, ?_⟩
  rw [repairs_succ hmisuse, hstage, tokenize_repair hfresh hword hstops]
  rfl

theorem exists_repairs_eq_start (setting : Setting) (choices : Nat → Option Keyword) (n : Nat) :
    ∃ table, (start setting).repairs choices n = (start (setting.withTable table)).tokenize := by
  induction n with
  | zero => exact ⟨setting.table, rfl⟩
  | succ n ih =>
      obtain ⟨table, hstage⟩ := ih
      by_cases hmisuse : ∃ m, ((start setting).repairs choices n).2 = .error (.internal m)
      · obtain ⟨m, hmisuse⟩ := hmisuse
        obtain ⟨word, -, -, hnext⟩ := repairs_succ_eq_start hstage hmisuse
        exact ⟨_, hnext⟩
      · refine ⟨table, ?_⟩
        rw [repairs_succ_of_ended fun m hm => hmisuse ⟨m, hm⟩, hstage]

/-- Every repair is of another word, and a repaired word needs no further repair. -/
theorem exists_repaired {n : Nat}
    (h : ∀ k < n, ∃ m, ((start setting).repairs choices k).2 = .error (.internal m)) :
    ∃ repaired ⊆ words setting.source, repaired.card = n ∧
      ∀ word ∈ repaired, ¬((start setting).repairs choices n).1.setting.Stops (.word word) := by
  induction n with
  | zero => exact ⟨∅, by simp, rfl, by simp⟩
  | succ n ih =>
      obtain ⟨repaired, hsub, hcard, hdone⟩ := ih fun k hk => h k (by omega)
      obtain ⟨m, hmisuse⟩ := h n (by omega)
      obtain ⟨table, hstage⟩ := exists_repairs_eq_start setting choices n
      obtain ⟨word, hmem, hstops, hnext⟩ := repairs_succ_eq_start hstage hmisuse
      rw [hstage, setting_tokenize, setting_start] at hdone
      -- The word at the cursor stops the session, so it is none of those repaired before.
      have hnew : word ∉ repaired := fun hold => hdone word hold hstops
      refine ⟨insert word repaired, Finset.insert_subset hmem hsub, ?_, ?_⟩
      · rw [Finset.card_insert_of_notMem hnew, hcard]
      · intro other hother
        rw [hnext, setting_tokenize, setting_start]
        rcases Finset.mem_insert.mp hother with rfl | hold
        · exact (setting.withTable table).not_stops_set other (choices n)
        · exact (Setting.mends_set hstops _).not_stops (hdone other hold)

theorem exists_ended (setting : Setting) (choices : Nat → Option Keyword) :
    ∃ n ≤ (words setting.source).card,
      ∀ m, ((start setting).repairs choices n).2 ≠ .error (.internal m) := by
  by_contra hall
  push Not at hall
  obtain ⟨repaired, hsub, hcard, -⟩ := exists_repaired (n := (words setting.source).card + 1)
    fun k hk => hall k (by omega)
  have hle := Finset.card_le_card hsub
  omega

theorem exists_first_ended (setting : Setting) (choices : Nat → Option Keyword) :
    ∃ n ≤ (words setting.source).card,
      (∀ k < n, ∃ m, ((start setting).repairs choices k).2 = .error (.internal m)) ∧
      ∀ m, ((start setting).repairs choices n).2 ≠ .error (.internal m) := by
  classical
  obtain ⟨bound, hbound, hended⟩ := exists_ended setting choices
  have hends : ∃ n, ∀ m, ((start setting).repairs choices n).2 ≠ .error (.internal m) :=
    ⟨bound, hended⟩
  refine ⟨Nat.find hends, (Nat.find_min' hends hended).trans hbound, fun k hk => ?_,
    Nat.find_spec hends⟩
  have hearly := Nat.find_min hends hk
  push Not at hearly
  exact hearly

end Session

/-- Mend the table whenever a misuse stops a session, in any way, and call again. That ends after
at most as many repairs as the source has words, and then everything is as in a fresh session with
the repaired table: the result and the whole state. Each misuse is found at a word with a wrong
entry, and a further call without a repair finds it again and changes nothing. -/
theorem tokenize_repaired_eq_fresh (setting : Setting) (choices : Nat → Option Keyword) :
    let process := (Session.start setting).repairs choices
    (∃ n ≤ (words setting.source).card,
      (∀ k < n, ∃ m, (process k).2 = .error (.internal m)) ∧
      (∀ m, (process n).2 ≠ .error (.internal m)) ∧
      process n =
        (Session.start (setting.withTable (process n).1.setting.table)).tokenize) ∧
    ∀ n m, (process n).2 = .error (.internal m) →
      (∃ word payload, (process n).1.wordAt? = some word ∧
        (process n).1.setting.table.get? word = some payload ∧
        m = .wrongPayload .keyword payload) ∧
      (process n).1.tokenize = process n := by
  intro process
  refine ⟨?_, fun n m hmisuse => ?_⟩
  · obtain ⟨n, hn, hearly, hended⟩ := Session.exists_first_ended setting choices
    obtain ⟨table, hstage⟩ := Session.exists_repairs_eq_start setting choices n
    refine ⟨n, hn, hearly, hended, ?_⟩
    rw [show process n = _ from hstage, Session.setting_tokenize, Session.setting_start]
    rfl
  · -- The stage is a fresh session over some table, so what is known of those applies.
    obtain ⟨table, hstage⟩ := Session.exists_repairs_eq_start setting choices n
    rw [show process n = _ from hstage] at hmisuse ⊢
    obtain ⟨word, payload, hword, -, -, hentry, hm⟩ := Session.wordAt?_of_internal hmisuse
    refine ⟨⟨word, payload, hword, ?_, hm⟩, Session.tokenize_again_of_internal hmisuse⟩
    rw [Session.setting_tokenize, Session.setting_start]
    exact hentry

/-- Two words are mended, the first of them in two places, with a character between them that is
passed over once. -/
theorem tokenize_repaired_eq_fresh_two_words :
    let setting : Setting := ⟨['a', '@', 'b', ' ', 'a'], ['f'],
      ⟨[(['a'], .number 5), (['b'], .flag true)]⟩, {}⟩
    let process := (Session.start setting).repairs fun n => if n = 0 then some .int else none
    (process 2).2 = .ok [Token.keyword .int 0 0 ['a'], Token.identifier ['b'] 0 2,
        Token.keyword .int 0 4 ['a']] ∧
      (process 2).1.diagnostics = [setting.skippedAt ⟨1, 0⟩ '@'] ∧
      process 2 =
        (Session.start (setting.withTable (process 2).1.setting.table)).tokenize := by
  intro setting process
  have hwords : (words setting.source).card = 2 := by decide +kernel
  obtain ⟨⟨n, hn, -, hended, hfresh⟩, -⟩ := tokenize_repaired_eq_fresh setting
    fun n => if n = 0 then some .int else none
  have hzero : n ≠ 0 := by
    rintro rfl
    exact hended (.wrongPayload .keyword (.number 5)) (by decide +kernel)
  have hone : n ≠ 1 := by
    rintro rfl
    exact hended (.wrongPayload .keyword (.flag true)) (by decide +kernel)
  obtain rfl : n = 2 := by omega
  exact ⟨by decide +kernel, by decide +kernel, hfresh⟩

end MiniLex
