import MiniLex.Proofs.LiteralRange
import MiniLex.Proofs.Listing

/-!
How a call ends and what it lists. Both follow from the file that is read, the format and whether
the call is strict: `Command.verdict` computes them from these alone, and every call comes to its
verdict. What else is asked for decides only what is said on the way, to the error stream.
-/

namespace MiniLex

/-! ### Errors of a source -/

namespace Segment

/-- The segments that are errors: numbers that do not fit, and unknown characters if the scan is
strict. -/
def IsError (strict : Bool) : Segment → Prop
  | digits text => Literal.Overflows text
  | unknown _ => strict = true
  | _ => False

instance (strict : Bool) : DecidablePred (IsError strict)
  | digits text => inferInstanceAs (Decidable (Literal.Overflows text))
  | unknown _ => inferInstanceAs (Decidable (strict = true))
  | blank _ | newline _ | word _ | symbol _ => isFalse id

variable {strict : Bool} {segs : List Segment}

end Segment

namespace Setting

variable {setting : Setting} {s : Segment}

theorem stops_iff (htable : setting.table.KeywordsOnly) :
    setting.Stops s ↔ setting.options.failFast = true ∧ s.IsError setting.options.strict := by
  cases s with
  | word text => simpa [Segment.IsError] using setting.not_stops_word htable text
  | digits text => rfl
  | unknown c => rfl
  | _ => simp [Stops, Segment.IsError]

theorem exists_error_finding?_iff (setting : Setting) (cursor : Cursor) (s : Segment) :
    (∃ d ∈ setting.finding? cursor s, d.level = .error) ↔ s.IsError setting.options.strict := by
  cases s with
  | digits text =>
      by_cases hlarge : Literal.Overflows text
      · simp [finding?, Segment.IsError, hlarge, errorAt]
      · simp [finding?, Segment.IsError, hlarge]
  | unknown c =>
      cases hstrict : setting.options.strict with
      | false => simp [finding?, Segment.IsError, hstrict, skippedAt]
      | true => simp [finding?, Segment.IsError, hstrict, errorAt]
  | _ => simp [finding?, Segment.IsError]

theorem exists_error_findingsFrom_iff (setting : Setting) (cursor : Cursor)
    (segs : List Segment) :
    (∃ d ∈ setting.findingsFrom cursor segs, d.level = .error) ↔
      ∃ s ∈ segs, s.IsError setting.options.strict := by
  induction segs generalizing cursor with
  | nil => simp [findingsFrom, placed]
  | cons s segs ih =>
      have hhead := setting.exists_error_finding?_iff cursor s
      simp only [findingsFrom_cons, List.mem_append, Option.mem_toList, or_and_right, exists_or,
        List.exists_mem_cons_iff]
      exact or_congr hhead (ih _)

end Setting

namespace Session

variable {segs : List Segment}

theorem tokenize_start_of_clean (setting : Setting) (htable : setting.table.KeywordsOnly)
    (hsegs : Segmentation setting.source segs)
    (hclean : ¬∃ s ∈ segs, s.IsError setting.options.strict) :
    let run := (start setting).tokenize
    run.2 = .ok (tokensFrom setting.table ⟨0, 0⟩ segs) ∧
      run.1.report.hasErrors = false := by
  have hgo : ∀ s ∈ segs, ¬setting.Stops s := fun s hs hstop =>
    hclean ⟨s, hs, ((Setting.stops_iff htable).mp hstop).2⟩
  obtain ⟨hresult, htokens, hreport, -⟩ := tokenize_start_of_forall_not_stops setting hsegs hgo
  refine ⟨htokens ▸ hresult, ?_⟩
  rw [Bool.eq_false_iff, ne_eq, (isCounted_tokenize_start setting).hasErrors_iff, ← diagnostics,
    hreport, setting.exists_error_findingsFrom_iff]
  exact hclean

theorem tokenize_start_of_error (setting : Setting) (htable : setting.table.KeywordsOnly)
    (hsegs : Segmentation setting.source segs)
    (herror : ∃ s ∈ segs, s.IsError setting.options.strict) :
    let run := (start setting).tokenize
    (∃ e, run.2 = .error (.lexical e)) ∨
      ∃ tokens, run.2 = .ok tokens ∧ run.1.report.hasErrors = true := by
  intro run
  rcases setting.forall_not_stops_or_stopsFirst segs with hgo | ⟨before, s, hfirst⟩
  · obtain ⟨hresult, -, hreport, -⟩ := tokenize_start_of_forall_not_stops setting hsegs hgo
    refine .inr ⟨_, hresult, ?_⟩
    rw [(isCounted_tokenize_start setting).hasErrors_iff, ← diagnostics, hreport,
      setting.exists_error_findingsFrom_iff]
    exact herror
  · obtain ⟨⟨reason, hreason, hresult⟩, -⟩ := tokenize_start_of_stopsFirst setting hsegs hfirst
    -- Without a misuse within reach, what stops the session is a lexical error.
    cases hreason with
    | misuse hentry => exact absurd hfirst.2.2 (setting.not_stops_word htable _)
    | overflow => exact .inl ⟨_, hresult⟩
    | unknown => exact .inl ⟨_, hresult⟩

end Session

/-! ### Analyses -/

namespace Analysis

theorem isAside_progress (options : Options) (n : Console.Notice) :
    ∀ e ∈ progress options n, e.IsAside := by
  unfold progress
  split
  · simp [Event.IsAside]
  · simp

theorem isAside_records (records : List Record) : ∀ e ∈ records.map Event.record, e.IsAside := by
  simp [Event.IsAside]

theorem isAside_ofText (source : Text) (options : Options) (file : Text) (table : KeywordTable) :
    ∀ e ∈ (ofText source options file table).1, e.IsAside := by
  have hevents := List.forall_mem_append.mpr
    ⟨isAside_progress options (.stage 1 1 ("Lexical analysis of ".toList ++ file)),
      isAside_records (Session.start ⟨source, file, table, options⟩).tokenize.1.records⟩
  cases hresult : (Session.start ⟨source, file, table, options⟩).tokenize.2 with
  | error stop => simpa only [ofText, hresult] using hevents
  | ok tokens =>
      simp only [ofText, hresult]
      exact List.forall_mem_append.mpr ⟨hevents, isAside_progress _ _⟩

theorem ofText_snd (source : Text) (options : Options) (file : Text) (table : KeywordTable) :
    let run := (Session.start ⟨source, file, table, options⟩).tokenize
    (ofText source options file table).2 = match run.2 with
      | .error stop => .error (.scan stop)
      | .ok tokens => .ok ⟨file, tokens, run.1.report⟩ := by
  intro run
  cases hresult : run.2 with
  | error stop => simp only [ofText, run, hresult]
  | ok tokens => simp only [ofText, run, hresult]

theorem isAside_ofFile (files : FileSystem) (path : Text) (options : Options)
    (table : KeywordTable) : ∀ e ∈ (ofFile files path options table).1, e.IsAside := by
  cases hread : readSource files path .utf8 with
  | error e => simp [ofFile, hread]
  | ok source =>
      simp only [ofFile, hread]
      exact List.forall_mem_append.mpr
        ⟨isAside_records _, isAside_ofText source options path table⟩

end Analysis

namespace Command

/-! ### Answers

What a request comes to when everything is left out that is said on the way.
-/

/-- The events that list the tokens of an analysis and the way a call ends, from the result of the
analysis. -/
def answer (format : ListingFormat) : Except Halt Analysis → List Event × Except Crash Nat
  | .ok a => if a.isOk then (listing format a, .ok ExitCode.ok) else ([], .ok ExitCode.lexical)
  | .error (.read (.source _)) => ([], .ok ExitCode.source)
  | .error (.read e) => ([], .error (.read e))
  | .error (.scan (.lexical _)) => ([], .ok ExitCode.lexical)
  | .error (.scan (.internal _)) => ([], .ok ExitCode.internal)

theorem isAside_diagnosticEvents (ds : List Diagnostic) :
    ∀ e ∈ diagnosticEvents ds, e.IsAside := by
  simp [diagnosticEvents, Event.IsAside]

theorem conclude_eq (request : Request) (a : Analysis) :
    ∃ asides, (∀ e ∈ asides, e.IsAside) ∧
      (conclude request a).1 = asides ++ (answer request.format (.ok a)).1 ∧
      .ok (conclude request a).2 = (answer request.format (.ok a)).2 := by
  cases hok : a.isOk with
  | false =>
      simp only [conclude, answer, hok, Bool.false_eq_true, if_false, List.append_nil, and_true]
      refine ⟨_, List.forall_mem_append.mpr ⟨isAside_diagnosticEvents _, ?_⟩, rfl⟩
      simp [Event.IsAside]
  | true =>
      simp only [conclude, answer, hok, if_true, and_true]
      refine ⟨_, ?_, rfl⟩
      split
      · refine List.forall_mem_append.mpr ⟨isAside_diagnosticEvents _, ?_⟩
        simp [Event.IsAside]
      · simp

/-- A request is served with its answer, behind asides. -/
theorem serve_eq (request : Request) (env : Environment) (files : FileSystem)
    (table : KeywordTable) :
    let reply := answer request.format
      (Analysis.ofFile files request.input (request.options env) table).2
    ∃ asides, (∀ e ∈ asides, e.IsAside) ∧
      serve request env files table = (asides ++ reply.1, reply.2) := by
  have hasides := Analysis.isAside_ofFile files request.input (request.options env) table
  rcases hfile : Analysis.ofFile files request.input (request.options env) table with
    ⟨events, result⟩
  rw [hfile] at hasides
  have hfailed (message : Text) : ∀ e ∈ events ++ [.notice (.error message)], e.IsAside :=
    List.forall_mem_append.mpr ⟨hasides, by simp [Event.IsAside]⟩
  -- Every failure is told by a notice at most, which is an aside.
  rcases result with (e | stop) | a
  · cases e with
    | source e => exact ⟨_, hfailed e.message, by simp [serve, hfile, answer]⟩
    | nullInPath => exact ⟨events, hasides, by simp [serve, hfile, answer]⟩
    | unknownEncoding name => exact ⟨events, hasides, by simp [serve, hfile, answer]⟩
  · cases stop with
    | lexical e => exact ⟨_, hfailed e.describe, by simp [serve, hfile, answer]⟩
    | internal m => exact ⟨_, hfailed m.describe, by simp [serve, hfile, answer]⟩
  · obtain ⟨more, hmore, hevents, hending⟩ := conclude_eq request a
    refine ⟨events ++ more, List.forall_mem_append.mpr ⟨hasides, hmore⟩, ?_⟩
    simp only [serve, hfile, hevents, hending, List.append_assoc]

section

variable {files : FileSystem} {path source : Text} {options : Options} {table : KeywordTable}

theorem answer_of_clean (htable : table.KeywordsOnly)
    (hread : readSource files path .utf8 = .ok source)
    (hclean : ¬∃ s ∈ segments source, s.IsError options.strict) (format : ListingFormat) :
    ∃ report, answer format (Analysis.ofFile files path options table).2 =
      (listing format ⟨path, tokensFrom table ⟨0, 0⟩ (segments source), report⟩,
        .ok ExitCode.ok) := by
  obtain ⟨hresult, hreport⟩ := Session.tokenize_start_of_clean
    ⟨source, path, table, options⟩ htable (segmentation_segments source) hclean
  refine ⟨(Session.start ⟨source, path, table, options⟩).tokenize.1.report, ?_⟩
  simp only [Analysis.ofFile, hread, Analysis.ofText_snd, hresult, answer, Analysis.isOk, hreport]
  rfl

theorem answer_of_error (htable : table.KeywordsOnly)
    (hread : readSource files path .utf8 = .ok source)
    (herror : ∃ s ∈ segments source, s.IsError options.strict) (format : ListingFormat) :
    answer format (Analysis.ofFile files path options table).2 = ([], .ok ExitCode.lexical) := by
  rcases Session.tokenize_start_of_error ⟨source, path, table, options⟩ htable
    (segmentation_segments source) herror with ⟨e, hresult⟩ | ⟨tokens, hresult, hreport⟩
  · simp only [Analysis.ofFile, hread, Analysis.ofText_snd, hresult, answer]
  · simp only [Analysis.ofFile, hread, Analysis.ofText_snd, hresult, answer, Analysis.isOk,
      hreport]
    rfl

end

/-! ### Verdicts -/

/-- How a call ends and what it lists, from all that decides it. -/
def verdict (files : FileSystem) (input : Text) (format : ListingFormat) (strict : Bool)
    (table : KeywordTable) : Except Crash Nat × Text :=
  match readSource files input .utf8 with
  | .error (.source _) => (.ok ExitCode.source, [])
  | .error e => (.error (.read e), [])
  | .ok source =>
    if ∃ s ∈ segments source, s.IsError strict then (.ok ExitCode.lexical, [])
    else
      match listingText format (tokensFrom table ⟨0, 0⟩ (segments source)) input with
      | .ok text => (.ok ExitCode.ok, text)
      | .error e => (.error (.markup e), [])

variable {args : List Text} {request : Request}

theorem run_eq_of_serve (hparse : parse args = .ok (.run request)) {env : Environment}
    {files : FileSystem} {table : KeywordTable} {asides events : List Event}
    {ending : Except Crash Nat} (hasides : ∀ e ∈ asides, e.IsAside)
    (hserve : serve request env files table = (asides ++ events, ending)) :
    let printed := printEvents ⟨request.verbose, Environment.minimalNotices env⟩ events
    let finished := run args env files table
    (finished.ending, finished.output.stdout) = (match printed.2 with
      | none => ending
      | some e => .error (.markup e), printed.1.stdout) := by
  intro printed finished
  obtain ⟨hstdout, herror⟩ := printEvents_asides_append hasides
    ⟨request.verbose, Environment.minimalNotices env⟩ events
  rw [← hstdout, ← herror]
  simp only [finished, run, hparse, hserve]
  rcases printEvents _ (asides ++ events) with ⟨output, _ | e⟩
  · rfl
  · rfl

/-- Every call comes to its verdict. -/
theorem run_eq_verdict (hparse : parse args = .ok (.run request)) {table : KeywordTable}
    (htable : table.KeywordsOnly) (env : Environment) (files : FileSystem) :
    let finished := run args env files table
    (finished.ending, finished.output.stdout) =
      verdict files request.input request.format (request.options env).strict table := by
  obtain ⟨asides, hasides, hserve⟩ := serve_eq request env files table
  refine (run_eq_of_serve hparse hasides hserve).trans ?_
  cases hread : readSource files request.input .utf8 with
  | error e =>
      simp only [verdict, hread, Analysis.ofFile]
      cases e with
      | source e => rfl
      | nullInPath => rfl
      | unknownEncoding name => rfl
  | ok source =>
      by_cases herror : ∃ s ∈ segments source, s.IsError (request.options env).strict
      · rw [answer_of_error htable hread herror]
        simp only [verdict, hread, if_pos herror]
        rfl
      · obtain ⟨report, hanswer⟩ := answer_of_clean htable hread herror request.format
        rw [hanswer]
        simp only [verdict, hread, if_neg herror]
        exact ending_of_listing _ request.format
          ⟨request.input, tokensFrom table ⟨0, 0⟩ (segments source), report⟩

/-! ### Exit codes -/

theorem isShaped_of_mem_tokensFrom {table : KeywordTable} {cursor : Cursor} {source : Text}
    {t : Token} (ht : t ∈ tokensFrom table cursor (segments source)) : t.IsShaped := by
  obtain ⟨p, hp, htoken⟩ := List.mem_filterMap.mp ht
  have hshape := (segmentation_segments source).isShaped p.2 (snd_mem_of_mem_placed hp)
  exact hshape.of_token? htoken

/-- How a call ends and what it lists follows from the path, the format and whether the call is
strict. Neither the flags that ask for more errors and more notices, nor the variables that do, have
a part in it. -/
theorem run_reporting_irrelevant {args args' : List Text} {request request' : Request}
    (hparse : parse args = .ok (.run request)) (hparse' : parse args' = .ok (.run request'))
    (env env' : Environment) {table : KeywordTable} (htable : table.KeywordsOnly)
    (hinput : request.input = request'.input) (hformat : request.format = request'.format)
    (hstrict : (request.options env).strict = (request'.options env').strict)
    (files : FileSystem) :
    let finished := run args env files table
    let finished' := run args' env' files table
    finished.ending = finished'.ending ∧ finished.output.stdout = finished'.output.stdout := by
  intro finished finished'
  have hverdict := run_eq_verdict hparse htable env files
  have hverdict' := run_eq_verdict hparse' htable env' files
  rw [← hinput, ← hformat, ← hstrict] at hverdict'
  exact Prod.mk.inj (hverdict.trans hverdict'.symm)

/-- A file whose name and text look like tags, in a call that reports all it can and in one that
reports as little as it can. -/
theorem run_reporting_irrelevant_tags :
    let files : FileSystem := fun _ => .ok "[/red] 9999999999 @".toUTF8.toList
    let loud := run ["-v".toList, "--keep-going".toList, "[/b]".toList]
      [("TINYC_KEEP_GOING".toList, "on".toList)] files .default
    let quiet := run ["[/b]".toList] [("TINYC_MINIMAL_UI".toList, "1".toList)] files .default
    loud.ending = .ok 3 ∧ quiet.ending = .ok 3 ∧ loud.output.stdout = quiet.output.stdout := by
  intro files loud quiet
  have hloud : parse ["-v".toList, "--keep-going".toList, "[/b]".toList] =
      .ok (.run ⟨"[/b]".toList, false, true, .table, true⟩) := by
    decide +kernel
  have hquiet : parse ["[/b]".toList] =
      .ok (.run ⟨"[/b]".toList, false, false, .table, false⟩) := by
    decide +kernel
  obtain ⟨hending, hstdout⟩ := run_reporting_irrelevant hloud hquiet
    [("TINYC_KEEP_GOING".toList, "on".toList)] [("TINYC_MINIMAL_UI".toList, "1".toList)]
    KeywordTable.keywordsOnly_default rfl rfl (by decide +kernel) files
  have hquietly : quiet.ending = .ok 3 := by
    decide +kernel
  exact ⟨hending.trans hquietly, hquietly, hstdout⟩

end Command

end MiniLex
