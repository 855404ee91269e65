import DynLisp.Proofs.Containment

/-!
# The shell between two lines

Whatever a line does, the shell is clean behind it: no value waits to be shown, errors are not
fatal, the prompt says whether unfinished code is pending, and no text counts as being run.  Only a
report that fails itself leaves the text known that it is about; its failure is let out as a fault
of the interpreter, and there is none as long as there is room for twice of what has been typed.
-/

namespace DynLisp

namespace Reporter

/-- Whether no source counts as being run. -/
def IsIdle (reporter : Reporter) : Prop := ∀ source ∈ reporter.sources, source.2 = none

theorem eq_or_mem_of_mem_withLines {path : String} {lines : Option (List String)}
    {sources : List (String × Option (List String))} {source : String × Option (List String)}
    (member : source ∈ withLines path lines sources) :
    source = (path, lines) ∨ source ∈ sources := by
  induction sources with
  | nil => exact Or.inl (List.mem_singleton.mp member)
  | cons first sources ih =>
      rw [withLines] at member
      split at member <;> rcases List.mem_cons.mp member with rfl | later
      · exact Or.inl rfl
      · exact Or.inr (List.mem_cons_of_mem _ later)
      · exact Or.inr List.mem_cons_self
      · exact (ih later).imp_right (List.mem_cons_of_mem _)

theorem isIdle_forgetSources (reporter : Reporter) : reporter.forgetSources.IsIdle := by
  intro source member
  obtain ⟨known, -, rfl⟩ := List.mem_map.mp member
  rfl

theorem IsIdle.removeSource {reporter : Reporter} (idle : reporter.IsIdle) (path : String) :
    (reporter.removeSource path).IsIdle := by
  intro source member
  rcases eq_or_mem_of_mem_withLines member with rfl | member
  · rfl
  · exact idle source member

/-- A source that is run and then removed leaves nothing behind. -/
theorem IsIdle.removeSource_registerSource {reporter : Reporter} (idle : reporter.IsIdle)
    (path text written : String) :
    (((reporter.registerSource path text).write written).removeSource path).IsIdle := by
  have removed : (((reporter.registerSource path text).write written).removeSource path).sources =
      (reporter.removeSource path).sources := withLines_withLines path none _ reporter.sources
  intro source member
  rw [removed] at member
  exact idle.removeSource path source member

/-- An error that is not fatal is dealt with, unless its report fails. -/
theorem raise_isIdle {reporter : Reporter} (lenient : reporter.fatal = false) (notice : Notice) :
    (reporter.raise notice).2.IsIdle ∨
      ∃ cause, (reporter.raise notice).1 = .error (.internal cause) := by
  obtain ⟨text, ⟨cause, raised⟩ | ⟨fatal, -⟩ | ⟨-, raised⟩⟩ := reporter.raise_cases notice
  · exact Or.inr ⟨cause, congrArg Prod.fst raised⟩
  · rw [lenient] at fatal
    cases fatal
  · rw [raised]
    exact Or.inl (isIdle_forgetSources _)

theorem handle_isIdle {reporter : Reporter} (lenient : reporter.fatal = false) {failure : Failure}
    (told : failure.verdict ≠ .pass) :
    (reporter.handle failure).2.IsIdle ∨
      ∃ cause, (reporter.handle failure).1 = .error (.internal cause) := by
  unfold handle
  cases verdict : failure.verdict with
  | report notice => exact raise_isIdle lenient notice
  | pass => exact absurd verdict told
  | fault cause =>
      have raised := raise_isIdle lenient (faultNotice cause)
      simp only
      split <;> rename_i result <;> rw [result] at raised
      · exact raised
      · exact Or.inl (raised.resolve_right nofun)

end Reporter

/-- No failure of a run is passed on in silence. -/
theorem Session.verdict_ne_pass {session : Session} {reporter : Reporter} {text : String}
    {failure : Failure} (fails : (session.run reporter text).1 = .error failure) :
    failure.verdict ≠ .pass := by
  have reported (said : Except Cause Notice) : Verdict.ofNotice said ≠ .pass := by
    cases said <;> nofun
  rcases Machine.run_failure_cases (failure_of_run fails) with ⟨error, rfl⟩ | ⟨error, rfl⟩
  · exact reported error.notice
  · exact reported error.notice

namespace Shell

/-- A shell that nothing of the last line is left in but its pending code and the bindings. -/
structure Clean (shell : Shell) : Prop where
  /-- All values have been shown. -/
  results : shell.session.results = []
  /-- Errors are not fatal. -/
  lenient : shell.reporter.fatal = false
  /-- The prompt says whether there is pending code, which has open brackets. -/
  code : shell.pending = "" ∧ shell.prompt = primaryPrompt ∨
    shell.pending ≠ "" ∧ 0 < openBrackets false shell.pending.toList ∧
      shell.prompt = secondaryPrompt

theorem Clean.step {shell : Shell} (clean : shell.Clean) (line : String) :
    (shell.step line).2.Clean := by
  have taken := shell.takes_step line
  generalize shell.step line = result at taken ⊢
  cases taken with
  | held unclosed =>
      refine ⟨clean.results, clean.lenient, Or.inr ⟨ne_empty_of_isUnclosed unclosed, ?_, rfl⟩⟩
      exact (isUnclosed_iff _).mp unclosed
  | ran closed =>
      have frame := runFrame_runCode { shell with pending := "", prompt := primaryPrompt }
        (continued shell.pending line)
      exact ⟨frame.results, frame.fatal.trans clean.lenient, Or.inl ⟨frame.pending, frame.prompt⟩⟩
  | answered leave text => exact ⟨clean.results, clean.lenient, clean.code⟩
  | unlisted member fault text => exact ⟨clean.results, clean.lenient, clean.code⟩
  | warned argument =>
      obtain ⟨text, warned⟩ := shell.reporter.exists_warn_eq_write (exitNotice argument)
      refine ⟨clean.results, ?_, clean.code⟩
      rw [warned]
      exact clean.lenient

theorem Clean.feed {shell : Shell} (clean : shell.Clean) (lines : List String) :
    (shell.feed lines).2.Clean := by
  induction lines generalizing shell with
  | nil => exact clean
  | cons line lines ih => exact ih (clean.step line)

section Idle

variable {shell : Shell} (clean : shell.Clean) (idle : shell.reporter.IsIdle)
include clean idle

theorem isIdle_runCode (code : String) :
    (shell.runCode code).2.reporter.IsIdle ∨
      ∃ cause, (shell.runCode code).1 = .error (.internal cause) := by
  have lenient : (shell.behindRun code).reporter.fatal = false :=
    (shell.session.run_reporter_frame shell.reporter code).1.trans clean.lenient
  have handled {failure : Failure} {text : String} (told : failure.verdict ≠ .pass)
      (executed : shell.execute code = (.error failure, (shell.behindRun code).write text)) :
      (shell.runCode code).2.reporter.IsIdle ∨
        ∃ cause, (shell.runCode code).1 = .error (.internal cause) := by
    rw [runCode_of_error executed]
    apply (Reporter.handle_isIdle lenient told).imp_right
    rintro ⟨cause, passed⟩
    exact ⟨cause, congrArg (Except.map _) passed⟩
  obtain ⟨text, executed | ⟨cause, executed⟩⟩ := shell.execute_cases code
  · cases outcome : (shell.session.run shell.reporter code).1 with
    | ok =>
        obtain ⟨warning, removed⟩ := Session.run_reporter_of_ok outcome
        rw [outcome] at executed
        rw [runCode_of_ok executed, write, behindRun, removed]
        exact Or.inl (idle.removeSource_registerSource _ _ _)
    | error failure => exact handled (Session.verdict_ne_pass outcome) (outcome ▸ executed)
  · exact handled (show (Failure.internal cause).verdict ≠ .pass from Verdict.noConfusion) executed

/-- Behind a line no text counts as being run, unless its report has failed. -/
theorem isIdle_step (line : String) :
    (shell.step line).2.reporter.IsIdle ∨
      ∃ cause, (shell.step line).1 = .error (.internal cause) := by
  have taken := shell.takes_step line
  generalize shell.step line = result at taken ⊢
  cases taken with
  | held unclosed => exact Or.inl idle
  | ran closed =>
      have cleared : Clean { shell with pending := "", prompt := primaryPrompt } :=
        ⟨clean.results, clean.lenient, Or.inl ⟨rfl, rfl⟩⟩
      exact isIdle_runCode cleared idle _
  | answered leave text => exact Or.inl idle
  | unlisted member fault text => exact Or.inl idle
  | warned argument =>
      obtain ⟨text, warned⟩ := shell.reporter.exists_warn_eq_write (exitNotice argument)
      rw [warned]
      exact Or.inl idle

theorem isIdle_feed (lines : List String) :
    (shell.feed lines).2.reporter.IsIdle ∨
      ∃ cause, .error (.internal cause) ∈ (shell.feed lines).1 := by
  induction lines generalizing shell with
  | nil => exact Or.inl idle
  | cons line lines ih =>
      rcases isIdle_step clean idle line with idle | ⟨cause, passed⟩
      · apply (ih (clean.step line) idle).imp_right
        rintro ⟨cause, member⟩
        exact ⟨cause, List.mem_cons_of_mem _ member⟩
      · exact Or.inr ⟨cause, List.mem_cons.mpr (Or.inl passed.symm)⟩

end Idle

/-- No line lets a failure out but for an unreadable number. -/
theorem Bounded.feed_answers {shell : Shell} {platform : Platform} {bound : Nat}
    (bounded : shell.Bounded platform bound) (memory : 2 * bound ≤ platform.room)
    {lines : List String}
    (short : shell.pending.length + typedLength lines ≤ bound) {outcome : Except Failure Bool}
    (member : outcome ∈ (shell.feed lines).1) : ∃ code, Answers code outcome := by
  induction lines generalizing shell with
  | nil => cases member
  | cons line lines ih =>
      have typed : typedLength (line :: lines) = line.length + 1 + typedLength lines := rfl
      obtain ⟨next, pending, answers⟩ :=
        bounded.step (show shell.pending.length + line.length + 1 ≤ bound by omega)
      rcases List.mem_cons.mp member with rfl | member
      · exact ⟨_, answers memory⟩
      · exact ih next (by omega) member

/-- The shell is clean between lines.  Whatever lines are given to a shell on a new session of the
command line, and whatever comes of them, no value waits to be shown then, errors are not fatal, and
either there is no pending code and the prompt asks for new code, or the pending code opens more
brackets outside comments than it closes and the prompt asks for more of it.  No text counts as
being run, unless a report failed and this was let out; as long as there is room for twice of what
has been typed no report fails. -/
theorem clean_between_lines {handler reporter : Reporter} (idle : handler.IsIdle) {opened : Opened}
    {session : Session}
    (fresh : Session.new handler Session.commandLinePath true opened = (.ok session, reporter))
    (lines : List String) :
    ((Shell.new session reporter).feed lines).2.Clean ∧
    (((Shell.new session reporter).feed lines).2.reporter.IsIdle ∨
      ∃ cause, .error (.internal cause) ∈ ((Shell.new session reporter).feed lines).1) ∧
    (2 * typedLength lines ≤ handler.platform.room →
      ((Shell.new session reporter).feed lines).2.reporter.IsIdle ∧
      ∀ cause, .error (.internal cause) ∉ ((Shell.new session reporter).feed lines).1) := by
  have clean : (Shell.new session reporter).Clean := by
    cases fresh
    exact ⟨rfl, rfl, Or.inl ⟨rfl, rfl⟩⟩
  have start : (Shell.new session reporter).reporter.IsIdle := by
    cases fresh
    exact idle.removeSource Session.commandLinePath
  have later := isIdle_feed clean start lines
  refine ⟨clean.feed lines, later, fun memory => ?_⟩
  have none_let_out (cause : Cause) :
      .error (.internal cause) ∉ ((Shell.new session reporter).feed lines).1 := by
    intro member
    obtain ⟨code, ⟨leave, impossible⟩ | ⟨cause', impossible, -⟩⟩ :=
      (bounded_new fresh (typedLength lines)).feed_answers memory
        (show "".length + typedLength lines ≤ _ by rw [String.length_empty]; omega) member
    · cases impossible
    · cases impossible
  exact ⟨later.resolve_right fun ⟨cause, member⟩ => none_let_out cause member, none_let_out⟩

/-- A line that continues code fails, a command is warned about, and other code is left pending. -/
theorem clean_between_lines_failing :
    ∃ (session : Session) (reporter : Reporter) (shell : Shell), (Reporter.new true false).IsIdle ∧
      Session.new (.new true false) Session.commandLinePath true .missing =
        (.ok session, reporter) ∧
      ((Shell.new session reporter).feed ["(+ 1", "x)", "exit now", "(f"]).2 = shell ∧
      shell.reporter.written = "<in>:2:1: error: unknown variable x at 2:1\n  x)\n  ^\n" ++
        "<in>: warning: unrecognized argument to exit: 'now'\n" ∧
      shell.pending = "(f" ∧ shell.Clean ∧ shell.reporter.IsIdle := by
  have idle : (Reporter.new true false).IsIdle := nofun
  have fresh : Session.new (.new true false) Session.commandLinePath true .missing =
      (.ok ⟨Session.commandLinePath, true, "", .initial, [], .standard⟩,
        ⟨false, false, [(Session.commandLinePath, none)], "", .ordinary⟩) := rfl
  obtain ⟨clean, -, later⟩ := clean_between_lines idle fresh ["(+ 1", "x)", "exit now", "(f"]
  exact ⟨_, _, _, idle, fresh, rfl, by decide +kernel, by decide +kernel, clean,
    (later (by decide)).1⟩

end Shell
end DynLisp
