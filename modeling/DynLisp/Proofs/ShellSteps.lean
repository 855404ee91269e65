import DynLisp.Proofs.Reports
import DynLisp.Shell

/-!
# What a line does to the shell

A line is held back as unfinished code, completes code that is run, or is a command.  `Shell.Takes`
says what each of these does to the shell, and the frame of a run says what it leaves as it is;
whatever holds of a shell from line to line follows from these.
-/

namespace DynLisp

namespace Session

theorem failure_of_run {session : Session} {reporter : Reporter} {text : String}
    {failure : Failure} (fails : (session.run reporter text).1 = .error failure) :
    (session.machine.run session.limits (.ofText text)).failure = some failure := by
  rw [run_outcome] at fails
  split at fails
  next failed =>
    cases fails
    exact failed
  next => cases fails

/-- A text that fails stays known as the one being run. -/
theorem run_reporter_of_error {session : Session} {reporter : Reporter} {text : String}
    {failure : Failure} (fails : (session.run reporter text).1 = .error failure) :
    (session.run reporter text).2.2 = reporter.registerSource session.path text := by
  unfold run at fails ⊢
  simp only at fails ⊢
  split at fails
  · rfl
  · cases fails

/-- A text that succeeds is forgotten, perhaps with a warning. -/
theorem run_reporter_of_ok {session : Session} {reporter : Reporter} {text : String}
    (succeeds : (session.run reporter text).1 = .ok ()) :
    ∃ warning, (session.run reporter text).2.2 =
      ((reporter.registerSource session.path text).write warning).removeSource session.path := by
  unfold run at succeeds ⊢
  simp only at succeeds ⊢
  split at succeeds
  · cases succeeds
  · split
    · obtain ⟨warning, warned⟩ := Reporter.exists_warn_eq_write
        (reporter.registerSource session.path text) (emptyNotice session.path)
      exact ⟨warning, by rw [warned]⟩
    · exact ⟨"", by simp [Reporter.write]⟩

end Session

namespace Shell

theorem write_write (shell : Shell) (first second : String) :
    (shell.write first).write second = shell.write (first ++ second) := by
  simp [write, Machine.write, String.append_assoc]

theorem write_empty (shell : Shell) : shell.write "" = shell := by
  simp [write, Machine.write]

/-- Lines that nothing is wrong with are written. -/
theorem writeLines_of_faultless {α : Type} (line : α → String) {fault : α → Option Cause}
    {items : List α} (faultless : ∀ item ∈ items, fault item = none) (shell : Shell) :
    shell.writeLines line fault items = (.ok (), shell.write (String.join (items.map line))) := by
  induction items generalizing shell with
  | nil => exact congrArg _ shell.write_empty.symm
  | cons item items ih =>
      rw [List.forall_mem_cons] at faultless
      simp only [writeLines, faultless.1, ih faultless.2, write_write, List.map_cons,
        String.join_cons]

/-- Writing lines writes something, or nothing, and fails for what is wrong with one of them. -/
theorem writeLines_cases {α : Type} (line : α → String) (fault : α → Option Cause)
    (items : List α) (shell : Shell) :
    ∃ text, shell.writeLines line fault items = (.ok (), shell.write text) ∨
      ∃ item ∈ items, ∃ cause, fault item = some cause ∧
        shell.writeLines line fault items = (.error (.internal cause), shell.write text) := by
  induction items generalizing shell with
  | nil => exact ⟨"", .inl (congrArg _ shell.write_empty.symm)⟩
  | cons item items ih =>
      cases wrong : fault item with
      | some cause =>
          refine ⟨"", .inr ⟨item, List.mem_cons_self, cause, wrong, ?_⟩⟩
          rw [writeLines, wrong, write_empty]
      | none =>
          obtain ⟨text, written | ⟨later, member, cause, fault_eq, written⟩⟩ :=
            ih (shell.write (line item)) <;> rw [write_write] at written
          · exact ⟨_, .inl (by rw [writeLines, wrong, written])⟩
          · exact ⟨_, .inr ⟨later, List.mem_cons_of_mem _ member, cause, fault_eq,
              by rw [writeLines, wrong, written]⟩⟩

/-- A shell after a run, with no values left to be shown. -/
def behindRun (shell : Shell) (code : String) : Shell :=
  { shell with
    session := (shell.session.run shell.reporter code).2.1.pop.2
    reporter := (shell.session.run shell.reporter code).2.2 }

/-- The values of code are shown if they can be. -/
theorem execute_of_shown {shell : Shell} {code : String}
    (shown : ∀ value ∈ (shell.session.run shell.reporter code).2.1.results,
      value.textFault? = none) :
    shell.execute code = ((shell.session.run shell.reporter code).1,
      (shell.behindRun code).write
        (String.join ((shell.session.run shell.reporter code).2.1.results.map resultLine))) := by
  have written := writeLines_of_faultless resultLine shown (shell.behindRun code)
  simp only [execute, Session.pop, behindRun] at written ⊢
  rw [written]
  rfl

/-- Code fails as its run does, or because a value cannot be shown. -/
theorem execute_cases (shell : Shell) (code : String) :
    ∃ text, shell.execute code =
        ((shell.session.run shell.reporter code).1, (shell.behindRun code).write text) ∨
      ∃ cause, shell.execute code =
        (.error (.internal cause), (shell.behindRun code).write text) := by
  obtain ⟨text, written | ⟨value, -, cause, -, written⟩⟩ := writeLines_cases resultLine
    Value.textFault? (shell.session.run shell.reporter code).2.1.results (shell.behindRun code) <;>
    simp only [behindRun, Session.pop] at written
  · refine ⟨text, .inl ?_⟩
    simp only [execute, Session.pop, written, behindRun]
    rfl
  · refine ⟨text, .inr ⟨cause, ?_⟩⟩
    simp only [execute, Session.pop, written, behindRun]
    rfl

theorem runCode_of_ok {shell after : Shell} {code : String}
    (executed : shell.execute code = (.ok (), after)) :
    shell.runCode code = (.ok false, after) := by
  rw [runCode, executed]

/-- A failure of code is handled. -/
theorem runCode_of_error {shell after : Shell} {code : String} {failure : Failure}
    (executed : shell.execute code = (.error failure, after)) :
    shell.runCode code =
      ((after.reporter.handle failure).1.map (fun _ => false),
        { after with reporter := (after.reporter.handle failure).2 }) := by
  rw [runCode, executed]
  simp only
  split <;> (rename_i passed; rw [passed]; rfl)

/-- What running code leaves as it is: what is pending, the prompt, whether errors are fatal, and
where reports are shown.  No values are left to be shown, and the bindings are those that the run of
the text has left. -/
structure RunFrame (before : Shell) (code : String) (after : Shell) : Prop where
  /-- The same code is pending. -/
  pending : after.pending = before.pending
  /-- The prompt is the same. -/
  prompt : after.prompt = before.prompt
  /-- All values have been taken. -/
  results : after.session.results = []
  /-- Errors are as fatal as before. -/
  fatal : after.reporter.fatal = before.reporter.fatal
  /-- Reports are shown at the same place. -/
  platform : after.reporter.platform = before.reporter.platform
  /-- The bindings are those behind the run. -/
  environment : after.session.machine.environment =
    (before.session.machine.run before.session.limits (.ofText code)).machine.environment

theorem runFrame_of_execute {shell : Shell} {code text : String} {outcome : Except Failure Unit}
    (executed : shell.execute code = (outcome, (shell.behindRun code).write text)) :
    shell.RunFrame code (shell.runCode code).2 := by
  obtain ⟨fatal, platform⟩ := shell.session.run_reporter_frame shell.reporter code
  have environment : (shell.behindRun code).session.machine.environment =
      (shell.session.machine.run shell.session.limits (.ofText code)).machine.environment := by
    rw [behindRun, Session.run_session]
    rfl
  cases outcome with
  | ok =>
      rw [runCode_of_ok executed]
      exact ⟨rfl, rfl, rfl, fatal, platform, environment⟩
  | error failure =>
      rw [runCode_of_error executed]
      have handled := (shell.behindRun code).reporter.handle_hasHandled failure
      exact ⟨rfl, rfl, rfl, handled.fatal.trans fatal, handled.platform.trans platform,
        environment⟩

theorem runFrame_runCode (shell : Shell) (code : String) :
    shell.RunFrame code (shell.runCode code).2 := by
  obtain ⟨text, executed | ⟨cause, executed⟩⟩ := shell.execute_cases code
  · exact runFrame_of_execute executed
  · exact runFrame_of_execute executed

/-- The ways in which a shell takes in a line. -/
inductive Takes (shell : Shell) (line : String) : Except Failure Bool × Shell → Prop
  /-- Code with open brackets is held back. -/
  | held (unclosed : isUnclosed (continued shell.pending line) = true) :
      Takes shell line
        (.ok false,
          { shell with pending := continued shell.pending line, prompt := secondaryPrompt })
  /-- Code with closed brackets is run. -/
  | ran (closed : isUnclosed (continued shell.pending line) = false) :
      Takes shell line
        ({ shell with pending := "", prompt := primaryPrompt }.runCode
          (continued shell.pending line))
  /-- A command is answered with a text, a blank line with none. -/
  | answered (leave : Bool) (text : String) : Takes shell line (.ok leave, shell.write text)
  /-- A binding cannot be listed. -/
  | unlisted {binding : String × Value} {cause : Cause}
      (member : binding ∈ shell.session.machine.environment.bindings)
      (fault : binding.2.textFault? = some cause) (text : String) :
      Takes shell line (.error (.internal cause), shell.write text)
  /-- The user is warned about the argument of a command. -/
  | warned (argument : String) :
      Takes shell line
        (.ok false, { shell with reporter := (shell.reporter.warn (exitNotice argument)).2 })

theorem takes_enter (shell : Shell) (line : String) : shell.Takes line (shell.enter line) := by
  unfold enter
  simp only
  split
  next unclosed => exact .held unclosed
  next closed => exact .ran (Bool.eq_false_iff.mpr closed)

/-- Every line is taken in in one of these ways. -/
theorem takes_step (shell : Shell) (line : String) : shell.Takes line (shell.step line) := by
  have unmoved (leave : Bool) : shell.Takes line (.ok leave, shell) := by
    have answered : shell.Takes line (.ok leave, shell.write "") := .answered leave ""
    rwa [write_empty] at answered
  unfold step
  split
  · exact shell.takes_enter line
  split
  · exact unmoved false
  split
  · exact shell.takes_enter line
  next command _ =>
    cases command with
    | bindings =>
        obtain ⟨text, written | ⟨binding, member, cause, fault, written⟩⟩ :=
          writeLines_cases bindingLine (·.2.textFault?)
            (listed shell.session.machine.environment) shell <;>
          rw [obey, written]
        · exact .answered false text
        · exact .unlisted ((List.mem_filter.mp member).1) fault text
    | help => exact .answered false _
    | endOfInput => exact .answered true _
    | exit =>
        unfold obey
        simp only
        split
        · exact unmoved true
        · exact .warned _

end Shell
end DynLisp
