import DynLisp.Proofs.LineFeeding
import DynLisp.Proofs.ShellSteps

/-!
# Unfinished code

The shell decides by counting brackets whether code is finished.  Code whose brackets are closed is
never complained about for its end, and code that can be read to its end has closed brackets.
Whatever lines a shell is fed with, none of its reports is therefore about code that ends too early,
which `Reporter.NeverSays` says of all that is written from one line to another.
-/

namespace DynLisp

namespace Reader

theorem mem_readAll_of_error {limit : Nat} {reader after : Reader} {error : ParseError}
    (read : reader.readExpr limit = (.error error, after)) :
    .error error ∈ reader.readAll limit := by
  rw [readAll]
  split <;> simp_all

/-- A text that is read to its end without an error closes all its brackets. -/
theorem openBrackets_of_readAll {limit : Nat} {cursor : Cursor}
    (whole : ∀ read ∈ readAll limit ⟨cursor, none⟩, ∃ tree, read = .ok tree) :
    openBrackets false cursor.rest = 0 := by
  generalize size : cursor.rest.length = length
  induction length using Nat.strongRecOn generalizing cursor with
  | ind length ih =>
      rcases read : readExpr limit ⟨cursor, none⟩ with ⟨error | (_ | tree), after, peeked⟩
      · obtain ⟨tree, impossible⟩ := whole _ (mem_readAll_of_error read)
        cases impossible
      · exact openBrackets_finalGap ((Grammar.readExpr_eq_none_iff limit cursor).mp ⟨_, read⟩)
      · obtain rfl := peeked_of_readExpr read
        have shorter : after.rest.length < length := by
          rw [← size]
          exact rest_lt_of_readExpr read
        rw [openBrackets_of_readExpr read]
        refine ih after.rest.length shorter ?_ rfl
        intro later member
        apply whole later
        rw [readAll_of_some read]
        exact List.mem_cons_of_mem _ member

end Reader

/-- A run of a text fails because the text cannot be read or because it cannot be evaluated. -/
theorem Machine.run_failure_cases {limits : Limits} {machine : Machine} {reader : Reader}
    {failure : Failure} (fails : (machine.run limits reader).failure = some failure) :
    (∃ error, failure = .syntactic error) ∨ ∃ error, failure = .evaluation error := by
  fun_induction Machine.run limits machine reader with
  | case1 machine reader error after read =>
      cases fails
      exact Or.inl ⟨error, rfl⟩
  | case2 machine reader after read => cases fails
  | case3 machine reader tree after read error machine' evaluated =>
      cases fails
      exact Or.inr ⟨error, rfl⟩
  | case4 machine reader tree after read value machine' evaluated later ih => exact ih fails

/-- Code with closed brackets is not complained about for its end. -/
theorem Session.run_isUnfinished {session : Session} {reporter : Reporter} {text : String}
    {failure : Failure} (closed : isUnclosed text = false)
    (fails : (session.run reporter text).1 = .error failure) : failure.isUnfinished = false := by
  rw [run_outcome] at fails
  split at fails
  next failure' failed =>
    cases fails
    rw [Bool.eq_false_iff]
    intro unfinished
    have some_open := (session.machine.run_openBrackets session.limits (.ofText text)).2 failure
      failed unfinished
    rw [(isUnclosed_iff text).mpr some_open] at closed
    cases closed
  next => cases fails

namespace Notice

/-- Whether a notice begins with a phrase on some platform, in colour or not. -/
def Begins (notice : Notice) (phrase : String) : Prop :=
  ∃ color platform text, notice.shown color platform = .ok text ∧ phrase.toList <+: text.toList

theorem unexpectedEnd_begins (expected : String) :
    (unexpectedEnd expected).Begins "found end of file" := by
  refine ⟨false, .ordinary, _, shown_ofMessage _ _ _, ?_⟩
  rw [Message.styled_cons, String.toList_append]
  exact (show _ by decide : "found end of file".toList <+:
    "found end of file, but expected ".toList).trans (List.prefix_append _ _)

/-- A message that begins with running text begins with no phrase that differs from it. -/
theorem not_begins_of_message {phrase text : String}
    (apart : ¬ phrase.toList <+: text.toList ∧ ¬ text.toList <+: phrase.toList)
    (fragments : Message) : ¬ (ofMessage (.plain text :: fragments)).Begins phrase := by
  rintro ⟨color, platform, shown, styled, begins⟩
  rw [shown_ofMessage, Message.styled_cons] at styled
  cases styled
  rw [String.toList_append] at begins
  have text_begins : text.toList <+: text.toList ++
      (Message.styled (platform.bold color) fragments).toList := List.prefix_append _ _
  rcases List.prefix_or_prefix_of_prefix begins text_begins with first | second
  · exact apart.1 first
  · exact apart.2 second

theorem begins_of_passedOn {notice : Notice} {phrase : String}
    (begins : notice.passedOn.Begins phrase) : notice.Begins phrase := by
  obtain ⟨color, platform, text, shown, phrase_begins⟩ := begins
  exact ⟨color, platform, text, (notice.shown_passedOn color platform).symm.trans shown,
    phrase_begins⟩

end Notice

theorem LexError.not_begins {error : LexError} {notice : Notice}
    (said : error.notice = .ok notice) : ¬ notice.Begins "found end of file" := by
  cases error with
  | unreadable cause => cases said
  | _ =>
      cases said
      exact Notice.not_begins_of_message (by decide) _

theorem ParseError.not_begins {error : ParseError} {notice : Notice}
    (said : error.notice = .ok notice)
    (finished : (Failure.syntactic error).isUnfinished = false) :
    ¬ notice.Begins "found end of file" := by
  cases error with
  | unexpectedEnd expected => cases finished
  | lexical error =>
      cases inner : error.notice with
      | error cause => simp [ParseError.notice, inner, Except.map] at said
      | ok notice' =>
          simp only [ParseError.notice, inner, Except.map, Except.ok.injEq] at said
          subst said
          exact fun begins => LexError.not_begins inner (Notice.begins_of_passedOn begins)
  | unexpectedToken token =>
      rw [ParseError.notice] at said
      split at said <;> cases said
      exact Notice.not_begins_of_message (by decide) _
  | unexpectedExpression expression =>
      obtain ⟨source, -, rfl⟩ := Template.exists_of_map_eq_ok said
      exact Notice.not_begins_of_message (by decide) _
  | tooDeep position =>
      cases said
      exact Notice.not_begins_of_message (by decide) _
  | stackExhausted =>
      cases said
      exact Notice.not_begins_of_message (by decide) _

theorem EvalError.not_begins {error : EvalError} {notice : Notice}
    (said : error.notice = .ok notice) : ¬ notice.Begins "found end of file" := by
  cases error with
  | notEvaluable => cases said
  | unprintable cause => cases said
  | _ =>
      cases said
      exact Notice.not_begins_of_message (by decide) _

namespace Failure

/-- The notice that is written about a failure, if one is. -/
def notice? (failure : Failure) : Option Notice :=
  match failure.verdict with
  | .report notice => some notice
  | .pass => none
  | .fault cause => some (Reporter.faultNotice cause)

theorem notice?_ofNotice {failure : Failure} {said : Except Cause Notice} {notice : Notice}
    (verdict : failure.verdict = .ofNotice said) (told : notice ∈ failure.notice?) :
    said = .ok notice ∨ ∃ cause, notice = Reporter.faultNotice cause := by
  cases said with
  | ok said =>
      simp only [notice?, verdict, Verdict.ofNotice, Option.mem_def, Option.some.injEq] at told
      exact Or.inl (told ▸ rfl)
  | error cause =>
      simp only [notice?, verdict, Verdict.ofNotice, Option.mem_def, Option.some.injEq] at told
      exact Or.inr ⟨cause, told.symm⟩

theorem not_begins_internal {cause : Cause} {notice : Notice}
    (told : notice ∈ (internal cause).notice?) : ¬ notice.Begins "found end of file" := by
  cases told
  exact Notice.not_begins_of_message (by decide) _

/-- What is told of a failed run begins with this phrase exactly if the text ended too early. -/
theorem begins_iff_of_run {limits : Limits} {machine : Machine} {reader : Reader}
    {failure : Failure} (fails : (machine.run limits reader).failure = some failure) :
    (∃ notice ∈ failure.notice?, notice.Begins "found end of file") ↔
      failure.isUnfinished = true := by
  have fault (cause : Cause) : ¬ (Reporter.faultNotice cause).Begins "found end of file" :=
    Notice.not_begins_of_message (by decide) _
  constructor
  · rintro ⟨notice, told, begins⟩
    cases finished : failure.isUnfinished with
    | true => rfl
    | false =>
        rcases Machine.run_failure_cases fails with ⟨error, rfl⟩ | ⟨error, rfl⟩
        · rcases notice?_ofNotice rfl told with said | ⟨cause, rfl⟩
          · exact absurd begins (ParseError.not_begins said finished)
          · exact absurd begins (fault cause)
        · rcases notice?_ofNotice rfl told with said | ⟨cause, rfl⟩
          · exact absurd begins (EvalError.not_begins said)
          · exact absurd begins (fault cause)
  · rw [isUnfinished_iff]
    rintro ⟨expected, rfl⟩
    exact ⟨_, rfl, Notice.unexpectedEnd_begins expected⟩

end Failure

namespace Reporter

/-- From one state of a reporter to another one, all that is written are reports that begin
otherwise than with a phrase. -/
inductive NeverSays (phrase : String) : Reporter → Reporter → Prop
  /-- Nothing is written. -/
  | quiet {before after : Reporter} (same : after.written = before.written) :
      NeverSays phrase before after
  /-- A report that begins otherwise is written. -/
  | report (reporter : Reporter) (severity : Severity) {notice : Notice}
      (other : ¬ notice.Begins phrase) :
      NeverSays phrase reporter (reporter.report severity notice).2
  /-- One thing is written and then another one. -/
  | trans {before middle after : Reporter} (first : NeverSays phrase before middle)
      (second : NeverSays phrase middle after) : NeverSays phrase before after

namespace NeverSays

theorem warn {phrase : String} (reporter : Reporter) {notice : Notice}
    (other : ¬ notice.Begins phrase) : NeverSays phrase reporter (reporter.warn notice).2 := by
  have reported := NeverSays.report reporter .warning other
  unfold Reporter.warn
  split <;> next result => rwa [result] at reported

theorem raise {phrase : String} (reporter : Reporter) {notice : Notice}
    (other : ¬ notice.Begins phrase) : NeverSays phrase reporter (reporter.raise notice).2 := by
  have reported := NeverSays.report reporter .error other
  unfold Reporter.raise
  split
  next result => rwa [result] at reported
  next result =>
    rw [result] at reported
    split
    · exact reported
    · exact reported.trans (.quiet rfl)

/-- Nothing is written about a failure but its notice. -/
theorem handle {phrase : String} (reporter : Reporter) {failure : Failure}
    (other : ∀ notice ∈ failure.notice?, ¬ notice.Begins phrase) :
    NeverSays phrase reporter (reporter.handle failure).2 := by
  unfold Failure.notice? at other
  unfold Reporter.handle
  cases verdict : failure.verdict with
  | report notice => exact raise reporter (other notice (by rw [verdict]; rfl))
  | pass => exact .quiet rfl
  | fault cause =>
      have raised := raise reporter (other (faultNotice cause) (by rw [verdict]; rfl))
      simp only
      split <;> next result => rwa [result] at raised

end NeverSays

theorem raise_isUnfinished {reporter : Reporter} {notice : Notice} {failure : Failure}
    (passed : (reporter.raise notice).1 = .error failure) : failure.isUnfinished = false := by
  obtain ⟨text, ⟨_, raised⟩ | ⟨_, raised⟩ | ⟨_, raised⟩⟩ := reporter.raise_cases notice <;>
    rw [raised] at passed <;> cases passed
  · rfl
  · rfl

/-- What is left of a failure is the failure or a new one that is not about the code. -/
theorem handle_isUnfinished {reporter : Reporter} {failure left : Failure}
    (finished : failure.isUnfinished = false)
    (passed : (reporter.handle failure).1 = .error left) : left.isUnfinished = false := by
  unfold handle at passed
  split at passed
  · exact raise_isUnfinished passed
  · cases passed
    exact finished
  · split at passed
    next raised =>
      cases passed
      exact raise_isUnfinished (congrArg Prod.fst raised)
    next =>
      cases passed
      exact finished

end Reporter

theorem Session.run_neverSays (session : Session) (reporter : Reporter) (text : String) :
    Reporter.NeverSays "found end of file" reporter (session.run reporter text).2.2 := by
  have registered : Reporter.NeverSays "found end of file" reporter
      (reporter.registerSource session.path text) := .quiet rfl
  have other : ¬ (emptyNotice session.path).Begins "found end of file" :=
    Notice.not_begins_of_message (by decide) _
  have warned := Reporter.NeverSays.warn (reporter.registerSource session.path text) other
  unfold run
  simp only
  split
  · exact registered
  · split
    · exact (registered.trans warned).trans (.quiet rfl)
    · exact registered.trans (.quiet rfl)

namespace Shell

/-- A shell that has answered some lines without a word about code that ends too early. -/
structure AnswersCode (before : Shell) (outcomes : List (Except Failure Bool)) (after : Shell) :
    Prop where
  /-- No report is about it. -/
  reports : before.reporter.NeverSays "found end of file" after.reporter
  /-- No failure that is passed on is about it. -/
  outcomes : ∀ failure, .error failure ∈ outcomes → failure.isUnfinished = false

namespace AnswersCode

theorem nil (shell : Shell) : AnswersCode shell [] shell := ⟨.quiet rfl, by simp⟩

theorem cons {before middle after : Shell} {outcome : Except Failure Bool}
    {outcomes : List (Except Failure Bool)} (first : AnswersCode before [outcome] middle)
    (later : AnswersCode middle outcomes after) :
    AnswersCode before (outcome :: outcomes) after where
  reports := first.reports.trans later.reports
  outcomes := by
    intro failure member
    rcases List.mem_cons.mp member with rfl | member
    · exact first.outcomes failure List.mem_cons_self
    · exact later.outcomes failure member

/-- A failure of code is handled without such a word if it has no such word itself. -/
theorem runCode_of_error {shell after : Shell} {code : String} {failure : Failure}
    (executed : shell.execute code = (.error failure, after))
    (told : shell.reporter.NeverSays "found end of file" after.reporter)
    (finished : failure.isUnfinished = false)
    (other : ∀ notice ∈ failure.notice?, ¬ notice.Begins "found end of file") :
    AnswersCode shell [(shell.runCode code).1] (shell.runCode code).2 := by
  rw [Shell.runCode_of_error executed]
  refine ⟨told.trans (.handle _ other), fun left is_left => ?_⟩
  rw [List.mem_singleton] at is_left
  cases passed : (after.reporter.handle failure).1 with
  | ok => rw [passed] at is_left; cases is_left
  | error remaining =>
      rw [passed] at is_left
      cases is_left
      exact Reporter.handle_isUnfinished finished passed

theorem runCode (shell : Shell) {code : String} (closed : isUnclosed code = false) :
    AnswersCode shell [(shell.runCode code).1] (shell.runCode code).2 := by
  have told := shell.session.run_neverSays shell.reporter code
  obtain ⟨text, executed | ⟨cause, executed⟩⟩ := shell.execute_cases code
  · cases outcome : (shell.session.run shell.reporter code).1 with
    | ok =>
        rw [outcome] at executed
        rw [runCode_of_ok executed]
        exact ⟨told, by simp⟩
    | error failure =>
        have finished : failure.isUnfinished = false := Session.run_isUnfinished closed outcome
        rw [outcome] at executed
        refine runCode_of_error executed told finished fun notice member begins => ?_
        have unfinished :=
          (Failure.begins_iff_of_run (Session.failure_of_run outcome)).mp ⟨notice, member, begins⟩
        rw [finished] at unfinished
        cases unfinished
  · exact runCode_of_error executed told rfl fun _ => Failure.not_begins_internal

/-- No line is answered with a word about code that ends too early. -/
theorem step (shell : Shell) (line : String) :
    AnswersCode shell [(shell.step line).1] (shell.step line).2 := by
  have taken := shell.takes_step line
  generalize shell.step line = result at taken ⊢
  cases taken with
  | held unclosed => exact ⟨.quiet rfl, by simp⟩
  | ran closed =>
      have ran := runCode { shell with pending := "", prompt := primaryPrompt } closed
      exact ⟨ran.reports, ran.outcomes⟩
  | answered leave text => exact ⟨.quiet rfl, by simp⟩
  | unlisted member fault text =>
      refine ⟨.quiet rfl, fun failure failed => ?_⟩
      cases List.mem_singleton.mp failed
      rfl
  | warned argument =>
      have other : ¬ (exitNotice argument).Begins "found end of file" :=
        Notice.not_begins_of_message (by decide) _
      exact ⟨Reporter.NeverSays.warn _ other, by simp⟩

/-- No sequence of lines is. -/
theorem feed (shell : Shell) (lines : List String) :
    AnswersCode shell (shell.feed lines).1 (shell.feed lines).2 := by
  induction lines generalizing shell with
  | nil => exact nil shell
  | cons line lines ih => exact (step shell line).cons (ih (shell.step line).2)

end AnswersCode
end Shell

/-- Counting brackets never hands over unfinished code and never holds back finished code.  A text
whose brackets are closed is not complained about for its end in any session, and a text that is
read to its end without an error has closed brackets.  Whatever lines a shell is fed with, no report
and no failure that is passed on is about code that ends too early. -/
theorem brackets_tell_finished (text : String) :
    (isUnclosed text = false → ∀ (session : Session) (reporter : Reporter) (expected : String),
      (session.run reporter text).1 ≠ .error (.syntactic (.unexpectedEnd expected))) ∧
    (∀ limit, (∀ read ∈ (Reader.ofText text).readAll limit, ∃ tree, read = .ok tree) →
      isUnclosed text = false) ∧
    ∀ (shell : Shell) (lines : List String),
      shell.reporter.NeverSays "found end of file" (shell.feed lines).2.reporter ∧
        ∀ expected, .error (.syntactic (.unexpectedEnd expected)) ∉ (shell.feed lines).1 := by
  refine ⟨?_, ?_, fun shell lines => ?_⟩
  · intro closed session reporter expected fails
    have finished := Session.run_isUnfinished closed fails
    cases finished
  · intro limit whole
    have nothing_open := Reader.openBrackets_of_readAll whole
    simp only [Cursor.ofText] at nothing_open
    rw [Bool.eq_false_iff, ne_eq, isUnclosed_iff]
    omega
  · have answered := Shell.AnswersCode.feed shell lines
    refine ⟨answered.reports, fun expected member => ?_⟩
    have finished := answered.outcomes _ member
    cases finished

/-- A bracket in a comment is not counted, and a closing bracket too many does not make a text
unfinished. -/
theorem brackets_tell_finished_comment :
    isUnclosed "; (\n+" = false ∧ isUnclosed ") (" = false ∧
      (Reader.ofText "; (\n+").readAll 1 = [.ok (.identifier ⟨2, 1⟩ "+")] ∧
      (Session.run ⟨Session.commandLinePath, true, "", .initial, [], .standard⟩ (.new false false)
        ") (").1 ≠ .error (.syntactic (.unexpectedEnd "`)`")) := by
  have read : Reader.readExpr 1 (.ofText "; (\n+") =
      (.ok (some (.identifier ⟨2, 1⟩ "+")), ⟨⟨[], ⟨2, 2⟩, 5⟩, none⟩) := by
    rw [Reader.ofText, Reader.readExpr_eq, Reader.readFrom_eq]
    rfl
  have nothing : Reader.readExpr 1 ⟨⟨[], ⟨2, 2⟩, 5⟩, none⟩ =
      (.ok none, ⟨⟨[], ⟨2, 2⟩, 5⟩, none⟩) := by
    rw [Reader.readExpr_eq, Reader.readFrom_eq]
    rfl
  have whole : (Reader.ofText "; (\n+").readAll 1 = [.ok (.identifier ⟨2, 1⟩ "+")] := by
    rw [Reader.readAll_of_some read, Reader.readAll_of_none nothing]
  refine ⟨(brackets_tell_finished "; (\n+").2.1 1 (by simp [whole]), by decide, whole, ?_⟩
  exact (brackets_tell_finished ") (").1 (by decide) _ _ _

end DynLisp
