import DynLisp.Proofs.Lengths
import DynLisp.Proofs.LineFeeding
import DynLisp.Proofs.ShellSteps
import DynLisp.Proofs.Soundness
import DynLisp.Proofs.Unfinished

/-!
# Which failures escape

Whatever is run, a failure is an error of the language that the user is told of, with one exception:
a run of more than `digitLimit` digits is no readable number, whatever its value, and its failure is
passed on as a fault of the interpreter.  The shell answers every line but those whose code holds
such a run, as long as there is room for twice of what has been typed.
-/

namespace DynLisp

/-- Whether in a text there is a run of digits that is too long to be read. -/
def HasLongDigits (text : String) : Prop :=
  ∃ front digits tail, text.toList = front ++ (digits ++ tail) ∧
    (∀ character ∈ digits, Text.isDigit character = true) ∧
    (∀ character ∈ tail.head?, Text.isDigit character = false) ∧ digitLimit < digits.length

/-- Whether a position lies in a text or immediately behind it. -/
def Position.IsWithin (position : Position) (text : String) : Prop :=
  ∃ front rest, text.toList = front ++ rest ∧ position = .behind front

theorem Position.IsWithin.bounds {position : Position} {text : String}
    (within : position.IsWithin text) :
    1 ≤ position.line ∧ 1 ≤ position.column ∧ position.column ≤ text.length + 1 := by
  obtain ⟨front, rest, text_eq, rfl⟩ := within
  obtain ⟨line, column, most⟩ := behind_bounds front
  have length : front.length ≤ text.length := by
    rw [← String.length_toList, text_eq, List.length_append]
    exact Nat.le_add_right _ _
  refine ⟨line, column, ?_⟩
  omega

theorem HasLexeme.position_isWithin {text : String} {token : Token}
    (stands : HasLexeme text (.ok token)) : token.position.IsWithin text := by
  obtain ⟨front, lexeme, tail, text_eq, lexes⟩ := stands
  exact ⟨front, lexeme ++ tail, text_eq, lexes.position_eq⟩

theorem HasLexeme.text_length_le {text : String} {token : Token}
    (stands : HasLexeme text (.ok token)) : token.text.length ≤ text.length := by
  obtain ⟨front, lexeme, tail, text_eq, lexes⟩ := stands
  have shorter := lexes.text_length_le.2
  rw [← String.length_toList (s := text), text_eq]
  simp only [List.length_append]
  omega

theorem Expr.ReadFrom.position_isWithin {tree : Expr} {text : String} (read : tree.ReadFrom text) :
    tree.position.IsWithin text := by
  obtain ⟨token, opening, stands⟩ := read.opening
  rw [← Expr.position_of_opening opening]
  exact stands.position_isWithin

namespace Notice

/-- A notice about a stretch of a text can be reported where there is room for the text twice. -/
theorem isReportable_spanning (message : Message) {position : Position} {text : String}
    (within : position.IsWithin text) {span : Int} (narrow : span ≤ 2 * text.length + 1)
    {room : Nat} (enough : 2 * text.length ≤ room) :
    ((ofMessage message).spanning (some position) span).IsReportable room := by
  obtain ⟨line, least, most⟩ := within.bounds
  refine ⟨fun color platform => ⟨_, shown_ofMessage message color platform⟩, ?_, ?_, ?_⟩
  · rintro _ ⟨⟩
    exact line
  · rintro _ ⟨⟩
    exact ⟨least, by omega⟩
  · simp only [spanning]
    omega

/-- A notice about no place can be reported anywhere. -/
theorem isReportable_ofMessage (message : Message) (room : Nat) :
    (ofMessage message).IsReportable room :=
  ⟨fun color platform => ⟨_, shown_ofMessage message color platform⟩, nofun, nofun, Nat.le_refl 1,
    Nat.succ_le_succ (Nat.zero_le _)⟩

theorem IsReportable.withoutSource {notice : Notice} {room : Nat}
    (reportable : notice.IsReportable room) : notice.withoutSource.IsReportable room :=
  ⟨reportable.shown, reportable.line, reportable.column, reportable.span⟩

theorem IsReportable.passedOn {notice : Notice} {room : Nat}
    (reportable : notice.IsReportable room) : notice.passedOn.IsReportable room := by
  refine ⟨reportable.shown, reportable.line, reportable.column, ?_⟩
  have span := reportable.span
  simp only [Notice.passedOn, spanning]
  omega

end Notice

/-- An error of the lexer can be reported, or it is an unreadable number. -/
theorem LexError.notice_cases {text : String} {error : LexError}
    (stands : HasLexeme text (.error error)) :
    (∃ notice, error.notice = .ok notice ∧
        ∀ room, 2 * text.length ≤ room → notice.IsReportable room) ∨
      ∃ cause, error = .unreadable cause ∧ HasLongDigits text := by
  obtain ⟨front, lexeme, tail, text_eq, lexes⟩ := stands
  have within : (Position.behind front).IsWithin text := ⟨front, lexeme ++ tail, text_eq, rfl⟩
  have length : lexeme.length ≤ text.length := by
    rw [← String.length_toList, text_eq]
    simp only [List.length_append]
    omega
  cases lexes with
  | tooLarge cause digits ends short large =>
      refine Or.inl ⟨_, rfl, fun _ => Notice.isReportable_spanning _ within ?_⟩
      omega
  | unreadable cause digits ends long =>
      exact Or.inr ⟨cause, rfl, front, _, tail, text_eq, digits, ends, long⟩
  | unexpected left right no_name no_digit =>
      refine Or.inl ⟨_, rfl, fun _ => Notice.isReportable_spanning _ within ?_⟩
      omega

/-- A parse error can be reported, or an unreadable number has caused it. -/
theorem ParseError.notice_cases {text : String} {error : ParseError}
    (stands : error.StandsIn text) :
    (∃ notice, error.notice = .ok notice ∧
        ∀ room, 2 * text.length ≤ room → notice.IsReportable room) ∨
      ∃ cause, error = .lexical (.unreadable cause) ∧ HasLongDigits text := by
  cases error with
  | unexpectedToken token =>
      have length := HasLexeme.text_length_le stands
      have within := HasLexeme.position_isWithin stands
      obtain ⟨front, lexeme, tail, text_eq, lexes⟩ := stands
      refine Or.inl ⟨_, lexes.notice_unexpectedToken,
        fun _ => Notice.isReportable_spanning _ within ?_⟩
      omega
  | unexpectedExpression tree =>
      have length := Expr.ReadFrom.source_length_lt stands
      have within := Expr.ReadFrom.position_isWithin stands
      refine Or.inl ⟨_, Expr.ReadFrom.notice_unexpectedExpression stands,
        fun _ => Notice.isReportable_spanning _ within ?_⟩
      omega
  | unexpectedEnd expected =>
      exact Or.inl ⟨_, rfl, fun room _ => Notice.isReportable_ofMessage _ room⟩
  | lexical error =>
      rcases LexError.notice_cases stands with ⟨notice, said, reportable⟩ | ⟨cause, rfl, long⟩
      · refine Or.inl ⟨notice.passedOn, ?_, fun room enough => (reportable room enough).passedOn⟩
        simp only [ParseError.notice, said]
        rfl
      · exact Or.inr ⟨cause, rfl, long⟩
  | tooDeep position =>
      have within := HasLexeme.position_isWithin stands
      refine Or.inl ⟨_, rfl, fun _ => Notice.isReportable_spanning _ within ?_⟩
      omega
  | stackExhausted => exact stands.elim

/-- An error of the language that the evaluation of an expression of a text raises can be
reported. -/
theorem Task.Raises.exists_notice {task : Task} {error : EvalError} (raises : task.Raises error)
    (language : error.isOfLanguage = true) {text : String} (read : task.tree.ReadFrom text) :
    ∃ notice, error.notice = .ok notice ∧
      ∀ room, 2 * text.length ≤ room → notice.IsReportable room := by
  have within := read.position_isWithin
  have exhausted : ∃ notice, EvalError.stackExhausted.notice = .ok notice ∧
      ∀ room, 2 * text.length ≤ room → notice.IsReportable room :=
    ⟨_, rfl, fun room _ => (Notice.isReportable_ofMessage _ room).withoutSource⟩
  cases raises with
  | exhausted => exact exhausted
  | uncalled => exact exhausted
  | unpassed => exact exhausted
  | unknown =>
      have length := read.source_length_lt
      refine ⟨_, rfl, fun _ => Notice.isReportable_spanning _ within ?_⟩
      simp only [Expr.source] at length
      omega
  | unknownCallee =>
      have length := read.source_length_lt
      have words := length_words
      refine ⟨_, rfl, fun _ => Notice.isReportable_spanning _ within ?_⟩
      simp only [Expr.source, String.length_append, length_spaced] at length
      omega
  | mismatch =>
      refine ⟨_, rfl, fun _ => Notice.isReportable_spanning _ within ?_⟩
      omega
  | arity =>
      refine ⟨_, rfl, fun _ => Notice.isReportable_spanning _ within ?_⟩
      omega
  | refused passes refuses =>
      cases Builtin.result_refuses refuses with
      | arity => exact ⟨_, rfl, fun room _ => Notice.isReportable_ofMessage _ room⟩
      | type => exact ⟨_, rfl, fun room _ => Notice.isReportable_ofMessage _ room⟩
      | unprintable => cases language
  | hole => cases read.wellFormed

/-- Whether an expression is read from one of some texts. -/
def Expr.ReadAmong (texts : String → Prop) (tree : Expr) : Prop :=
  ∃ text, texts text ∧ tree.ReadFrom text

/-- The discipline that all code comes from some texts, and so is sound. -/
def Discipline.among (texts : String → Prop) : Discipline :=
  (inherited (Expr.ReadAmong texts)).meet sound

theorem Discipline.among_lawful (texts : String → Prop) : (Discipline.among texts).Lawful :=
  .meet (inherited_lawful fun ⟨text, known, read⟩ member => ⟨text, known, read.part member⟩)
    sound_lawful

theorem Discipline.among_initial (texts : String → Prop) :
    Environment.initial.All (Discipline.among texts).values := fun name value bound =>
  ⟨inherited_initial _ name value bound, Environment.isSound_initial name value bound⟩

/-- Running one of the texts keeps the discipline. -/
theorem Machine.run_among {texts : String → Prop} {text : String} (known : texts text)
    (limits : Limits) {machine : Machine}
    (all : machine.environment.All (Discipline.among texts).values) :
    (machine.run limits (.ofText text)).Within (Discipline.among texts) machine.environment text :=
  Machine.run_within (Discipline.among_lawful texts)
    (fun _ read => ⟨⟨text, known, read⟩, read.wellFormed⟩) limits all (Reader.standsIn_ofText text)

/-- A failure that the user is told of, or else one because of an unreadable number in a text. -/
inductive Failure.Contained (text : String) (told : Notice → Prop) : Failure → Prop
  /-- A parse error is reported. -/
  | syntactic {error : ParseError} {notice : Notice} (said : error.notice = .ok notice)
      (good : told notice) : Contained text told (.syntactic error)
  /-- An evaluation error is reported, exhaustion of the stack among them. -/
  | evaluation {error : EvalError} {notice : Notice} (said : error.notice = .ok notice)
      (good : told notice) : Contained text told (.evaluation error)
  /-- An unreadable number is not. -/
  | unreadable (cause : Cause) (long : HasLongDigits text) :
      Contained text told (.syntactic (.lexical (.unreadable cause)))

/-- A text that is run after others fails in one of these ways, and its error can be reported where
there is room for each of the texts twice. -/
theorem Machine.run_contained {texts : String → Prop} {text : String} (known : texts text)
    (limits : Limits) {machine : Machine}
    (all : machine.environment.All (Discipline.among texts).values) {failure : Failure}
    (fails : (machine.run limits (.ofText text)).failure = some failure) :
    failure.Contained text fun notice =>
      ∀ room, (∀ other, texts other → 2 * other.length ≤ room) → notice.IsReportable room := by
  have within := Machine.run_among known limits all
  rcases Machine.run_failure_cases fails with ⟨error, rfl⟩ | ⟨error, rfl⟩
  · rcases ParseError.notice_cases (within.syntactic error fails) with
      ⟨notice, said, reportable⟩ | ⟨cause, rfl, long⟩
    · exact .syntactic said fun room enough => reportable room (enough text known)
    · exact .unreadable cause long
  · obtain ⟨task, admits, failed⟩ := within.evaluation error fails
    obtain ⟨origin, contains, raises⟩ := Task.exists_raises failed
    have admits := (Discipline.among_lawful texts).admits_of_contains contains admits
    obtain ⟨other, known', read⟩ := admits.tree.1
    obtain ⟨notice, said, reportable⟩ :=
      raises.exists_notice (admits.right.isOfLanguage raises) read
    exact .evaluation said fun room enough => reportable room (enough other known')

/-- The sessions that are reached from a new one by running texts and taking results. -/
inductive Session.Reached : Session → Prop
  /-- A session has begun. -/
  | new {handler reporter : Reporter} {path : String} {interactive : Bool} {opened : Opened}
      {session : Session}
      (fresh : Session.new handler path interactive opened = (.ok session, reporter)) :
      Reached session
  /-- A text has been run, whatever came of it. -/
  | run {session : Session} (earlier : session.Reached) (reporter : Reporter) (text : String) :
      Reached (session.run reporter text).2.1
  /-- The results have been taken. -/
  | pop {session : Session} (earlier : session.Reached) : Reached session.pop.2

/-- All code of such a session comes from texts. -/
theorem Session.Reached.all {session : Session} (reached : session.Reached) :
    session.machine.environment.All (Discipline.among fun _ => True).values := by
  induction reached with
  | @new handler reporter path interactive opened session fresh =>
      simp only [Session.new, Prod.mk.injEq] at fresh
      cases source : sourceText path interactive opened with
      | error failure =>
          rw [source] at fresh
          cases fresh.1
      | ok text =>
          rw [source] at fresh
          cases fresh.1
          exact Discipline.among_initial _
  | @run session earlier reporter text ih =>
      rw [run_session]
      exact (Machine.run_among trivial session.limits ih).all
  | pop earlier ih => exact ih

namespace Shell

/-- What the user has typed, with the ends of lines. -/
def typedLength : List String → Nat
  | [] => 0
  | line :: lines => line.length + 1 + typedLength lines

theorem typedLength_concat (lines : List String) (line : String) :
    typedLength (lines ++ [line]) = typedLength lines + (line.length + 1) := by
  induction lines with
  | nil => exact Nat.add_comm _ 0
  | cons first lines ih =>
      simp only [List.cons_append, typedLength, ih]
      omega

theorem continued_length_le (pending line : String) :
    (continued pending line).length ≤ pending.length + line.length + 1 := by
  have feed : "\n".length = 1 := by decide
  unfold continued
  split
  · omega
  · simp only [String.length_append, feed]
    omega

/-- An unreadable number is reported as a fault, and then its failure is passed on. -/
theorem runCode_of_unreadable {shell : Shell} (lenient : shell.reporter.fatal = false)
    {code text : String} {cause : Cause}
    (executed : shell.execute code =
      (.error (.syntactic (.lexical (.unreadable cause))), (shell.behindRun code).write text)) :
    (shell.runCode code).1 = .error (.syntactic (.lexical (.unreadable cause))) := by
  -- The fault itself can be reported, so the failure that is left is the one of the run.
  have lenient : (shell.behindRun code).reporter.fatal = false :=
    (shell.session.run_reporter_frame shell.reporter code).1.trans lenient
  have reportable := Notice.isReportable_ofMessage
    [.plain "unknown error: '", .marked cause.line, .plain "'"]
    (shell.behindRun code).reporter.platform.room
  obtain ⟨text, quotation, -, raised⟩ := Reporter.handle_of_isReportable lenient
    (show (Failure.other (Reporter.faultNotice cause)).verdict = _ from rfl)
    ⟨reportable.shown, reportable.line, reportable.column, reportable.span⟩
  rw [runCode_of_error executed, write]
  simp only [Reporter.handle, Failure.verdict, ParseError.notice, LexError.notice, Except.map,
    Verdict.ofNotice] at raised ⊢
  simp only [raised]

/-- Whether a shell deals with errors itself, shows its reports on a platform, has shown all values,
and all its code is from texts of limited length. -/
structure Bounded (shell : Shell) (platform : Platform) (bound : Nat) : Prop where
  /-- Errors are not fatal. -/
  lenient : shell.reporter.fatal = false
  /-- Reports are shown on the platform. -/
  platform : shell.reporter.platform = platform
  /-- All values have been shown. -/
  results : shell.session.results = []
  /-- No name is bound twice. -/
  distinct : shell.session.machine.environment.names.Nodup
  /-- All code is from such texts. -/
  all : shell.session.machine.environment.All
    (Discipline.among fun text => text.length ≤ bound).values

/-- Whether a shell has answered a line itself, or the code holds an unreadable number. -/
def Answers (code : String) (outcome : Except Failure Bool) : Prop :=
  (∃ leave, outcome = .ok leave) ∨
    ∃ cause, outcome = .error (.syntactic (.lexical (.unreadable cause))) ∧ HasLongDigits code

/-- Whether a shell has reported a notice about code and goes on. -/
def Reports (shell : Shell) (code : String) (notice : Notice)
    (result : Except Failure Bool × Shell) : Prop :=
  ∃ text quotation, notice.shown shell.reporter.color shell.reporter.platform = .ok text ∧
    result.1 = .ok false ∧ result.2.reporter.written = shell.reporter.written ++
      ((shell.reporter.registerSource shell.session.path code).headline .error notice text ++
        quotation)

namespace Bounded

variable {shell : Shell} {platform : Platform} {bound : Nat}

/-- What is pending, the prompt and what has been written make no difference. -/
theorem of_eq (bounded : shell.Bounded platform bound) {shell' : Shell}
    (fatal : shell'.reporter.fatal = shell.reporter.fatal)
    (same_platform : shell'.reporter.platform = shell.reporter.platform)
    (results : shell'.session.results = shell.session.results)
    (environment : shell'.session.machine.environment = shell.session.machine.environment) :
    shell'.Bounded platform bound := by
  refine ⟨fatal.trans bounded.lenient, same_platform.trans bounded.platform,
    results.trans bounded.results, ?_, ?_⟩
  · rw [environment]
    exact bounded.distinct
  · rw [environment]
    exact bounded.all

/-- No value and no name of such a shell is beyond what can be shown. -/
theorem not_unlisted (bounded : shell.Bounded platform bound) {binding : String × Value}
    (member : binding ∈ shell.session.machine.environment.bindings) :
    binding.2.textFault? = none :=
  Value.textFault?_of_isSound (bounded.all.of_mem bounded.distinct member).2

theorem runCode (bounded : shell.Bounded platform bound) {code : String}
    (short : code.length ≤ bound) : (shell.runCode code).2.Bounded platform bound := by
  have frame := shell.runFrame_runCode code
  have ran := Machine.run_among short shell.session.limits bounded.all
  refine ⟨frame.fatal.trans bounded.lenient, frame.platform.trans bounded.platform, frame.results,
    ?_, ?_⟩
  · rw [frame.environment]
    exact ran.change.2 bounded.distinct
  · rw [frame.environment]
    exact ran.all

/-- Code fails as its run does, for all values can be shown. -/
theorem execute (bounded : shell.Bounded platform bound) {code : String}
    (short : code.length ≤ bound) :
    ∃ text, shell.execute code =
      ((shell.session.run shell.reporter code).1, (shell.behindRun code).write text) := by
  have ran := Machine.run_among short shell.session.limits bounded.all
  refine ⟨_, execute_of_shown fun value member => ?_⟩
  rw [Session.run_session, bounded.results] at member
  exact Value.textFault?_of_isSound (ran.values value member).2

theorem contained (bounded : shell.Bounded platform bound) {code : String}
    (short : code.length ≤ bound) (room : 2 * bound ≤ platform.room) {failure : Failure}
    (fails : (shell.session.run shell.reporter code).1 = .error failure) :
    failure.Contained code fun notice => notice.IsReportable platform.room := by
  have lengths (other : String) (limited : other.length ≤ bound) :
      2 * other.length ≤ platform.room := by omega
  cases Machine.run_contained short shell.session.limits bounded.all
    (Session.failure_of_run fails) with
  | syntactic said reportable => exact .syntactic said (reportable _ lengths)
  | evaluation said reportable => exact .evaluation said (reportable _ lengths)
  | unreadable cause long => exact .unreadable cause long

theorem reports_of_isReportable (bounded : shell.Bounded platform bound) {code : String}
    (short : code.length ≤ bound) {failure : Failure}
    (fails : (shell.session.run shell.reporter code).1 = .error failure) {notice : Notice}
    (verdict : failure.verdict = .report notice) (reportable : notice.IsReportable platform.room) :
    shell.Reports code notice (shell.runCode code) := by
  obtain ⟨written, executed⟩ := bounded.execute short
  rw [fails] at executed
  have running : (shell.behindRun code).reporter =
      shell.reporter.registerSource shell.session.path code := Session.run_reporter_of_error fails
  have lenient : (shell.reporter.registerSource shell.session.path code).fatal = false :=
    bounded.lenient
  obtain ⟨text, quotation, shown, handled⟩ :=
    Reporter.handle_of_isReportable lenient verdict (bounded.platform ▸ reportable)
  refine ⟨text, quotation, shown, ?_⟩
  rw [runCode_of_error executed, write, running, handled]
  exact ⟨rfl, String.append_assoc⟩

/-- An error of the code is reported. -/
theorem reports (bounded : shell.Bounded platform bound) {code : String}
    (short : code.length ≤ bound) (room : 2 * bound ≤ platform.room) {failure : Failure}
    (fails : (shell.session.run shell.reporter code).1 = .error failure) {notice : Notice}
    (verdict : failure.verdict = .report notice) :
    shell.Reports code notice (shell.runCode code) := by
  refine bounded.reports_of_isReportable short fails verdict ?_
  cases bounded.contained short room fails with
  | syntactic said reportable =>
      simp only [Failure.verdict, said, Verdict.ofNotice, Verdict.report.injEq] at verdict
      exact verdict ▸ reportable
  | evaluation said reportable =>
      simp only [Failure.verdict, said, Verdict.ofNotice, Verdict.report.injEq] at verdict
      exact verdict ▸ reportable
  | unreadable cause long => cases verdict

/-- Code is answered, whatever comes of it. -/
theorem runCode_answers (bounded : shell.Bounded platform bound) {code : String}
    (short : code.length ≤ bound) (room : 2 * bound ≤ platform.room) :
    Answers code (shell.runCode code).1 := by
  obtain ⟨written, executed⟩ := bounded.execute short
  cases outcome : (shell.session.run shell.reporter code).1 with
  | ok =>
      rw [outcome] at executed
      exact Or.inl ⟨false, by rw [runCode_of_ok executed]⟩
  | error failure =>
      have told (notice : Notice) (verdict : failure.verdict = .report notice) :
          Answers code (shell.runCode code).1 := by
        obtain ⟨_, _, -, answered, -⟩ := bounded.reports short room outcome verdict
        exact Or.inl ⟨false, answered⟩
      cases bounded.contained short room outcome with
      | @syntactic error notice said reportable =>
          exact told notice (by simp only [Failure.verdict, said, Verdict.ofNotice])
      | @evaluation error notice said reportable =>
          exact told notice (by simp only [Failure.verdict, said, Verdict.ofNotice])
      | unreadable cause long =>
          rw [outcome] at executed
          exact Or.inr ⟨cause, runCode_of_unreadable bounded.lenient executed, long⟩

/-- Every line is answered, and leaves a shell of the same sort. -/
theorem step (bounded : shell.Bounded platform bound) {line : String}
    (short : shell.pending.length + line.length + 1 ≤ bound) :
    (shell.step line).2.Bounded platform bound ∧
      (shell.step line).2.pending.length ≤ shell.pending.length + line.length + 1 ∧
      (2 * bound ≤ platform.room →
        Answers (continued shell.pending line) (shell.step line).1) := by
  have length := continued_length_le shell.pending line
  have code_short := Nat.le_trans length short
  have unchanged : shell.pending.length ≤ shell.pending.length + line.length + 1 := by omega
  have taken := shell.takes_step line
  generalize shell.step line = result at taken ⊢
  cases taken with
  | held unclosed =>
      exact ⟨bounded.of_eq rfl rfl rfl rfl, length, fun _ => Or.inl ⟨false, rfl⟩⟩
  | ran closed =>
      have cleared : Bounded { shell with pending := "", prompt := primaryPrompt } platform bound :=
        bounded.of_eq rfl rfl rfl rfl
      refine ⟨cleared.runCode code_short, ?_, cleared.runCode_answers code_short⟩
      rw [(runFrame_runCode _ _).pending]
      exact Nat.zero_le _
  | answered leave text =>
      exact ⟨bounded.of_eq rfl rfl rfl rfl, unchanged, fun _ => Or.inl ⟨leave, rfl⟩⟩
  | unlisted member fault text =>
      rw [bounded.not_unlisted member] at fault
      cases fault
  | warned argument =>
      obtain ⟨text, warned⟩ := shell.reporter.exists_warn_eq_write (exitNotice argument)
      rw [warned]
      exact ⟨bounded.of_eq rfl rfl rfl rfl, unchanged, fun _ => Or.inl ⟨false, rfl⟩⟩

/-- However many lines have been fed, the shell is of the same sort. -/
theorem feed {lines : List String} (bounded : shell.Bounded platform bound)
    (short : shell.pending.length + typedLength lines ≤ bound) :
    (shell.feed lines).2.Bounded platform bound ∧
      (shell.feed lines).2.pending.length ≤ shell.pending.length + typedLength lines := by
  induction lines generalizing shell with
  | nil => exact ⟨bounded, Nat.le_refl _⟩
  | cons line lines ih =>
      have typed : typedLength (line :: lines) = line.length + 1 + typedLength lines := rfl
      have room : shell.pending.length + line.length + 1 ≤ bound := by omega
      obtain ⟨next, pending, -⟩ := bounded.step room
      obtain ⟨last, shorter⟩ := ih next (by omega)
      exact ⟨last, Nat.le_trans shorter (by omega)⟩

end Bounded

theorem bounded_new {handler reporter : Reporter} {opened : Opened} {session : Session}
    (fresh : Session.new handler Session.commandLinePath true opened = (.ok session, reporter))
    (bound : Nat) : (Shell.new session reporter).Bounded handler.platform bound := by
  cases fresh
  have distinct : Environment.initial.names.Nodup := by decide
  exact ⟨rfl, rfl, rfl, distinct, Discipline.among_initial _⟩

end Shell

/-- A text of too many digits is not run. -/
theorem Session.run_of_long_digits {digits : List Char}
    (all : ∀ character ∈ digits, Text.isDigit character = true) (long : digitLimit < digits.length)
    (session : Session) (reporter : Reporter) :
    ∃ cause, (session.run reporter (String.ofList digits)).1 =
      .error (.syntactic (.lexical (.unreadable cause))) := by
  have some_digits : digits ≠ [] := List.ne_nil_of_length_pos (Nat.zero_lt_of_lt long)
  have next := Cursor.next_of_digits [] .nil some_digits all
    (show ∀ character ∈ ([] : List Char).head?, Text.isDigit character = false from nofun)
  obtain ⟨cause, read⟩ := (readLiteral_cases some_digits (.behind ([] ++ []))).1 long
  rw [read] at next
  have unread : (Reader.ofText (String.ofList digits)).readExpr session.limits.nesting =
      (.error (.lexical (.unreadable cause)), ⟨.behind ([] ++ ([] ++ digits)) [], none⟩) := by
    rw [Reader.ofText, Reader.readExpr_eq, Reader.readFrom_eq, Cursor.ofText_digits, next]
    rfl
  refine ⟨cause, ?_⟩
  rw [run_outcome, Machine.run_of_error unread]

/-- A line without blanks is one word. -/
theorem Text.firstWord?_of_solid {line : List Char} (nonempty : line ≠ [])
    (solid : ∀ character ∈ line, Text.isBlank character = false) :
    Text.firstWord? line = some (line, []) := by
  have each (character : Char) (member : character ∈ line) :
      (!Text.isBlank character) = true := by simp [solid character member]
  have whole : (line ++ []).takeWhile (!Text.isBlank ·) = line ++ [] :=
    List.takeWhile_append_of_pos each
  have nothing : (line ++ []).dropWhile (!Text.isBlank ·) = [] :=
    List.dropWhile_append_of_pos each
  rw [List.append_nil] at whole nothing
  cases line with
  | nil => exact absurd rfl nonempty
  | cons first body =>
      have blank := ne_true_of_eq_false (solid first List.mem_cons_self)
      simp only [Text.firstWord?, List.dropWhile_cons_of_neg blank, whole, nothing]

/-- No command begins with a digit. -/
theorem Command.ofWord?_of_isDigit {first : Char} (digit : Text.isDigit first = true)
    (body : List Char) : Command.ofWord? (String.ofList (first :: body)) = none := by
  have other {name : String} {letter : Char} {letters : List Char}
      (letter_first : name.toList = letter :: letters) (no_digit : Text.isDigit letter = false) :
      String.ofList (first :: body) ≠ name := by
    rintro rfl
    rw [String.toList_ofList] at letter_first
    cases letter_first
    rw [no_digit] at digit
    cases digit
  have bindings : String.ofList (first :: body) ≠ "env" := other rfl rfl
  have help : String.ofList (first :: body) ≠ "help" := other rfl rfl
  have end_of_input : String.ofList (first :: body) ≠ "EOF" := other rfl rfl
  have exit : String.ofList (first :: body) ≠ "exit" := other rfl rfl
  simp only [Command.ofWord?, bindings, help, end_of_input, exit, if_false]

/-- A line of digits is code, and complete. -/
theorem Shell.step_of_digits {shell : Shell} (idle : shell.pending = "") {digits : List Char}
    (some_digits : digits ≠ []) (all : ∀ character ∈ digits, Text.isDigit character = true) :
    shell.step (String.ofList digits) =
      Shell.runCode { shell with pending := "", prompt := primaryPrompt }
        (String.ofList digits) := by
  have part (character : Char) (member : character ∈ digits) :
      isIdentifierPart character = true := isIdentifierPart_of_isDigit (all character member)
  have closed : isUnclosed (String.ofList digits) = false := by
    rw [Bool.eq_false_iff]
    intro unclosed
    rw [isUnclosed_iff, String.toList_ofList] at unclosed
    have balance := openBrackets_word part []
    rw [List.append_nil] at balance
    rw [balance] at unclosed
    cases unclosed
  have entered : shell.enter (String.ofList digits) =
      Shell.runCode { shell with pending := "", prompt := primaryPrompt }
        (String.ofList digits) := by
    simp only [enter, idle, continued_empty, closed, Bool.false_eq_true, if_false]
  have word := Text.firstWord?_of_solid some_digits fun character member =>
    (isSolid_of_isIdentifierPart (part character member)).1
  have no_command : Command.ofWord? (String.ofList digits) = none := by
    cases digits with
    | nil => exact absurd rfl some_digits
    | cons first body => exact Command.ofWord?_of_isDigit (all first List.mem_cons_self) body
  simp only [step, idle, ne_eq, not_true_eq_false, false_and, if_false, String.toList_ofList,
    word, no_command, entered]

/-- Only numbers of too many digits escape, whatever the text is.  Running it in any session
finishes, or fails with an error of the language, or fails because the text holds a run of more than
`digitLimit` digits.  Such a run at the beginning of a token is not read whatever its value; a
shorter one is an integer or an error of the lexer according to its value.  The shell answers the
text as a line unless the code holds such a run, as long as there is room for twice of what has been
typed: it reports the error and goes on. -/
theorem only_long_digits_escape (text : String) :
    (∀ session : Session, session.Reached → ∀ (reporter : Reporter) (failure : Failure),
      (session.run reporter text).1 = .error failure → failure.Contained text fun _ => True) ∧
    (∀ front gap digits tail : List Char, text.toList = front ++ (gap ++ (digits ++ tail)) →
      Gap gap → digits ≠ [] → (∀ character ∈ digits, Text.isDigit character = true) →
      (∀ character ∈ tail.head?, Text.isDigit character = false) →
      ∃ result, (Cursor.behind front (gap ++ (digits ++ tail))).next =
          (result, .behind (front ++ (gap ++ digits)) tail) ∧
        (digitLimit < digits.length → ∃ cause, result = .error (.unreadable cause)) ∧
        (digits.length ≤ digitLimit → Nat.ofDigitChars 10 digits 0 ≤ greatestLiteral →
          result = .ok (some ⟨.integer (Nat.ofDigitChars 10 digits 0), .behind (front ++ gap)⟩)) ∧
        (digits.length ≤ digitLimit → greatestLiteral < Nat.ofDigitChars 10 digits 0 →
          ∃ cause, result = .error (.other cause (.behind (front ++ gap)) digits.length))) ∧
    ∀ (handler reporter : Reporter) (opened : Opened) (session : Session),
      Session.new handler Session.commandLinePath true opened = (.ok session, reporter) →
      ∀ lines : List String, 2 * Shell.typedLength (lines ++ [text]) ≤ handler.platform.room →
        ∀ (shell : Shell) (code : String), ((Shell.new session reporter).feed lines).2 = shell →
          continued shell.pending text = code →
          Shell.Answers code (shell.step text).1 ∧
            ∀ (failure : Failure) (notice : Notice),
              (shell.session.run shell.reporter code).1 = .error failure →
              failure.verdict = .report notice →
              shell.Reports code notice (shell.runCode code) := by
  refine ⟨?_, ?_, ?_⟩
  · intro session reached reporter failure fails
    rw [Session.run_outcome] at fails
    split at fails
    next failure' failed =>
      cases fails
      cases Machine.run_contained trivial session.limits reached.all failed with
      | syntactic said _ => exact .syntactic said trivial
      | evaluation said _ => exact .evaluation said trivial
      | unreadable cause long => exact .unreadable cause long
    next => cases fails
  · intro front gap digits tail _ closed some_digits all ends
    obtain ⟨long, fits, large⟩ := readLiteral_cases some_digits (.behind (front ++ gap))
    refine ⟨_, Cursor.next_of_digits front closed some_digits all ends, ?_, ?_, ?_⟩
    · intro beyond
      obtain ⟨cause, read⟩ := long beyond
      exact ⟨cause, by rw [read]; rfl⟩
    · intro short small
      rw [fits short small]
      rfl
    · intro short great
      obtain ⟨cause, read⟩ := large short great
      exact ⟨cause, by rw [read]; rfl⟩
  · rintro handler reporter opened session fresh lines memory shell code rfl rfl
    have typed := Shell.typedLength_concat lines text
    obtain ⟨bounded, pending⟩ :=
      (Shell.bounded_new fresh (Shell.typedLength (lines ++ [text]))).feed
        (show "".length + Shell.typedLength lines ≤ _ by rw [typed, String.length_empty]; omega)
    have empty : (Shell.new session reporter).pending.length = 0 := String.length_empty
    have short : ((Shell.new session reporter).feed lines).2.pending.length + text.length + 1 ≤
        Shell.typedLength (lines ++ [text]) := by omega
    have code_short := Nat.le_trans (Shell.continued_length_le _ text) short
    exact ⟨(bounded.step short).2.2 memory, fun failure notice fails verdict =>
      bounded.reports code_short memory fails verdict⟩

/-- An unknown name is reported at the command line, and a digit behind a bracket is a number. -/
theorem only_long_digits_escape_unknown :
    ∃ (session : Session) (reporter : Reporter),
      Session.new (.new true false) Session.commandLinePath true .missing =
        (.ok session, reporter) ∧
      (∀ failure, (session.run reporter "x").1 = .error failure →
        failure.Contained "x" fun _ => True) ∧
      (∃ result, (Cursor.behind ['('] (' ' :: (['7'] ++ [')']))).next =
          (result, .behind ['(', ' ', '7'] [')']) ∧
        result = .ok (some ⟨.integer 7, .behind ['(', ' ']⟩)) ∧
      Shell.Answers "x" ((Shell.new session reporter).step "x").1 := by
  have fresh : Session.new (.new true false) Session.commandLinePath true .missing =
      (.ok ⟨Session.commandLinePath, true, "", .initial, [], .standard⟩,
        ⟨false, false, [(Session.commandLinePath, none)], "", .ordinary⟩) := rfl
  obtain ⟨contained, -, shell⟩ := only_long_digits_escape "x"
  refine ⟨_, _, fresh, contained _ (.new fresh) _, ?_, ?_⟩
  · have ends : ∀ character ∈ [')'].head?, Text.isDigit character = false := by
      rintro _ ⟨⟩
      rfl
    obtain ⟨result, next, -, fits, -⟩ :=
      (only_long_digits_escape "( 7)").2.1 ['('] [' '] ['7'] [')'] rfl (.blank rfl .nil) (by simp)
        (List.forall_mem_singleton.mpr rfl) ends
    exact ⟨result, next, fits (by decide) (by decide)⟩
  · exact (shell _ _ _ _ fresh [] (by decide) _ _ rfl rfl).1

/-- A run of zeros that is too long is not read, although its value is zero, and a line of them
leaves the shell with a failure. -/
theorem long_zeros_escape :
    Nat.ofDigitChars 10 (List.replicate 4301 '0') 0 = 0 ∧
      (∃ cause, (Cursor.ofText (String.ofList (List.replicate 4301 '0'))).next.1 =
        .error (.unreadable cause)) ∧
      ∃ (session : Session) (reporter : Reporter) (cause : Cause),
        Session.new (.new true false) Session.commandLinePath true .missing =
          (.ok session, reporter) ∧
        ((Shell.new session reporter).step (String.ofList (List.replicate 4301 '0'))).1 =
          .error (.syntactic (.lexical (.unreadable cause))) := by
  have all : ∀ character ∈ List.replicate 4301 '0', Text.isDigit character = true := by
    intro character member
    rw [List.eq_of_mem_replicate member]
    rfl
  have long : digitLimit < (List.replicate 4301 '0').length := by
    rw [List.length_replicate]
    decide
  have some_digits : List.replicate 4301 '0' ≠ [] :=
    List.ne_nil_of_length_pos (Nat.zero_lt_of_lt long)
  refine ⟨by decide +kernel, ?_, ?_⟩
  · obtain ⟨cause, read⟩ := (readLiteral_cases some_digits (.behind ([] ++ []))).1 long
    have next := Cursor.next_of_digits [] .nil some_digits all
      (show ∀ character ∈ ([] : List Char).head?, Text.isDigit character = false from nofun)
    rw [read] at next
    exact ⟨cause, by rw [Cursor.ofText_digits, next]; rfl⟩
  · obtain ⟨cause, fails⟩ := Session.run_of_long_digits all long
      ⟨Session.commandLinePath, true, "", .initial, [], .standard⟩
      ⟨false, false, [(Session.commandLinePath, none)], "", .ordinary⟩
    refine ⟨_, _, cause, rfl, ?_⟩
    rw [Shell.step_of_digits rfl some_digits all]
    have bounded := Shell.bounded_new
      (show Session.new (.new true false) Session.commandLinePath true .missing = _ from rfl)
      (String.ofList (List.replicate 4301 '0')).length
    obtain ⟨text, executed⟩ := bounded.execute (Nat.le_refl _)
    exact Shell.runCode_of_unreadable rfl (executed.trans (congrArg (·, _) fails))

end DynLisp
