import DynLisp.Proofs.Containment
import DynLisp.Proofs.Quotation
import Mathlib.Logic.Relation

/-!
# Where a failing expression comes from

A report quotes a line of the text that is being run.  That is the line of an unknown name as long
as the failing expression is one of that text.  It may also be one of an earlier text, by way of a
function: bodies keep the positions of the text that they were read from, and the lines of that text
are not known any more when the function is called.
-/

namespace DynLisp
namespace Reporter
namespace KnowsLast

variable {reporter : Reporter} {path : String}

theorem write (knows : reporter.KnowsLast path) (text : String) :
    (reporter.write text).KnowsLast path := knows

theorem forgetSources (knows : reporter.KnowsLast path) :
    reporter.forgetSources.KnowsLast path := by
  obtain ⟨others, lines, sources, unknown⟩ := knows
  refine ⟨others.map fun other => (other.1, none), none, ?_, ?_⟩
  · simp [Reporter.forgetSources, sources]
  · simpa [Function.comp_def] using unknown

theorem hasHandled (knows : reporter.KnowsLast path) {after : Reporter}
    (handled : reporter.HasHandled after) : after.KnowsLast path := by
  obtain ⟨text, rfl | rfl⟩ := handled
  · exact knows.write text
  · exact (knows.write text).forgetSources

theorem run {session : Session} (knows : reporter.KnowsLast session.path) (text : String) :
    (session.run reporter text).2.2.KnowsLast session.path := by
  have running : (reporter.registerSource session.path text).KnowsLast session.path :=
    (knows.withLines _).1
  unfold Session.run
  simp only
  split
  · exact running
  · split
    · obtain ⟨written, warned⟩ := exists_warn_eq_write
        (reporter.registerSource session.path text) (Session.emptyNotice session.path)
      rw [warned]
      exact ((running.write written).withLines _).1
    · exact (running.withLines _).1

end KnowsLast
end Reporter

namespace Session

/-- Runs a text and handles its failure, if there is one. -/
def runGuarded (session : Session) (reporter : Reporter) (text : String) : Session × Reporter :=
  match session.run reporter text with
  | (.ok (), session, reporter) => (session, reporter)
  | (.error failure, session, reporter) => (session, (reporter.handle failure).2)

/-- Runs texts one after the other and handles the failures in between. -/
def runEach (session : Session) (reporter : Reporter) : List String → Session × Reporter
  | [] => (session, reporter)
  | text :: texts =>
      let (session, reporter) := session.runGuarded reporter text
      session.runEach reporter texts

/-- What holds between two texts: the path of the session is the one known last, and all code comes
from texts that have been run. -/
structure HasRun (texts : String → Prop) (session : Session) (reporter : Reporter) : Prop where
  /-- The path is the one known last. -/
  path : reporter.KnowsLast session.path
  /-- All code comes from the texts. -/
  all : session.machine.environment.All (Discipline.among texts).values

namespace HasRun

variable {texts : String → Prop} {session : Session} {reporter : Reporter}

theorem new {handler : Reporter} {opened : Opened}
    (fresh : Session.new handler commandLinePath true opened = (.ok session, reporter))
    (unknown : commandLinePath ∉ handler.sources.map Prod.fst) :
    HasRun texts session reporter := by
  cases fresh
  exact ⟨Reporter.knowsLast_registerFile unknown, Discipline.among_initial _⟩

theorem run (state : HasRun texts session reporter) {text : String} (known : texts text) :
    HasRun texts (session.run reporter text).2.1 (session.run reporter text).2.2 := by
  refine ⟨?_, ?_⟩
  · rw [run_session]
    exact state.path.run text
  · rw [run_session]
    exact (Machine.run_among known session.limits state.all).all

theorem runGuarded (state : HasRun texts session reporter) {text : String} (known : texts text) :
    HasRun texts (session.runGuarded reporter text).1 (session.runGuarded reporter text).2 := by
  have after := state.run known
  unfold Session.runGuarded
  split <;> rename_i ran <;> rw [ran] at after
  · exact after
  · exact ⟨after.path.hasHandled (Reporter.handle_hasHandled _ _), after.all⟩

theorem runEach {later : List String} (state : HasRun texts session reporter)
    (known : ∀ text ∈ later, texts text) :
    HasRun texts (session.runEach reporter later).1 (session.runEach reporter later).2 := by
  induction later generalizing session reporter with
  | nil => exact state
  | cons text later ih =>
      obtain ⟨first, others⟩ := List.forall_mem_cons.mp known
      exact ih (state.runGuarded first) others

end HasRun
end Session

namespace Expr

/-- Whether an expression is another one or lies inside it. -/
def Inside : Expr → Expr → Prop := Relation.ReflTransGen fun part tree => part ∈ tree.parts

theorem ReadFrom.inside {tree body : Expr} {text : String} (read : body.ReadFrom text)
    (inside : tree.Inside body) : tree.ReadFrom text := by
  induction inside using Relation.ReflTransGen.head_induction_on with
  | refl => exact read
  | head member _ ih => exact ih.part member

/-- The expressions that look up a name, with the characters that they begin with and the number of
columns that are underlined if the name is not bound. -/
inductive LooksUp (name : String) (position : Position) : Expr → List Char → Int → Prop
  /-- The name itself. -/
  | identifier : LooksUp name position (.identifier position name) name.toList name.length
  /-- A call of a function with the name. -/
  | call (arguments : List Expr) :
      LooksUp name position (.call position name arguments) ['('] (name.length + 1)

/-- Such an expression stands at its position in the text that it is read from. -/
theorem LooksUp.begins {name text : String} {position : Position} {tree : Expr} {word : List Char}
    {span : Int} (looks_up : LooksUp name position tree word span) (read : tree.ReadFrom text) :
    '\n' ∉ word ∧ word ≠ [] ∧
      ∃ front rest, text.toList = front ++ (word ++ rest) ∧ position = .behind front := by
  obtain ⟨token, opening, front, lexeme, rest, text_eq, lexes⟩ := read.opening
  cases looks_up with
  | identifier =>
      cases opening
      cases lexes with
      | @identifier first body start parts ends no_if no_define =>
          rw [String.toList_ofList]
          refine ⟨?_, List.cons_ne_nil _ _, front, rest, text_eq, rfl⟩
          have no_part : isIdentifierPart '\n' = false := by decide +kernel
          intro feed
          rcases List.mem_cons.mp feed with rfl | feed
          · cases no_part.symm.trans (Cursor.isIdentifierPart_of_start start)
          · cases no_part.symm.trans (parts _ feed)
  | call arguments =>
      cases opening
      cases lexes
      exact ⟨by decide, by decide, front, rest, text_eq, rfl⟩

end Expr

/-- Only expressions that look it up raise an error about an unknown name. -/
theorem Task.Raises.looksUp {task : Task} {name : String} {position : Position} {span : Int}
    (raises : task.Raises (.unknownVariable name position span)) :
    ∃ word, task.tree.LooksUp name position word span := by
  cases raises with
  | unknown free => exact ⟨_, .identifier⟩
  | unknownCallee free => exact ⟨_, .call _⟩
  | refused passes refuses =>
      cases Builtin.result_refuses refuses

/-- Whether an expression lies in the body of a function that is bound, and the body comes from one
of some texts. -/
def Environment.Stores (environment : Environment) (texts : String → Prop) (tree : Expr) : Prop :=
  ∃ name parameters body, environment.get? name = some (.function parameters body) ∧
    body.ReadAmong texts ∧ tree.Inside body

/-- An expression that looks up an unknown name stands in the text that is being run, or in the body
of a function that was bound before. -/
theorem Machine.run_looksUp {texts : String → Prop} {machine : Machine}
    (all : machine.environment.All (Discipline.among texts).values) (limits : Limits)
    {text name : String} {position : Position} {span : Int}
    (fails : (machine.run limits (.ofText text)).failure =
      some (.evaluation (.unknownVariable name position span))) :
    ∃ tree word, Expr.LooksUp name position tree word span ∧
      (tree.ReadFrom text ∨ machine.environment.Stores texts tree) := by
  -- Names may be bound anew during the run, so bodies are known by the bindings at its beginning.
  have lawful : (Discipline.inherited fun tree =>
      tree.ReadFrom text ∨ machine.environment.Stores texts tree).Lawful := by
    refine Discipline.inherited_lawful fun known member => ?_
    rcases known with read | ⟨function, parameters, body, bound, read, inside⟩
    · exact Or.inl (read.part member)
    · exact Or.inr ⟨function, parameters, body, bound, read, inside.head member⟩
  have begins : machine.environment.All (Discipline.inherited fun tree =>
      tree.ReadFrom text ∨ machine.environment.Stores texts tree).values := by
    intro function value bound
    cases value with
    | function parameters body =>
        exact Or.inr ⟨function, parameters, body, bound, (all function _ bound).1, .refl⟩
    | _ => trivial
  have within := Machine.run_within lawful (fun tree read => Or.inl read) limits begins
    (Reader.standsIn_ofText text)
  obtain ⟨task, admits, failed⟩ := within.evaluation _ fails
  obtain ⟨origin, contains, raises⟩ := Task.exists_raises failed
  obtain ⟨word, looks_up⟩ := raises.looksUp
  exact ⟨origin.tree, word, looks_up, (lawful.admits_of_contains contains admits).tree⟩

/-- While a text is run that fails, the line of a notice is looked up in the text. -/
theorem Session.HasRun.lineOf_eq {texts : String → Prop} {session : Session} {reporter : Reporter}
    (state : HasRun texts session reporter) {text : String} {failure : Failure}
    (fails : (session.run reporter text).1 = .error failure) {notice : Notice} {position : Position}
    (place : notice.position = some position) (first : 1 ≤ position.line) :
    (session.run reporter text).2.2.lineOf notice =
      .ok ((Text.lines text.toList)[(position.line - 1).toNat]?.map String.ofList) := by
  rw [run_reporter_of_error fails, state.path.lineOf_registerSource text place first]

/-- Where an expression stands that looks up an unknown name, and what is quoted for it. -/
inductive UnknownName (texts : List String) (text : String) (environment : Environment)
    (name : String) (position : Position) (span : Int) (quoted : Option String) : Prop
  /-- It stands in the text, and if nothing but line feeds ends a line there, its line is quoted. -/
  | current {tree : Expr} {word front rest : List Char}
      (looks_up : tree.LooksUp name position word span) (read : tree.ReadFrom text)
      (text_eq : text.toList = front ++ (word ++ rest)) (place : position = .behind front)
      (line : Text.FeedsOnly text.toList →
        quoted = some (String.ofList (Text.lastLine front ++ (word ++ Text.firstLine rest))))
  /-- It stands in an earlier text, inside the body of a function. -/
  | stored {tree body : Expr} {word front rest : List Char} {source function : String}
      {parameters : List String} (looks_up : tree.LooksUp name position word span)
      (earlier : source ∈ texts)
      (bound : environment.get? function = some (.function parameters body))
      (read : body.ReadFrom source) (inside : tree.Inside body)
      (source_eq : source.toList = front ++ (word ++ rest)) (place : position = .behind front)

/-- Texts are run at the command line one after the other, and their failures are handled in
between.  If a name is unknown then, the report quotes the line of the running text that has the
number of the position.  This is where the failing expression stands, unless it stands in an earlier
text, in the body of a function. -/
theorem Session.unknownVariable_origin {handler reporter : Reporter} {opened : Opened}
    {session : Session}
    (fresh : Session.new handler commandLinePath true opened = (.ok session, reporter))
    (unheard : commandLinePath ∉ handler.sources.map Prod.fst) {texts : List String}
    {before : Session} {between : Reporter}
    (earlier : session.runEach reporter texts = (before, between)) {text name : String}
    {position : Position} {span : Int}
    (fails : (before.run between text).1 =
      .error (.evaluation (.unknownVariable name position span))) :
    ∃ quoted,
      (before.run between text).2.2.lineOf (.unknownVariable name (some position) span) =
        .ok quoted ∧
      quoted = (Text.lines text.toList)[(position.line - 1).toNat]?.map String.ofList ∧
      UnknownName texts text before.machine.environment name position span quoted := by
  have state : HasRun (· ∈ texts) before between := by
    have begun : HasRun (· ∈ texts) session reporter := .new fresh unheard
    have ran := begun.runEach fun _ member => member
    rwa [earlier] at ran
  have located (front : List Char) (place : position = .behind front) :=
    state.lineOf_eq fails
      (show (Notice.unknownVariable name (some position) span).position = some position from rfl)
      (place ▸ (Position.behind_bounds front).1)
  have failure := fails
  rw [run_outcome] at failure
  split at failure
  next failed =>
    cases failure
    obtain ⟨tree, word, looks_up, read | stored⟩ := Machine.run_looksUp state.all _ failed
    · obtain ⟨no_feed, something, front, rest, text_eq, place⟩ := looks_up.begins read
      refine ⟨_, located front place, rfl, .current looks_up read text_eq place fun feeds => ?_⟩
      have number : (position.line - 1).toNat = front.count '\n' := by
        simp only [place, Position.behind]
        omega
      rw [text_eq] at feeds ⊢
      rw [number, feeds.lines_getElem? (by simp [something]), Text.firstLine_append no_feed]
      rfl
    · obtain ⟨function, parameters, body, bound, ⟨source, member, read⟩, inside⟩ := stored
      obtain ⟨-, -, front, rest, source_eq, place⟩ := looks_up.begins (read.inside inside)
      exact ⟨_, located front place, rfl, .stored looks_up member bound read inside source_eq place⟩
  next => cases failure

/-- The name that is unknown after a run, its position, and the number of columns to underline. -/
def Failure.unknown? : Except Failure Unit → Option (String × Position × Int)
  | .error (.evaluation (.unknownVariable name position span)) => some (name, position, span)
  | _ => none

theorem Failure.eq_error_of_unknown? {outcome : Except Failure Unit} {name : String}
    {position : Position} {span : Int} (unknown : unknown? outcome = some (name, position, span)) :
    outcome = .error (.evaluation (.unknownVariable name position span)) := by
  unfold unknown? at unknown
  split at unknown
  · cases unknown
    rfl
  · cases unknown

/-- The name stands in the second line of the running text, which is quoted.  A function has been
defined before, and a text has failed. -/
theorem Session.unknownVariable_origin_line :
    ∃ (session before : Session) (reporter between : Reporter),
      Session.new (.new true false) commandLinePath true .missing = (.ok session, reporter) ∧
      session.runEach reporter ["(define (f x) (+ x 1))", "(f"] = (before, between) ∧
      (before.run between "(f 1)\n (f y)").1 =
        .error (.evaluation (.unknownVariable "y" ⟨2, 5⟩ 1)) ∧
      (before.run between "(f 1)\n (f y)").2.2.lineOf (.unknownVariable "y" (some ⟨2, 5⟩) 1) =
        .ok (some " (f y)") ∧
      UnknownName ["(define (f x) (+ x 1))", "(f"] "(f 1)\n (f y)" before.machine.environment "y"
        ⟨2, 5⟩ 1 (some " (f y)") := by
  have fresh : Session.new (.new true false) commandLinePath true .missing =
      (.ok ⟨commandLinePath, true, "", .initial, [], .standard⟩,
        ⟨false, false, [(commandLinePath, none)], "", .ordinary⟩) := rfl
  have unknown :
      let ran := runEach ⟨commandLinePath, true, "", .initial, [], .standard⟩
        ⟨false, false, [(commandLinePath, none)], "", .ordinary⟩ ["(define (f x) (+ x 1))", "(f"]
      Failure.unknown? (ran.1.run ran.2 "(f 1)\n (f y)").1 = some ("y", ⟨2, 5⟩, 1) := by
    decide +kernel
  have fails := Failure.eq_error_of_unknown? unknown
  refine ⟨_, _, _, _, fresh, rfl, fails, ?_⟩
  obtain ⟨quoted, located, line, origin⟩ :=
    unknownVariable_origin fresh (by decide) rfl fails
  obtain rfl : quoted = some " (f y)" := line.trans (by decide)
  exact ⟨located, origin⟩

/-- The body of a function holds an unknown name.  If the function is called from another text, the
position is that of the name in the first text, whereas the line is one of the second, in which
something else stands there. -/
theorem Session.unknownVariable_misquoted :
    ∃ (session before : Session) (reporter between : Reporter),
      Session.new (.new true false) commandLinePath true .missing = (.ok session, reporter) ∧
      session.runEach reporter ["(define (f) y)"] = (before, between) ∧
      (before.run between "(print 1) (f)").1 =
        .error (.evaluation (.unknownVariable "y" ⟨1, 13⟩ 1)) ∧
      (before.run between "(print 1) (f)").2.2.lineOf (.unknownVariable "y" (some ⟨1, 13⟩) 1) =
        .ok (some "(print 1) (f)") ∧
      ∀ front rest, "(print 1) (f)".toList = front ++ rest → Position.behind front = ⟨1, 13⟩ →
        rest = [')'] := by
  have fresh : Session.new (.new true false) commandLinePath true .missing =
      (.ok ⟨commandLinePath, true, "", .initial, [], .standard⟩,
        ⟨false, false, [(commandLinePath, none)], "", .ordinary⟩) := rfl
  have unknown :
      let ran := runEach ⟨commandLinePath, true, "", .initial, [], .standard⟩
        ⟨false, false, [(commandLinePath, none)], "", .ordinary⟩ ["(define (f) y)"]
      Failure.unknown? (ran.1.run ran.2 "(print 1) (f)").1 = some ("y", ⟨1, 13⟩, 1) := by
    decide +kernel
  have fails := Failure.eq_error_of_unknown? unknown
  refine ⟨_, _, _, _, fresh, rfl, fails, ?_⟩
  have begun : HasRun (fun _ => True) _ _ := .new fresh (by decide)
  have located := (begun.runEach fun _ _ => trivial).lineOf_eq fails
    (show (Notice.unknownVariable "y" (some ⟨1, 13⟩) 1).position = some ⟨1, 13⟩ from rfl)
    (by decide)
  refine ⟨located, fun front rest text_eq place => ?_⟩
  have places : ∀ count ≤ 13, Position.behind ("(print 1) (f)".toList.take count) = ⟨1, 13⟩ →
      "(print 1) (f)".toList.drop count = [')'] := by decide
  have length : front.length ≤ 13 := by
    have total := congrArg List.length text_eq
    rw [List.length_append] at total
    have : "(print 1) (f)".toList.length = 13 := by decide
    omega
  have behind := places front.length length
  rw [text_eq, List.take_left, List.drop_left] at behind
  exact behind place

end DynLisp
