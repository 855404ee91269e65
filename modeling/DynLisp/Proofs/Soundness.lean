import DynLisp.Proofs.Sources

/-!
# Sound values

A value is sound if it is a signed 64-bit integer, a builtin function, or a function whose
parameters are names and whose body is well-formed.  Expressions that are read from texts make sound
values only, in whatever order they are evaluated, whatever the budgets, and whatever fails in
between.  This holds at every point of every evaluation: for what is bound, for what is passed to
builtin functions, and for what comes out.  Nothing that cannot be evaluated or printed is ever met,
and no name is bound twice.
-/

namespace DynLisp

/-- Whether a value is an integer in the signed 64-bit range, a builtin function, or a function that
a program can define. -/
def Value.isSound : Value → Bool
  | integer value => -0x8000000000000000 ≤ value && value ≤ 0x7FFFFFFFFFFFFFFF
  | function parameters body => parameters.all isName && body.wellFormed
  | builtin _ => true

/-- Whether all values that are bound are sound. -/
def Environment.IsSound (environment : Environment) : Prop :=
  environment.All fun value => value.isSound = true

theorem Environment.isSound_initial : Environment.initial.IsSound := by
  intro name value bound
  obtain ⟨builtin, rfl⟩ := get?_initial bound
  rfl

theorem isSound_integer_iff (value : Int) :
    (Value.integer value).isSound = true ↔
      -0x8000000000000000 ≤ value ∧ value ≤ 0x7FFFFFFFFFFFFFFF := by
  simp only [Value.isSound, Bool.and_eq_true, decide_eq_true_eq]

/-- A sound value has few digits. -/
theorem Value.textFault?_of_isSound {value : Value} (sound : value.isSound = true) :
    value.textFault? = none := by
  cases value with
  | integer number =>
      obtain ⟨least, most⟩ := (isSound_integer_iff number).mp sound
      exact Text.numeralFault?_of_word least most
  | _ => rfl

theorem isSound_wrap (number : Int) : (Value.integer (wrap number)).isSound = true := by
  have lower := Int.le_bmod (x := number) (m := 0x10000000000000000) (by decide)
  have upper := Int.bmod_lt (x := number) (m := 0x10000000000000000) (by decide)
  rw [isSound_integer_iff, wrap]
  omega

theorem isSound_ofBool (truth : Bool) : (Value.ofBool truth).isSound = true := by
  cases truth <;> rfl

namespace Builtin

theorem arithmetic_isSound {builtin : Builtin} {operation : Int → Int → Int}
    {arguments : List Value} {value : Value}
    (computed : builtin.arithmetic operation arguments = .ok value) : value.isSound = true := by
  unfold arithmetic at computed
  split at computed <;> cases computed
  exact isSound_wrap _

theorem comparison_isSound {builtin : Builtin} {relation : Int → Int → Bool}
    {arguments : List Value} {value : Value}
    (computed : builtin.comparison relation arguments = .ok value) : value.isSound = true := by
  unfold comparison at computed
  split at computed <;> cases computed
  · exact isSound_ofBool _
  · exact isSound_ofBool _

theorem printing_isSound {arguments : List Value} {value : Value}
    (computed : printing arguments = .ok value) : value.isSound = true := by
  unfold printing at computed
  split at computed <;> cases computed
  rfl

/-- Builtin functions compute sound values, whatever they are given. -/
theorem result_isSound {builtin : Builtin} {arguments : List Value} {value : Value}
    (computed : builtin.result arguments = .ok value) : value.isSound = true := by
  cases builtin with
  | add => exact arithmetic_isSound computed
  | subtract => exact arithmetic_isSound computed
  | multiply => exact arithmetic_isSound computed
  | equal => exact comparison_isSound computed
  | greater => exact comparison_isSound computed
  | less => exact comparison_isSound computed
  | print => exact printing_isSound computed

/-- The errors that refuse the number of arguments, the type of one of them, or the printing of one
of them. -/
inductive Refuses (builtin : Builtin) (arguments : List Value) : EvalError → Prop
  /-- The number of arguments is wrong. -/
  | arity (expected : String) (got : Nat) :
      Refuses builtin arguments (.builtinArity builtin.name expected got)
  /-- An argument is of the wrong type. -/
  | type (expected found : String) :
      Refuses builtin arguments (.builtinType builtin.name expected found)
  /-- An argument cannot be printed. -/
  | unprintable {argument : Value} {cause : Cause} (member : argument ∈ arguments)
      (fault : argument.textFault? = some cause) : Refuses builtin arguments (.unprintable cause)

theorem arithmetic_refuses {builtin : Builtin} {operation : Int → Int → Int}
    {arguments : List Value} {error : EvalError}
    (refused : builtin.arithmetic operation arguments = .error error) :
    builtin.Refuses arguments error := by
  unfold arithmetic at refused
  split at refused <;> cases refused
  · exact .type _ _
  · exact .type _ _
  · exact .arity _ _

theorem comparison_refuses {builtin : Builtin} {relation : Int → Int → Bool}
    {arguments : List Value} {error : EvalError}
    (refused : builtin.comparison relation arguments = .error error) :
    builtin.Refuses arguments error := by
  unfold comparison at refused
  split at refused <;> cases refused
  exact .arity _ _

theorem printing_refuses {arguments : List Value} {error : EvalError}
    (refused : printing arguments = .error error) : print.Refuses arguments error := by
  unfold printing at refused
  split at refused
  next cause found =>
    cases refused
    obtain ⟨argument, member, fault⟩ := List.exists_of_findSome?_eq_some found
    exact .unprintable member fault
  next => cases refused

/-- Builtin functions fail for these reasons only. -/
theorem result_refuses {builtin : Builtin} {arguments : List Value} {error : EvalError}
    (refused : builtin.result arguments = .error error) : builtin.Refuses arguments error := by
  cases builtin with
  | add => exact arithmetic_refuses refused
  | subtract => exact arithmetic_refuses refused
  | multiply => exact arithmetic_refuses refused
  | equal => exact comparison_refuses refused
  | greater => exact comparison_refuses refused
  | less => exact comparison_refuses refused
  | print => exact printing_refuses refused

end Builtin

namespace Expr

theorem allWellFormed_eq_all (trees : List Expr) : allWellFormed trees = trees.all wellFormed := by
  induction trees with
  | nil => rfl
  | cons tree trees ih => rw [allWellFormed, ih, List.all_cons]

theorem wellFormed_part {tree part : Expr} (legal : tree.wellFormed = true)
    (member : part ∈ tree.parts) : part.wellFormed = true := by
  cases tree with
  | conditional position condition consequence alternative =>
      simp only [wellFormed, Bool.and_eq_true] at legal
      obtain ⟨⟨first, second⟩, third⟩ := legal
      simp only [parts, List.mem_cons, List.not_mem_nil, or_false] at member
      rcases member with rfl | rfl | rfl
      · exact first
      · exact second
      · exact third
  | define position name parameters value =>
      simp only [wellFormed, Bool.and_eq_true] at legal
      obtain rfl : part = value := by simpa [parts] using member
      exact legal.2
  | call position name arguments =>
      simp only [wellFormed, allWellFormed_eq_all, Bool.and_eq_true, List.all_eq_true] at legal
      exact legal.2 part member
  | _ => cases member

end Expr

/-- The discipline that expressions are well-formed, values are sound, and no name is bound
twice. -/
def Discipline.sound : Discipline where
  expressions tree := tree.wellFormed = true
  values value := value.isSound = true
  changes _ before after := before.names.Nodup → after.names.Nodup

theorem Discipline.sound_lawful : Discipline.sound.Lawful where
  parts legal member := Expr.wellFormed_part legal member
  integer {position value} legal := by
    simp only [sound, Expr.wellFormed, isLiteral, Bool.and_eq_true, decide_eq_true_eq] at legal
    have bounded : value ≤ 0x7FFFFFFFFFFFFFFF := legal.2
    refine (isSound_integer_iff value).mpr ⟨?_, bounded⟩
    omega
  function legal := by
    simp only [sound, Expr.wellFormed, allNames, Option.getD_some, Bool.and_eq_true] at legal
    simp only [sound, Value.isSound, Bool.and_eq_true]
    exact ⟨legal.1.2, legal.2⟩
  body legal := by
    simp only [sound, Value.isSound, Bool.and_eq_true] at legal
    exact legal.2
  zero := rfl
  result _ computed := Builtin.result_isSound computed
  refl _ _ := id
  trans first second distinct := second (first distinct)
  inside change := change
  define _ _ _ distinct := Environment.names_nodup_set distinct _ _
  bind _ _ _ distinct := Environment.names_nodup_set distinct _ _
  restore change distinct := Environment.names_nodup_restore (change distinct) _

/-- Whether an error is one of the language: there was something to evaluate, and all values could
be printed. -/
def EvalError.isOfLanguage : EvalError → Bool
  | notEvaluable => false
  | unprintable _ => false
  | _ => true

/-- An evaluation in which everything is sound, from its beginning to its end. -/
structure Task.IsSound (task : Task) : Prop where
  /-- The bindings at the beginning are sound. -/
  before : task.machine.environment.IsSound
  /-- Builtin functions are given sound values. -/
  passed : ∀ builtin values, task.Passes builtin values → ∀ value ∈ values, value.isSound = true
  /-- The bindings at the end are sound. -/
  after : ((evaluate task.budget task.tree).leaves task.machine).environment.IsSound
  /-- The value is sound, if there is one. -/
  value : ∀ value after, task.outcome = .ok value after → value.isSound = true
  /-- The evaluation does not fail because there is nothing to evaluate or a value cannot be
  printed. -/
  error : ∀ error after, task.outcome = .error error after → error.isOfLanguage = true

/-- Only a hole cannot be evaluated, and only an unsound value cannot be printed. -/
theorem Discipline.Admits.isOfLanguage {task : Task} (admits : Discipline.sound.Admits task)
    {error : EvalError} (raises : task.Raises error) : error.isOfLanguage = true := by
  cases raises with
  | refused passes refuses =>
      cases Builtin.result_refuses refuses with
      | unprintable member fault =>
          have sound := sound_lawful.values_of_passes passes admits _ member
          rw [Value.textFault?_of_isSound sound] at fault
          cases fault
      | _ => rfl
  | hole => cases admits.tree
  | _ => rfl

/-- Evaluations that begin soundly are sound. -/
theorem Discipline.Admits.isSound {task : Task} (admits : Discipline.sound.Admits task) :
    task.IsSound where
  before := admits.all
  passed _ _ passes := sound_lawful.values_of_passes passes admits
  after := (sound_lawful.reaches_evaluate task.budget admits.tree admits.all).all
  value _ _ ended := (((sound_lawful.within _).1 _ admits.tree).of_ok admits.all ended).1
  error _ _ fails := by
    obtain ⟨origin, contains, raises⟩ := Task.exists_raises fails
    exact (sound_lawful.admits_of_contains contains admits).isOfLanguage raises

/-- The machines that are reached from the initial one by evaluating expressions that are read from
texts, whatever comes of it. -/
inductive Machine.Reached : Machine → Prop
  /-- Nothing has been evaluated. -/
  | initial : Reached .initial
  /-- An expression has been evaluated, or could not be. -/
  | evaluated {machine : Machine} {tree : Expr} {text : String} (earlier : machine.Reached)
      (read : tree.ReadFrom text) (budget : Nat) : Reached ((evaluate budget tree).leaves machine)

namespace Machine.Reached

variable {machine : Machine} {tree : Expr} {text : String}

theorem isSound (reached : machine.Reached) : machine.environment.IsSound := by
  induction reached with
  | initial => exact Environment.isSound_initial
  | evaluated earlier read budget ih =>
      exact (Discipline.sound_lawful.reaches_evaluate budget read.wellFormed ih).all

/-- All that takes place while an expression is evaluated is sound. -/
theorem task_isSound (reached : machine.Reached) (read : tree.ReadFrom text) {budget : Nat}
    {inner : Task} (contains : Task.Contains ⟨budget, tree, machine⟩ inner) : inner.IsSound := by
  have admits : Discipline.sound.Admits ⟨budget, tree, machine⟩ :=
    ⟨read.wellFormed, reached.isSound⟩
  exact (Discipline.sound_lawful.admits_of_contains contains admits).isSound

end Machine.Reached

/-- Whether a result of running a text is a sound value or an error of the language. -/
def IsSoundResult : Except Failure Value → Prop
  | .ok value => value.isSound = true
  | .error (.evaluation error) => error.isOfLanguage = true
  | .error _ => True

/-- Running a text to its end, going on after errors, gives sound results and stays within what is
reached. -/
theorem Machine.Reached.runThrough {machine : Machine} (reached : machine.Reached) (limits : Limits)
    {text : String} {reader : Reader} (stands : reader.StandsIn text) :
    (machine.runThrough limits reader).2.Reached ∧
      ∀ result ∈ (machine.runThrough limits reader).1, IsSoundResult result := by
  fun_induction Machine.runThrough limits machine reader with
  | case1 machine reader after read => exact ⟨reached, by simp⟩
  | case2 machine reader position after read => exact ⟨reached, by simp [IsSoundResult]⟩
  | case3 machine reader error after shallow read later last rest ih =>
      rw [rest] at ih
      obtain ⟨reached', sound⟩ := ih reached (stands.readExpr read).1
      exact ⟨reached', by simpa [IsSoundResult] using sound⟩
  | case4 machine reader tree after read error machine' evaluated later last rest ih =>
      obtain ⟨stands', given, -⟩ := stands.readExpr read
      have task : Task.IsSound ⟨limits.budget, tree, machine⟩ :=
        reached.task_isSound (given tree rfl) .refl
      have next := reached.evaluated (given tree rfl) limits.budget
      simp only [Evaluation.leaves, evaluated] at next
      rw [rest] at ih
      obtain ⟨reached', sound⟩ := ih next stands'
      refine ⟨reached', ?_⟩
      rw [List.forall_mem_cons]
      exact ⟨task.error _ _ evaluated, sound⟩
  | case5 machine reader tree after read value machine' evaluated later last rest ih =>
      obtain ⟨stands', given, -⟩ := stands.readExpr read
      have task : Task.IsSound ⟨limits.budget, tree, machine⟩ :=
        reached.task_isSound (given tree rfl) .refl
      have next := reached.evaluated (given tree rfl) limits.budget
      simp only [Evaluation.leaves, evaluated] at next
      rw [rest] at ih
      obtain ⟨reached', sound⟩ := ih next stands'
      refine ⟨reached', ?_⟩
      rw [List.forall_mem_cons]
      exact ⟨task.value _ _ evaluated, sound⟩

/-- Whatever expressions of whatever texts have been evaluated before, and whether they failed or
not: all that is bound is sound; all evaluations inside the evaluation of any other expression of a
text bind, pass and give sound values only and never meet anything that cannot be evaluated or
printed; and the same holds again after any text has been run to its end, going on after errors. -/
theorem evaluation_sound {machine : Machine} (reached : machine.Reached) :
    machine.environment.IsSound ∧
      (∀ (text : String) (tree : Expr), tree.ReadFrom text → ∀ (budget : Nat) (inner : Task),
        Task.Contains ⟨budget, tree, machine⟩ inner → inner.IsSound) ∧
      ∀ (limits : Limits) (text : String),
        (machine.runThrough limits (.ofText text)).2.Reached ∧
          ∀ result ∈ (machine.runThrough limits (.ofText text)).1, IsSoundResult result := by
  refine ⟨reached.isSound, ?_, ?_⟩
  · intro text tree read budget inner contains
    exact reached.task_isSound read contains
  · intro limits text
    exact reached.runThrough limits (Reader.standsIn_ofText text)

/-- A sum of literals that is too great is bound to the least integer, which is sound, also after an
expression without a value. -/
theorem evaluation_sound_wrapped :
    ∃ machine : Machine,
      (Machine.initial.runThrough ⟨2, 6⟩
        (.ofText "(define x (+ 9223372036854775807 1)) (x)")).2 = machine ∧
      machine.Reached ∧
      (machine.environment.get? "x").map Value.text = some "-9223372036854775808" ∧
      machine.environment.IsSound := by
  have reached :=
    (Machine.Reached.initial.runThrough ⟨2, 6⟩
      (Reader.standsIn_ofText "(define x (+ 9223372036854775807 1)) (x)")).1
  exact ⟨_, rfl, reached, by decide +kernel, (evaluation_sound reached).1⟩

end DynLisp
