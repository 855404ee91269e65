import DynLisp.Proofs.Discipline

/-!
# What evaluation keeps of the bindings

Two disciplines and what they come to.  The names that are bound before an evaluation are bound
behind it as well, and stand in front of all others in the same order.  A name that no definition in
sight speaks of means the same behind an evaluation as before it, however often it has been bound as
a parameter in between.
-/

namespace DynLisp

theorem lookUp_isSome_iff (name : String) (bindings : List (String × Value)) :
    (lookUp name bindings).isSome ↔ name ∈ bindings.map Prod.fst := by
  induction bindings with
  | nil => simp [lookUp]
  | cons binding rest ih => grind [lookUp]

theorem map_fst_assign (name : String) (value : Value) (bindings : List (String × Value)) :
    (assign name value bindings).map Prod.fst =
      if name ∈ bindings.map Prod.fst then bindings.map Prod.fst
      else bindings.map Prod.fst ++ [name] := by
  induction bindings with
  | nil => simp [assign]
  | cons binding rest ih => grind [assign]

theorem map_fst_unassign (name : String) (bindings : List (String × Value)) :
    (unassign name bindings).map Prod.fst = (bindings.map Prod.fst).filter (· != name) := by
  induction bindings with
  | nil => rfl
  | cons binding rest ih => grind [unassign]

theorem lookUp_of_mem {binding : String × Value} {bindings : List (String × Value)}
    (distinct : (bindings.map Prod.fst).Nodup) (member : binding ∈ bindings) :
    lookUp binding.1 bindings = some binding.2 := by
  induction bindings with
  | nil => cases member
  | cons first rest ih => grind [lookUp]

theorem mem_of_lookUp {name : String} {value : Value} {bindings : List (String × Value)}
    (bound : lookUp name bindings = some value) : (name, value) ∈ bindings := by
  induction bindings with
  | nil => cases bound
  | cons binding rest ih => grind [lookUp]

namespace Environment

theorem get?_isSome_iff (environment : Environment) (name : String) :
    (environment.get? name).isSome ↔ name ∈ environment.names :=
  lookUp_isSome_iff name environment.bindings

theorem names_set (environment : Environment) (name : String) (value : Value) :
    (environment.set name value).names =
      if name ∈ environment.names then environment.names else environment.names ++ [name] :=
  map_fst_assign name value environment.bindings

theorem names_erase (environment : Environment) (name : String) :
    (environment.erase name).names = environment.names.filter (· != name) :=
  map_fst_unassign name environment.bindings

theorem names_prefix_set (environment : Environment) (name : String) (value : Value) :
    environment.names <+: (environment.set name value).names := by
  rw [names_set]
  split
  · exact List.prefix_refl _
  · exact List.prefix_append _ _

/-- A name gets back its place in front with its value, and loses it only if it had none. -/
theorem names_prefix_reset {before after : Environment} (kept : before.names <+: after.names)
    (name : String) : before.names <+: (after.reset (name, before.get? name)).names := by
  cases bound : before.get? name with
  | none =>
      have free : name ∉ before.names := by
        rw [← get?_isSome_iff, bound]
        simp
      have unaffected : before.names.filter (· != name) = before.names := by
        rw [List.filter_eq_self]
        intro other member
        rw [bne_iff_ne]
        rintro rfl
        exact free member
      have filtered := kept.filter (· != name)
      rw [unaffected] at filtered
      exact (after.names_erase name).symm ▸ filtered
  | some value =>
      have member : name ∈ before.names := by
        rw [← get?_isSome_iff, bound]
        rfl
      have unmoved : (after.set name value).names = after.names := by
        rw [names_set, if_pos (kept.subset member)]
      exact unmoved.symm ▸ kept

theorem names_prefix_restore {before after : Environment} (kept : before.names <+: after.names)
    (names : List String) : before.names <+: (after.restore (before.capture names)).names := by
  induction names generalizing after with
  | nil => exact kept
  | cons name names ih => exact ih (names_prefix_reset kept name)

theorem names_nodup_set {environment : Environment} (distinct : environment.names.Nodup)
    (name : String) (value : Value) : (environment.set name value).names.Nodup := by
  rw [names_set]
  split
  · exact distinct
  next free => exact List.nodup_append.mpr ⟨distinct, by simp, by grind⟩

theorem names_nodup_restore {environment : Environment} (distinct : environment.names.Nodup)
    (shadow : Shadow) : (environment.restore shadow).names.Nodup := by
  induction shadow generalizing environment with
  | nil => exact distinct
  | cons saved shadow ih =>
      refine ih ?_
      unfold reset
      split
      · rw [names_erase]
        exact distinct.filter _
      · exact names_nodup_set distinct _ _

/-- If no name is bound twice, then what holds of all values that are bound to names holds in all
bindings. -/
theorem All.of_mem {values : Value → Prop} {environment : Environment}
    (all : environment.All values) (distinct : environment.names.Nodup)
    {binding : String × Value} (member : binding ∈ environment.bindings) : values binding.2 :=
  all binding.1 binding.2 (lookUp_of_mem distinct member)

end Environment

/-- The discipline that the names which are bound keep their order. -/
def Discipline.ordered : Discipline where
  expressions _ := True
  values _ := True
  changes _ before after := before.names <+: after.names

theorem Discipline.ordered_lawful : Discipline.ordered.Lawful where
  parts _ _ := trivial
  integer _ := trivial
  function _ := trivial
  body _ := trivial
  zero := trivial
  result _ _ := trivial
  refl _ environment := List.prefix_refl environment.names
  trans first second := first.trans second
  inside kept := kept
  define _ environment value := environment.names_prefix_set _ value
  bind _ environment value := environment.names_prefix_set _ value
  restore kept := Environment.names_prefix_restore kept _

theorem names_prefix_evaluate (budget : Nat) (tree : Expr) (machine : Machine) :
    machine.environment.names <+: ((evaluate budget tree).leaves machine).environment.names :=
  (Discipline.ordered_lawful.reaches_evaluate budget trivial fun _ _ _ => trivial).change

namespace Machine

/-- The machine behind some evaluations, each with a budget of its own, whatever comes of them. -/
def afterAll (machine : Machine) : List (Nat × Expr) → Machine
  | [] => machine
  | (budget, tree) :: later => ((evaluate budget tree).leaves machine).afterAll later

theorem names_prefix_afterAll (machine : Machine) (evaluations : List (Nat × Expr)) :
    machine.environment.names <+: (machine.afterAll evaluations).environment.names := by
  induction evaluations generalizing machine with
  | nil => exact List.prefix_refl _
  | cons evaluation later ih =>
      exact (names_prefix_evaluate evaluation.1 evaluation.2 machine).trans (ih _)

end Machine

/-- Evaluation neither unbinds nor reorders what was bound: the names that were bound before come
first behind it, in the same order, however it ends.  After any evaluations from the start, the
names of the builtin functions are bound and come first, in their own order. -/
theorem evaluate_keeps_names :
    (∀ (budget : Nat) (tree : Expr) (machine : Machine),
      machine.environment.names <+: ((evaluate budget tree).leaves machine).environment.names) ∧
    ∀ evaluations : List (Nat × Expr),
      Builtin.all.map Builtin.name <+:
          (Machine.initial.afterAll evaluations).environment.names ∧
        ∀ builtin : Builtin,
          (Machine.initial.afterAll evaluations).environment.contains builtin.name = true := by
  refine ⟨names_prefix_evaluate, fun evaluations => ?_⟩
  have kept := Machine.initial.names_prefix_afterAll evaluations
  have start : Machine.initial.environment.names = Builtin.all.map Builtin.name := by decide
  rw [start] at kept
  refine ⟨kept, fun builtin => ?_⟩
  have member : builtin ∈ Builtin.all := by cases builtin <;> decide
  exact (Environment.get?_isSome_iff _ _).mpr (kept.subset (List.mem_map_of_mem member))

mutual

/-- Whether a definition of a name stands anywhere in an expression. -/
def Expr.defines (name : String) : Expr → Bool
  | integer _ _ => false
  | identifier _ _ => false
  | conditional _ condition consequence alternative =>
      condition.defines name || consequence.defines name || alternative.defines name
  | define _ defined _ value => defined == name || value.defines name
  | call _ _ arguments => anyDefines name arguments
  | hole _ => false

/-- Whether a definition of a name stands anywhere in some expressions. -/
def Expr.anyDefines (name : String) : List Expr → Bool
  | [] => false
  | tree :: trees => tree.defines name || anyDefines name trees

end

/-- Whether a definition of a name stands in the body of a function. -/
def Value.defines (name : String) : Value → Bool
  | function _ body => body.defines name
  | _ => false

theorem Expr.anyDefines_eq_any (name : String) (trees : List Expr) :
    anyDefines name trees = trees.any (defines name) := by
  induction trees with
  | nil => rfl
  | cons tree trees ih => rw [anyDefines, ih, List.any_cons]

theorem Expr.defines_part {name : String} {tree part : Expr} (undefined : tree.defines name = false)
    (member : part ∈ tree.parts) : part.defines name = false := by
  cases tree with
  | conditional position condition consequence alternative =>
      simp only [defines, Bool.or_eq_false_iff] at undefined
      obtain ⟨⟨first, second⟩, third⟩ := undefined
      simp only [parts, List.mem_cons, List.not_mem_nil, or_false] at member
      rcases member with rfl | rfl | rfl
      · exact first
      · exact second
      · exact third
  | define position defined parameters value =>
      simp only [defines, Bool.or_eq_false_iff] at undefined
      obtain rfl : part = value := by simpa [parts] using member
      exact undefined.2
  | call position callee arguments =>
      simp only [defines, anyDefines_eq_any, List.any_eq_false, Bool.not_eq_true] at undefined
      exact undefined part member
  | _ => cases member

namespace Builtin

theorem arithmetic_eq_ok {builtin : Builtin} {operation : Int → Int → Int} {arguments : List Value}
    {value : Value} (computed : builtin.arithmetic operation arguments = .ok value) :
    ∃ number, value = .integer number := by
  unfold arithmetic at computed
  split at computed <;> cases computed
  exact ⟨_, rfl⟩

theorem comparison_eq_ok {builtin : Builtin} {relation : Int → Int → Bool} {arguments : List Value}
    {value : Value} (computed : builtin.comparison relation arguments = .ok value) :
    ∃ number, value = .integer number := by
  unfold comparison at computed
  split at computed <;> cases computed
  · exact ⟨_, rfl⟩
  · exact ⟨_, rfl⟩

theorem printing_eq_ok {arguments : List Value} {value : Value}
    (computed : printing arguments = .ok value) : ∃ number, value = .integer number := by
  unfold printing at computed
  split at computed <;> cases computed
  exact ⟨0, rfl⟩

/-- Builtin functions compute integers only. -/
theorem result_eq_ok {builtin : Builtin} {arguments : List Value} {value : Value}
    (computed : builtin.result arguments = .ok value) : ∃ number, value = .integer number := by
  cases builtin with
  | add => exact arithmetic_eq_ok computed
  | subtract => exact arithmetic_eq_ok computed
  | multiply => exact arithmetic_eq_ok computed
  | equal => exact comparison_eq_ok computed
  | greater => exact comparison_eq_ok computed
  | less => exact comparison_eq_ok computed
  | print => exact printing_eq_ok computed

end Builtin

/-- The discipline that a name is bound as a parameter only. -/
def Discipline.sparing (name : String) : Discipline where
  expressions tree := tree.defines name = false
  values value := value.defines name = false
  changes names before after := name ∉ names → after.get? name = before.get? name

theorem Discipline.sparing_lawful (name : String) : (Discipline.sparing name).Lawful where
  parts undefined member := Expr.defines_part undefined member
  integer _ := rfl
  function undefined := Expr.defines_part undefined List.mem_cons_self
  body undefined := undefined
  zero := rfl
  result _ computed := by
    obtain ⟨number, rfl⟩ := Builtin.result_eq_ok computed
    rfl
  refl _ _ _ := rfl
  trans first second free := (second free).trans (first free)
  inside unchanged _ := unchanged List.not_mem_nil
  define undefined environment value _ := by
    simp only [sparing, Expr.defines, Bool.or_eq_false_iff, beq_eq_false_iff_ne] at undefined
    rw [Environment.get?_set, if_neg (Ne.symm undefined.1)]
  bind member environment value free := by
    rw [Environment.get?_set, if_neg]
    rintro rfl
    exact free member
  restore {names before after} unchanged _ := by
    rw [Environment.get?_restore_capture]
    split
    · rfl
    next free => exact unchanged free

/-- A name that is defined neither in an expression nor in the body of any function that is bound
means the same behind the evaluation of the expression as before it, however the evaluation ends and
however often the name is bound as a parameter in between. -/
theorem evaluate_get?_of_undefined (budget : Nat) {tree : Expr} {machine : Machine} {name : String}
    (undefined : tree.defines name = false)
    (bodies : ∀ bound parameters body,
      machine.environment.get? bound = some (.function parameters body) →
        body.defines name = false) :
    ((evaluate budget tree).leaves machine).environment.get? name =
      machine.environment.get? name := by
  have all : machine.environment.All ((Discipline.sparing name).values) := by
    intro bound value is_bound
    cases value with
    | function parameters body => exact bodies bound parameters body is_bound
    | _ => rfl
  have reached := (Discipline.sparing_lawful name).reaches_evaluate budget undefined all
  exact reached.change List.not_mem_nil

/-- Two functions with a parameter `n`, one of them handed to the other, call each other until a
call lacks its argument: the evaluation fails inside six calls, and `n` means what it meant. -/
theorem evaluate_get?_of_undefined_handed :
    let apply := Value.function ["n", "g"] (.call .start "g" [.identifier .start "n"])
    let count := Value.function ["n"] (.conditional .start (.identifier .start "n")
      (.call .start "apply" [.call .start "-" [.identifier .start "n", .integer .start 1],
        .identifier .start "count"])
      (.call .start "g" []))
    let machine : Machine := ⟨((Environment.initial.set "n" (.integer 7)).set "apply" apply).set
      "count" count, ""⟩
    let tree := Expr.call .start "count" [.integer .start 2]
    tree.defines "n" = false ∧
      (∀ binding ∈ machine.environment.bindings, binding.2.defines "n" = false) ∧
      (match evaluate 40 tree machine with
        | .ok _ _ => none
        | .error error _ => some error) = some (.arity 1 0 .start) ∧
      ((evaluate 40 tree).leaves machine).environment.get? "n" = some (.integer 7) := by
  intro apply count machine tree
  have undefined : tree.defines "n" = false := by decide
  have bodies : ∀ binding ∈ machine.environment.bindings, binding.2.defines "n" = false := by
    decide
  refine ⟨undefined, bodies, by decide +kernel, ?_⟩
  rw [evaluate_get?_of_undefined 40 undefined
    fun bound parameters body is_bound => bodies _ (mem_of_lookUp is_bound)]
  rfl

end DynLisp
