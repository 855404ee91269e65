import DynLisp.Proofs.Grammar
import DynLisp.Proofs.Relocation
import DynLisp.Session

/-!
# Running two texts one behind the other

No token, no comment and no expression that is complete reaches across a line feed behind it.  The
run of a text is therefore the beginning of the run of the text continued on another line: if it
ends without a failure then the run goes on behind the line feed, and if it ends with a failure then
the whole run does, unless it is the end of the text that is complained about.  In a session, the
run of the joined text therefore comes to the same as one run behind the other, which
`Session.run_joined` says.
-/

namespace DynLisp

/-- A line feed behind a text ends the token that the text ends in. -/
theorem Splits.extend {text gap body tail : List Char} {first : Char}
    (splits : Splits text gap first body tail) (more : List Char) :
    Splits (text ++ '\n' :: more) gap first body (tail ++ '\n' :: more) where
  text_eq := by simp [splits.text_eq]
  gap := splits.gap
  solid := splits.solid
  body := splits.body
  tail := by
    intro character head
    cases tail with
    | nil =>
        cases head
        exact continuesToken_eq_false first (isIdentifierPart_eq_false_of_isBlank (by decide))
    | cons other tail => exact splits.tail character head

namespace Cursor

/-- A cursor whose text is continued on another line. -/
def extend (cursor : Cursor) (text : List Char) : Cursor :=
  { cursor with rest := cursor.rest ++ '\n' :: text }

/-- The beginning of the line on which a text is continued. -/
def joint (cursor : Cursor) (text : List Char) : Cursor :=
  ⟨text, cursor.position.past (cursor.rest ++ ['\n']),
    cursor.index + (cursor.rest ++ ['\n']).length⟩

theorem next_extend_of_splits {cursor : Cursor} {gap body tail : List Char} {first : Char}
    (splits : Splits cursor.rest gap first body tail) (text : List Char) :
    (cursor.extend text).next = (cursor.next.1, cursor.next.2.extend text) := by
  have longer : Splits (cursor.extend text).rest gap first body (tail ++ '\n' :: text) :=
    splits.extend text
  rw [next_of_splits splits, next_of_splits longer, splits_skip splits, splits_skip longer]
  rfl

/-- Everything that is read from a text is read as well if it is continued. -/
theorem next_extend {cursor : Cursor} (more : cursor.next.1 ≠ .ok none) (text : List Char) :
    (cursor.extend text).next = (cursor.next.1, cursor.next.2.extend text) := by
  rcases finalGap_or_splits cursor.rest with final | ⟨gap, first, body, tail, splits⟩
  · exact absurd ((next_eq_none_iff cursor).mpr final) more
  · exact next_extend_of_splits splits text

/-- Where nothing is left to read, reading goes on behind the line feed. -/
theorem next_extend_of_finalGap {cursor : Cursor} (final : FinalGap cursor.rest)
    (text : List Char) : (cursor.extend text).next = (cursor.joint text).next := by
  have rest : (cursor.extend text).rest = (cursor.rest ++ ['\n']) ++ text := by simp [extend]
  have skipped : (cursor.extend text).skip (cursor.rest ++ ['\n']).length = cursor.joint text := by
    simp only [skip, rest, List.drop_left, List.take_left]
    rfl
  have length : gapLength false (cursor.extend text).rest =
      (cursor.rest ++ ['\n']).length + gapLength false (cursor.joint text).rest := by
    rw [rest, gapLength_append final.append_feed]
    rfl
  rw [next, next, skipGap, skipGap, length, ← skip_skip, skipped]

theorem Reads.extend {cursor after : Cursor} {tokens : List Token}
    (reads : Reads cursor tokens after) (text : List Char) :
    Reads (cursor.extend text) tokens (after.extend text) := by
  induction reads with
  | nil cursor => exact .nil _
  | @cons cursor middle after token tokens read later ih =>
      refine .cons ?_ ih
      rw [next_extend (by rw [read]; simp), read]

end Cursor

namespace Reader

/-- Tokens that finish nothing lead from one expectation to another one. -/
theorem readFrom_of_advances {limit : Nat} {expectation last : Expectation} {tokens : List Token}
    (advances : expectation.Advances limit tokens last) {cursor place : Cursor}
    (reads : cursor.Reads tokens place) :
    readFrom limit expectation ⟨cursor, none⟩ = readFrom limit last ⟨place, none⟩ := by
  induction advances generalizing cursor with
  | nil expectation =>
      cases reads
      rfl
  | cons step later ih =>
      cases reads with
      | cons read reads =>
          rw [readFrom_of_token _ read, step]
          exact ih reads

/-- The end of the text finishes no expression. -/
theorem atEnd_ne_some (expectation : Expectation) (tree : Expr) :
    expectation.atEnd ≠ .ok (some tree) := by
  rcases atEnd_cases expectation with ended | ⟨expected, ended⟩ <;> simp [ended]

/-- What becomes of the reading of an expression if the text is continued: it goes on behind the
line feed if there was nothing to read, and gives the same as before if the text did not end too
early. -/
theorem readExpr_extend (limit : Nat) (cursor : Cursor) (text : List Char) :
    (FinalGap cursor.rest ∧ readExpr limit ⟨cursor.extend text, none⟩ =
        readExpr limit ⟨cursor.joint text, none⟩) ∨
      (∃ expected after,
        readExpr limit ⟨cursor, none⟩ = (.error (.unexpectedEnd expected), after)) ∨
      ∃ result after, result ≠ .ok none ∧ readExpr limit ⟨cursor, none⟩ = (result, ⟨after, none⟩) ∧
        readExpr limit ⟨cursor.extend text, none⟩ = (result, ⟨after.extend text, none⟩) := by
  obtain ⟨tokens, last, place, result, after, advances, reads, ends, result_eq⟩ :=
    readExpr_cases limit cursor
  have extended : readExpr limit ⟨cursor.extend text, none⟩ =
      readFrom limit last ⟨place.extend text, none⟩ := by
    rw [readExpr_eq]
    exact readFrom_of_advances advances (reads.extend text)
  cases ends with
  | textEnd nothing =>
      rcases atEnd_cases last with ended | ⟨expected, ended⟩
      · refine Or.inl ?_
        rw [ended] at result_eq
        have final := (Grammar.readExpr_eq_none_iff limit cursor).mp ⟨_, result_eq⟩
        refine ⟨final, ?_⟩
        rw [readExpr_eq, readExpr_eq, readFrom_eq, readFrom_eq,
          Cursor.next_extend_of_finalGap final]
      · rw [ended] at result_eq
        exact Or.inr (Or.inl ⟨expected, _, result_eq⟩)
  | unreadable fails =>
      refine Or.inr (Or.inr ⟨_, after, by simp, result_eq, ?_⟩)
      rw [extended, readFrom_eq, Cursor.next_extend (by rw [fails]; simp), fails]
  | refused read step =>
      refine Or.inr (Or.inr ⟨_, after, by simp, result_eq, ?_⟩)
      rw [extended, readFrom_eq, Cursor.next_extend (by rw [read]; simp), read]
      simp only [step, proceed]
  | finished read step =>
      refine Or.inr (Or.inr ⟨_, after, by simp, result_eq, ?_⟩)
      rw [extended, readFrom_eq, Cursor.next_extend (by rw [read]; simp), read]
      simp only [step, proceed]

end Reader

/-- Whether a failure complains about the end of the text. -/
def Failure.isUnfinished : Failure → Bool
  | syntactic (.unexpectedEnd _) => true
  | _ => false

theorem Failure.isUnfinished_iff {failure : Failure} :
    failure.isUnfinished = true ↔ ∃ expected, failure = .syntactic (.unexpectedEnd expected) := by
  unfold isUnfinished
  split
  next expected => exact iff_of_true rfl ⟨expected, rfl⟩
  next other =>
    refine iff_of_false (by simp) ?_
    rintro ⟨expected, rfl⟩
    exact other expected rfl

namespace Machine

theorem Alike.refl (machine : Machine) : machine.Alike machine.output machine.output machine :=
  ⟨rfl, "", by simp, by simp⟩

theorem run_congr {limits : Limits} {reader reader' : Reader}
    (same : reader.readExpr limits.nesting = reader'.readExpr limits.nesting) (machine : Machine) :
    machine.run limits reader = machine.run limits reader' := by
  match read : reader'.readExpr limits.nesting with
  | (.error error, after) => rw [run_of_error read, run_of_error (same.trans read)]
  | (.ok none, after) => rw [run_of_none read, run_of_none (same.trans read)]
  | (.ok (some tree), after) => rw [run_of_some read, run_of_some (same.trans read)]

/-- The run of a continued text begins with the run of the text.  It goes on with the rest if that
run ends without a failure, and ends as that run does if it fails otherwise than at the end of the
text. -/
theorem run_extend (limits : Limits) (machine : Machine) (cursor : Cursor) (text : List Char) :
    ((machine.run limits ⟨cursor, none⟩).failure = none ∧
      ∃ place : Cursor, place.rest = text ∧
        machine.run limits ⟨cursor.extend text, none⟩ =
          ((machine.run limits ⟨cursor, none⟩).machine.run limits ⟨place, none⟩).behind
            (machine.run limits ⟨cursor, none⟩).values) ∨
    ∃ failure, (machine.run limits ⟨cursor, none⟩).failure = some failure ∧
      (failure.isUnfinished = true ∨
        machine.run limits ⟨cursor.extend text, none⟩ = machine.run limits ⟨cursor, none⟩) := by
  -- Every expression that is read leaves less of the text to be run.
  generalize size : cursor.rest.length = length
  induction length using Nat.strongRecOn generalizing machine cursor with
  | ind length ih =>
      rcases Reader.readExpr_extend limits.nesting cursor text with
        ⟨final, goes_on⟩ | ⟨expected, after, ended⟩ | ⟨result, after, something, read, read'⟩
      · obtain ⟨after, nothing⟩ := (Grammar.readExpr_eq_none_iff limits.nesting cursor).mpr final
        rw [run_of_none nothing, run_congr goes_on]
        exact Or.inl ⟨rfl, cursor.joint text, rfl, rfl⟩
      · rw [run_of_error ended]
        exact Or.inr ⟨_, rfl, Or.inl rfl⟩
      · match result with
        | .error error =>
            rw [run_of_error read, run_of_error read']
            exact Or.inr ⟨_, rfl, Or.inr rfl⟩
        | .ok none => exact absurd rfl something
        | .ok (some tree) =>
            rw [run_of_some read, run_of_some read']
            cases evaluate limits.budget tree machine with
            | error error machine => exact Or.inr ⟨_, rfl, Or.inr rfl⟩
            | ok value machine =>
                have shorter : after.rest.length < length := by
                  rw [← size]
                  exact Reader.rest_lt_of_readExpr read
                rcases ih after.rest.length shorter machine after rfl with
                  ⟨succeeds, place, rest, goes_on⟩ | ⟨failure, fails, unfinished | same⟩
                · exact Or.inl ⟨succeeds, place, rest, by simp only [goes_on, Yield.behind]; rfl⟩
                · exact Or.inr ⟨failure, fails, Or.inl unfinished⟩
                · exact Or.inr ⟨failure, fails, Or.inr (by simp only [same])⟩

end Machine

namespace Session

/-- Two runs of a session that come to the same but for positions, where the session had collected
some values before. -/
structure RunsAlike (results : List Value) (left right : Except Failure Unit × Session × Reporter) :
    Prop where
  /-- Both runs succeed, or they fail for the same reason. -/
  outcome : left.1.mapError Failure.unplaced = right.1.mapError Failure.unplaced
  /-- The same values are appended. -/
  results : ∃ values values', left.2.1.results = results ++ values ∧
    right.2.1.results = results ++ values' ∧
    values.map Value.unplaced = values'.map Value.unplaced
  /-- The same is printed. -/
  output : left.2.1.machine.output = right.2.1.machine.output
  /-- The same names are bound in the same order to the same values. -/
  environment :
    left.2.1.machine.environment.unplaced = right.2.1.machine.environment.unplaced

theorem ofText_joined (front back : String) :
    Reader.ofText (front ++ "\n" ++ back) =
      ⟨(Cursor.ofText front).extend back.toList, none⟩ := by
  simp [Reader.ofText, Cursor.ofText, Cursor.extend]

theorem runsAlike_of_alike {session first : Session} {reporter after : Reporter}
    {text text' : String} {values : List Value} {yield : Yield}
    (run : session.machine.run session.limits (.ofText text) = yield.behind values)
    (results : first.results = session.results ++ values)
    (alike : yield.Alike first.machine.output first.machine.output
      (first.machine.run first.limits (.ofText text'))) :
    RunsAlike first.results (session.run reporter text) (first.run after text') where
  outcome := by
    have failures := alike.failure
    rw [run_outcome, run_outcome, run]
    simp only [Yield.behind]
    generalize yield.failure = left at failures ⊢
    generalize (first.machine.run first.limits (.ofText text')).failure = right at failures ⊢
    cases left with
    | none =>
        cases right with
        | none => rfl
        | some failure => cases failures
    | some failure =>
        cases right with
        | none => cases failures
        | some failure' => exact congrArg Except.error (Option.some.inj failures)
  results := by
    refine ⟨yield.values, _, ?_, by rw [run_session], alike.values⟩
    rw [run_session, run, results]
    simp [Yield.behind]
  output := by
    obtain ⟨printed, here, there⟩ := alike.machine.output
    rw [run_session, run_session, run]
    exact here.trans there.symm
  environment := by
    rw [run_session, run_session, run]
    exact alike.machine.environment

theorem run_joined_of_ok {session first : Session} {reporter after : Reporter} {front : String}
    (runs : session.run reporter front = (.ok (), first, after)) (back : String) :
    RunsAlike first.results (session.run reporter (front ++ "\n" ++ back))
      (first.run after back) := by
  have outcome := session.run_outcome reporter front
  have first_eq := session.run_session reporter front
  rw [runs] at outcome first_eq
  simp only at outcome first_eq
  rcases session.machine.run_extend session.limits (.ofText front) back.toList with
    ⟨succeeds, place, rest, goes_on⟩ | ⟨failure, fails, _⟩
  · have machine_eq : first.machine =
        (session.machine.run session.limits (.ofText front)).machine := by rw [first_eq]
    have limits_eq : first.limits = session.limits := by rw [first_eq]
    have relocated := Machine.run_relocated session.limits (Machine.Alike.refl first.machine)
      (show place.rest = (Cursor.ofText back).rest from rest)
    apply runsAlike_of_alike
    · rw [ofText_joined]
      exact goes_on
    · rw [first_eq]
      rfl
    · rw [limits_eq]
      exact machine_eq ▸ relocated
  · rw [Reader.ofText, fails] at outcome
    cases outcome

theorem run_joined_of_error {session first : Session} {reporter after : Reporter} {front : String}
    {failure : Failure} (runs : session.run reporter front = (.error failure, first, after))
    (finished : failure.isUnfinished = false) (back : String) :
    ∃ after', session.run reporter (front ++ "\n" ++ back) = (.error failure, first, after') := by
  have outcome := session.run_outcome reporter front
  have first_eq := session.run_session reporter front
  rw [runs] at outcome first_eq
  rcases session.machine.run_extend session.limits (.ofText front) back.toList with
    ⟨succeeds, _⟩ | ⟨failure', fails, unfinished | same⟩
  · rw [Reader.ofText, succeeds] at outcome
    cases outcome
  · rw [Reader.ofText, fails] at outcome
    cases outcome
    rw [finished] at unfinished
    cases unfinished
  · have joined : session.machine.run session.limits (.ofText (front ++ "\n" ++ back)) =
        session.machine.run session.limits (.ofText front) := by
      rw [ofText_joined]
      exact same
    refine ⟨_, Prod.ext ?_ (Prod.ext ?_ rfl)⟩
    · rw [run_outcome, joined]
      exact outcome.symm
    · rw [run_session, joined]
      exact first_eq.symm

/-- Running texts is compositional.  If a text is run without a failure, then the run of the text
continued by another one on the next line comes to the same as a run of the other one behind it: the
same values are appended, the same is printed, the outcome is the same, and the same names are bound
in the same order to the same values, all of it but for positions.  If the text fails otherwise than
for its end, then the continued text fails with the same failure at the same position and leaves the
same session. -/
theorem run_joined (session : Session) (reporter : Reporter) (front back : String) :
    (∀ first after, session.run reporter front = (.ok (), first, after) →
      RunsAlike first.results (session.run reporter (front ++ "\n" ++ back))
        (first.run after back)) ∧
    ∀ failure first after, session.run reporter front = (.error failure, first, after) →
      (∀ expected, failure ≠ .syntactic (.unexpectedEnd expected)) →
      ∃ after', session.run reporter (front ++ "\n" ++ back) = (.error failure, first, after') := by
  refine ⟨fun first after runs => run_joined_of_ok runs back, ?_⟩
  intro failure first after runs finished
  apply run_joined_of_error runs
  rw [Bool.eq_false_iff, ne_eq, Failure.isUnfinished_iff, not_exists]
  exact finished

/-- A name that is bound, with a bracket in a comment above it, and one that is not bound on the
next line: the joined text fails for the second.  A closing bracket fails, whatever follows it. -/
theorem run_joined_unknown :
    let session : Session := ⟨commandLinePath, true, "", .initial, [], .standard⟩
    let reporter : Reporter := .new false false
    (session.run reporter "; (\n+").1 = .ok () ∧
      (session.run reporter "; (\n+\ny").1.mapError Failure.unplaced =
        .error (.evaluation (.unknownVariable "y" .start 1)) ∧
      ∃ after, session.run reporter ")\ny" =
        (.error (.syntactic (.unexpectedToken ⟨.rightBracket, .start⟩)), session, after) := by
  intro session reporter
  have read : Reader.readExpr Limits.standard.nesting (.ofText "; (\n+") =
      (.ok (some (.identifier ⟨2, 1⟩ "+")), ⟨⟨[], ⟨2, 2⟩, 5⟩, none⟩) := by
    rw [Reader.ofText, Reader.readExpr_eq, Reader.readFrom_eq]
    rfl
  have nothing : Reader.readExpr Limits.standard.nesting ⟨⟨[], ⟨2, 2⟩, 5⟩, none⟩ =
      (.ok none, ⟨⟨[], ⟨2, 2⟩, 5⟩, none⟩) := by
    rw [Reader.readExpr_eq, Reader.readFrom_eq]
    rfl
  have unknown : Reader.readExpr Limits.standard.nesting (.ofText "y") =
      (.ok (some (.identifier .start "y")), ⟨⟨[], ⟨1, 2⟩, 1⟩, none⟩) := by
    rw [Reader.ofText, Reader.readExpr_eq, Reader.readFrom_eq]
    rfl
  have refused : Reader.readExpr Limits.standard.nesting (.ofText ")") =
      (.error (.unexpectedToken ⟨.rightBracket, .start⟩), ⟨⟨[], ⟨1, 2⟩, 1⟩, none⟩) := by
    rw [Reader.ofText, Reader.readExpr_eq, Reader.readFrom_eq]
    rfl
  have value : evaluate Limits.standard.budget (.identifier ⟨2, 1⟩ "+") .initial =
      .ok (.builtin .add) .initial := by rfl
  have run : Machine.run .standard .initial (.ofText "; (\n+") =
      ⟨[.builtin .add], none, .initial⟩ := by
    rw [Machine.run_of_some read, value]
    simp only
    rw [Machine.run_of_none nothing]
    rfl
  have fails : Machine.run .standard .initial (.ofText "y") =
      ⟨[], some (.evaluation (.unknownVariable "y" .start 1)), .initial⟩ := by
    rw [Machine.run_of_some unknown]
    rfl
  have first : session.run reporter "; (\n+" =
      (.ok (), { session with results := [.builtin .add] },
        (session.run reporter "; (\n+").2.2) := by
    refine Prod.ext ?_ (Prod.ext ?_ rfl)
    · rw [run_outcome, run]
    · rw [run_session, run]
      rfl
  have joined := (run_joined session reporter "; (\n+" "y").1 _ _ first
  have failed : session.run reporter ")" =
      (.error (.syntactic (.unexpectedToken ⟨.rightBracket, .start⟩)), session,
        (session.run reporter ")").2.2) := by
    refine Prod.ext ?_ (Prod.ext ?_ rfl)
    · rw [run_outcome, Machine.run_of_error refused]
    · rw [run_session, Machine.run_of_error refused]
      rfl
  refine ⟨by rw [first], ?_, (run_joined session reporter ")" "y").2 _ _ _ failed (by simp)⟩
  have outcome := joined.outcome
  rw [run_outcome { session with results := [.builtin .add] }, fails] at outcome
  exact outcome

end Session
end DynLisp
