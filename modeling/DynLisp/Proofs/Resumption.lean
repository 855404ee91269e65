import DynLisp.Proofs.Division
import DynLisp.Proofs.Grammar
import Mathlib.Algebra.BigOperators.Group.List.Basic
import Mathlib.Logic.Function.Iterate

/-!
# Reading on after errors

A text can be read to its end by asking for one expression after the other, whatever errors there
are.  Nothing is rolled back behind an error and no token is kept back, so that every call goes on
where the one before it has stopped.  `Cursor.Consumes` says which tokens and which failing lexemes
lie between two places, and `Reader.resumed_progresses` divides those of a whole text among the
calls.
-/

namespace DynLisp

namespace Cursor

/-- What is consumed from one place to another: tokens and lexemes that are none, each with the
place behind it.  The gap at the end of the text counts for nothing. -/
inductive Consumes : Cursor → List (Except LexError Token × Cursor) → Cursor → Prop
  /-- Nothing is consumed. -/
  | nil (cursor : Cursor) : Consumes cursor [] cursor
  /-- The text is found to be at its end. -/
  | textEnd {cursor after : Cursor} (nothing : cursor.next = (.ok none, after)) :
      Consumes cursor [] after
  /-- A token or a failing lexeme is consumed and then others. -/
  | cons {cursor middle after : Cursor} {given : Except LexError Token}
      {lexemes : List (Except LexError Token × Cursor)}
      (first : cursor.next = (given.map some, middle)) (later : Consumes middle lexemes after) :
      Consumes cursor ((given, middle) :: lexemes) after

/-- What is consumed are the next ones of all that are left. -/
theorem Consumes.tokens_eq {cursor after : Cursor}
    {lexemes : List (Except LexError Token × Cursor)}
    (consumes : cursor.Consumes lexemes after) : cursor.tokens = lexemes ++ after.tokens := by
  induction consumes with
  | nil => rfl
  | @textEnd cursor after nothing =>
      have final := (next_eq_none_iff cursor).mp (by rw [nothing])
      obtain rfl : cursor.finish = after := by
        rw [next_of_finalGap final] at nothing
        exact congrArg Prod.snd nothing
      rw [tokens_of_none nothing, tokens_of_none cursor.next_finish]
      rfl
  | cons first later ih => rw [tokens_of_token first, ih, List.cons_append]

/-- Tokens that are read are consumed, and so is what is consumed behind them. -/
theorem Reads.exists_consumes {cursor place after : Cursor} {tokens : List Token}
    (reads : cursor.Reads tokens place) {lexemes : List (Except LexError Token × Cursor)}
    (consumes : place.Consumes lexemes after) :
    ∃ front : List (Except LexError Token × Cursor), front.map Prod.fst = tokens.map .ok ∧
      cursor.Consumes (front ++ lexemes) after := by
  induction reads with
  | nil cursor => exact ⟨[], rfl, consumes⟩
  | @cons cursor middle place token tokens read later ih =>
      obtain ⟨front, tokens_eq, consumed⟩ := ih consumes
      have first : cursor.next = ((Except.ok token).map some, middle) := read
      exact ⟨(.ok token, middle) :: front, by simp [tokens_eq], .cons first consumed⟩

theorem Reads.exists_consumes_last {cursor place after : Cursor} {tokens : List Token}
    (reads : cursor.Reads tokens place) (given : Except LexError Token)
    (last : place.next = (given.map some, after)) :
    ∃ front, cursor.Consumes (front ++ [(given, after)]) after := by
  obtain ⟨front, -, consumes⟩ := reads.exists_consumes (.cons last (.nil after))
  exact ⟨front, consumes⟩

end Cursor

namespace Reader

theorem readExpr_of_next {cursor after : Cursor} (nothing : cursor.next = (.ok none, after))
    (limit : Nat) : readExpr limit ⟨cursor, none⟩ = (.ok none, ⟨after, none⟩) := by
  rw [readExpr_eq, readFrom_eq, nothing]
  rfl

/-- A call for an expression consumes something unless nothing is left. -/
theorem readExpr_consumes (limit : Nat) (cursor : Cursor) :
    ∃ lexemes result after, readExpr limit ⟨cursor, none⟩ = (result, ⟨after, none⟩) ∧
      cursor.Consumes lexemes after ∧ (lexemes = [] ↔ result = .ok none) := by
  obtain ⟨tokens, last, place, result, after, expected, reads, ends, result_eq⟩ :=
    Grammar.readExpr_cases limit cursor
  cases ends with
  | textEnd nothing =>
      obtain ⟨front, tokens_eq, consumes⟩ := reads.exists_consumes (.textEnd nothing)
      have begun : front ++ [] = [] ↔ tokens = [] := by
        rw [List.append_nil, ← List.map_eq_nil_iff (f := Prod.fst), tokens_eq, List.map_eq_nil_iff]
      refine ⟨_, _, after, result_eq, consumes, begun.trans ⟨?_, fun atEnd => ?_⟩⟩
      · rintro rfl
        cases reads
        exact congrArg Prod.fst (result_eq.symm.trans (readExpr_of_next nothing limit))
      · exact (expected.atEnd atEnd).1
  | @unreadable _ error fails =>
      obtain ⟨front, consumes⟩ := reads.exists_consumes_last (.error error) fails
      exact ⟨_, _, after, result_eq, consumes, by simp⟩
  | @refused _ token error read step =>
      obtain ⟨front, consumes⟩ := reads.exists_consumes_last (.ok token) read
      exact ⟨_, _, after, result_eq, consumes, by simp⟩
  | @finished _ token tree read step =>
      obtain ⟨front, consumes⟩ := reads.exists_consumes_last (.ok token) read
      exact ⟨_, _, after, result_eq, consumes, by simp⟩

/-- The reader behind a number of calls for an expression, whatever these have given. -/
def resumed (limit : Nat) (reader : Reader) (calls : Nat) : Reader :=
  (fun reader => (reader.readExpr limit).2)^[calls] reader

theorem resumed_succ (limit : Nat) (reader : Reader) (calls : Nat) :
    reader.resumed limit (calls + 1) = ((reader.resumed limit calls).readExpr limit).2 :=
  Function.iterate_succ_apply' _ calls reader

theorem resumed_of_readExpr {limit : Nat} {reader after : Reader}
    {result : Except ParseError (Option Expr)} (read : reader.readExpr limit = (result, after))
    (calls : Nat) : reader.resumed limit (calls + 1) = after.resumed limit calls := by
  rw [resumed, Function.iterate_succ_apply, read, resumed]

/-- No token is kept back between calls. -/
theorem resumed_peeked (limit : Nat) {reader : Reader} (none_kept : reader.peeked = none)
    (calls : Nat) : (reader.resumed limit calls).peeked = none := by
  cases calls with
  | zero => exact none_kept
  | succ calls =>
      rw [resumed_succ]
      exact readExpr_peeked limit _

/-- Behind the end of the text calls change nothing any more. -/
theorem resumed_finish (limit : Nat) (cursor : Cursor) (calls : Nat) :
    resumed limit ⟨cursor.finish, none⟩ calls = ⟨cursor.finish, none⟩ :=
  Function.iterate_fixed (by rw [readExpr_of_next cursor.next_finish]) calls

/-- Where nothing is left every call gives nothing. -/
theorem readExpr_resumed_of_next {cursor : Cursor}
    (nothing : cursor.next = (.ok none, cursor.finish)) (limit calls : Nat) :
    ((resumed limit ⟨cursor, none⟩ calls).readExpr limit).1 = .ok none := by
  cases calls with
  | zero => exact congrArg Prod.fst (readExpr_of_next nothing limit)
  | succ calls =>
      rw [resumed_of_readExpr (readExpr_of_next nothing limit), resumed_finish,
        readExpr_of_next cursor.next_finish]

/-- A call progresses past just these tokens and failing lexemes. -/
structure Progresses (limit : Nat) (reader : Reader)
    (lexemes : List (Except LexError Token × Cursor)) : Prop where
  /-- Something is consumed. -/
  nonempty : lexemes ≠ []
  /-- The call gives an expression or an error. -/
  given : (reader.readExpr limit).1 ≠ .ok none
  /-- The call stops right behind what it consumes. -/
  consumes : reader.cursor.Consumes lexemes (reader.readExpr limit).2.cursor

/-- All that is left behind a place is divided among the calls from there on. -/
theorem exists_parts (limit : Nat) (cursor : Cursor) :
    ∃ parts : List (List (Except LexError Token × Cursor)),
      parts.flatten = cursor.tokens ∧
        (∀ call lexemes, parts[call]? = some lexemes →
          (resumed limit ⟨cursor, none⟩ call).Progresses limit lexemes) ∧
        ∀ call, parts.length ≤ call →
          ((resumed limit ⟨cursor, none⟩ call).readExpr limit).1 = .ok none := by
  -- The induction is on how much is left: every call but those at the end leaves less.
  induction left : cursor.tokens.length using Nat.strongRecOn generalizing cursor with
  | ind left_length ih =>
      obtain ⟨lexemes, result, after, read, consumes, nothing⟩ := readExpr_consumes limit cursor
      by_cases empty : lexemes = []
      · rw [nothing.mp empty] at read
        have final := (Grammar.readExpr_eq_none_iff limit cursor).mp ⟨_, read⟩
        have ended := Cursor.next_of_finalGap final
        exact ⟨[], (Cursor.tokens_of_none ended).symm, by simp,
          fun call _ => readExpr_resumed_of_next ended limit call⟩
      · have tokens_eq := consumes.tokens_eq
        have less : after.tokens.length < left_length := by
          have positive := List.length_pos_iff.mpr empty
          rw [← left, tokens_eq, List.length_append]
          omega
        obtain ⟨parts, flatten, progresses, ended⟩ := ih _ less after rfl
        refine ⟨lexemes :: parts, by rw [List.flatten_cons, flatten, tokens_eq], ?_, ?_⟩
        · rintro (_ | call) part part_eq
          · obtain rfl : lexemes = part := by simpa using part_eq
            refine ⟨empty, ?_, ?_⟩
            · simpa [resumed, read] using mt nothing.mpr empty
            · simpa [resumed, read] using consumes
          · rw [resumed_of_readExpr read]
            exact progresses call part (by simpa using part_eq)
        · rintro (_ | call) enough
          · simp at enough
          · rw [resumed_of_readExpr read]
            exact ended call (by simpa using enough)

/-- Reading on after errors always progresses.  The tokens and the failing lexemes of a text are
divided in order among the first calls, each of which takes at least one of them and gives an
expression or an error; all later calls give nothing, and no token is kept back behind any call. -/
theorem resumed_progresses (limit : Nat) (text : String) :
    ∃ parts : List (List (Except LexError Token × Cursor)),
      parts.flatten = (Cursor.ofText text).tokens ∧
        parts.length ≤ (Cursor.ofText text).tokens.length ∧
        (∀ call lexemes, parts[call]? = some lexemes →
          ((ofText text).resumed limit call).Progresses limit lexemes) ∧
        (∀ call, parts.length ≤ call →
          (((ofText text).resumed limit call).readExpr limit).1 = .ok none) ∧
        ∀ call, ((ofText text).resumed limit call).peeked = none := by
  obtain ⟨parts, flatten, progresses, ended⟩ := exists_parts limit (Cursor.ofText text)
  have nonempty : ∀ lexemes ∈ parts, 1 ≤ lexemes.length := by
    intro lexemes member
    obtain ⟨call, part_eq⟩ := List.mem_iff_getElem?.mp member
    exact List.length_pos_iff.mpr (progresses call lexemes part_eq).nonempty
  have few : parts.length ≤ (Cursor.ofText text).tokens.length := by
    rw [← flatten, List.length_flatten]
    simpa using List.length_le_sum_of_one_le (parts.map List.length) (by simpa using nonempty)
  exact ⟨parts, flatten, few, progresses, ended, resumed_peeked limit rfl⟩

end Reader
end DynLisp
