import DynLisp.ParseError

/-!
# Reading tokens

A reader takes tokens from a cursor, with at most one token looked at ahead of time.  Nothing is
rolled back after an error: the reader stays behind the last token it consumed.

`Reading` is the type of what can be done with a reader: it gives a result or an error and leaves
the reader no further back than it was.  A reading carries the proof of that, so loops over readings
are seen to end.
-/

namespace DynLisp

/-- A source of tokens with one token of look-ahead. -/
structure Reader where
  /-- Where tokens are read from. -/
  cursor : Cursor
  /-- The token that has been looked at and not yet consumed. -/
  peeked : Option Token
deriving Repr

namespace Reader

/-- A reader at the beginning of a text. -/
def ofText (text : String) : Reader := ⟨.ofText text, none⟩

/-- Consumes the next token, or nothing at the end of the text. -/
def next (reader : Reader) : Except ParseError (Option Token) × Reader :=
  match reader.peeked with
  | some token => (.ok (some token), { reader with peeked := none })
  | none =>
      match reader.cursor.next with
      | (.ok token, after) => (.ok token, ⟨after, none⟩)
      | (.error error, after) => (.error (.lexical error), ⟨after, none⟩)

/-- Looks at the next token without consuming it. -/
def peek (reader : Reader) : Except ParseError (Option Token) × Reader :=
  match reader.next with
  | (.ok token, after) => (.ok token, { after with peeked := token })
  | (.error error, after) => (.error error, after)

/-- A bound on the number of tokens that are left. -/
def size (reader : Reader) : Nat :=
  reader.cursor.rest.length + if reader.peeked.isSome then 1 else 0

/-- Consuming a token or an error leaves less to read. -/
theorem next_size_lt {reader : Reader} (more : reader.next.1 ≠ .ok none) :
    reader.next.2.size < reader.size := by
  unfold next at more ⊢
  split at more
  next token peeked => simp [size, peeked]
  next peeked =>
    split at more
    next token after result =>
      have consumed := reader.cursor.next_rest_lt (by rw [result]; simpa using more)
      rw [result] at consumed
      simpa [size, peeked, result] using consumed
    next error after result =>
      have consumed := reader.cursor.next_rest_lt (by rw [result]; simp)
      rw [result] at consumed
      simpa [size, peeked, result] using consumed

theorem next_size_le (reader : Reader) : reader.next.2.size ≤ reader.size := by
  unfold next
  split
  next token peeked => simp [size, peeked]
  next peeked =>
    have remaining := reader.cursor.next_rest_le
    split <;> next after result =>
      rw [result] at remaining
      simpa [size, peeked] using remaining

theorem next_peeked (reader : Reader) : reader.next.2.peeked = none := by
  unfold next
  split
  · rfl
  split <;> rfl

/-- Looking at a token leaves no more to read than there was. -/
theorem peek_size_le (reader : Reader) : reader.peek.2.size ≤ reader.size := by
  have remaining := reader.next_size_le
  have consumed : reader.next.1 ≠ .ok none → _ := reader.next_size_lt
  unfold peek
  split
  next token after result =>
    rw [result] at remaining consumed
    cases token with
    | none => exact Nat.le_trans (Nat.le_add_right _ _) remaining
    | some token => exact Nat.lt_of_le_of_lt (Nat.le_add_right _ _) (consumed (by simp))
  next error after result => rwa [result] at remaining

end Reader

/-- Something to be done with a reader that never takes it back. -/
structure Reading (α : Type) where
  /-- The result or an error, and the reader afterwards. -/
  run : Reader → Except ParseError α × Reader
  /-- There is never more to read afterwards. -/
  forward : ∀ reader, (run reader).2.size ≤ reader.size

namespace Reading

variable {α β γ : Type}

/-- Goes on with what has been read unless it is an error. -/
def follow (outcome : Except ParseError α × Reader)
    (later : α → Reader → Except ParseError β × Reader) : Except ParseError β × Reader :=
  match outcome with
  | (.error error, after) => (.error error, after)
  | (.ok value, after) => later value after

instance : Monad Reading where
  pure value := ⟨fun reader => (.ok value, reader), fun _ => Nat.le_refl _⟩
  bind first later :=
    { run reader := follow (first.run reader) fun value => (later value).run
      forward reader := by
        have remaining := first.forward reader
        unfold follow
        split
        next error after result => rwa [result] at remaining
        next value after result =>
          rw [result] at remaining
          exact Nat.le_trans ((later value).forward after) remaining }

/-- Fails with an error and reads nothing. -/
def fail (error : ParseError) : Reading α :=
  ⟨fun reader => (.error error, reader), fun _ => Nat.le_refl _⟩

/-- Goes on with a result that may be an error. -/
def ofExcept : Except ParseError α → Reading α
  | .ok value => pure value
  | .error error => fail error

/-- Consumes the next token, or nothing at the end of the text. -/
def token : Reading (Option Token) := ⟨Reader.next, Reader.next_size_le⟩

/-- Looks at the next token without consuming it. -/
def lookAhead : Reading (Option Token) := ⟨Reader.peek, Reader.peek_size_le⟩

/-- Consumes a closing bracket that has to be there. -/
def rightBracket : Reading Unit := do
  match ← token with
  | none => fail (.unexpectedEnd "`)`")
  | some token => if token.lexeme = .rightBracket then pure () else fail (.unexpectedToken token)

@[simp]
theorem pure_run (value : α) (reader : Reader) :
    (pure value : Reading α).run reader = (.ok value, reader) := rfl

@[simp]
theorem bind_run (first : Reading α) (later : α → Reading β) (reader : Reader) :
    (first >>= later).run reader =
      follow (first.run reader) fun value => (later value).run := rfl

@[simp]
theorem map_run (convert : α → β) (reading : Reading α) (reader : Reader) :
    (convert <$> reading).run reader =
      follow (reading.run reader) fun value after => (.ok (convert value), after) := rfl

@[simp]
theorem fail_run (error : ParseError) (reader : Reader) :
    (fail error : Reading α).run reader = (.error error, reader) := rfl

@[simp]
theorem token_run (reader : Reader) : token.run reader = reader.next := rfl

@[simp]
theorem lookAhead_run (reader : Reader) : lookAhead.run reader = reader.peek := rfl

@[simp]
theorem follow_ok (value : α) (reader : Reader)
    (later : α → Reader → Except ParseError β × Reader) :
    follow (.ok value, reader) later = later value reader := rfl

@[simp]
theorem follow_error (error : ParseError) (reader : Reader)
    (later : α → Reader → Except ParseError β × Reader) :
    follow (.error error, reader) later = (.error error, reader) := rfl

theorem follow_congr {outcome : Except ParseError α × Reader}
    {later later' : α → Reader → Except ParseError β × Reader}
    (same : ∀ value after, later value after = later' value after) :
    follow outcome later = follow outcome later' := by
  rcases outcome with ⟨error | value, after⟩
  · rfl
  · exact same value after

@[simp]
theorem follow_follow (outcome : Except ParseError α × Reader)
    (middle : α → Reader → Except ParseError β × Reader)
    (later : β → Reader → Except ParseError γ × Reader) :
    follow (follow outcome middle) later =
      follow outcome fun value after => follow (middle value after) later := by
  rcases outcome with ⟨error | value, after⟩ <;> rfl

end Reading
end DynLisp
