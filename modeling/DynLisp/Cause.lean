/-!
# Causes

A cause is a failure from below the language, known by its kind and its text only.
-/

namespace DynLisp

/-- A failure from below the language. -/
structure Cause where
  /-- The kind of failure. -/
  kind : String
  /-- What is known about it. -/
  text : String
deriving DecidableEq, Inhabited, Repr

namespace Cause

/-- A number does not fit its range. -/
def overflow (text : String) : Cause := ⟨"OverflowError", text⟩

/-- A value cannot be used. -/
def badValue (text : String) : Cause := ⟨"ValueError", text⟩

/-- An operand is of the wrong sort. -/
def badType (text : String) : Cause := ⟨"TypeError", text⟩

/-- A place in a sequence does not exist. -/
def badIndex (text : String) : Cause := ⟨"IndexError", text⟩

/-- A name stands for nothing; the text is the quoted name. -/
def badKey (text : String) : Cause := ⟨"KeyError", text⟩

/-- A thing of the given sort has no part of that name. -/
def missingPart (sort part : String) : Cause :=
  ⟨"AttributeError", "'" ++ sort ++ "' object has no attribute '" ++ part ++ "'"⟩

/-- A kind has no part of that name. -/
def missingKindPart (kind part : String) : Cause :=
  ⟨"AttributeError", "type object '" ++ kind ++ "' has no attribute '" ++ part ++ "'"⟩

/-- A part has not been set. -/
def unsetPart (part : String) : Cause := ⟨"AttributeError", part⟩

/-- Bytes are no text. -/
def badEncoding (text : String) : Cause := ⟨"UnicodeDecodeError", text⟩

/-- The memory is used up. -/
def memoryExhausted : Cause := ⟨"MemoryError", ""⟩

/-- The stack is used up. -/
def stackExhausted : Cause := ⟨"RecursionError", "maximum recursion depth exceeded"⟩

/-- A cause as one line. -/
def line (cause : Cause) : String := cause.kind ++ ": " ++ cause.text

end Cause
end DynLisp
