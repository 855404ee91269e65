/-!
# Messages

A message is running text with marked fragments: names, positions and other quotations from the
program being run.  Marked fragments are shown in a style of their own; nothing inside them is ever
interpreted.
-/

namespace DynLisp

/-- A stretch of a message. -/
inductive Fragment where
  /-- Running text. -/
  | plain (text : String)
  /-- A quotation, shown in a style of its own. -/
  | marked (text : String)
deriving DecidableEq, Repr

/-- A text with marked fragments. -/
abbrev Message := List Fragment

namespace Fragment

/-- The characters of a fragment. -/
def text : Fragment → String
  | plain text => text
  | marked text => text

/-- A fragment as it is shown, with a style for quotations. -/
def styled (style : String → String) : Fragment → String
  | plain text => text
  | marked text => style text

/-- Running text with its braces doubled, or an empty field for a quotation. -/
def template : Fragment → String
  | plain text =>
      String.ofList <| text.toList.flatMap fun character =>
        if character = '\x7b' || character = '\x7d' then [character, character] else [character]
  | marked _ => "\x7b\x7d"

/-- The quotation that a fragment is, if it is one. -/
def quotation? : Fragment → Option String
  | plain _ => none
  | marked text => some text

end Fragment

namespace Message

/-- The text of a message without any style. -/
def text (message : Message) : String :=
  String.join (message.map Fragment.text)

/-- A message as it is shown, with a style for quotations. -/
def styled (style : String → String) (message : Message) : String :=
  String.join (message.map (Fragment.styled style))

/-- A template that gives the message when it is filled with the message's quotations. -/
def template (message : Message) : String :=
  String.join (message.map Fragment.template)

/-- The marked fragments of a message in order. -/
def quotations (message : Message) : List String :=
  message.filterMap Fragment.quotation?

theorem styled_cons (style : String → String) (fragment : Fragment) (message : Message) :
    styled style (fragment :: message) = fragment.styled style ++ message.styled style := by
  simp [styled]

theorem styled_id (message : Message) : styled id message = text message := by
  have same : Fragment.styled id = Fragment.text := by
    funext fragment
    cases fragment <;> rfl
  simp [styled, text, same]

end Message
end DynLisp
