import DynLisp.Message
import DynLisp.Platform
import DynLisp.Position
import DynLisp.Template

/-!
# Notices

A notice is what an error or a warning has to say: its text, the place in the source it speaks of,
and how much of the source to underline there.  Its text comes either from a message, whose
quotations are shown in bold where colour is on, or from a template, whose arguments are.  What is
shown is made from the template anew, with the arguments in the style of the platform.
-/

namespace DynLisp

/-- What an error or a warning has to say. -/
structure Notice where
  /-- Template of the text. -/
  template : String
  /-- Arguments of the template, used or not. -/
  arguments : List String
  /-- The text without any style. -/
  text : String
  /-- What the text is shown from: the template and the arguments, or those of another notice that
  is passed on. -/
  display : Template.Filling
  /-- Place in the source, if there is one. -/
  position : Option Position
  /-- Number of columns to underline. -/
  span : Nat
  /-- Whether the source line is quoted. -/
  quotesSource : Bool
  /-- Whether the interpreter itself is at fault. -/
  internal : Bool
deriving Repr

namespace Notice

/-- The text of a notice as it is shown on a platform, if the template accepts the arguments in
their style. -/
def shown (notice : Notice) (color : Bool) (platform : Platform := .ordinary) :
    Except TemplateError String :=
  notice.display.format platform.room (platform.bold color)

/-- A notice with the given message about no place in the source. -/
def ofMessage (message : Message) : Notice where
  template := message.template
  arguments := message.quotations
  text := message.text
  display := ⟨message.template, message.quotations⟩
  position := none
  span := 1
  quotesSource := true
  internal := false

/-- A notice with a given template and arguments, if they fit. -/
def ofTemplate (template : String) (arguments : List String)
    (platform : Platform := .ordinary) : Except TemplateError Notice :=
  (Template.format platform.room template arguments).map fun text =>
    { template := template
      arguments := arguments
      text := text
      display := ⟨template, arguments⟩
      position := none
      span := 1
      quotesSource := true
      internal := false }

/-- The notice about a stretch of the source; a stretch has at least one column. -/
def spanning (notice : Notice) (position : Option Position) (span : Int) : Notice :=
  { notice with position := position, span := (max span 1).toNat }

/-- The notice about one column of the source. -/
def placed (notice : Notice) (position : Option Position) : Notice :=
  notice.spanning position 1

/-- The notice without a quotation of the source. -/
def withoutSource (notice : Notice) : Notice :=
  { notice with quotesSource := false }

end Notice
end DynLisp
