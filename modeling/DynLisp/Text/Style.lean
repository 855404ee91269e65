/-!
# Terminal styles

Bold and coloured text for a terminal that understands escape sequences.  With colour off every
text stays as it is.
-/

namespace DynLisp
namespace Text

/-- The colours that reports use. -/
inductive Color where
  | red
  | magenta
deriving DecidableEq, Repr

/-- The escape character. -/
def escape : Char := '\x1b'

/-- The sequence that turns a colour on. -/
def Color.sequence : Color → String
  | .red => String.ofList [escape, '[', '3', '1', 'm']
  | .magenta => String.ofList [escape, '[', '3', '5', 'm']

/-- The sequence that turns bold on. -/
def boldSequence : String := String.ofList [escape, '[', '1', 'm']

/-- The sequence that ends every style. -/
def resetSequence : String := String.ofList [escape, '[', '0', 'm']

/-- A text in bold, if colour is on. -/
def bold (color : Bool) (text : String) : String :=
  if color then boldSequence ++ text ++ resetSequence else text

/-- A text in bold and in a colour, if colour is on. -/
def paint (color : Bool) (hue : Color) (text : String) : String :=
  if color then boldSequence ++ hue.sequence ++ text ++ resetSequence else text

@[simp]
theorem bold_off (text : String) : bold false text = text := rfl

@[simp]
theorem paint_off (hue : Color) (text : String) : paint false hue text = text := rfl

end Text
end DynLisp
