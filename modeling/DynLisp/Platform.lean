import DynLisp.Text.Style

/-!
# Platforms

What the program takes from where it runs is given by a platform: how its terminal sets texts in
bold and in colours, and how long a text its memory has room for.  The program itself works on every
platform.  `Platform.SetsBold` says what a terminal with escape sequences does with bold texts.
-/

namespace DynLisp

/-- What the program takes from where it runs. -/
structure Platform where
  /-- A text in bold, if colour is on. -/
  bold : Bool → String → String
  /-- A text in bold and in a colour, if colour is on. -/
  paint : Bool → Text.Color → String → String
  /-- Length of the longest text that there is room for. -/
  room : Nat
  /-- Lengths are signed 64-bit numbers. -/
  room_lt : room < 0x8000000000000000

namespace Platform

/-- A terminal that turns bold on in front of a text and off behind it, and leaves the text as it is
if colour is off. -/
structure SetsBold (platform : Platform) : Prop where
  /-- With colour off every text stays as it is. -/
  off (text : String) : platform.bold false text = text
  /-- With colour on there is a sequence on either side of the text. -/
  on (text : String) : platform.bold true text = Text.boldSequence ++ text ++ Text.resetSequence

/-- A terminal with escape sequences, and room for `2 ^ 28` characters. -/
def ordinary : Platform := ⟨Text.bold, Text.paint, 0x10000000, by decide⟩

theorem ordinary_setsBold : ordinary.SetsBold := ⟨fun _ => rfl, fun _ => rfl⟩

end Platform
end DynLisp
