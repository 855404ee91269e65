import DynLisp.Text.Hex
import DynLisp.Text.Printable

/-!
# Quoted names

A quoted name stands between single quotes, or between double quotes if it holds a single quote and
no double quote.  The quote in use, the backslash and everything unprintable is spelled with a
backslash, so a quoted name is one line of printable text.  `asciiOnly` spells everything outside of
ASCII in the same way.
-/

namespace DynLisp
namespace Text
namespace Quoted

/-- The quote that a name is put between. -/
def quoteFor (name : List Char) : Char :=
  if name.contains '\x27' && !name.contains '\x22' then '\x22' else '\x27'

/-- The code of a character behind a backslash. -/
def spelled (character : Char) : List Char :=
  if character.toNat < 0x100 then '\\' :: 'x' :: hexDigits 2 character.toNat
  else if character.toNat < 0x10000 then '\\' :: 'u' :: hexDigits 4 character.toNat
  else '\\' :: 'U' :: hexDigits 8 character.toNat

/-- One character of a quoted name. -/
def encodeChar (quote character : Char) : List Char :=
  if character = quote || character = '\\' then ['\\', character]
  else if character = '\n' then ['\\', 'n']
  else if character = '\r' then ['\\', 'r']
  else if character = '\t' then ['\\', 't']
  else if isPrintable character then [character]
  else spelled character

/-- A name between its quotes. -/
def encode (name : List Char) : List Char :=
  let quote := quoteFor name
  quote :: (name.flatMap (encodeChar quote) ++ [quote])

end Quoted

/-- A name between its quotes. -/
def quoted (name : String) : String :=
  String.ofList (Quoted.encode name.toList)

/-- A text with everything outside of ASCII spelled with a backslash. -/
def asciiOnly (text : String) : String :=
  String.ofList (text.toList.flatMap fun character =>
    if character.toNat < 0x80 then [character] else Quoted.spelled character)

end Text
end DynLisp
