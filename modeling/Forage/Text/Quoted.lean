import Forage.Text.Hexadecimal
import Forage.Text.Point
import Forage.Text.Printable

/-!
# Quoted text

How a text is shown inside a message: between quotes, with a backslash before
what would end it or could not be read.
-/

namespace Forage.Text

/-- Double quotes are used for a text that has single quotes and no double ones. -/
def quoteFor (chars : List Char) : Char :=
  if chars.contains '\'' && !chars.contains '"' then '"' else '\''

def escapeChar (quote c : Char) : List Char :=
  if c = quote || c = '\\' then ['\\', c]
  else if c = '\n' then ['\\', 'n']
  else if c = '\r' then ['\\', 'r']
  else if c = '\t' then ['\\', 't']
  else if isPrintable c then [c]
  else if c.toNat < 0x100 then '\\' :: 'x' :: hexDigits 2 c.toNat
  else if c.toNat < 0x10000 then '\\' :: 'u' :: hexDigits 4 c.toNat
  else '\\' :: 'U' :: hexDigits 8 c.toNat

def escapePoint (quote : Char) : Point → List Char
  | .char c => escapeChar quote c
  | .half index => '\\' :: 'u' :: hexDigits 4 (Point.half index).code

def quotedChars (chars : List Char) : List Char :=
  let quote := quoteFor chars
  quote :: (points chars).flatMap (escapePoint quote) ++ [quote]

def quoted (text : String) : String :=
  String.ofList (quotedChars text.toList)

end Forage.Text
