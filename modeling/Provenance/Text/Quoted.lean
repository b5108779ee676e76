import Provenance.Text.Hex
import Provenance.Text.Printable

/-!
Quoted text. A text is shown between single quotes, or between double quotes if it holds a single
quote and no double quote; what cannot be shown as it is appears as an escape.
-/
namespace Provenance.Text

/-- How one character stands between quotes of the given kind. -/
def quotedChar (quote c : Char) : List Char :=
  if c = quote ∨ c = '\\' then ['\\', c]
  else if c = '\n' then ['\\', 'n']
  else if c = '\r' then ['\\', 'r']
  else if c = '\t' then ['\\', 't']
  else if isPrintable c then [c]
  else if c.toNat < 0x100 then '\\' :: 'x' :: hexPadded 2 c.toNat
  else if c.toNat < 0x10000 then '\\' :: 'u' :: hexPadded 4 c.toNat
  else '\\' :: 'U' :: hexPadded 8 c.toNat

/-- The quote that a text is shown with. -/
def quoteFor (s : List Char) : Char :=
  if s.contains '\'' && !s.contains '"' then '"' else '\''

/-- The text between quotes. -/
def quoted (s : String) : String :=
  let quote := quoteFor s.toList
  String.ofList (quote :: (s.toList.flatMap (quotedChar quote) ++ [quote]))

end Provenance.Text
