/-
# FlightAttitude.Text.Quoted — a text between quotes

The quote is a single one, unless the text holds a single quote and no double one. The quote and the
backslash are escaped by a backslash; the tab and the two line ends have short names; every other
unprintable character is given by its code point in two, four or eight hexadecimal digits.
-/
import FlightAttitude.Text.Printable

namespace FlightAttitude.Text

/-- The quote that is put around a text. -/
def quoteFor (cs : List Char) : Char :=
  if cs.contains '\'' && !cs.contains '"' then '"' else '\''

example : quoteFor ['i', 't', '\'', 's'] = '"' := by decide

example : quoteFor ['a', '\'', 'b', '"'] = '\'' := by decide

/-- The last `width` hexadecimal digits of `n`. -/
def hexDigits (width n : Nat) : List Char :=
  let digits := Nat.toDigits 16 n
  List.replicate (width - digits.length) '0' ++ digits

/-- **`escaped quote c`** — one character as it stands between two of `quote`. -/
def escaped (quote c : Char) : List Char :=
  if c = quote || c = '\\' then ['\\', c]
  else if c = '\n' then ['\\', 'n']
  else if c = '\r' then ['\\', 'r']
  else if c = '\t' then ['\\', 't']
  else if isPrintable c then [c]
  else if c.toNat < 0x100 then '\\' :: 'x' :: hexDigits 2 c.toNat
  else if c.toNat < 0x10000 then '\\' :: 'u' :: hexDigits 4 c.toNat
  else '\\' :: 'U' :: hexDigits 8 c.toNat

/-- **`quoted s`** — the text `s` between quotes. -/
def quoted (s : String) : String :=
  let quote := quoteFor s.toList
  String.ofList (quote :: s.toList.flatMap (escaped quote) ++ [quote])

end FlightAttitude.Text
