import Escrow.Text.Character
import Escrow.Text.Half

/-!
# Quoted texts

How a text is shown between quotes: single quotes unless the text holds a single quote and no
double one; the quote and the backslash are escaped, and so is everything that is not printable.
-/

namespace Escrow.Text

/-- The last `width` hexadecimal digits of a number. -/
def hexDigits (width n : Nat) : List Char :=
  let shown := Nat.toDigits 16 n
  List.replicate (width - shown.length) '0' ++ shown

/-- One character inside the given quotes. -/
def quoteChar (quote c : Char) : List Char :=
  if c == quote || c == '\\' then ['\\', c]
  else if c == '\n' then ['\\', 'n']
  else if c == '\r' then ['\\', 'r']
  else if c == '\t' then ['\\', 't']
  else if isPrintable c then [c]
  else
    let code := (half? c).getD c.toNat
    if code < 0x100 then '\\' :: 'x' :: hexDigits 2 code
    else if code < 0x10000 then '\\' :: 'u' :: hexDigits 4 code
    else '\\' :: 'U' :: hexDigits 8 code

/-- The quote that a text is shown between. -/
def quoteFor (chars : List Char) : Char :=
  if chars.contains '\'' && !chars.contains '"' then '"' else '\''

/-- A text between quotes. -/
def quoted (text : String) : String :=
  let chars := text.toList
  let quote := quoteFor chars
  String.ofList (quote :: chars.flatMap (quoteChar quote) ++ [quote])

/-- One byte inside the given quotes. -/
def quoteByte (quote : Char) (byte : UInt8) : List Char :=
  let c := Char.ofNat byte.toNat
  if byte < 0x7f then quoteChar quote c else '\\' :: 'x' :: hexDigits 2 byte.toNat

/-- Bytes between quotes. -/
def quotedBytes (data : List UInt8) : String :=
  let quote := quoteFor (data.map fun byte => Char.ofNat byte.toNat)
  String.ofList ('b' :: quote :: data.flatMap (quoteByte quote) ++ [quote])

end Escrow.Text
