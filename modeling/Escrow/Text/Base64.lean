/-!
# Bytes as letters

Bytes written six bits at a time in 64 letters, digits and signs.  A reader passes over every other
character, and stops at padding that completes a group of four.
-/

namespace Escrow.Text.Base64

/-- The letters, from the one for zero on. -/
def letters : List Char :=
  "ABCDEFGHIJKLMNOPQRSTUVWXYZabcdefghijklmnopqrstuvwxyz0123456789+/".toList

/-- What fills up a group of four. -/
def padding : Char := '='

/-- The six bits of a letter. -/
def bitsOf? (c : Char) : Option Nat := letters.idxOf? c

/-- Read letters.  `count` is how many letters of the group have been read, `bits` are those that
make no byte yet, and `pads` is how much padding has been met behind the last letter.  A group of
which bits are left over has no bytes. -/
def decodeFrom : Nat → Nat → Nat → List Char → Option (List UInt8)
  | count, _, _, [] => if count = 0 then some [] else none
  | count, bits, pads, c :: rest =>
    if c == padding then
      if 2 ≤ count && 4 ≤ count + pads + 1 then some []
      else decodeFrom count bits (if 2 ≤ count then pads + 1 else pads) rest
    else
      match bitsOf? c with
      | none => decodeFrom count bits pads rest
      | some value =>
        match count with
        | 0 => decodeFrom 1 value 0 rest
        | 1 => (decodeFrom 2 (value % 16) 0 rest).map ((bits * 4 + value / 16).toUInt8 :: ·)
        | 2 => (decodeFrom 3 (value % 4) 0 rest).map ((bits * 16 + value / 4).toUInt8 :: ·)
        | _ => (decodeFrom 0 0 0 rest).map ((bits * 64 + value).toUInt8 :: ·)

/-- The bytes of a text. -/
def decode? (text : List Char) : Option (List UInt8) := decodeFrom 0 0 0 text

/-- The letter of six bits. -/
def letter (bits : Nat) : Char := letters.getD (bits % 64) padding

/-- The letters of bytes, three at a time. -/
def encode : List UInt8 → List Char
  | a :: b :: c :: rest =>
    let group := (a.toNat * 256 + b.toNat) * 256 + c.toNat
    letter (group / 262144) :: letter (group / 4096) :: letter (group / 64) :: letter group ::
      encode rest
  | [a, b] =>
    let group := (a.toNat * 256 + b.toNat) * 4
    [letter (group / 4096), letter (group / 64), letter group, padding]
  | [a] => [letter (a.toNat / 4), letter (a.toNat * 16), padding, padding]
  | [] => []

/-- How many letters a line holds. -/
def lineLength : Nat := 76

/-- The lines of letters, each one ended by a line feed, in at most so many lines. -/
def linesOf : Nat → List Char → List Char
  | _, [] => []
  | 0, chars => chars
  | count + 1, chars => chars.take lineLength ++ '\n' :: linesOf count (chars.drop lineLength)

/-- The text of bytes, in lines. -/
def text (bytes : List UInt8) : String :=
  let chars := encode bytes
  String.ofList (linesOf chars.length chars)

end Escrow.Text.Base64
