/-!
# Lone halves of surrogate pairs

An escape may name half of a surrogate pair.  A half that stands alone is no character and cannot be
encoded, but a text may hold it.  It is kept as a private character at a fixed distance.  The private
characters from U+10D800 to U+10DFFF are given up for this: a text that holds one of them for its own
sake cannot be told from a text with a half.
-/

namespace Escrow.Text

/-- How far behind a half its private character stands. -/
def halfDistance : Nat := 0x100000

/-- Is the code one of a half of a surrogate pair? -/
def isHalfCode (code : Nat) : Bool := 0xd800 ≤ code && code ≤ 0xdfff

/-- The character of a code, or the private character of a half. -/
def ofCode (code : Nat) : Char := Char.ofNat (if isHalfCode code then code + halfDistance else code)

/-- The code of the half that a character stands for, if it stands for one. -/
def half? (c : Char) : Option Nat :=
  if isHalfCode (c.toNat - halfDistance) then some (c.toNat - halfDistance) else none

/-- Does a text hold a half, so that it cannot be encoded? -/
def hasHalf (text : String) : Bool := text.toList.any fun c => (half? c).isSome

end Escrow.Text
