import Escrow.Error
import Escrow.Text.Case
import Escrow.Text.Numeral

/-!
# Titles of sheets

The sheets of a workbook have titles that differ even without regard to letter case.  A title that
is taken gets a number behind it, and a sheet without a title gets the usual one.
-/

namespace Escrow.SheetTitle

/-- The title of a sheet that is given none. -/
def usual : String := "Sheet"

/-- Can a title hold the character? -/
def isAllowed (c : Char) : Bool := !"\\*?:/[]".toList.contains c

/-- Are two characters one letter, whatever its case? -/
def isSameLetter (c d : Char) : Bool := c == d || Text.lowerChar c == Text.lowerChar d

/-- What follows a title at the start of a text. -/
def after? : List Char → List Char → Option (List Char)
  | [], chars => some chars
  | _ :: _, [] => none
  | c :: title, d :: chars => if isSameLetter c d then after? title chars else none

/-- The numbers that stand behind a title in a text, searched in at most so many steps. -/
def numbersIn (title : List Char) : Nat → List Char → List Nat
  | 0, _ => []
  | _, [] => []
  | steps + 1, c :: rest =>
    match after? title (c :: rest) with
    | some behind =>
      let isDigit (c : Char) : Bool := (Text.digitValue? c).isSome
      let rest := behind.dropWhile isDigit
      let others := numbersIn title steps (if rest.head? = some ',' then rest.tail else rest)
      match Text.natural? (Text.asciiDigits (behind.takeWhile isDigit)) with
      | some number => number :: others
      | none => others
    | none => numbersIn title steps rest

/-- A title, told apart from those that are taken by the number behind the greatest one. -/
def distinct (taken : List String) (title : String) : String :=
  if taken.any fun other => Text.lower other = Text.lower title then
    let text := (",".intercalate taken).toList
    s!"{title}{(numbersIn title.toList text.length text).foldl max 0 + 1}"
  else title

/-- The title of a sheet from what is given for it. -/
def ofValue (taken : List String) (given : Value) : Except Fault String :=
  match given.orElse (.text usual) with
  | .text title =>
    if title.toList.all isAllowed then .ok (distinct taken title) else .error .badValue
  | _ => .error .wrongKind

end Escrow.SheetTitle
