import Escrow.Text.CaseTable
import Escrow.Text.Character
import Escrow.Text.WordTable

/-!
# Upper and lower case of texts

The full case mappings of the Unicode standard.  A letter may become several characters, and a
capital sigma at the end of a word becomes a final sigma.
-/

namespace Escrow.Text

/-- The mapping of one character through the runs and the expansions of one direction. -/
def mapCase (runs : List CaseRun) (expansions : List (Nat × String)) (c : Char) : List Char :=
  match expansions.lookup c.toNat with
  | some several => several.toList
  | none =>
    match runs.find? (·.covers c.toNat) with
    | some run => [run.partner c.toNat]
    | none => [c]

/-- The lower case of one character, its place in a word aside. -/
def lowerChar (c : Char) : List Char := mapCase lowerRuns lowerExpansions c

/-- The upper case of one character. -/
def upperChar (c : Char) : List Char := mapCase upperRuns upperExpansions c

/-- Is the character a cased letter, one that is not passed over? -/
def isCased (c : Char) : Bool := inRanges casedRanges c.toNat

/-- Characters inside a word that are passed over when the end of the word is looked for. -/
def isPassedOver (c : Char) : Bool := inRanges ignorableRanges c.toNat

/-- Is the first character that is not passed over a cased one? -/
def meetsCased (chars : List Char) : Bool :=
  match chars.dropWhile isPassedOver with
  | c :: _ => isCased c
  | [] => false

/-- The lower case of the characters, given those before them from the last to the first. -/
def lowerChars (before : List Char) : List Char → List Char
  | [] => []
  | c :: rest =>
    let mapped :=
      if c == 'Σ' then
        if meetsCased before && !meetsCased rest then ['ς'] else ['σ']
      else lowerChar c
    mapped ++ lowerChars (c :: before) rest

/-- A text in lower case. -/
def lower (text : String) : String := String.ofList (lowerChars [] text.toList)

/-- A text in upper case. -/
def upper (text : String) : String := String.ofList (text.toList.flatMap upperChar)

/-- A text whose first letter is a capital and the others small; meant for single ASCII words. -/
def capitalize (text : String) : String :=
  match text.toList with
  | [] => ""
  | c :: rest => String.ofList (upperChar c ++ lowerChars [c] rest)

end Escrow.Text
