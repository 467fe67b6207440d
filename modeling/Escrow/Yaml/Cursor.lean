import Escrow.Error

/-!
# Reading positions

A reading position in a YAML text: the characters ahead, and how far the reading has come.  Reading
is a state computation over positions that may find the text malformed.
-/

namespace Escrow.Yaml

/-- A reading position. -/
structure Cursor where
  /-- The characters ahead. -/
  rest : List Char
  /-- How many characters have been read. -/
  index : Nat := 0
  line : Nat := 0
  column : Nat := 0
  deriving Inhabited

/-- A reading that moves on, or finds the text malformed. -/
abbrev Scan := StateT Cursor (Except Fault)

/-- A line break of YAML. -/
def isBreak (c : Char) : Bool :=
  c == '\n' || c == '\r' || c == '\u0085' || c == '\u2028' || c == '\u2029'

/-- Is there a line break ahead, or nothing? -/
def endsLine : Option Char → Bool
  | none => true
  | some c => isBreak c

/-- Is there a space or a line break ahead, or nothing? -/
def endsWord : Option Char → Bool
  | none => true
  | some c => c == ' ' || isBreak c

/-- Is there a blank ahead, or nothing? -/
def endsToken : Option Char → Bool
  | none => true
  | some c => c == ' ' || c == '\t' || isBreak c

/-- A character of a name: of an anchor, a directive or a tag handle. -/
def isNameChar (c : Char) : Bool := c.isAlphanum || c == '-' || c == '_'

namespace Cursor

/-- The position after one character. -/
def next (cursor : Cursor) : Cursor :=
  match cursor.rest with
  | [] => cursor
  | c :: rest =>
    let index := cursor.index + 1
    if isBreak c then ⟨rest, index, cursor.line + 1, 0⟩
    else if c == '\ufeff' then ⟨rest, index, cursor.line, cursor.column⟩
    else ⟨rest, index, cursor.line, cursor.column + 1⟩

/-- The position after a number of characters. -/
def skip (cursor : Cursor) : Nat → Cursor
  | 0 => cursor
  | count + 1 => cursor.next.skip count

/-- The character a number of places ahead. -/
def peek (cursor : Cursor) (ahead : Nat) : Option Char := cursor.rest[ahead]?

/-- Is a document mark ahead: three given characters, and then a blank or nothing? -/
def atMark (cursor : Cursor) (c : Char) : Bool :=
  cursor.rest.take 3 == [c, c, c] && endsToken (cursor.peek 3)

/-- Is a mark of the start or the end of a document ahead? -/
def atDocumentMark (cursor : Cursor) : Bool := cursor.atMark '-' || cursor.atMark '.'

end Cursor

/-- Find the text malformed. -/
def malformed {α : Type} : Scan α := throw .malformedDocument

/-- The character a number of places ahead. -/
def peek (ahead : Nat) : Scan (Option Char) := do return (← get).peek ahead

/-- Read a number of characters. -/
def take (count : Nat) : Scan (List Char) := do
  let chars := (← get).rest.take count
  modify (·.skip count)
  return chars

/-- Read the characters at the front that pass a test. -/
def takeWhile (test : Char → Bool) : Scan (List Char) := do
  take ((← get).rest.takeWhile test).length

/-- Read over the spaces. -/
def skipSpaces : Scan Unit := do
  let _ ← takeWhile (· == ' ')

/-- Read over the spaces before a column. -/
def skipIndent (column : Nat) : Scan Unit := do
  let cursor ← get
  let spaces := (cursor.rest.takeWhile (· == ' ')).length
  let _ ← take (min spaces (column - cursor.column))

/-- Read a line break, if one is ahead.  All breaks of ASCII count as one. -/
def takeBreak : Scan (Option Char) := do
  match (← get).rest with
  | '\r' :: '\n' :: _ =>
    let _ ← take 2
    return some '\n'
  | c :: _ =>
    if isBreak c then
      let _ ← take 1
      return some (if c == '\u2028' || c == '\u2029' then c else '\n')
    else return none
  | [] => return none

/-- Read over a comment, if one is ahead. -/
def skipComment : Scan Unit := do
  if (← peek 0) = some '#' then
    let _ ← takeWhile fun c => !isBreak c

end Escrow.Yaml
