import Escrow.Text.Half
import Escrow.Yaml.Cursor

/-!
# The styles of scalars

A scalar is written plain, in single or double quotes, or as a block that keeps or folds its lines.
Each reading here starts at the first character of the scalar and ends behind it.
-/

namespace Escrow.Yaml

/-! ## Quoted scalars -/

/-- The characters that an escape of one letter stands for. -/
def escapes : List (Char × Char) := [
  ('0', '\x00'), ('a', '\x07'), ('b', '\x08'), ('t', '\t'), ('\t', '\t'), ('n', '\n'),
  ('v', '\x0b'), ('f', '\x0c'), ('r', '\r'), ('e', '\x1b'), (' ', ' '), ('"', '"'),
  ('\\', '\\'), ('/', '/'), ('N', '\u0085'), ('_', '\u00a0'), ('L', '\u2028'), ('P', '\u2029')]

/-- How many hexadecimal digits follow the letter of an escape. -/
def escapeLength : Char → Option Nat
  | 'x' => some 2
  | 'u' => some 4
  | 'U' => some 8
  | _ => none

/-- Read blank lines inside a quoted scalar.  A document mark may not stand there. -/
def takeQuotedBreaks : Nat → List Char → Scan (List Char)
  | 0, done => return done
  | fuel + 1, done => do
    if (← get).atDocumentMark then malformed
    let _ ← takeWhile fun c => c == ' ' || c == '\t'
    match ← takeBreak with
    | some c => takeQuotedBreaks fuel (done ++ [c])
    | none => return done

/-- The text of a line break in folded text, given the breaks behind it: a space if there are
none. -/
def foldedBreak (c : Char) (breaks : List Char) : List Char :=
  if c != '\n' then c :: breaks else if breaks.isEmpty then [' '] else breaks

/-- Read the blanks inside a quoted scalar. -/
def takeQuotedSpaces : Scan (List Char) := do
  let blanks ← takeWhile fun c => c == ' ' || c == '\t'
  match (← get).rest with
  | [] => malformed
  | _ =>
    match ← takeBreak with
    | none => return blanks
    | some c => return foldedBreak c (← takeQuotedBreaks ((← get).rest.length + 1) [])

/-- The greatest code of a character. -/
def greatestCode : Nat := 0x10ffff

/-- The greatest number that is looked at as a code. -/
def greatestWord : Nat := 0x7fffffff

/-- Read an escape behind its backslash. -/
def takeEscape : Scan (List Char) := do
  match ← peek 0 with
  | none => malformed
  | some c =>
    if let some plain := escapes.lookup c then
      let _ ← take 1
      return [plain]
    if let some length := escapeLength c then
      let _ ← take 1
      let digits ← take length
      if digits.length ≠ length then malformed
      match Text.hexNumber? digits with
      | none => malformed
      | some code =>
        if greatestWord < code then throw .outOfRange
        else if greatestCode < code then throw .badValue
        else return [Text.ofCode code]
    match ← takeBreak with
    | some _ => takeQuotedBreaks ((← get).rest.length + 1) []
    | none => malformed

/-- Read the text between the blanks of a quoted scalar. -/
def takeQuotedText (double : Bool) : Nat → List Char → Scan (List Char)
  | 0, done => return done
  | fuel + 1, done => do
    let isText (c : Char) : Bool :=
      !(c == '\'' || c == '"' || c == '\\' || c == ' ' || c == '\t' || isBreak c)
    let done := done ++ (← takeWhile isText)
    match (← get).rest with
    | '\'' :: '\'' :: _ =>
      if double then
        let _ ← take 1
        takeQuotedText double fuel (done ++ ['\''])
      else
        let _ ← take 2
        takeQuotedText double fuel (done ++ ['\''])
    | '\'' :: _ =>
      if double then
        let _ ← take 1
        takeQuotedText double fuel (done ++ ['\''])
      else return done
    | '"' :: _ =>
      if double then return done
      else
        let _ ← take 1
        takeQuotedText double fuel (done ++ ['"'])
    | '\\' :: _ =>
      let _ ← take 1
      if double then takeQuotedText double fuel (done ++ (← takeEscape))
      else takeQuotedText double fuel (done ++ ['\\'])
    | _ => return done

/-- Read a quoted scalar up to its closing quote. -/
def takeQuotedRest (double : Bool) : Nat → List Char → Scan (List Char)
  | 0, _ => malformed
  | fuel + 1, done => do
    if (← peek 0) = some (if double then '"' else '\'') then
      let _ ← take 1
      return done
    let spaces ← takeQuotedSpaces
    let text ← takeQuotedText double ((← get).rest.length + 1) []
    takeQuotedRest double fuel (done ++ spaces ++ text)

/-- Read a quoted scalar. -/
def takeQuoted (double : Bool) : Scan String := do
  let _ ← take 1
  let fuel := (← get).rest.length + 1
  let first ← takeQuotedText double fuel []
  return String.ofList (← takeQuotedRest double fuel first)

/-! ## Block scalars -/

/-- What happens to the line breaks at the end of a block scalar. -/
inductive Chomping where
  | clip
  | strip
  | keep
  deriving DecidableEq

/-- The chomping of an indicator. -/
def chomping? : Option Char → Option Chomping
  | some '+' => some .keep
  | some '-' => some .strip
  | _ => none

/-- Read a digit that says how far a block scalar is indented. -/
def takeIncrement : Scan (Option Nat) := do
  match ← peek 0 with
  | some c =>
    if c.isDigit then
      if c == '0' then malformed
      let _ ← take 1
      return some (c.toNat - '0'.toNat)
    else return none
  | none => return none

/-- Read the indicators of a block scalar, in either order. -/
def takeIndicators : Scan (Chomping × Option Nat) := do
  let result ←
    match chomping? (← peek 0) with
    | some chomping =>
      let _ ← take 1
      pure (chomping, ← takeIncrement)
    | none =>
      let increment ← takeIncrement
      match increment, chomping? (← peek 0) with
      | some _, some chomping =>
        let _ ← take 1
        pure (chomping, increment)
      | _, _ => pure (.clip, increment)
  if !endsWord (← peek 0) then malformed
  return result

/-- Read the rest of a line that may hold nothing but a comment. -/
def skipLineEnd : Scan Unit := do
  skipSpaces
  skipComment
  if !endsLine (← peek 0) then malformed
  let _ ← takeBreak

/-- Read the blank lines before a block scalar of unknown indentation: the breaks, and the farthest
column of a space. -/
def takeLeadingBreaks : Nat → List Char → Nat → Scan (List Char × Nat)
  | 0, breaks, column => return (breaks, column)
  | fuel + 1, breaks, column => do
    if (← peek 0) = some ' ' then
      let _ ← take 1
      takeLeadingBreaks fuel breaks (max column (← get).column)
    else
      match ← takeBreak with
      | some c => takeLeadingBreaks fuel (breaks ++ [c]) column
      | none => return (breaks, column)

/-- Read blank lines of a block scalar of known indentation. -/
def takeBlockBreaks (indent : Nat) : Nat → List Char → Scan (List Char)
  | 0, breaks => return breaks
  | fuel + 1, breaks => do
    skipIndent indent
    match ← takeBreak with
    | some c => takeBlockBreaks indent fuel (breaks ++ [c])
    | none => return breaks

/-- Does a line of a block scalar start with a blank? -/
def startsBlank (c : Option Char) : Bool := c = some ' ' || c = some '\t'

/-- Read the lines of a block scalar.  `done` is the text so far, `ending` the break behind it, and
`breaks` are the blank lines after that. -/
def takeBlockLines (folded : Bool) (indent : Nat) :
    Nat → List Char → List Char → List Char → Scan (List Char × List Char × List Char)
  | 0, done, ending, breaks => return (done, ending, breaks)
  | fuel + 1, done, ending, breaks => do
    let cursor ← get
    if cursor.column = indent && !cursor.rest.isEmpty then
      let done := done ++ breaks
      let indented := startsBlank (← peek 0)
      let line ← takeWhile fun c => !isBreak c
      let ending := (← takeBreak).toList
      let breaks ← takeBlockBreaks indent ((← get).rest.length + 1) []
      let after ← get
      if after.column = indent && !after.rest.isEmpty then
        let joined :=
          if folded && ending == ['\n'] && !indented && !startsBlank (← peek 0) then
            if breaks.isEmpty then [' '] else []
          else ending
        takeBlockLines folded indent fuel (done ++ line ++ joined) ending breaks
      else return (done ++ line, ending, breaks)
    else return (done, ending, breaks)

/-- Read a block scalar inside a collection of the given indentation, which is below zero at the
top. -/
def takeBlock (folded : Bool) (outer : Int) : Scan String := do
  let _ ← take 1
  let (chomping, increment) ← takeIndicators
  skipLineEnd
  let least := (max (outer + 1) 1).toNat
  let fuel := (← get).rest.length + 1
  let (breaks, indent) ←
    match increment with
    | none =>
      let (breaks, column) ← takeLeadingBreaks fuel [] 0
      pure (breaks, max least column)
    | some increment =>
      let indent := least + increment - 1
      pure (← takeBlockBreaks indent fuel [], indent)
  let (done, ending, breaks) ← takeBlockLines folded indent fuel [] [] breaks
  match chomping with
  | .strip => return String.ofList done
  | .clip => return String.ofList (done ++ ending)
  | .keep => return String.ofList (done ++ ending ++ breaks)

/-! ## Plain scalars -/

/-- Does the text of a plain scalar end here? -/
def endsPlain (inFlow : Bool) (c : Char) (next : Option Char) : Bool :=
  let isFlow (c : Char) : Bool := c == ',' || c == '[' || c == ']' || c == '\x7b' || c == '\x7d'
  let endsHere : Bool :=
    match next with
    | none => true
    | some n => endsToken next || (inFlow && isFlow n)
  endsToken (some c) || (c == ':' && endsHere) || (inFlow && (c == '?' || isFlow c))

/-- The text of a plain scalar up to its first blank. -/
def plainWord (inFlow : Bool) : List Char → List Char
  | [] => []
  | c :: rest => if endsPlain inFlow c rest.head? then [] else c :: plainWord inFlow rest

/-- Read blank lines between the lines of a plain scalar; there is no answer if a document mark
ends the scalar. -/
def takePlainBreaks : Nat → List Char → Scan (Option (List Char))
  | 0, breaks => return some breaks
  | fuel + 1, breaks => do
    if (← get).atDocumentMark then return none
    skipSpaces
    match ← takeBreak with
    | some c => takePlainBreaks fuel (breaks ++ [c])
    | none => return some breaks

/-- Read the blanks inside a plain scalar: their text, and whether they hold a line break.  There is
no text if they end the scalar. -/
def takePlainSpaces : Scan (List Char × Bool) := do
  let spaces ← takeWhile (· == ' ')
  match ← takeBreak with
  | none => return (spaces, false)
  | some c =>
    match ← takePlainBreaks ((← get).rest.length + 1) [] with
    | none => return ([], true)
    | some breaks => return (foldedBreak c breaks, true)

/-- Read a plain scalar: its text, and whether line breaks were read. -/
def takePlainRest (inFlow : Bool) (indent : Int) :
    Nat → List Char → List Char → Bool → Scan (List Char × Bool)
  | 0, done, _, broken => return (done, broken)
  | fuel + 1, done, spaces, broken => do
    if (← peek 0) = some '#' then return (done, broken)
    let word := plainWord inFlow (← get).rest
    if word.isEmpty then return (done, broken)
    let _ ← take word.length
    let done := done ++ spaces ++ word
    let (spaces, crossed) ← takePlainSpaces
    let ends := spaces.isEmpty || (← peek 0) = some '#' ||
      (!inFlow && decide (((← get).column : Int) < indent))
    -- A word behind a break is no place for a key any more, a break behind it is one again.
    if ends then return (done, crossed)
    takePlainRest inFlow indent fuel done spaces crossed

/-- Read a plain scalar inside a collection of the given indentation.  The second result says
whether a line break was read behind the last word. -/
def takePlain (inFlow : Bool) (outer : Int) : Scan (String × Bool) := do
  let (text, broken) ←
    takePlainRest inFlow (outer + 1) ((← get).rest.length + 1) [] [] false
  return (String.ofList text, broken)

end Escrow.Yaml
