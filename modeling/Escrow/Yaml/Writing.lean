import Escrow.Text.Base64
import Escrow.Value.Print
import Escrow.Yaml.Cursor
import Escrow.Yaml.Scalar
import Escrow.Yaml.Tree

/-!
# Writing values

A value as a YAML text: collections as blocks, the dashes of a sequence in the column of its key, and
scalars plain wherever a plain text would be read back as the same datum.  Lines are folded at
spaces behind the 80th column.  A node that stands in several places gets a name at the first one
and an alias at the others.
-/

namespace Escrow.Yaml

/-- The column behind which lines are folded. -/
def foldColumn : Nat := 80

/-- How far a block is indented in another. -/
def indentStep : Nat := 2

/-- What has been written. -/
structure Page where
  text : String := ""
  column : Nat := 0
  /-- Does the text end in a blank? -/
  isBlank : Bool := true
  /-- Does the last line hold nothing but indentation and indicators? -/
  isIndent : Bool := true
  /-- The nodes that stand in several places, in the order of their names. -/
  named : List Nat := []
  /-- Those of them that have been written. -/
  known : List Nat := []
  deriving Inhabited

namespace Page

/-- Write a text without line breaks. -/
def write (page : Page) (text : String) : Page :=
  { page with text := page.text ++ text, column := page.column + text.length }

/-- Write a line break. -/
def lineBreak (page : Page) (c : Char) : Page :=
  { page with text := page.text.push c, column := 0, isBlank := true, isIndent := true }

/-- Go to a column, on a new line unless the last one can still be used. -/
def indent (page : Page) (column : Nat) : Page :=
  let isUsed := !page.isIndent || column < page.column || (page.column == column && !page.isBlank)
  let page := if isUsed then page.lineBreak '\n' else page
  if page.column < column then
    { page.write (Text.times (column - page.column) " ") with isBlank := true }
  else page

/-- Write an indicator. -/
def indicator (page : Page) (text : String) (needsBlank isBlank isIndent : Bool) : Page :=
  let written := page.write (if page.isBlank || !needsBlank then text else " " ++ text)
  { written with isBlank := isBlank, isIndent := page.isIndent && isIndent }

/-- The page after a part of a scalar. -/
def insideScalar (page : Page) : Page := { page with isBlank := false, isIndent := false }

end Page

/-! ## The looks of a scalar -/

/-- What a text holds that restricts how it may be written. -/
structure Looks where
  isEmpty : Bool
  /-- Does it have line breaks? -/
  isMultiline : Bool
  allowsPlain : Bool
  allowsSingle : Bool

/-- A line break inside a text. -/
def isTextBreak (c : Char) : Bool := c == '\n' || c == '\u0085' || c == '\u2028' || c == '\u2029'

/-- A character that can only be written as an escape. -/
def isSpecial (c : Char) : Bool :=
  let code := c.toNat
  (Text.half? c).isSome || !(c == '\n' || (0x20 ≤ code && code ≤ 0x7e)) &&
    (c == '\ufeff' || !(code == 0x85 || (0xa0 ≤ code && code ≤ 0xfffd) ||
      (0x10000 ≤ code && code < 0x10ffff)))

/-- Does a character at the start of a text look like an indicator? -/
def startsLikeIndicator (c : Char) (next : Option Char) : Bool :=
  "#,[]\x7b\x7d&*!|>'\"%@".toList.contains c || c.toNat == 0x60 ||
    ((c == '?' || c == ':' || c == '-') && endsToken next)

/-- Does a character inside a text look like an indicator, given its neighbours? -/
def insideLikeIndicator (before c : Char) (next : Option Char) : Bool :=
  (c == ':' && endsToken next) || (c == '#' && endsToken (some before))

/-- Is there a place inside the text that looks like an indicator? -/
def hasIndicator : List Char → Bool
  | before :: c :: rest => insideLikeIndicator before c rest.head? || hasIndicator (c :: rest)
  | _ => false

/-- Do two neighbours pass two tests? -/
def hasPair (first second : Char → Bool) : List Char → Bool
  | a :: b :: rest => (first a && second b) || hasPair first second (b :: rest)
  | _ => false

/-- The looks of a text. -/
def Looks.of (text : String) : Looks :=
  match text.toList with
  | [] => ⟨true, false, true, true⟩
  | c :: rest =>
    let chars := c :: rest
    let isEdge (c : Char) : Bool := c == ' ' || isTextBreak c
    let hasBreaks := chars.any isTextBreak
    let isSpace (c : Char) : Bool := c == ' '
    let breakSpace := hasPair isTextBreak isSpace chars
    let spaceBreak := hasPair isSpace isTextBreak chars
    let special := chars.any isSpecial
    let likeMark := chars.take 3 == "---".toList || chars.take 3 == "...".toList
    let indicators := likeMark || startsLikeIndicator c rest.head? || hasIndicator chars
    let edges := isEdge c || isEdge (rest.getLastD c)
    ⟨false, hasBreaks, !(edges || breakSpace || spaceBreak || special || hasBreaks || indicators),
      !(breakSpace || spaceBreak || special)⟩

/-! ## Writing scalars -/

/-- Runs of a text whose characters are of one class. -/
def runs (classOf : Char → Nat) : List Char → List (List Char)
  | [] => []
  | c :: rest =>
    match runs classOf rest with
    | (d :: run) :: others =>
      if classOf c = classOf d then (c :: d :: run) :: others else [c] :: (d :: run) :: others
    | others => [c] :: others

/-- The class of a character in a text that may be folded: space, line break or other. -/
def foldClass (c : Char) : Nat := if c == ' ' then 0 else if isTextBreak c then 1 else 2

/-- May the line be folded at a single space here? -/
def folds (page : Page) (split : Bool) (run : List Char) : Bool :=
  run == [' '] && foldColumn < page.column && split

/-- Write a plain scalar. -/
def writePlain (page : Page) (split : Bool) (indent : Nat) (text : String) : Page :=
  if text.isEmpty then page
  else
    let start := (if page.isBlank then page else page.write " ").insideScalar
    (runs foldClass text.toList).foldl
      (fun page run =>
        if folds page split run then (page.indent indent).insideScalar
        else page.write (String.ofList run))
      start

/-- Write the line breaks of a single-quoted scalar. -/
def writeBreaks (page : Page) (indent : Nat) (run : List Char) : Page :=
  let first := if run.head? = some '\n' then page.lineBreak '\n' else page
  (run.foldl (fun page c => page.lineBreak c) first).indent indent

/-- Write the runs of a single-quoted scalar.  A space at an end of the text is never folded. -/
def writeSingleRuns (split : Bool) (indent : Nat) : Bool → Page → List (List Char) → Page
  | _, page, [] => page
  | isFirst, page, run :: rest =>
    let page :=
      match run with
      | ' ' :: _ =>
        if folds page split run && !isFirst && !rest.isEmpty then page.indent indent
        else page.write (String.ofList run)
      | c :: _ =>
        if isTextBreak c then writeBreaks page indent run
        else page.write (String.ofList (run.flatMap fun c => if c == '\'' then [c, c] else [c]))
      | [] => page
    writeSingleRuns split indent false page rest

/-- Write a single-quoted scalar. -/
def writeSingle (page : Page) (split : Bool) (indent : Nat) (text : String) : Page :=
  let start := page.indicator "'" true false false
  let written := writeSingleRuns split indent true start (runs foldClass text.toList)
  written.indicator "'" false false false

/-- The escapes of one letter, by the character that they stand for. -/
def shortEscapes : List (Char × Char) := [
  ('\x00', '0'), ('\x07', 'a'), ('\x08', 'b'), ('\t', 't'), ('\n', 'n'), ('\x0b', 'v'),
  ('\x0c', 'f'), ('\r', 'r'), ('\x1b', 'e'), ('"', '"'), ('\\', '\\'), ('\u0085', 'N'),
  ('\u2028', 'L'), ('\u2029', 'P')]

/-- A number with at least `width` capital hexadecimal digits. -/
def capitalHex (width n : Nat) : String :=
  let digits := (Nat.toDigits 16 n).map Char.toUpper
  String.ofList (List.replicate (width - digits.length) '0' ++ digits)

/-- The escape of a character in a double-quoted scalar; most characters need none. -/
def escape? (c : Char) : Option String :=
  let code := c.toNat
  match shortEscapes.lookup c, Text.half? c with
  | some letter, _ => some ("\\" ++ String.singleton letter)
  | none, some half => some ("\\u" ++ capitalHex 4 half)
  | none, none =>
    if (0x20 ≤ code && code ≤ 0x7e) || (0xa0 ≤ code && code ≤ 0xfffd && c != '\ufeff') then none
    else if code ≤ 0xff then some ("\\x" ++ capitalHex 2 code)
    else if code ≤ 0xffff then some ("\\u" ++ capitalHex 4 code)
    else some ("\\U" ++ capitalHex 8 code)

/-- Write the characters of a double-quoted scalar.  `pending` are the characters, last one first,
that are still to be written, and `isFirst` says that none has been met. -/
def writeDoubleChars (split : Bool) (indent : Nat) : Bool → List Char → Page → List Char → Page
  | _, pending, page, [] => page.write (String.ofList pending.reverse)
  | isFirst, pending, page, c :: rest =>
    let escaped := escape? c
    let flushed :=
      match escaped with
      | some text => (page.write (String.ofList pending.reverse)).write text
      | none => page
    let waiting := if escaped.isSome then [] else pending
    -- Behind an escape the column is counted as if the next character had been taken back.
    let reached := if escaped.isSome then flushed.column - 1 else flushed.column + waiting.length
    let mayFold := c == ' ' || escaped.isSome || waiting.isEmpty
    let next := if escaped.isSome then [] else [c]
    if !isFirst && !rest.isEmpty && mayFold && foldColumn < reached && split then
      let folded := (flushed.write (String.ofList waiting.reverse ++ "\\")).indent indent
      let folded := folded.insideScalar
      let startsBlank := (next ++ rest).head? = some ' '
      let folded := if startsBlank then folded.write "\\" else folded
      writeDoubleChars split indent false next folded rest
    else
      writeDoubleChars split indent false (next ++ waiting) flushed rest

/-- Write a double-quoted scalar. -/
def writeDouble (page : Page) (split : Bool) (indent : Nat) (text : String) : Page :=
  let start := page.indicator "\"" true false false
  let written := writeDoubleChars split indent true [] start text.toList
  written.indicator "\"" false false false

/-- The text of a double: that of the number, with a point in front of every exponent. -/
def doubleText : Double → String
  | .nan => ".nan"
  | .infinite negative => Double.signText negative ++ ".inf"
  | x =>
    let chars := x.text.toList
    if chars.contains '.' then x.text
    else
      String.ofList (chars.takeWhile (· != 'e')) ++
        (if chars.contains 'e' then ".0" else "") ++ String.ofList (chars.dropWhile (· != 'e'))

/-- The text of a single datum and its kind. -/
def scalarText : Value → String × Form
  | .null => ("null", .null)
  | .bool b => (if b then "true" else "false", .bool)
  | .int n => (toString n, .int)
  | .double x => (doubleText x, .float)
  | .text s => (s, .text)
  | .date d => (d.text, .timestamp)
  | .moment t => (t.textWith " ", .timestamp)
  | _ => ("", .text)

/-- Write a single datum.  It is plain if its looks allow it and a plain text of these looks would be
read back as a datum of its kind; else it is quoted. -/
def writeScalar (page : Page) (isKey : Bool) (indent : Nat) (value : Value) : Page :=
  let (text, form) := scalarText value
  let looks := Looks.of text
  let split := !isKey
  let readsBack := Form.ofText text = form
  if readsBack && looks.allowsPlain && !(isKey && (looks.isEmpty || looks.isMultiline)) then
    writePlain page split indent text
  else if looks.allowsSingle && !(isKey && looks.isMultiline) then
    writeSingle page split indent text
  else writeDouble page split indent text

/-! ## Writing collections -/

/-- The greatest length of a key, with its name and its tag, that stands in front of its colon. -/
def greatestShownKey : Nat := 128

/-- The name of the node with a number in the order of names. -/
def nameOf (index : Nat) : String :=
  let digits := toString (index + 1)
  "id" ++ Text.times (3 - digits.length) "0" ++ digits

/-- The name of a node, if it stands in several places. -/
def Page.name? (page : Page) (node : Option Nat) : Option String := do
  return nameOf (← page.named.idxOf? (← node))

/-- Has the node of a tree been written, so that an alias stands for it? -/
def Page.isAlias (page : Page) (tree : Tree) : Bool := tree.node.any page.known.contains

/-- The page behind the name of a node, if it has one. -/
def Page.anchor (page : Page) (node : Option Nat) : Page :=
  match page.name? node with
  | some name => { page.indicator ("&" ++ name) true false false with known := node.toList ++ page.known }
  | none => page

/-- The page behind an alias. -/
def Page.alias (page : Page) (node : Option Nat) : Page :=
  page.indicator ("*" ++ (page.name? node).getD "") true false false

/-- The tag that bytes are written with. -/
def shownBytesTag : String := "!!binary"

/-- The tag that a collection is written with unless it is a list or a mapping. -/
def shownTag? : Tree → Option String
  | .tuple _ _ => some "!!tuple"
  | .set _ _ => some "!!set"
  | _ => none

/-- Can a key that is written here stand in front of its colon? -/
def isSimpleKey (page : Page) (key : Tree) : Bool :=
  match key with
  | .datum _ (.bytes _) => false
  | .datum node value =>
    let (text, form) := scalarText value
    let looks := Looks.of text
    ((page.name? node).getD "").length + text.length + ("!!" ++ form.name).length <
      greatestShownKey && !looks.isEmpty && !looks.isMultiline
  | _ => false

/-- Write bytes with their tag, their letters in a block. -/
def writeBytes (page : Page) (indent : Nat) (bytes : List UInt8) : Page :=
  let tagged := page.indicator shownBytesTag true false false
  let lines := (Text.split '\n' (Text.Base64.text bytes).toList).filter fun line => !line.isEmpty
  if lines.isEmpty then tagged.indicator "\'\'" true false false
  else
    lines.foldl
      (fun page line => ((page.indent indent).write (String.ofList line)).lineBreak '\n')
      ((tagged.indicator "|" true false false).lineBreak '\n')

/-- The indentation inside a block. -/
def innerIndent : Option Nat → Nat
  | none => 0
  | some indent => indent + indentStep

/-- Write a key and its colon.  Keys are single data. -/
def writeKey (indent : Nat) (page : Page) (key : Tree) : Page :=
  let page := page.indent indent
  let datum :=
    match key with
    | .datum _ value => value
    | _ => .null
  if page.isAlias key then (page.alias key.node).indicator ":" false false false
  else if isSimpleKey page key then
    let written := writeScalar (page.anchor key.node) true (indent + indentStep) datum
    written.indicator ":" false false false
  else
    let asked := page.indicator "?" true false true
    let written :=
      match datum with
      | .bytes bytes => writeBytes asked (indent + indentStep) bytes
      | datum => writeScalar asked false (indent + indentStep) datum
    (written.indent indent).indicator ":" true false true

mutual

/-- Write a tree in a block of the given indentation, if it is in one.  `isEntry` says that the
value belongs to a key. -/
def writeTree (indent : Option Nat) (isEntry : Bool) (page : Page) (tree : Tree) : Page :=
  if page.isAlias tree then page.alias tree.node
  else
    let page := page.anchor tree.node
    let page :=
      match shownTag? tree with
      | some tag => page.indicator tag true false false
      | none => page
    let inner :=
      match indent with
      | some column => if isEntry && !page.isIndent then column else innerIndent indent
      | none => innerIndent indent
    match tree with
    | .datum _ (.bytes bytes) => writeBytes page (indent.getD 0 + indentStep) bytes
    | .datum _ value => writeScalar page false (indent.getD 0 + indentStep) value
    | .list _ [] | .tuple _ [] =>
      (page.indicator "[" true true false).indicator "]" false false false
    | .mapping _ [] | .set _ [] =>
      (page.indicator "\x7b" true true false).indicator "\x7d" false false false
    | .list _ (item :: rest) | .tuple _ (item :: rest) => writeItems inner page (item :: rest)
    | .set _ (member :: rest) => writeMembers (innerIndent indent) page (member :: rest)
    | .mapping _ (entry :: rest) => writeEntries (innerIndent indent) page (entry :: rest)

/-- Write the items of a sequence. -/
def writeItems (indent : Nat) (page : Page) : List Tree → Page
  | [] => page
  | item :: rest =>
    let dashed := (page.indent indent).indicator "-" true false true
    writeItems indent (writeTree (some indent) false dashed item) rest

/-- Write the entries of a mapping. -/
def writeEntries (indent : Nat) (page : Page) : List (Tree × Tree) → Page
  | [] => page
  | (key, value) :: rest =>
    writeEntries indent (writeTree (some indent) true (writeKey indent page key) value) rest

/-- Write the members of a set, as keys. -/
def writeMembers (indent : Nat) (page : Page) : List Tree → Page
  | [] => page
  | member :: rest =>
    writeMembers indent (writeScalar (writeKey indent page member) false (indent + indentStep) .null)
      rest

end

/-! ## Names -/

/-- The nodes that have been met, and those that have been met again in that order. -/
structure Meetings where
  once : List Nat := []
  again : List Nat := []

/-- Meet a node, and say whether it has not been met before. -/
def Meetings.visit (found : Meetings) (node : Option Nat) : Meetings × Bool :=
  match node with
  | some node =>
    if !found.once.contains node then ({ found with once := node :: found.once }, true)
    else if found.again.contains node then (found, false)
    else ({ found with again := found.again ++ [node] }, false)
  | none => (found, true)

mutual

/-- Meet the nodes of a tree.  Those inside a node that has been met are not met again. -/
def meet (found : Meetings) : Tree → Meetings
  | .datum node _ => (found.visit node).1
  | .list node items =>
    let (found, isNew) := found.visit node
    if isNew then meetAll found items else found
  | .tuple node items =>
    let (found, isNew) := found.visit node
    if isNew then meetAll found items else found
  | .set node members =>
    let (found, isNew) := found.visit node
    if isNew then meetAll found members else found
  | .mapping node entries =>
    let (found, isNew) := found.visit node
    if isNew then meetEntries found entries else found

/-- Meet the nodes of trees. -/
def meetAll (found : Meetings) : List Tree → Meetings
  | [] => found
  | tree :: rest => meetAll (meet found tree) rest

/-- Meet the nodes of entries. -/
def meetEntries (found : Meetings) : List (Tree × Tree) → Meetings
  | [] => found
  | (key, value) :: rest => meetEntries (meet (meet found key) value) rest

end

/-- The YAML text of a tree. -/
def Tree.write (tree : Tree) : String :=
  ((writeTree none false { named := (meet {} tree).again } tree).indent 0).text

/-- The YAML text of a value. -/
def write (value : Value) : String := (Tree.ofValue value).write

end Escrow.Yaml
