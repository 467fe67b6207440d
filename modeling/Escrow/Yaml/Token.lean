import Escrow.Yaml.Style

/-!
# Tokens

A YAML text as a list of tokens.  Indentation is turned into tokens for the start and the end of
block collections.  Only the colon behind a key shows that it is one, so wherever a key may start a
pending token is put down, and resolved when the colon comes.
-/

namespace Escrow.Yaml

/-- A line of instructions before a document. -/
inductive Directive where
  | version (major : Nat)
  | tag (handle shorthand : String)
  | other
  deriving DecidableEq, Inhabited

/-- A token. -/
inductive Token where
  | directive (directive : Directive)
  | documentStart
  | documentEnd
  | blockSequenceStart
  | blockMappingStart
  | blockEnd
  | flowSequenceStart
  | flowSequenceEnd
  | flowMappingStart
  | flowMappingEnd
  | blockEntry
  | flowEntry
  | key
  | value
  | alias (name : String)
  | anchor (name : String)
  /-- A tag, with the handle that its text is to be completed by. -/
  | tag (handle : Option String) (text : String)
  | scalar (text : String) (plain : Bool)
  deriving DecidableEq, Inhabited

/-- A place where a key may start. -/
structure PossibleKey where
  /-- The position of the pending token. -/
  place : Nat
  /-- Must a colon follow? -/
  required : Bool
  index : Nat
  line : Nat
  column : Nat

/-- What is known between two tokens. -/
structure Scanner where
  /-- The tokens so far; what is pending has no tokens yet. -/
  tokens : Array (List Token) := #[]
  /-- How many flow collections are open. -/
  flowLevel : Nat := 0
  /-- The column of the innermost block collection. -/
  indent : Int := -1
  /-- The columns of the block collections around it. -/
  outer : List Int := []
  /-- May a key start here? -/
  allowKey : Bool := true
  /-- The possible key of each flow level. -/
  possible : List (Nat × PossibleKey) := []

/-- A step between two tokens. -/
abbrev Lex := StateT Scanner Scan

namespace Lex

/-- Put down a token. -/
def emit (token : Token) : Lex Unit :=
  modify fun scanner => { scanner with tokens := scanner.tokens.push [token] }

/-- Say whether a key may start next. -/
def setAllowKey (allowed : Bool) : Lex Unit := modify ({ · with allowKey := allowed })

/-- Forget the possible key of the present flow level; a required one is missing its colon. -/
def dropPossible : Lex Unit := do
  let scanner ← get
  match scanner.possible.lookup scanner.flowLevel with
  | none => return
  | some key =>
    if key.required then malformed
    set { scanner with
      possible := scanner.possible.filter fun (level, _) => level != scanner.flowLevel }

/-- How far behind its start the colon of a key may come. -/
def greatestKeyLength : Nat := 1024

/-- Forget the possible keys whose line has ended or that have become too long. -/
def dropStale : Lex Unit := do
  let cursor ← getThe Cursor
  let scanner ← get
  let isStale (key : PossibleKey) : Bool :=
    key.line != cursor.line || greatestKeyLength < cursor.index - key.index
  if scanner.possible.any fun (_, key) => isStale key && key.required then malformed
  set { scanner with possible := scanner.possible.filter fun (_, key) => !isStale key }

/-- Put down a pending token where a key may start. -/
def savePossible : Lex Unit := do
  let cursor ← getThe Cursor
  let scanner ← get
  if scanner.allowKey then
    dropPossible
    let required := scanner.flowLevel == 0 && decide (scanner.indent = cursor.column)
    let key : PossibleKey :=
      ⟨scanner.tokens.size, required, cursor.index, cursor.line, cursor.column⟩
    modify fun scanner => { scanner with
      tokens := scanner.tokens.push []
      possible := (scanner.flowLevel, key) :: scanner.possible }

/-- Close the block collections that are indented farther than a column. -/
def unwind (column : Int) : Lex Unit := do
  let scanner ← get
  if scanner.flowLevel = 0 then
    let all := scanner.indent :: scanner.outer
    let closed := (all.takeWhile fun indent => column < indent).length
    let tokens := (List.replicate closed [Token.blockEnd]).toArray
    match all.drop closed with
    | indent :: outer =>
      set { scanner with tokens := scanner.tokens ++ tokens, indent := indent, outer := outer }
    | [] => set { scanner with tokens := scanner.tokens ++ tokens, indent := -1, outer := [] }

/-- Open a block collection at a column, unless the innermost one is there. -/
def addIndent (column : Nat) : Lex Bool := do
  let scanner ← get
  if scanner.indent < column then
    set { scanner with indent := column, outer := scanner.indent :: scanner.outer }
    return true
  return false

/-- Open a block collection at the present column, if need be, with its token. -/
def openBlock (token : Token) : Lex Unit := do
  if ← addIndent (← getThe Cursor).column then emit token

/-- Read over blanks, comments and line breaks up to the next token.  A key may start on a new line
of a block. -/
def skipToToken : Nat → Lex Unit
  | 0 => return
  | fuel + 1 => do
    skipSpaces
    skipComment
    match ← takeBreak with
    | none => return
    | some _ =>
      if (← get).flowLevel = 0 then setAllowKey true
      skipToToken fuel

/-! ## Directives, names and tags -/

/-- A character of the text of a tag. -/
def isTagChar (c : Char) : Bool := c.isAlphanum || "-;/?:@&=+$,_.!~*'()[]%".toList.contains c

/-- Read the escaped bytes of a tag. -/
def takeBytes : Nat → List UInt8 → Scan (List UInt8)
  | 0, bytes => return bytes
  | fuel + 1, bytes => do
    if (← peek 0) ≠ some '%' then return bytes
    let _ ← take 1
    let digits ← take 2
    if digits.length ≠ 2 then malformed
    match Text.hexNumber? digits with
    | some byte => takeBytes fuel (bytes ++ [byte.toUInt8])
    | none => malformed

/-- Read the text of a tag. -/
def takeTagText : Nat → List Char → Scan (List Char)
  | 0, done => return done
  | fuel + 1, done => do
    match ← peek 0 with
    | none => return done
    | some c =>
      if c == '%' then
        let bytes ← takeBytes fuel []
        match String.fromUTF8? ⟨bytes.toArray⟩ with
        | some text => takeTagText fuel (done ++ text.toList)
        | none => malformed
      else if isTagChar c then
        let _ ← take 1
        takeTagText fuel (done ++ [c])
      else return done

/-- Read a text that a tag must have. -/
def takeTagName : Scan String := do
  let text ← takeTagText ((← get).rest.length + 1) []
  if text.isEmpty then malformed
  return String.ofList text

/-- Read the handle of a tag: an exclamation mark, or a name between two of them. -/
def takeHandle : Scan String := do
  if (← peek 0) ≠ some '!' then malformed
  let _ ← take 1
  if (← peek 0) = some ' ' then return "!"
  let name ← takeWhile isNameChar
  if (← peek 0) = some '!' then
    let _ ← take 1
    return "!" ++ String.ofList name ++ "!"
  malformed

/-- Read a number of digits. -/
def takeNumber : Scan Nat := do
  let digits ← takeWhile Char.isDigit
  if digits.isEmpty then malformed
  return digits.foldl (fun n c => 10 * n + (c.toNat - '0'.toNat)) 0

/-- Read a directive. -/
def takeDirective : Scan Directive := do
  let _ ← take 1
  let name ← takeWhile isNameChar
  if name.isEmpty || !endsWord (← peek 0) then malformed
  let directive ←
    if name == "YAML".toList then
      skipSpaces
      let major ← takeNumber
      if (← peek 0) ≠ some '.' then malformed
      let _ ← take 1
      let _ ← takeNumber
      if !endsWord (← peek 0) then malformed
      pure (.version major)
    else if name == "TAG".toList then
      skipSpaces
      let handle ← takeHandle
      if (← peek 0) ≠ some ' ' then malformed
      skipSpaces
      let text ← takeTagName
      if !endsWord (← peek 0) then malformed
      pure (.tag handle text)
    else
      let _ ← takeWhile fun c => !isBreak c
      pure .other
  skipLineEnd
  return directive

/-- What may follow the name of an anchor or an alias. -/
def endsName (c : Option Char) : Bool :=
  endsToken c || c.any fun c => "?:,]\x7d%@".toList.contains c || c.toNat == 0x60

/-- Read the name of an anchor or an alias. -/
def takeAnchorName : Scan String := do
  let _ ← take 1
  let name ← takeWhile isNameChar
  if name.isEmpty || !endsName (← peek 0) then malformed
  return String.ofList name

/-- Has the tag ahead a handle that ends in a second exclamation mark? -/
def hasHandle (rest : List Char) : Bool :=
  (rest.takeWhile fun c => !(c == ' ' || isBreak c)).contains '!'

/-- Read a tag. -/
def takeTag : Scan Token := do
  let next ← peek 1
  let token ←
    if next = some '<' then
      let _ ← take 2
      let text ← takeTagName
      if (← peek 0) ≠ some '>' then malformed
      let _ ← take 1
      pure (Token.tag none text)
    else if endsToken next then
      let _ ← take 1
      pure (Token.tag none "!")
    else if hasHandle ((← get).rest.drop 1) then
      let handle ← takeHandle
      pure (Token.tag (some handle) (← takeTagName))
    else
      let _ ← take 1
      pure (Token.tag (some "!") (← takeTagName))
  if !endsWord (← peek 0) then malformed
  return token

/-! ## The next token -/

/-- Put down the end of everything. -/
def finish : Lex Unit := do
  unwind (-1)
  dropPossible

/-- Put down what stands at the start of a line before or after a document. -/
def emitDocumentMark (token : Token) : Lex Unit := do
  finish
  setAllowKey false
  let _ ← take 3
  emit token

/-- Put down the start of a flow collection. -/
def emitFlowStart (token : Token) : Lex Unit := do
  savePossible
  modify fun scanner => { scanner with flowLevel := scanner.flowLevel + 1, allowKey := true }
  let _ ← take 1
  emit token

/-- Put down the end of a flow collection. -/
def emitFlowEnd (token : Token) : Lex Unit := do
  dropPossible
  if (← get).flowLevel = 0 then malformed
  modify fun scanner => { scanner with flowLevel := scanner.flowLevel - 1, allowKey := false }
  let _ ← take 1
  emit token

/-- Put down the dash of a sequence. -/
def emitBlockEntry : Lex Unit := do
  if (← get).flowLevel = 0 then
    if !(← get).allowKey then malformed
    openBlock .blockSequenceStart
  setAllowKey true
  dropPossible
  let _ ← take 1
  emit .blockEntry

/-- Put down the question mark of a key. -/
def emitKey : Lex Unit := do
  let inBlock := (← get).flowLevel = 0
  if inBlock then
    if !(← get).allowKey then malformed
    openBlock .blockMappingStart
  setAllowKey inBlock
  dropPossible
  let _ ← take 1
  emit .key

/-- Put down the colon of a value, and the key that it shows. -/
def emitValue : Lex Unit := do
  let scanner ← get
  let inBlock := scanner.flowLevel = 0
  match scanner.possible.lookup scanner.flowLevel with
  | some key =>
    modify fun scanner => { scanner with
      possible := scanner.possible.filter fun (level, _) => level != scanner.flowLevel }
    let opens ← if inBlock then addIndent key.column else pure false
    let resolved := if opens then [Token.blockMappingStart, .key] else [.key]
    modify fun scanner => { scanner with
      tokens := scanner.tokens.setIfInBounds key.place resolved
      allowKey := false }
  | none =>
    if inBlock then
      if !scanner.allowKey then malformed
      openBlock .blockMappingStart
    setAllowKey inBlock
    dropPossible
  let _ ← take 1
  emit .value

/-- Put down a node property or an alias, which may start a key. -/
def emitProperty (scan : Scan Token) : Lex Unit := do
  savePossible
  setAllowKey false
  emit (← scan)

/-- Put down a block scalar. -/
def emitBlock (folded : Bool) : Lex Unit := do
  setAllowKey true
  dropPossible
  emit (.scalar (← takeBlock folded (← get).indent) false)

/-- Put down a quoted scalar. -/
def emitQuoted (double : Bool) : Lex Unit := do
  savePossible
  setAllowKey false
  emit (.scalar (← takeQuoted double) false)

/-- Put down a plain scalar. -/
def emitPlain : Lex Unit := do
  savePossible
  let scanner ← get
  let (text, broken) ← takePlain (decide (0 < scanner.flowLevel)) scanner.indent
  setAllowKey broken
  emit (.scalar text true)

/-- May a plain scalar start with these characters? -/
def startsPlain (inFlow : Bool) (c : Char) (next : Option Char) : Bool :=
  let isIndicator : Bool :=
    endsToken (some c) || "-?:,[]\x7b\x7d#&*!|>'\"%@".toList.contains c || c.toNat == 0x60
  !isIndicator || (!endsToken next && (c == '-' || (!inFlow && (c == '?' || c == ':'))))

/-- Put down the next token, which starts with a character. -/
def emitNext (c : Char) : Lex Unit := do
  let cursor ← getThe Cursor
  let inFlow := decide (0 < (← get).flowLevel)
  let next := cursor.peek 1
  let atLineStart := cursor.column == 0
  if c == '%' && atLineStart then
    finish
    setAllowKey false
    emit (.directive (← takeDirective))
  else if atLineStart && cursor.atMark '-' then emitDocumentMark .documentStart
  else if atLineStart && cursor.atMark '.' then emitDocumentMark .documentEnd
  else if c == '[' then emitFlowStart .flowSequenceStart
  else if c == '\x7b' then emitFlowStart .flowMappingStart
  else if c == ']' then emitFlowEnd .flowSequenceEnd
  else if c == '\x7d' then emitFlowEnd .flowMappingEnd
  else if c == ',' then
    setAllowKey true
    dropPossible
    let _ ← take 1
    emit .flowEntry
  else if c == '-' && endsToken next then emitBlockEntry
  else if c == '?' && (inFlow || endsToken next) then emitKey
  else if c == ':' && (inFlow || endsToken next) then emitValue
  else if c == '*' then emitProperty do return .alias (← takeAnchorName)
  else if c == '&' then emitProperty do return .anchor (← takeAnchorName)
  else if c == '!' then emitProperty takeTag
  else if c == '|' && !inFlow then emitBlock false
  else if c == '>' && !inFlow then emitBlock true
  else if c == '\'' then emitQuoted false
  else if c == '"' then emitQuoted true
  else if startsPlain inFlow c next then emitPlain
  else malformed

/-- Read up to the next token and put it down.  The answer is false at the end of the text. -/
def step : Lex Bool := do
  skipToToken ((← getThe Cursor).rest.length + 1)
  dropStale
  unwind (← getThe Cursor).column
  match (← getThe Cursor).rest with
  | [] =>
    finish
    return false
  | c :: _ =>
    emitNext c
    return true

end Lex

/-- The tokens of a text, as far as they can be read, and why no more can, if it goes on. -/
structure TokenStream where
  tokens : List Token
  fault : Option Fault := none

namespace Scanner

/-- The tokens that are settled: those before the first one that may still turn out to be a key. -/
def settled (scanner : Scanner) (cursor : Cursor) : List Token :=
  let isStale (key : PossibleKey) : Bool :=
    key.line != cursor.line || Lex.greatestKeyLength < cursor.index - key.index
  let open? := scanner.possible.filter fun (_, key) => !isStale key
  let count := (open?.map fun (_, key) => key.place).foldl min scanner.tokens.size
  (scanner.tokens.toList.take count).flatten

/-- All tokens, in at most so many steps. -/
def run : Nat → Scanner → Cursor → TokenStream
  | 0, scanner, _ => ⟨scanner.tokens.toList.flatten, some .malformedDocument⟩
  | steps + 1, scanner, cursor =>
    match (Lex.step.run scanner).run cursor with
    | .error fault => ⟨scanner.settled cursor, some fault⟩
    | .ok ((true, scanner), cursor) => run steps scanner cursor
    | .ok ((false, scanner), _) => ⟨scanner.tokens.toList.flatten, none⟩

end Scanner

/-- A character that a YAML text may hold. -/
def isAllowed (c : Char) : Bool :=
  let code := c.toNat
  c == '\t' || c == '\n' || c == '\r' || c == '\u0085' || (0x20 ≤ code && code ≤ 0x7e) ||
    (0xa0 ≤ code && code ≤ 0xfffd) || 0x10000 ≤ code

/-- The tokens of a text.  A byte order mark at its start does not count. -/
def tokens (text : String) : TokenStream :=
  let chars := text.toList
  if !chars.all isAllowed then ⟨[], some .malformedDocument⟩
  else
    let start : Cursor :=
      match chars with
      | '\ufeff' :: rest => ⟨rest, 1, 0, 0⟩
      | _ => ⟨chars, 0, 0, 0⟩
    Scanner.run (chars.length + 2) {} start

end Escrow.Yaml
