import Provenance.Yaml.ScalarText
import Provenance.Text.Utf8

/-!
From a YAML text to its tokens. A key is only known as one when the colon after it is met; until
then its place among the tokens is kept, and the tokens that begin it are put in there later.
-/
namespace Provenance.Yaml

/-- A place where a key may have begun: the number of tokens before it, whether it has to be a key,
and where it is. -/
structure PossibleKey where
  tokens : Nat
  required : Bool
  index : Nat
  line : Nat
  column : Nat
  deriving DecidableEq, Repr

/-- The scanner between two tokens. `tokens` are those found so far, last first; `indents` are the
columns of the blocks around the present one; `keys` are the possible keys by flow level. -/
structure Scanner where
  cursor : Cursor
  tokens : List Token := []
  flowLevel : Nat := 0
  indent : Int := -1
  indents : List Int := []
  keyAllowed : Bool := true
  keys : List (Nat × PossibleKey) := []
  deriving Repr

/-- The most characters that a key on one line may have. -/
def maxKeyLength : Nat := 1024

namespace Scanner

/-- The scanner with one more token. -/
def emit (s : Scanner) (t : Token) : Scanner := { s with tokens := t :: s.tokens }

/-- The scanner with a token put in after the first `count` tokens. -/
def emitAt (s : Scanner) (count : Nat) (t : Token) : Scanner :=
  { s with tokens := s.tokens.insertIdx (s.tokens.length - count) t }

/-- Closes the blocks that are indented further than a column. Flow collections close none. -/
def unwind (s : Scanner) (column : Int) : Scanner :=
  if s.flowLevel ≠ 0 then s else close s.indents s
where
  /-- Closes blocks while the indentations around them last. -/
  close : List Int → Scanner → Scanner
    | [], s => s
    | outer :: rest, s =>
      if column < s.indent then
        close rest { s.emit .blockEnd with indent := outer, indents := rest }
      else s

/-- Forgets the possible keys that can be none any more, being on another line or too long ago. -/
def dropStale (s : Scanner) : Except Fault Scanner :=
  let isStale (key : PossibleKey) : Bool :=
    key.line ≠ s.cursor.line || maxKeyLength < s.cursor.index - key.index
  if s.keys.any fun (_, key) => isStale key && key.required then .error .malformed
  else .ok { s with keys := s.keys.filter fun (_, key) => !isStale key }

/-- Forgets the possible key of the present flow level. -/
def removeKey (s : Scanner) : Except Fault Scanner :=
  match s.keys.lookup s.flowLevel with
  | none => .ok s
  | some key =>
    if key.required then .error .malformed
    else .ok { s with keys := s.keys.filter (·.1 ≠ s.flowLevel) }

/-- Remembers that a key may begin here. -/
def saveKey (s : Scanner) : Except Fault Scanner :=
  if !s.keyAllowed then .ok s
  else do
    let s ← s.removeKey
    let c := s.cursor
    let required := s.flowLevel = 0 ∧ s.indent = c.column
    let key : PossibleKey := ⟨s.tokens.length, required, c.index, c.line, c.column⟩
    return { s with keys := (s.flowLevel, key) :: s.keys }

/-- Whether a column is indented further than the present block. -/
def opensBlock (s : Scanner) (column : Nat) : Bool := s.indent < column

/-- Enters a block at a column. -/
def enterBlock (s : Scanner) (column : Nat) : Scanner :=
  { s with indents := s.indent :: s.indents, indent := column }

/-- Skips spaces, comments and line breaks. After a break outside of flow collections a key is
allowed. -/
def skipBlank (s : Scanner) : Nat → Scanner
  | 0 => s
  | fuel + 1 =>
    let c := (s.cursor.skipWhile (· == ' ')).skipComment
    if isBreak c.peek then
      let allowed := s.keyAllowed || s.flowLevel == 0
      { s with cursor := c.takeBreak.2, keyAllowed := allowed }.skipBlank fuel
    else { s with cursor := c }

/-- A tag handle: `!`, or a name between two exclamation marks. -/
def tagHandle (c : Cursor) : Except Fault (String × Cursor) :=
  if c.peek ≠ '!' then .error .malformed
  else
    let name := c.step.rest.takeWhile isNameChar
    let after := c.step.skip name.length
    if c.peekAt 1 == ' ' then .ok ("!", c.step)
    else if after.peek == '!' then .ok (String.ofList ('!' :: name ++ ['!']), after.step)
    else .error .malformed

/-- The characters that stand for themselves in a tag. -/
def isTagChar (c : Char) : Bool :=
  isNameChar c || ";/?:@&=+$,_.!~*'()[]".toList.contains c

/-- The bytes of escapes in a tag. -/
def tagEscapes (c : Cursor) : Nat → Except Fault (List UInt8 × Cursor)
  | 0 => .ok ([], c)
  | fuel + 1 =>
    if c.peek ≠ '%' then .ok ([], c)
    else
      match Text.hexDigit? (c.peekAt 1), Text.hexDigit? (c.peekAt 2) with
      | some high, some low =>
        (tagEscapes (c.skip 3) fuel).map fun (bytes, c) =>
          (UInt8.ofNat (high * 16 + low) :: bytes, c)
      | _, _ => .error .malformed

/-- The rest of a tag. -/
def tagRest (c : Cursor) : Nat → Except Fault (List Char × Cursor)
  | 0 => .ok ([], c)
  | fuel + 1 =>
    if c.peek == '%' then
      match tagEscapes c (c.rest.length + 1) with
      | .error f => .error f
      | .ok (bytes, c) =>
        match Text.Utf8.decode bytes with
        | .error _ => .error .malformed
        | .ok chars => (tagRest c fuel).map fun (rest, c) => (chars ++ rest, c)
    else if isTagChar c.peek then
      (tagRest c.step fuel).map fun (rest, after) => (c.peek :: rest, after)
    else .ok ([], c)

/-- The text of a tag, which is not empty. -/
def tagText (c : Cursor) : Except Fault (String × Cursor) :=
  if !(isTagChar c.peek || c.peek == '%') then .error .malformed
  else (tagRest c (c.rest.length + 1)).map fun (rest, c) => (String.ofList rest, c)

/-- A tag from its exclamation mark on. -/
def tag (c : Cursor) : Except Fault (Token × Cursor) := do
  let finish (t : Token) (c : Cursor) : Except Fault (Token × Cursor) :=
    if isSpaceOrEnd c.peek then .ok (t, c) else .error .malformed
  if c.peekAt 1 == '<' then
    let (suffix, c) ← tagText (c.skip 2)
    if c.peek ≠ '>' then throw .malformed
    finish (.tag none suffix) c.step
  else if isGap (c.peekAt 1) then finish (.tag none "!") c.step
  else
    let word := c.step.rest.takeWhile (!isSpaceOrEnd ·)
    let (handle, c) ← if word.contains '!' then tagHandle c else .ok ("!", c.step)
    let (suffix, c) ← tagText c
    finish (.tag (some handle) suffix) c

/-- The name of an anchor or an alias from its indicator on. -/
def anchorName (c : Cursor) : Except Fault (String × Cursor) :=
  let (name, c) := c.step.spanWhile isNameChar
  if name.isEmpty then .error .malformed
  else if isGap c.peek || "?:,]\x7d%@`".toList.contains c.peek then .ok (String.ofList name, c)
  else .error .malformed

/-- A number of a version directive. -/
def versionNumber (c : Cursor) : Except Fault (Nat × Cursor) :=
  let (digits, c) := c.spanWhile Char.isDigit
  if digits.isEmpty then .error .malformed
  else .ok (digits.foldl (fun n d => n * 10 + (d.toNat - 48)) 0, c)

/-- A directive from its percent sign on, with the rest of its line. -/
def directive (c : Cursor) : Except Fault (Directive × Cursor) := do
  let (name, c) := c.step.spanWhile isNameChar
  if name.isEmpty || !isSpaceOrEnd c.peek then throw .malformed
  let spaceless (c : Cursor) : Cursor := c.skipWhile (· == ' ')
  if name == "YAML".toList then
    let (major, c) ← versionNumber (spaceless c)
    if c.peek ≠ '.' then throw .malformed
    let (_, c) ← versionNumber c.step
    if !isSpaceOrEnd c.peek then throw .malformed
    return (.version major, ← c.restOfLine)
  else if name == "TAG".toList then
    let (handle, c) ← tagHandle (spaceless c)
    if c.peek ≠ ' ' then throw .malformed
    let (stem, c) ← tagText (spaceless c)
    if !isSpaceOrEnd c.peek then throw .malformed
    return (.tagHandle handle stem, ← c.restOfLine)
  else return (.unknown, ← (c.skipWhile (!isBreakOrEnd ·)).restOfLine)

/-- Ends all blocks before a directive or a document mark. -/
def leaveBlocks (s : Scanner) : Except Fault Scanner := do
  let s ← (s.unwind (-1)).removeKey
  return { s with keyAllowed := false }

/-- A token of one character that opens a flow collection. -/
def openFlow (s : Scanner) (t : Token) : Except Fault Scanner := do
  let s ← s.saveKey
  let s := { s with flowLevel := s.flowLevel + 1, keyAllowed := true, cursor := s.cursor.step }
  return s.emit t

/-- A token of one character that closes a flow collection. Outside of one it cannot stand. -/
def closeFlow (s : Scanner) (t : Token) : Except Fault Scanner := do
  let s ← s.removeKey
  if s.flowLevel = 0 then throw .malformed
  let s := { s with flowLevel := s.flowLevel - 1, keyAllowed := false, cursor := s.cursor.step }
  return s.emit t

/-- A comma. -/
def flowEntry (s : Scanner) : Except Fault Scanner := do
  let s ← { s with keyAllowed := true }.removeKey
  return { s with cursor := s.cursor.step }.emit .flowEntry

/-- Opens a block at the present column if it is indented further. A block may open only where a
key is allowed. -/
def openHere (s : Scanner) (opening : Token) : Except Fault Scanner :=
  if s.flowLevel ≠ 0 then .ok s
  else if !s.keyAllowed then .error .malformed
  else
    let column := s.cursor.column
    .ok (if s.opensBlock column then (s.enterBlock column).emit opening else s)

/-- The dash of a block sequence. -/
def blockEntry (s : Scanner) : Except Fault Scanner := do
  let s ← s.openHere .blockSequenceStart
  let s ← { s with keyAllowed := true }.removeKey
  return { s with cursor := s.cursor.step }.emit .blockEntry

/-- The question mark before a key. -/
def explicitKey (s : Scanner) : Except Fault Scanner := do
  let s ← s.openHere .blockMappingStart
  let s ← { s with keyAllowed := s.flowLevel == 0 }.removeKey
  return { s with cursor := s.cursor.step }.emit .key

/-- The colon before a value. If a key may have begun at this flow level, it was one. -/
def valueMark (s : Scanner) : Except Fault Scanner := do
  let s ←
    match s.keys.lookup s.flowLevel with
    | some key =>
      let s := { s with keys := s.keys.filter (·.1 ≠ s.flowLevel), keyAllowed := false }
      let s := s.emitAt key.tokens .key
      if s.flowLevel == 0 && s.opensBlock key.column then
        pure ((s.enterBlock key.column).emitAt key.tokens .blockMappingStart)
      else pure s
    | none =>
      let s ← s.openHere .blockMappingStart
      { s with keyAllowed := s.flowLevel == 0 }.removeKey
  return { s with cursor := s.cursor.step }.emit .value

/-- A token that may begin a key, read from the present place. -/
def keyedToken (s : Scanner) (read : Cursor → Except Fault (Token × Cursor)) :
    Except Fault Scanner := do
  let s ← s.saveKey
  let (t, c) ← read s.cursor
  return { s with keyAllowed := false, cursor := c }.emit t

/-- A block scalar. -/
def blockScalar (s : Scanner) (folded : Bool) : Except Fault Scanner := do
  let s ← { s with keyAllowed := true }.removeKey
  let (text, c) ← blockText folded s.indent s.cursor
  return { s with cursor := c }.emit (.scalar text false)

/-- A quoted scalar. -/
def quotedScalar (s : Scanner) (double : Bool) : Except Fault Scanner :=
  s.keyedToken fun c =>
    (quotedText double c.step (c.rest.length + 1)).map fun (text, c) => (.scalar text false, c)

/-- A plain scalar. A key is allowed after it if it ends with a line break. -/
def plainScalar (s : Scanner) : Except Fault Scanner := do
  let s ← s.saveKey
  let c := s.cursor
  let plain := plainText (s.flowLevel != 0) (s.indent + 1) [] false c (c.rest.length + 1)
  return { s with keyAllowed := plain.endsAfterBreak, cursor := plain.after }.emit
    (.scalar plain.text true)

/-- Whether a plain scalar may begin at a place. -/
def startsPlain (inFlow : Bool) (c : Cursor) : Bool :=
  let ch := c.peek
  !(isGap ch || "-?:,[]\x7b\x7d#&*!|>'\"%@`".toList.contains ch) ||
    (!isGap (c.peekAt 1) && (ch == '-' || (!inFlow && (ch == '?' || ch == ':'))))

/-- Reads one token, or none at the end of the text, where `false` is answered. -/
def next (s : Scanner) : Except Fault (Bool × Scanner) := do
  let s := s.skipBlank (s.cursor.rest.length + 1)
  let s ← s.dropStale
  let s := s.unwind s.cursor.column
  let c := s.cursor
  let ch := c.peek
  let inFlow := s.flowLevel != 0
  let gapNext := isGap (c.peekAt 1)
  let more (r : Except Fault Scanner) : Except Fault (Bool × Scanner) := r.map (true, ·)
  if ch == '\x00' then
    let s ← s.leaveBlocks
    return (false, s.emit .streamEnd)
  else if ch == '%' && c.column == 0 then
    let s ← s.leaveBlocks
    let (d, c) ← directive s.cursor
    return (true, { s with cursor := c }.emit (.directive d))
  else if c.column == 0 && c.isAtMark then
    let s ← s.leaveBlocks
    return (true, { s with cursor := c.skip 3 }.emit
      (if ch == '-' then .documentStart else .documentEnd))
  else if ch == '[' then more (s.openFlow .flowSequenceStart)
  else if ch == '\x7b' then more (s.openFlow .flowMappingStart)
  else if ch == ']' then more (s.closeFlow .flowSequenceEnd)
  else if ch == '\x7d' then more (s.closeFlow .flowMappingEnd)
  else if ch == ',' then more s.flowEntry
  else if ch == '-' && gapNext then more s.blockEntry
  else if ch == '?' && (inFlow || gapNext) then more s.explicitKey
  else if ch == ':' && (inFlow || gapNext) then more s.valueMark
  else if ch == '*' then
    more (s.keyedToken fun c => (anchorName c).map fun (name, c) => (.alias name, c))
  else if ch == '&' then
    more (s.keyedToken fun c => (anchorName c).map fun (name, c) => (.anchor name, c))
  else if ch == '!' then more (s.keyedToken tag)
  else if ch == '|' && !inFlow then more (s.blockScalar false)
  else if ch == '>' && !inFlow then more (s.blockScalar true)
  else if ch == '\'' then more (s.quotedScalar false)
  else if ch == '"' then more (s.quotedScalar true)
  else if startsPlain inFlow c then more s.plainScalar
  else throw .malformed

/-- Reads tokens up to the end or to a fault, which is then the last of them. Every token but the
last takes a character at least, which `fuel` counts. -/
def run (s : Scanner) : Nat → List Token
  | 0 => (s.emit (.fault .malformed)).tokens.reverse
  | fuel + 1 =>
    match s.next with
    | .error f => (s.emit (.fault f)).tokens.reverse
    | .ok (true, s) => s.run fuel
    | .ok (false, s) => s.tokens.reverse

end Scanner

/-- The tokens of a text. A byte order mark at the beginning is passed over; a character that may
not stand in a text makes all of it unreadable. -/
def tokensOf (s : List Char) : List Token :=
  if s.all isAllowed then
    let start : Cursor := { rest := s }
    let start := if start.peek == '\ufeff' then start.step else start
    Scanner.run { cursor := start } (s.length + 2)
  else [.fault .malformed]

end Provenance.Yaml
