import Provenance.Yaml.Token

/-!
The texts of scalars: plain, quoted, and block scalars, with their rules for line breaks.
-/
namespace Provenance.Yaml

/-- Breaks of empty lines, with the spaces and tabs before each; a document mark at the beginning
of a line has no place here. -/
def quotedBreaks (c : Cursor) : Nat → Except Fault (List Char × Cursor)
  | 0 => .ok ([], c)
  | fuel + 1 =>
    if c.isAtMark then .error .malformed
    else
      let c := c.skipWhile fun ch => ch == ' ' || ch == '\t'
      if isBreak c.peek then
        let (break_, c) := c.takeBreak
        (quotedBreaks c fuel).map fun (breaks, c) => (break_ ++ breaks, c)
      else .ok ([], c)

/-- The text that a line break with the empty lines after it stands for: a single break of the
common kind is a space. -/
def foldedBreak (first breaks : List Char) : List Char :=
  if first ≠ ['\n'] then first ++ breaks else if breaks.isEmpty then [' '] else breaks

/-- The characters that escapes of one letter stand for. -/
def escapeChar? : Char → Option Char
  | '0' => some '\x00'
  | 'a' => some '\x07'
  | 'b' => some '\x08'
  | 't' => some '\t'
  | '\t' => some '\t'
  | 'n' => some '\n'
  | 'v' => some '\x0b'
  | 'f' => some '\x0c'
  | 'r' => some '\r'
  | 'e' => some '\x1b'
  | ' ' => some ' '
  | '"' => some '"'
  | '\\' => some '\\'
  | '/' => some '/'
  | 'N' => some '\u0085'
  | '_' => some '\u00a0'
  | 'L' => some '\u2028'
  | 'P' => some '\u2029'
  | _ => none

/-- The number of hexadecimal digits after an escape letter. -/
def escapeLength? : Char → Option Nat
  | 'x' => some 2
  | 'u' => some 4
  | 'U' => some 8
  | _ => none

/-- The character of a number. -/
def charOfNumber (n : Nat) : Except Fault Char :=
  if n < 0x110000 then .ok (Char.ofNat n)
  else if n < 0x80000000 then
    .error (.noSuchValue (.badValue "chr() arg not in range(0x110000)"))
  else .error (.noSuchValue ⟨"OverflowError", "Python int too large to convert to C int"⟩)

/-- What the backslash before the place begins. -/
def escape (c : Cursor) : Except Fault (List Char × Cursor) :=
  match escapeChar? c.peek, escapeLength? c.peek with
  | some ch, _ => .ok ([ch], c.step)
  | none, some n =>
    let c := c.step
    match (c.rest.take n).mapM Text.hexDigit? with
    | some digits =>
      if digits.length < n then .error .malformed
      else (charOfNumber (digits.foldl (fun n d => n * 16 + d) 0)).map fun ch => ([ch], c.skip n)
    | none => .error .malformed
  | none, none =>
    if isBreak c.peek then
      let c := c.takeBreak.2
      quotedBreaks c (c.rest.length + 1)
    else .error .malformed

/-- The text of a quoted scalar from inside the quotes on, and the place after its closing quote.
Every round reads at least one character, which `fuel` counts. -/
def quotedText (double : Bool) (c : Cursor) : Nat → Except Fault (List Char × Cursor)
  | 0 => .error .malformed
  | fuel + 1 =>
    let before (text : List Char) (result : Except Fault (List Char × Cursor)) :=
      result.map fun (rest, c) => (text ++ rest, c)
    let ch := c.peek
    if ch == '\x00' then .error .malformed
    else if ch == '\'' && !double then
      if c.peekAt 1 == '\'' then before ['\''] (quotedText double (c.skip 2) fuel)
      else .ok ([], c.step)
    else if ch == '"' && double then .ok ([], c.step)
    else if ch == '\\' && double then
      match escape c.step with
      | .error f => .error f
      | .ok (text, c) => before text (quotedText double c fuel)
    else if isGap ch then
      let (spaces, c) := c.spanWhile fun ch => ch == ' ' || ch == '\t'
      if isBreak c.peek then
        let (first, c) := c.takeBreak
        match quotedBreaks c (c.rest.length + 1) with
        | .error f => .error f
        | .ok (breaks, c) => before (foldedBreak first breaks) (quotedText double c fuel)
      else before spaces (quotedText double c fuel)
    else before [ch] (quotedText double c.step fuel)

/-- Whether a plain scalar ends before the character at the place. -/
def plainEnds (inFlow : Bool) (c : Cursor) : Bool :=
  let ch := c.peek
  let isFlowIndicator (ch : Char) := [',', '[', ']', '{', '}'].contains ch
  isGap ch ||
    (ch == ':' && (isGap (c.peekAt 1) || (inFlow && isFlowIndicator (c.peekAt 1)))) ||
    (inFlow && (isFlowIndicator ch || ch == '?'))

/-- A run of characters of a plain scalar. -/
def plainRun (inFlow : Bool) (c : Cursor) : Nat → List Char × Cursor
  | 0 => ([], c)
  | fuel + 1 =>
    if plainEnds inFlow c then ([], c)
    else
      let (run, after) := plainRun inFlow c.step fuel
      (c.peek :: run, after)

/-- Empty lines after a break inside a plain scalar: the breaks, and the place after them, or
nothing if a document mark ends the scalar there. -/
def plainBreaks (c : Cursor) : Nat → Option (List Char) × Cursor
  | 0 => (some [], c)
  | fuel + 1 =>
    if c.peek == ' ' then plainBreaks c.step fuel
    else if isBreak c.peek then
      let (break_, c) := c.takeBreak
      if c.isAtMark then (none, c)
      else
        let (breaks, c) := plainBreaks c fuel
        (breaks.map (break_ ++ ·), c)
    else (some [], c)

/-- What stands between two runs of a plain scalar. -/
structure PlainGap where
  /-- The text of the gap; nothing where the scalar ends. -/
  text : List Char
  hasBreak : Bool
  after : Cursor
  deriving Repr

/-- The gap after a run of a plain scalar. -/
def plainGap (c : Cursor) : PlainGap :=
  let (spaces, c) := c.spanWhile (· == ' ')
  if isBreak c.peek then
    let (first, c) := c.takeBreak
    if c.isAtMark then ⟨[], true, c⟩
    else
      match plainBreaks c (c.rest.length + 1) with
      | (none, c) => ⟨[], true, c⟩
      | (some breaks, c) => ⟨foldedBreak first breaks, true, c⟩
  else ⟨spaces, false, c⟩

/-- A plain scalar that was read: its text, whether its last gap holds a break, and the place after
that gap. -/
structure Plain where
  text : List Char
  endsAfterBreak : Bool
  after : Cursor
  deriving Repr

/-- A plain scalar in a block whose content is indented by `indent` columns at least. `gap` is what
stands before the run that begins here. -/
def plainText (inFlow : Bool) (indent : Int) (gap : List Char) (afterBreak : Bool) (c : Cursor) :
    Nat → Plain
  | 0 => ⟨[], afterBreak, c⟩
  | fuel + 1 =>
    if c.peek == '#' then ⟨[], afterBreak, c⟩
    else
      let (run, c) := plainRun inFlow c c.rest.length
      if run.isEmpty then ⟨[], afterBreak, c⟩
      else
        let next := plainGap c
        let ends := next.text.isEmpty || next.after.peek == '#' ||
          (!inFlow && (next.after.column : Int) < indent)
        let tail :=
          if ends then ⟨[], next.hasBreak, next.after⟩
          else plainText inFlow indent next.text next.hasBreak next.after fuel
        { tail with text := gap ++ run ++ tail.text }

/-- What becomes of the line breaks at the end of a block scalar. -/
inductive Chomping where
  | clip | strip | keep
  deriving DecidableEq, Repr

/-- The indicators of a block scalar: chomping, and the indentation if it is given. -/
def blockHeader (c : Cursor) : Except Fault (Chomping × Option Nat × Cursor) :=
  let chomping (c : Cursor) : Chomping × Cursor :=
    if c.peek == '+' then (.keep, c.step) else if c.peek == '-' then (.strip, c.step)
    else (.clip, c)
  let indentation (c : Cursor) : Except Fault (Option Nat × Cursor) :=
    let ch := c.peek
    if ch == '0' then .error .malformed
    else if ch.isDigit then .ok (some (ch.toNat - 48), c.step)
    else .ok (none, c)
  let finish (kind : Chomping) (increment : Option Nat) (c : Cursor) :=
    if isSpaceOrEnd c.peek then .ok (kind, increment, c) else .error .malformed
  if c.peek == '+' || c.peek == '-' then
    let (kind, c) := chomping c
    match indentation c with
    | .error f => .error f
    | .ok (increment, c) => finish kind increment c
  else
    match indentation c with
    | .error f => .error f
    | .ok (none, c) => finish .clip none c
    | .ok (increment, c) =>
      let (kind, c) := chomping c
      finish kind increment c

/-- Empty lines at the beginning of a block scalar: their breaks, and the widest indentation. -/
def leadingBreaks (widest : Nat) (c : Cursor) : Nat → List Char × Nat × Cursor
  | 0 => ([], widest, c)
  | fuel + 1 =>
    if c.peek == ' ' then
      let c := c.step
      leadingBreaks (max widest c.column) c fuel
    else if isBreak c.peek then
      let (break_, c) := c.takeBreak
      let (breaks, widest, c) := leadingBreaks widest c fuel
      (break_ ++ breaks, widest, c)
    else ([], widest, c)

/-- The indentation of a line, up to `indent` columns. -/
def skipIndent (indent : Nat) (c : Cursor) : Cursor :=
  c.skip ((c.rest.take (indent - c.column)).takeWhile (· == ' ')).length

/-- Empty lines inside a block scalar, and the indentation of the line after them. -/
def blockBreaks (indent : Nat) (c : Cursor) : Nat → List Char × Cursor
  | 0 => ([], c)
  | fuel + 1 =>
    let c := skipIndent indent c
    if isBreak c.peek then
      let (break_, c) := c.takeBreak
      let (breaks, c) := blockBreaks indent c fuel
      (break_ ++ breaks, c)
    else ([], c)

/-- The lines of a block scalar: its text without the last break, that break, the breaks of the
empty lines after it, and the place after all. -/
def blockLines (folded : Bool) (indent : Nat) (breaks : List Char) (c : Cursor) :
    Nat → List Char × List Char × List Char × Cursor
  | 0 => ([], [], breaks, c)
  | fuel + 1 =>
    if c.column ≠ indent ∨ c.peek = '\x00' then ([], [], breaks, c)
    else
      let isText (ch : Char) : Bool := ch != ' ' && ch != '\t'
      let startsWithText := isText c.peek
      let (line, c) := c.spanWhile (!isBreakOrEnd ·)
      let (break_, c) := c.takeBreak
      let (next, c) := blockBreaks indent c (c.rest.length + 1)
      if c.column = indent ∧ c.peek ≠ '\x00' then
        let joint :=
          if folded && break_ == ['\n'] && startsWithText && isText c.peek then
            if next.isEmpty then [' '] else []
          else break_
        let (text, last, tail, c) := blockLines folded indent next c fuel
        (breaks ++ line ++ joint ++ text, last, tail, c)
      else (breaks ++ line, break_, next, c)

/-- The text of a block scalar from its indicator on, inside a block of the given indentation. -/
def blockText (folded : Bool) (blockIndent : Int) (c : Cursor) :
    Except Fault (List Char × Cursor) :=
  match blockHeader c.step with
  | .error f => .error f
  | .ok (chomping, increment, c) =>
    match c.restOfLine with
    | .error f => .error f
    | .ok c =>
      let least := max 1 (blockIndent + 1).toNat
      let (breaks, indent, c) :=
        match increment with
        | none =>
          let (breaks, widest, c) := leadingBreaks 0 c (c.rest.length + 1)
          (breaks, max least widest, c)
        | some n =>
          let indent := least + n - 1
          let (breaks, c) := blockBreaks indent c (c.rest.length + 1)
          (breaks, indent, c)
      let (text, last, tail, c) := blockLines folded indent breaks c (c.rest.length + 1)
      match chomping with
      | .strip => .ok (text, c)
      | .clip => .ok (text ++ last, c)
      | .keep => .ok (text ++ last ++ tail, c)

end Provenance.Yaml
