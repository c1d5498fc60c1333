import Swatch.Text.Surrogate
import Swatch.Yaml.Token

/-!
The texts of scalars in their five styles. Within a scalar a line break between two lines of text is
folded into a space, and empty lines in between stand for line breaks; only literal blocks keep
their lines as they are. Each function returns the text and the cells behind it.
-/
namespace Swatch.Yaml

/-- What a line break and the empty lines behind it stand for: a plain break alone is a space, with
empty lines it vanishes, and a Unicode separator always remains. -/
def folded (lineBreak : Char) (emptyLines : Text) : Text :=
  if lineBreak ≠ '\n' then lineBreak :: emptyLines
  else if emptyLines.isEmpty then [' ']
  else emptyLines

/-! Plain scalars. -/

/-- Whether a plain scalar has to stop before a cell. A colon stops it only in front of a gap; in
flow style the brackets, the comma and the question mark stop it too. -/
def stopsPlain (flow : Bool) (c : Cell) (rest : List Cell) : Bool :=
  c.isGap || c.isBreak ||
    (c.char == ':' &&
      (atGapOrEnd rest || (flow && ",[]\x7b\x7d".toList.any fun d => next? rest = some d))) ||
    (flow && ",?[]\x7b\x7d".toList.contains c.char)

/-- The longest piece of a plain scalar without gaps. -/
def takeChunk (flow : Bool) : List Cell → Text × List Cell
  | [] => ([], [])
  | c :: rest =>
    if stopsPlain flow c rest then ([], c :: rest)
    else
      let (text, after) := takeChunk flow rest
      (c.char :: text, after)

/-- The breaks of the empty lines that follow a break in a plain scalar, or nothing at all when a
separator of documents follows. -/
def takeEmptyLines : List Cell → Option Text × List Cell
  | [] => (some [], [])
  | c :: rest =>
    if c.isSpace then takeEmptyLines rest
    else if c.isBreak then
      if atSeparator rest then (none, rest)
      else
        let (breaks, after) := takeEmptyLines rest
        (breaks.map (c.char :: ·), after)
    else (some [], c :: rest)

/-- The gap between two pieces of a plain scalar, and whether it contains a line break. An empty gap
ends the scalar. -/
def takeGap (cells : List Cell) : Text × Bool × List Cell :=
  let spaces := textOf (cells.takeWhile Cell.isSpace)
  match skipSpaces cells with
  | [] => (spaces, false, [])
  | c :: rest =>
    if !c.isBreak then (spaces, false, c :: rest)
    else if atSeparator rest then ([], true, rest)
    else
      let (breaks, after) := takeEmptyLines rest
      (breaks.elim [] (folded c.char), true, after)

/-- The rest of a plain scalar after a gap, and whether a line break is the last thing it read. It
goes on as long as pieces follow that are no comments and, outside flow style, stand far enough to
the right. Every round but the last reads a character, so the number of cells bounds the rounds. -/
def takePlainFrom (flow : Bool) (indent : Nat) (gap : Text) (broken : Bool) (cells : List Cell) :
    Nat → Text × Bool × List Cell
  | 0 => ([], broken, cells)
  | rounds + 1 =>
    let (chunk, rest) := takeChunk flow cells
    if chunk.isEmpty || next? cells = some '#' then ([], broken, cells)
    else
      let (nextGap, nextBroken, after) := takeGap rest
      let leftOf := after.head?.any fun c => c.column < indent
      if nextGap.isEmpty || next? after = some '#' || (!flow && leftOf) then
        (gap ++ chunk, nextBroken, after)
      else
        let (text, lastBroken, after) := takePlainFrom flow indent nextGap nextBroken after rounds
        (gap ++ chunk ++ text, lastBroken, after)

/-- A plain scalar, and whether a new line has begun behind it. -/
def takePlain (flow : Bool) (indent : Nat) (cells : List Cell) : Text × Bool × List Cell :=
  takePlainFrom flow indent [] false cells (cells.length + 1)

/-! Quoted scalars. -/

/-- The breaks of the empty lines that follow a break in a quoted scalar. A separator of documents
is not allowed there. -/
def takeQuotedLines (lineStart : Bool) (cells : List Cell) : Except Fault (Text × List Cell) :=
  if lineStart && atSeparator cells then .error .malformed
  else match cells with
    | [] => .ok ([], [])
    | c :: rest =>
      if c.isGap then takeQuotedLines false rest
      else if c.isBreak then
        (takeQuotedLines true rest).map fun (breaks, after) => (c.char :: breaks, after)
      else .ok ([], c :: rest)

/-- The character that a letter stands for behind a backslash. -/
def namedEscape? : Char → Option Char
  | '0' => some '\x00'
  | 'a' => some '\x07'
  | 'b' => some '\x08'
  | 't' => some '\t'
  | '\t' => some '\t'
  | 'n' => some '\n'
  | 'v' => some '\x0b'
  | 'f' => some '\x0c'
  | 'r' => some '\r'
  | 'e' => some '\x1b'
  | ' ' => some ' '
  | '"' => some '"'
  | '\\' => some '\\'
  | '/' => some '/'
  | 'N' => some '\u0085'
  | '_' => some '\u00a0'
  | 'L' => some '\u2028'
  | 'P' => some '\u2029'
  | _ => none

/-- The number of hexadecimal digits that a letter asks for behind a backslash. -/
def escapeWidth? : Char → Option Nat
  | 'x' => some 2
  | 'u' => some 4
  | 'U' => some 8
  | _ => none

/-- The character with a code point, which may also be that of half a surrogate pair. -/
def charOf (code : Nat) : Except Fault Char :=
  if 0x80000000 ≤ code then .error (.scalar .hugeCodePoint)
  else if 0x110000 ≤ code then .error (.scalar .codePoint)
  else if Nat.isValidChar code then .ok (Char.ofNat code)
  else .ok (halfStand code)

/-- What a backslash and the cells behind it stand for. A line break there is dropped together with
the gap behind it. -/
def takeEscape : List Cell → Except Fault (Text × List Cell)
  | [] => .error .malformed
  | c :: rest =>
    if let some found := namedEscape? c.char then .ok ([found], rest)
    else if let some width := escapeWidth? c.char then
      match Numeral.read? 16 (textOf (rest.take width)) with
      | some code =>
        if rest.length < width then .error .malformed
        else (charOf code).map fun found => ([found], rest.drop width)
      | none => .error .malformed
    else if c.isBreak then takeQuotedLines true rest
    else .error .malformed

/-- The rest of a quoted scalar, from inside its quotes to behind the closing one. Every round reads
a cell, so the number of cells bounds the rounds. -/
def takeQuotedFrom (quote : Char) (cells : List Cell) : Nat → Except Fault (Text × List Cell)
  | 0 => .error .malformed
  | rounds + 1 =>
    match cells with
    | [] => .error .malformed
    | c :: rest =>
      let goOn (lead : Text) (after : List Cell) : Except Fault (Text × List Cell) :=
        (takeQuotedFrom quote after rounds).map fun (text, after) => (lead ++ text, after)
      if c.char = quote then
        if quote = '\'' ∧ next? rest = some '\'' then goOn ['\''] (rest.drop 1) else .ok ([], rest)
      else if c.char = '\\' ∧ quote = '"' then do
        let (found, after) ← takeEscape rest
        goOn found after
      else if c.isGap || c.isBreak then
        let gap := cells.takeWhile Cell.isGap
        match cells.dropWhile Cell.isGap with
        | [] => .error .malformed
        | d :: after =>
          if d.isBreak then do
            let (breaks, after) ← takeQuotedLines true after
            goOn (folded d.char breaks) after
          else goOn (textOf gap) (d :: after)
      else goOn [c.char] rest

/-- A quoted scalar whose opening quote stands here. -/
def takeQuoted (cells : List Cell) : Except Fault (Text × List Cell) :=
  match cells with
  | [] => .error .malformed
  | c :: rest => takeQuotedFrom c.char rest cells.length

/-! Block scalars. -/

/-- What becomes of the line breaks at the end of a block. -/
inductive Chomping where
  | strip
  | clip
  | keep
  deriving DecidableEq

/-- The chomping a mark asks for. -/
def Chomping.ofMark? : Char → Option Chomping
  | '-' => some strip
  | '+' => some keep
  | _ => none

/-- The indentation a digit asks for; zero is no indentation. -/
def takeIncrement (cells : List Cell) : Except Fault (Option Nat × List Cell) :=
  match (next? cells).bind (Numeral.digit? 10) with
  | none => .ok (none, cells)
  | some 0 => .error .malformed
  | some n => .ok (some n, cells.drop 1)

/-- The marks behind the indicator of a block, a chomping mark and a digit in either order, to the
end of their line. -/
def takeBlockHeader (cells : List Cell) : Except Fault (Chomping × Option Nat × List Cell) := do
  let (chomping, increment, rest) ←
    match (next? cells).bind Chomping.ofMark? with
    | some chomping => do
      let (increment, rest) ← takeIncrement (cells.drop 1)
      pure (chomping, increment, rest)
    | none => do
      let (increment, rest) ← takeIncrement cells
      match increment.bind fun _ => (next? rest).bind Chomping.ofMark? with
      | some chomping => pure (chomping, increment, rest.drop 1)
      | none => pure (Chomping.clip, increment, rest)
  if !atSpaceOrEnd rest then throw .malformed
  return (chomping, increment, ← skipLineEnd rest)

/-- The breaks of the empty lines that stand here, the indentation of the line behind them skipped
up to a column. -/
def takeBlockBreaks (indent : Nat) : List Cell → Text × List Cell
  | [] => ([], [])
  | c :: rest =>
    if c.isSpace && c.column < indent then takeBlockBreaks indent rest
    else if c.isBreak then
      let (breaks, after) := takeBlockBreaks indent rest
      (c.char :: breaks, after)
    else ([], c :: rest)

/-- The breaks of the empty lines that stand here, the greatest column that spaces reach in them or
before the line behind them, and that line from its first other character on. -/
def takeBlockLead : List Cell → Text × Nat × List Cell
  | [] => ([], 0, [])
  | c :: rest =>
    if c.isSpace then
      let (breaks, column, after) := takeBlockLead rest
      (breaks, max (c.column + 1) column, after)
    else if c.isBreak then
      let (breaks, column, after) := takeBlockLead rest
      (c.char :: breaks, column, after)
    else ([], 0, c :: rest)

/-- The lines of a block from a column on: their text, the break of the last line, the breaks of the
empty lines behind it, and the cells after those. Every round reads a line, so the number of cells
bounds the rounds. -/
def takeBlockLines (fold : Bool) (indent : Nat) (breaks : Text) (cells : List Cell) :
    Nat → Text × Text × Text × List Cell
  | 0 => ([], [], breaks, cells)
  | rounds + 1 =>
    match cells with
    | [] => ([], [], breaks, [])
    | c :: _ =>
      if c.column ≠ indent then ([], [], breaks, cells)
      else
        let line := textOf (cells.takeWhile fun c => !c.isBreak)
        let rest := skipToBreak cells
        let lineBreak := (next? rest).toList
        let (moreBreaks, after) := takeBlockBreaks indent (rest.drop 1)
        if after.head?.any fun c => c.column = indent then
          let flush := !c.isGap && !(after.head?.any Cell.isGap)
          let glue :=
            if fold && flush && lineBreak == ['\n'] then
              (if moreBreaks.isEmpty then [' '] else [])
            else lineBreak
          let (text, ending) := takeBlockLines fold indent moreBreaks after rounds
          (breaks ++ line ++ glue ++ text, ending)
        else (breaks ++ line, lineBreak, moreBreaks, after)

/-- A block scalar whose indicator stands here. The indentation asked for counts from the enclosing
block; without one it is that of the first line with text, or of the longest run of spaces before
it. -/
def takeBlock (fold : Bool) (parent : Nat) (cells : List Cell) :
    Except Fault (Text × List Cell) := do
  let (chomping, increment, rest) ← takeBlockHeader (cells.drop 1)
  let least := max parent 1
  let (indent, breaks, rest) :=
    match increment with
    | some n =>
      let indent := least + n - 1
      let (breaks, rest) := takeBlockBreaks indent rest
      (indent, breaks, rest)
    | none =>
      let (breaks, column, rest) := takeBlockLead rest
      (max least column, breaks, rest)
  let (text, lastBreak, breaks, after) := takeBlockLines fold indent breaks rest (rest.length + 1)
  let ending := match chomping with
    | .strip => []
    | .clip => lastBreak
    | .keep => lastBreak ++ breaks
  return (text ++ ending, after)

end Swatch.Yaml
