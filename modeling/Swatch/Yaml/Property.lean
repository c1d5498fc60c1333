import Swatch.Yaml.Token

/-!
The tokens that say something about a node or about the document instead of being one: anchors and
aliases, tags, and directives.
-/
namespace Swatch.Yaml

/-- The name of an anchor or an alias, which has to be followed by the end of a word. -/
def takeAnchor (cells : List Cell) : Except Fault (Text × List Cell) :=
  let (name, rest) := takeName cells
  let ended := atGapOrEnd rest || "?:,]\x7d%@\x60".toList.any fun c => next? rest = some c
  if !name.isEmpty && ended then .ok (name, rest) else .error .malformed

/-- Whether a character stands for itself in a tag. -/
def isTagChar (c : Char) : Bool := isNameChar c || ";/?:@&=+$,.!~*'()[]".toList.contains c

/-- The text that escaped bytes encode. -/
def decodeBytes (bytes : List UInt8) : Except Fault Text :=
  (Text.ofBytes? bytes).elim (.error .malformed) .ok

/-- The end of a tag: characters that stand for themselves, and bytes written as a percent sign and
two hexadecimal digits. Bytes that follow one another are decoded together. -/
def takeTagText (pending : List UInt8) (cells : List Cell) : Except Fault (Text × List Cell) :=
  match cells with
  | [] => do return (← decodeBytes pending, [])
  | c :: rest =>
    if c.char = '%' then
      match rest with
      | high :: low :: more =>
        match Numeral.digit? 16 high.char, Numeral.digit? 16 low.char with
        | some h, some l => takeTagText (pending ++ [UInt8.ofNat (16 * h + l)]) more
        | _, _ => .error .malformed
      | _ => .error .malformed
    else if isTagChar c.char then do
      let lead ← decodeBytes pending
      let (text, after) ← takeTagText [] rest
      return (lead ++ c.char :: text, after)
    else do return (← decodeBytes pending, c :: rest)

/-- The end of a tag, which may not be empty. -/
def takeTagSuffix (cells : List Cell) : Except Fault (Text × List Cell) := do
  let (text, rest) ← takeTagText [] cells
  if text.isEmpty then throw .malformed
  return (text, rest)

/-- The handle of a tag: one exclamation mark, or a name between two of them. -/
def takeTagHandle : List Cell → Except Fault (Text × List Cell)
  | [] => .error .malformed
  | mark :: rest =>
    if mark.char ≠ '!' then .error .malformed
    else if next? rest = some ' ' then .ok (['!'], rest)
    else
      let (name, after) := takeName rest
      if next? after = some '!' then .ok ('!' :: name ++ ['!'], after.drop 1)
      else .error .malformed

/-- The tag that stands here: verbatim between angle brackets, a lone mark, or a suffix behind a
handle. -/
def takeTag (cells : List Cell) : Except Fault (Token × List Cell) := do
  let rest := cells.drop 1
  let (token, after) ←
    if next? rest = some '<' then do
      let (suffix, after) ← takeTagSuffix (rest.drop 1)
      if next? after ≠ some '>' then throw .malformed
      pure (Token.tag none suffix, after.drop 1)
    else if atGapOrEnd rest then pure (Token.tag none ['!'], rest)
    else do
      let word := rest.takeWhile fun c => !(c.isSpace || c.isBreak)
      let (handle, after) ←
        if word.any fun c => c.char = '!' then takeTagHandle cells else pure (['!'], rest)
      let (suffix, after) ← takeTagSuffix after
      pure (Token.tag (some handle) suffix, after)
  if atSpaceOrEnd after then return (token, after) else throw .malformed

/-- The decimal number that stands here. -/
def takeNumber (cells : List Cell) : Except Fault (Nat × List Cell) := do
  let digits := textOf (cells.takeWhile fun c => Numeral.isDecimal c.char)
  if digits.isEmpty then throw .malformed
  let n ← (Numeral.readDecimal digits).mapError fun e => .scalar (.tooLong e)
  return (n, cells.drop digits.length)

/-- The version a directive states. -/
def takeVersion (cells : List Cell) : Except Fault (Token × List Cell) := do
  let (major, rest) ← takeNumber (skipSpaces cells)
  if next? rest ≠ some '.' then throw .malformed
  let (minor, rest) ← takeNumber (rest.drop 1)
  if atSpaceOrEnd rest then return (.version major minor, rest) else throw .malformed

/-- The handle a directive declares and the text it stands for. -/
def takeTagDeclaration (cells : List Cell) : Except Fault (Token × List Cell) := do
  let (handle, rest) ← takeTagHandle (skipSpaces cells)
  if next? rest ≠ some ' ' then throw .malformed
  let (lead, rest) ← takeTagSuffix (skipSpaces rest)
  if atSpaceOrEnd rest then return (.tagHandle handle lead, rest) else throw .malformed

/-- The directive that stands here, with its line. Directives of other names are allowed and say
nothing. -/
def takeDirective (cells : List Cell) : Except Fault (Token × List Cell) := do
  let (name, rest) := takeName (cells.drop 1)
  if name.isEmpty || !atSpaceOrEnd rest then throw .malformed
  let (token, rest) ←
    if name = "YAML".toList then takeVersion rest
    else if name = "TAG".toList then takeTagDeclaration rest
    else pure (Token.otherDirective, skipToBreak rest)
  return (token, ← skipLineEnd rest)

end Swatch.Yaml
