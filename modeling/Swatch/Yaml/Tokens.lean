import Swatch.Yaml.Property
import Swatch.Yaml.ScalarText

/-!
Cutting a document into tokens. A key of a mapping is recognised only at the colon behind it, so
the tokens that announce it belong in front of tokens that are already there. The list of tokens
therefore only grows at its end; keys are noted by the token they stand before, and are put in their
places when the document has been read.
-/
namespace Swatch.Yaml

/-- A place where a key may have begun: the number of tokens before it, and where it stands. A
required candidate begins a line of a block mapping, so that no other line may follow before its
colon. -/
structure Candidate where
  token : Nat
  required : Bool
  index : Nat
  line : Nat
  column : Nat
  deriving DecidableEq

/-- Whether a place has left a candidate behind, being on another line or more than 1024 characters
further on. -/
def Candidate.isStale (k : Candidate) (c : Cell) : Bool :=
  k.line != c.line || k.index + 1024 < c.index

/-- A key that was recognised: the number of tokens before it, and whether it opens a block
mapping. -/
structure KeyMark where
  token : Nat
  opens : Bool
  deriving DecidableEq

/-- What has been cut so far. The tokens are kept with the last one first. The columns are those of
the open blocks, the innermost first. There is one candidate slot per level of brackets and one for
the level outside of them, the innermost first. -/
structure Cut where
  tokens : List Token := []
  keys : List KeyMark := []
  columns : List Nat := []
  slots : List (Option Candidate) := [none]
  keyAllowed : Bool := true
  deriving DecidableEq

namespace Cut

/-- The number of tokens cut. -/
def size (s : Cut) : Nat := s.tokens.length

/-- Whether brackets are open. -/
def inFlow (s : Cut) : Bool := 1 < s.slots.length

/-- One more than the column of the innermost block, or zero outside of all blocks. -/
def parent (s : Cut) : Nat := s.columns.head?.elim 0 (· + 1)

/-- A token added at the end. -/
def push (s : Cut) (token : Token) : Cut := { s with tokens := token :: s.tokens }

/-- Whether a key may begin behind this. -/
def allowKey (s : Cut) (allowed : Bool) : Cut := { s with keyAllowed := allowed }

/-- The blocks to the right of a column closed; all of them when no column is given. Inside brackets
indentation closes nothing. -/
def closeBlocks (s : Cut) (column : Option Nat) : Cut :=
  if s.inFlow then s
  else
    let deeper := fun c => column.all (· < c)
    { s with
      tokens := (s.columns.takeWhile deeper).map (fun _ => Token.blockEnd) ++ s.tokens
      columns := s.columns.dropWhile deeper }

/-- Whether a block at a column would be a new one. -/
def isDeeper (s : Cut) (column : Nat) : Bool := s.columns.head?.all (· < column)

/-- A block opened at a column, unless the innermost one is already there. -/
def openBlock (s : Cut) (column : Nat) (token : Token) : Cut :=
  if s.isDeeper column then { s.push token with columns := column :: s.columns } else s

/-- Gives up the candidate of the present level. -/
def dropCandidate (s : Cut) : Except Fault Cut :=
  match s.slots with
  | some c :: outer =>
    if c.required then .error .malformed else .ok { s with slots := none :: outer }
  | _ => .ok s

/-- Notes that a key may begin at a cell. -/
def noteCandidate (s : Cut) (c : Cell) : Except Fault Cut := do
  if s.keyAllowed then
    let s ← s.dropCandidate
    let required := !s.inFlow && s.columns.head? == some c.column
    return { s with
      slots := some ⟨s.size, required, c.index, c.line, c.column⟩ :: s.slots.drop 1 }
  else return s

/-- Gives up the candidates that a place has left behind. -/
def dropStale (s : Cut) (c : Cell) : Except Fault Cut :=
  if s.slots.any fun slot => slot.any fun k => k.isStale c && k.required then .error .malformed
  else .ok { s with slots := s.slots.map fun slot => slot.filter fun k => !k.isStale c }

/-- A separator of documents, or a directive, added outside of all blocks. -/
def pushOutside (s : Cut) (token : Token) : Except Fault Cut := do
  let s ← (s.closeBlocks none).dropCandidate
  return (s.allowKey false).push token

/-- An opening bracket at a cell. -/
def openBracket (s : Cut) (c : Cell) (token : Token) : Except Fault Cut := do
  let s ← s.noteCandidate c
  return ({ s with slots := none :: s.slots }.allowKey true).push token

/-- A closing bracket. -/
def closeBracket (s : Cut) (token : Token) : Except Fault Cut := do
  let s ← s.dropCandidate
  if s.inFlow then return ({ s with slots := s.slots.drop 1 }.allowKey false).push token
  else throw .malformed

/-- A comma. -/
def comma (s : Cut) : Except Fault Cut := do
  let s ← (s.allowKey true).dropCandidate
  return s.push .comma

/-- The dash of a sequence entry at a cell. -/
def entry (s : Cut) (c : Cell) : Except Fault Cut := do
  if !s.inFlow && !s.keyAllowed then throw .malformed
  let s := if s.inFlow then s else s.openBlock c.column .blockSequence
  let s ← (s.allowKey true).dropCandidate
  return s.push .entry

/-- The question mark of a key at a cell. -/
def explicitKey (s : Cut) (c : Cell) : Except Fault Cut := do
  if !s.inFlow && !s.keyAllowed then throw .malformed
  let s := if s.inFlow then s else s.openBlock c.column .blockMapping
  let s ← (s.allowKey !s.inFlow).dropCandidate
  return s.push .key

/-- The colon in front of a value at a cell. If a candidate is there, it turns out to be a key. -/
def colon (s : Cut) (c : Cell) : Except Fault Cut := do
  match s.slots with
  | some k :: outer =>
    let opens := !s.inFlow && s.isDeeper k.column
    return ({ s with
      keys := ⟨k.token, opens⟩ :: s.keys
      columns := if opens then k.column :: s.columns else s.columns
      slots := none :: outer }.allowKey false).push .value
  | _ =>
    if !s.inFlow && !s.keyAllowed then throw .malformed
    let s := if s.inFlow then s else s.openBlock c.column .blockMapping
    let s ← (s.allowKey !s.inFlow).dropCandidate
    return s.push .value

/-- A token that may be a key or part of one, at a cell. -/
def pushNode (s : Cut) (c : Cell) (token : Token) : Except Fault Cut := do
  let s ← s.noteCandidate c
  return (s.allowKey false).push token

/-- A block scalar, which is no key. -/
def pushBlock (s : Cut) (token : Token) : Except Fault Cut := do
  let s ← (s.allowKey true).dropCandidate
  return s.push token

/-- The end of the document. -/
def finish (s : Cut) : Except Fault Cut :=
  if s.slots.any fun slot => slot.any Candidate.required then .error .malformed
  else .ok (s.closeBlocks none)

/-- The first tokens in their order, each key announced in front of the token it was noted by. -/
def first (s : Cut) (count : Nat) : List Token :=
  ((s.tokens.reverse.take count).zipIdx.flatMap fun (token, i) =>
    let announced := (s.keys.find? fun k => k.token = i).elim [] fun k =>
      (if k.opens then [Token.blockMapping] else []) ++ [Token.key]
    announced ++ [token])

/-- All tokens in their order. -/
def result (s : Cut) : List Token := s.first s.size

/-- The number of tokens in front of which no key can be announced any more at a place. -/
def settled (s : Cut) (place : Option Cell) : Nat :=
  let live (k : Candidate) : Bool := place.all fun c => !k.isStale c
  s.slots.foldl (fun least slot => (slot.filter live).elim least fun k => min least k.token) s.size

end Cut

/-- The cells from the next token on: spaces, comments and line breaks are skipped. Outside brackets
a key may begin behind a line break. -/
def skipToToken (inFlow inComment keyAllowed : Bool) : List Cell → Bool × List Cell
  | [] => (keyAllowed, [])
  | c :: rest =>
    if c.isBreak then skipToToken inFlow false (keyAllowed || !inFlow) rest
    else if inComment then skipToToken inFlow true keyAllowed rest
    else if c.isSpace then skipToToken inFlow false keyAllowed rest
    else if c.char = '#' then skipToToken inFlow true keyAllowed rest
    else (keyAllowed, c :: rest)

/-- Whether a plain scalar may begin with a character in front of some cells. -/
def startsPlain (inFlow : Bool) (c : Char) (rest : List Cell) : Bool :=
  !("\t-?:,[]\x7b\x7d#&*!|>'\"%@\x60".toList.contains c) ||
    (!atGapOrEnd rest && (c == '-' || (!inFlow && (c == '?' || c == ':'))))

/-- Cuts the token that begins at a cell, and returns the cells behind it. -/
def Cut.step (s : Cut) (c : Cell) (rest : List Cell) : Except Fault (Cut × List Cell) := do
  let here := c :: rest
  let wide := s.inFlow || atGapOrEnd rest
  if c.char = '%' ∧ c.column = 0 then
    let (token, after) ← takeDirective here
    return (← s.pushOutside token, after)
  else if c.column = 0 ∧ atMarker '-' here then
    return (← s.pushOutside .documentStart, here.drop 3)
  else if c.column = 0 ∧ atMarker '.' here then
    return (← s.pushOutside .documentEnd, here.drop 3)
  else if c.char = '[' then return (← s.openBracket c .sequenceOpen, rest)
  else if c.char = '\x7b' then return (← s.openBracket c .mappingOpen, rest)
  else if c.char = ']' then return (← s.closeBracket .sequenceClose, rest)
  else if c.char = '\x7d' then return (← s.closeBracket .mappingClose, rest)
  else if c.char = ',' then return (← s.comma, rest)
  else if c.char = '-' ∧ atGapOrEnd rest then return (← s.entry c, rest)
  else if c.char = '?' ∧ wide then return (← s.explicitKey c, rest)
  else if c.char = ':' ∧ wide then return (← s.colon c, rest)
  else if c.char = '*' then
    let (name, after) ← takeAnchor rest
    return (← s.pushNode c (.alias name), after)
  else if c.char = '&' then
    let (name, after) ← takeAnchor rest
    return (← s.pushNode c (.anchor name), after)
  else if c.char = '!' then
    let (token, after) ← takeTag here
    return (← s.pushNode c token, after)
  else if (c.char = '|' ∨ c.char = '>') ∧ !s.inFlow then
    let (text, after) ← takeBlock (c.char = '>') s.parent here
    return (← s.pushBlock (.scalar text false), after)
  else if c.char = '\'' ∨ c.char = '"' then
    let (text, after) ← takeQuoted here
    return (← s.pushNode c (.scalar text false), after)
  else if startsPlain s.inFlow c.char rest then
    let (text, broken, after) := takePlain s.inFlow s.parent here
    let s ← s.pushNode c (.scalar text true)
    return (if broken then s.allowKey true else s, after)
  else throw .malformed

/-- Cuts all tokens, or those that are settled before one that cannot be cut. Every round cuts a
token and so reads a cell; the number of cells bounds the rounds. -/
def Cut.run (s : Cut) (cells : List Cell) : Nat → Except Fault TokenRun
  | 0 => .error .malformed
  | rounds + 1 => do
    let (keyAllowed, ahead) := skipToToken s.inFlow false s.keyAllowed cells
    let begun := s.allowKey keyAllowed
    match ahead with
    | [] => return ⟨(← begun.finish).result, none⟩
    | c :: rest =>
      let begun ← begun.dropStale c
      match (begun.closeBlocks (some c.column)).step c rest with
      | .ok (s, after) => s.run after rounds
      | .error e => return ⟨s.first (s.settled cells.head?), some e⟩

/-- The tokens of a document text. -/
def tokens (text : Text) : Except Fault TokenRun := do
  let cells ← cells text
  Cut.run {} cells (cells.length + 1)

end Swatch.Yaml
