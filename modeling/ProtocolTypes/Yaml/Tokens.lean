import ProtocolTypes.Yaml.BlockScalar
import ProtocolTypes.Yaml.PlainScalar
import ProtocolTypes.Yaml.QuotedScalar

/-!
# The tokens of a YAML text

Indentation opens and closes blocks.  A word may turn out to be a key only when its
colon is met; until then its place among the tokens is remembered, and the token that
announces a key is put in there afterwards.  A text that breaks off has the tokens that
could be told before it did.
-/

namespace ProtocolTypes
namespace Yaml

/-- A token that may turn out to be a key. -/
structure PossibleKey where
  /-- The number of tokens before it. -/
  position : Nat
  /-- Whether nothing but a key can stand at its place. -/
  required : Bool
  index : Nat
  line : Nat
  column : Nat

/-- The state of the work on a text. -/
structure Progress where
  cursor : Cursor
  /-- The tokens so far, the last one first. -/
  tokens : List Token := []
  count : Nat := 0
  /-- How many flow collections are open. -/
  flowDepth : Nat := 0
  /-- The columns of the open blocks, the innermost first. -/
  indents : List Nat := []
  keyAllowed : Bool := true
  /-- The possible keys by the depth that they stand at. -/
  possibleKeys : List (Nat × PossibleKey) := []

namespace Progress

/-- Whether a flow collection is open. -/
def inFlow (progress : Progress) : Bool := 0 < progress.flowDepth

/-- One more than the column of the innermost block, and zero outside of all. -/
def margin (progress : Progress) : Nat :=
  match progress.indents with
  | column :: _ => column + 1
  | [] => 0

/-- Adds a token. -/
def emit (token : Token) (progress : Progress) : Progress :=
  { progress with tokens := token :: progress.tokens, count := progress.count + 1 }

/-- Puts a token in after the first `position` ones. -/
def emitAt (position : Nat) (token : Token) (progress : Progress) : Progress :=
  let later := progress.count - position
  { progress with
    tokens := progress.tokens.take later ++ token :: progress.tokens.drop later
    count := progress.count + 1 }

/-- Moves on to another place. -/
def moveTo (cursor : Cursor) (progress : Progress) : Progress :=
  { progress with cursor := cursor }

/-- Says whether a key may begin here. -/
def allowKey (allowed : Bool) (progress : Progress) : Progress :=
  { progress with keyAllowed := allowed }

/-- Whether a possible key is too far behind to become one. -/
def isStale (cursor : Cursor) (key : PossibleKey) : Bool :=
  key.line != cursor.line || key.index + 1024 < cursor.index

/-- Forgets the possible keys that are too far behind. -/
def dropStaleKeys (progress : Progress) : Scan Progress :=
  let (stale, kept) := progress.possibleKeys.partition fun (_, key) =>
    isStale progress.cursor key
  if stale.any fun (_, key) => key.required then refuse .missingColon
  else .ok { progress with possibleKeys := kept }

/-- Forgets the possible key of this depth. -/
def dropKey (progress : Progress) : Scan Progress :=
  match progress.possibleKeys.lookup progress.flowDepth with
  | some key =>
    if key.required then refuse .missingColon
    else
      .ok { progress with
        possibleKeys := progress.possibleKeys.filter fun (depth, _) =>
          depth != progress.flowDepth }
  | none => .ok progress

/-- Remembers that the next token may turn out to be a key. -/
def rememberKey (progress : Progress) : Scan Progress :=
  if !progress.keyAllowed then .ok progress
  else do
    let cleared ← progress.dropKey
    let cursor := progress.cursor
    let key : PossibleKey :=
      { position := progress.count
        required := !progress.inFlow && progress.margin == cursor.column + 1
        index := cursor.index
        line := cursor.line
        column := cursor.column }
    return { cleared with possibleKeys := (progress.flowDepth, key) :: cleared.possibleKeys }

/-- Closes the blocks that are indented more deeply than the column allows. -/
def closeBlocks (margin : Nat) : List Nat → Progress → Progress
  | [], progress => progress
  | column :: outer, progress =>
    if margin ≤ column then
      closeBlocks margin outer { progress.emit .blockEnd with indents := outer }
    else progress

/-- Closes the blocks whose column is at least the margin; none within a flow
collection. -/
def unwind (margin : Nat) (progress : Progress) : Progress :=
  if progress.inFlow then progress else closeBlocks margin progress.indents progress

/-- Opens a block at a column, unless one that deep is open; `opening` says where among
the tokens it starts. -/
def openBlock
    (column : Nat)
    (opening : Progress → Progress)
    (progress : Progress) :
    Progress :=
  if !progress.inFlow && progress.margin ≤ column then
    { opening progress with indents := column :: progress.indents }
  else progress

/-- The place where the next token begins: after spaces, comments and line breaks. -/
def skipToToken : Nat → Progress → Progress
  | 0, progress => progress
  | fuel + 1, progress =>
    let start := (dropSpaces progress.cursor).dropComment
    match start.lineBreak? with
    | some (_, after) =>
      skipToToken fuel
        { progress with
          cursor := after
          keyAllowed := !progress.inFlow || progress.keyAllowed }
    | none => progress.moveTo start

/-- A token of that many characters that ends all blocks. -/
def scanMarker (token : Token) (progress : Progress) : Scan Progress := do
  let cleared ← (progress.unwind 0).dropKey
  return ((cleared.allowKey false).emit token).moveTo (progress.cursor.advance 3)

/-- The opening of a flow collection. -/
def scanFlowStart (token : Token) (progress : Progress) : Scan Progress := do
  let remembered ← progress.rememberKey
  return ({ remembered with flowDepth := progress.flowDepth + 1, keyAllowed := true }.emit
    token).moveTo progress.cursor.next

/-- The end of a flow collection. -/
def scanFlowEnd (token : Token) (progress : Progress) : Scan Progress := do
  if !progress.inFlow then refuse .unexpectedToken
  else
    let cleared ← progress.dropKey
    return ({ cleared with flowDepth := progress.flowDepth - 1, keyAllowed := false }.emit
      token).moveTo progress.cursor.next

/-- The comma of a flow collection. -/
def scanFlowEntry (progress : Progress) : Scan Progress := do
  let cleared ← progress.dropKey
  return ((cleared.allowKey true).emit .flowEntry).moveTo progress.cursor.next

/-- The dash of a block sequence. -/
def scanBlockEntry (progress : Progress) : Scan Progress := do
  if !progress.inFlow && !progress.keyAllowed then refuse .misplacedEntry
  else
    let opened := progress.openBlock progress.cursor.column (emit .blockSequenceStart)
    let cleared ← (opened.allowKey true).dropKey
    return (cleared.emit .blockEntry).moveTo progress.cursor.next

/-- The question mark in front of a key. -/
def scanKey (progress : Progress) : Scan Progress := do
  if !progress.inFlow && !progress.keyAllowed then refuse .misplacedKey
  else
    let opened := progress.openBlock progress.cursor.column (emit .blockMappingStart)
    let cleared ← (opened.allowKey (!progress.inFlow)).dropKey
    return (cleared.emit .key).moveTo progress.cursor.next

/-- The colon in front of a value. -/
def scanValue (progress : Progress) : Scan Progress := do
  match progress.possibleKeys.lookup progress.flowDepth with
  | some key =>
    let settled :=
      { progress with
        possibleKeys := progress.possibleKeys.filter fun (depth, _) =>
          depth != progress.flowDepth }
    let announced := settled.emitAt key.position .key
    let opened := announced.openBlock key.column (emitAt key.position .blockMappingStart)
    return ((opened.allowKey false).emit .value).moveTo progress.cursor.next
  | none =>
    if !progress.inFlow && !progress.keyAllowed then refuse .misplacedValue
    else
      let opened := progress.openBlock progress.cursor.column (emit .blockMappingStart)
      let cleared ← (opened.allowKey (!progress.inFlow)).dropKey
      return (cleared.emit .value).moveTo progress.cursor.next

/-- A token that may turn out to be a key, read by that step. -/
def scanKeyable
    (step : Cursor → Scan (Token × Cursor))
    (progress : Progress) :
    Scan Progress := do
  let remembered ← progress.rememberKey
  let (token, after) ← step progress.cursor
  return ((remembered.allowKey false).emit token).moveTo after

/-- A plain scalar. -/
def scanPlainToken (progress : Progress) : Scan Progress := do
  let remembered ← progress.rememberKey
  let (scalar, after) := scanPlain progress.inFlow progress.margin progress.cursor
  return ((remembered.allowKey scalar.brokenOff).emit
    (.scalar (String.ofList scalar.text) true)).moveTo after

/-- A block scalar. -/
def scanBlockToken (folded : Bool) (progress : Progress) : Scan Progress := do
  let cleared ← (progress.allowKey true).dropKey
  let (token, after) ← scanBlock folded progress.margin progress.cursor
  return (cleared.emit token).moveTo after

/-- A directive. -/
def scanDirectiveToken (progress : Progress) : Scan Progress := do
  let cleared ← (progress.unwind 0).dropKey
  let (token, after) ← scanDirective progress.cursor
  return ((cleared.allowKey false).emit token).moveTo after

/-- The name of an anchor or alias, as a token. -/
def scanNameToken (make : String → Token) (cursor : Cursor) : Scan (Token × Cursor) := do
  let (name, after) ← scanName cursor
  return (make name, after)

/-- Whether a plain scalar can begin with these characters. -/
def beginsPlain (inFlow : Bool) (first : Char) (second : Option Char) : Bool :=
  !(Cursor.endsToken (some first) ||
      "-?:,[]\x7b\x7d#&*!|>'\"%@\x60".toList.contains first) ||
    (!Cursor.endsToken second && (first == '-' || (!inFlow && (first == '?' || first == ':'))))

/-- The token that begins with that character, at the place. -/
def scanToken [StandIns] (first : Char) (progress : Progress) : Scan Progress :=
  let cursor := progress.cursor
  let second := cursor.peekAt 1
  let atStart := cursor.column == 0
  if atStart && first == '%' then progress.scanDirectiveToken
  else if atStart && cursor.startsWith "---" && cursor.atDocumentMarker then
    progress.scanMarker .documentStart
  else if atStart && cursor.startsWith "..." && cursor.atDocumentMarker then
    progress.scanMarker .documentEnd
  else if first == '[' then progress.scanFlowStart .flowSequenceStart
  else if first == '\x7b' then progress.scanFlowStart .flowMappingStart
  else if first == ']' then progress.scanFlowEnd .flowSequenceEnd
  else if first == '\x7d' then progress.scanFlowEnd .flowMappingEnd
  else if first == ',' then progress.scanFlowEntry
  else if first == '-' && Cursor.endsToken second then progress.scanBlockEntry
  else if first == '?' && (progress.inFlow || Cursor.endsToken second) then progress.scanKey
  else if first == ':' && (progress.inFlow || Cursor.endsToken second) then progress.scanValue
  else if first == '*' then progress.scanKeyable (scanNameToken .alias)
  else if first == '&' then progress.scanKeyable (scanNameToken .anchor)
  else if first == '!' then progress.scanKeyable scanTag
  else if first == '|' && !progress.inFlow then progress.scanBlockToken false
  else if first == '>' && !progress.inFlow then progress.scanBlockToken true
  else if first == '\'' then progress.scanKeyable (scanQuoted false)
  else if first == '"' then progress.scanKeyable (scanQuoted true)
  else if beginsPlain progress.inFlow first second then progress.scanPlainToken
  else refuse .unexpectedCharacter

/-- What a step over one token has come to. -/
inductive Step
  | more (progress : Progress)
  | complete (progress : Progress)

variable [StandIns]

/-- Reads the next token, with those that stand for the end of blocks before it. -/
def step (progress : Progress) : Scan Step := do
  let start ← (progress.skipToToken (progress.cursor.bound + 1)).dropStaleKeys
  let unwound := start.unwind (start.cursor.column + 1)
  match unwound.cursor.peek with
  | none =>
    let ended ← (unwound.unwind 0).dropKey
    return .complete (ended.emit .streamEnd)
  | some first => return .more (← unwound.scanToken first)

omit [StandIns] in
/-- The tokens so far that stand before every possible key: a key that has yet to meet its
colon may have other tokens put in front of it. -/
def settled (progress : Progress) : List Token :=
  let pending := progress.possibleKeys.filter fun (_, key) => !isStale progress.cursor key
  let limit := (pending.map fun (_, key) => key.position).foldl min progress.count
  progress.tokens.reverse.take limit

/-- The tokens from a place on. -/
def scanAll : Nat → Progress → Words
  | 0, progress => { tokens := progress.tokens.reverse }
  | fuel + 1, progress =>
    match progress.step with
    | .ok (.complete last) => { tokens := last.tokens.reverse }
    | .ok (.more next) => scanAll fuel next
    | .error cause => { tokens := progress.settled, cause := some cause }

end Progress

/-- Whether a character may stand in a YAML text. -/
def isPrintable [StandIns] (character : Char) : Bool :=
  let point := character.toNat
  point == 0x09 || point == 0x0A || point == 0x0D || (0x20 ≤ point && point ≤ 0x7E) ||
    point == 0x85 || (0xA0 ≤ point && point ≤ 0xFFFD) ||
    (0x10000 ≤ point && (StandIns.surrogate? character).isNone)

namespace Words

/-- The tokens of a text. -/
def ofText [StandIns] (text : String) : Words :=
  let characters := text.toList
  if !characters.all isPrintable then
    { tokens := [], cause := some (.reported .unprintableCharacter) }
  else
    let start : Cursor := { left := characters, bound := characters.length }
    let first := if start.peek == some '\uFEFF' then start.next else start
    Progress.scanAll (characters.length + 1) { cursor := first }

end Words
end Yaml
end ProtocolTypes
