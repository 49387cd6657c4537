import ProtocolTypes.Yaml.Node
import ProtocolTypes.Yaml.Tokens

/-!
# Reading nodes

The nodes of the single document of a text, by recursive descent through its tokens.  A
node is added before what lies in it is read, and an alias stands for the number of the
node that its name was given to.
-/

namespace ProtocolTypes
namespace Yaml

/-- What is known while a document is read. -/
structure Reading where
  /-- The tokens that are left. -/
  words : Words
  /-- The expansions of the tag handles. -/
  handles : List (String × String) := []
  anchors : List (String × NodeId) := []
  graph : Graph := {}

/-- A step of reading. -/
abbrev ReadStep := StateT Reading (Except (Interruption Fault))

/-- The anchor and the tag in front of a node. -/
structure Properties where
  anchor : Option String := none
  tag : Option String := none

namespace Reading

/-- The next token, which is left in place. -/
def peek : ReadStep Token := do
  let words := (← get).words
  match words.tokens, words.cause with
  | token :: _, _ => return token
  | [], some cause => throw cause
  | [], none => return .streamEnd

/-- Goes on to the next token. -/
def skip : ReadStep Unit :=
  modify fun reading =>
    { reading with words := { reading.words with tokens := reading.words.tokens.tail } }

/-- Whether the next token is one of these. -/
def nextIsOneOf (tokens : List Token) : ReadStep Bool := do
  return tokens.contains (← peek)

/-- Goes on over that token if it is next, and says whether it was. -/
def accept (token : Token) : ReadStep Bool := do
  if (← peek) == token then
    skip
    return true
  else return false

/-- Ends the reading with a fault. -/
def fail {α : Type} (fault : Fault) : ReadStep α :=
  throw (.reported fault)

/-- Goes on over that token, which has to be next. -/
def expect (token : Token) : ReadStep Unit := do
  if !(← accept token) then fail .unexpectedToken

/-- The address of a tag. -/
def tagAddress (handle : Option String) (suffix : String) : ReadStep String := do
  match handle with
  | none => return suffix
  | some handle =>
    match (← get).handles.lookup handle with
    | some expansion => return expansion ++ suffix
    | none => fail .undefinedHandle

/-- An anchor, if one is next. -/
def readAnchor : ReadStep (Option String) := do
  match ← peek with
  | .anchor name =>
    skip
    return some name
  | _ => return none

/-- A tag, if one is next. -/
def readTag : ReadStep (Option (Option String × String)) := do
  match ← peek with
  | .tag handle suffix =>
    skip
    return some (handle, suffix)
  | _ => return none

/-- The anchor and the tag of a node, in either order. -/
def readProperties : ReadStep Properties := do
  let anchor ← readAnchor
  let tag ← readTag
  let anchor ← if anchor.isSome then pure anchor else readAnchor
  match tag with
  | none => return { anchor := anchor }
  | some (handle, suffix) =>
    let address ← tagAddress handle suffix
    return { anchor := anchor, tag := some address }

/-- Adds a node under its anchor, which has to be a new one. -/
def addNode (anchor : Option String) (node : Node) : ReadStep NodeId := do
  let reading ← get
  let id := reading.graph.size
  match anchor with
  | none =>
    set { reading with graph := reading.graph.add node }
    return id
  | some name =>
    if (reading.anchors.lookup name).isSome then fail .repeatedAnchor
    else
      set
        { reading with
          graph := reading.graph.add node
          anchors := (name, id) :: reading.anchors }
      return id

/-- Gives a node that was added before the shape that it turns out to have. -/
def complete (id : NodeId) (shape : Shape) : ReadStep NodeId := do
  modify fun reading =>
    { reading with graph := reading.graph.put id ⟨(reading.graph.node id).tag, shape⟩ }
  return id

/-- The node that an alias refers to. -/
def readAlias (name : String) : ReadStep NodeId := do
  match (← get).anchors.lookup name with
  | some id => return id
  | none => fail .undefinedAlias

/-- The tag of a scalar, given its text and whether it is plain. -/
def scalarTag (tag : Option String) (text : String) (plain : Bool) : Tag :=
  match tag with
  | none => if plain then .ofPlain text.toList else .str
  | some "!" => .ofPlain text.toList
  | some address => .ofAddress address

/-- The tag of a collection, `usual` where none is given. -/
def collectionTag (tag : Option String) (usual : Tag) : Tag :=
  match tag with
  | none => usual
  | some "!" => usual
  | some address => .ofAddress address

/-- Which nodes may stand at a place. -/
inductive Place
  | flow
  | block
  /-- A block in which a sequence need not be indented. -/
  | mappingBlock
  deriving DecidableEq

/-- The scalar with these properties. -/
def readScalar (properties : Properties) (text : String) (plain : Bool) : ReadStep NodeId :=
  addNode properties.anchor ⟨scalarTag properties.tag text plain, .scalar text⟩

/-- A node of which only the properties are written. -/
def readNothing (properties : Properties) : ReadStep NodeId := do
  if properties.anchor.isNone && properties.tag.isNone then fail .unexpectedToken
  else readScalar properties "" true

/-- The sequence with these properties, its items read by that step, which may refer to
the sequence. -/
def readSequence (properties : Properties) (items : ReadStep (List NodeId)) :
    ReadStep NodeId := do
  let id ← addNode properties.anchor ⟨collectionTag properties.tag .seq, .sequence []⟩
  complete id (.sequence (← items))

/-- The mapping with these properties, its entries read by that step, which may refer to
the mapping. -/
def readMapping
    (properties : Properties)
    (entries : ReadStep (List (NodeId × NodeId))) :
    ReadStep NodeId := do
  let id ← addNode properties.anchor ⟨collectionTag properties.tag .map, .mapping []⟩
  complete id (.mapping (← entries))

/-- The empty node. -/
def readEmpty : ReadStep NodeId := addNode none Node.empty

mutual

/-- A node. -/
def read (place : Place) : Nat → ReadStep NodeId
  | 0 => fail .unexpectedToken
  | fuel + 1 => do
    match ← peek with
    | .alias name =>
      skip
      readAlias name
    | _ =>
      let properties ← readProperties
      match ← peek with
      | .scalar text plain =>
        skip
        readScalar properties text plain
      | .flowSequenceStart =>
        skip
        readSequence properties (readFlowItems true fuel)
      | .flowMappingStart =>
        skip
        readMapping properties (readFlowEntries true fuel)
      | .blockSequenceStart =>
        if place == .flow then fail .unexpectedToken
        else
          skip
          readSequence properties (readBlockItems fuel)
      | .blockMappingStart =>
        if place == .flow then fail .unexpectedToken
        else
          skip
          readMapping properties (readBlockEntries fuel)
      | .blockEntry =>
        if place == .mappingBlock then readSequence properties (readUnindentedItems fuel)
        else readNothing properties
      | _ => readNothing properties

/-- A node, or the empty one if one of these tokens is next. -/
def readUnless (ends : List Token) (place : Place) : Nat → ReadStep NodeId
  | 0 => fail .unexpectedToken
  | fuel + 1 => do
    if ← nextIsOneOf ends then readEmpty
    else read place fuel

/-- The items of an indented block sequence, up to its end. -/
def readBlockItems : Nat → ReadStep (List NodeId)
  | 0 => fail .unexpectedToken
  | fuel + 1 => do
    if ← accept .blockEntry then
      let item ← readUnless [.blockEntry, .blockEnd] .block fuel
      return item :: (← readBlockItems fuel)
    else
      expect .blockEnd
      return []

/-- The items of a block sequence that is not indented. -/
def readUnindentedItems : Nat → ReadStep (List NodeId)
  | 0 => fail .unexpectedToken
  | fuel + 1 => do
    if ← accept .blockEntry then
      let item ← readUnless [.blockEntry, .key, .value, .blockEnd] .block fuel
      return item :: (← readUnindentedItems fuel)
    else return []

/-- The entries of a block mapping, up to its end. -/
def readBlockEntries : Nat → ReadStep (List (NodeId × NodeId))
  | 0 => fail .unexpectedToken
  | fuel + 1 => do
    let ends := [Token.key, .value, .blockEnd]
    if ← accept .key then
      let key ← readUnless ends .mappingBlock fuel
      let value ← if ← accept .value then readUnless ends .mappingBlock fuel else readEmpty
      return (key, value) :: (← readBlockEntries fuel)
    else
      expect .blockEnd
      return []

/-- The items of a flow sequence, up to its end; a pair among them is a mapping of its
own. -/
def readFlowItems (first : Bool) : Nat → ReadStep (List NodeId)
  | 0 => fail .unexpectedToken
  | fuel + 1 => do
    if ← accept .flowSequenceEnd then return []
    else
      if !first then expect .flowEntry
      if ← accept .flowSequenceEnd then return []
      else
        let item ←
          if ← accept .key then
            let ends := [Token.flowEntry, .flowSequenceEnd]
            let key ← readUnless (.value :: ends) .flow fuel
            let value ← if ← accept .value then readUnless ends .flow fuel else readEmpty
            addNode none ⟨.map, .mapping [(key, value)]⟩
          else read .flow fuel
        return item :: (← readFlowItems false fuel)

/-- The entries of a flow mapping, up to its end; a node alone is a key. -/
def readFlowEntries (first : Bool) : Nat → ReadStep (List (NodeId × NodeId))
  | 0 => fail .unexpectedToken
  | fuel + 1 => do
    if ← accept .flowMappingEnd then return []
    else
      if !first then expect .flowEntry
      if ← accept .flowMappingEnd then return []
      else
        let entry ←
          if ← accept .key then
            let ends := [Token.flowEntry, .flowMappingEnd]
            let key ← readUnless (.value :: ends) .flow fuel
            let value ← if ← accept .value then readUnless ends .flow fuel else readEmpty
            pure (key, value)
          else
            let key ← read .flow fuel
            pure (key, ← readEmpty)
        return entry :: (← readFlowEntries false fuel)

end

/-- The handles that need no directive. -/
def commonHandles : List (String × String) := [("!", "!"), ("!!", coreAddress)]

/-- The directives in front of a document, given what was said so far. -/
def readDirectives : Nat → Bool → List (String × String) → ReadStep (List (String × String))
  | 0, _, handles => return handles
  | fuel + 1, versioned, handles => do
    match ← peek with
    | .versionDirective major =>
      skip
      if versioned then fail .repeatedDirective
      else if major != 1 then fail .unsupportedVersion
      else readDirectives fuel true handles
    | .tagDirective handle expansion =>
      skip
      if (handles.lookup handle).isSome then fail .repeatedDirective
      else readDirectives fuel versioned ((handle, expansion) :: handles)
    | .reservedDirective =>
      skip
      readDirectives fuel versioned handles
    | _ => return handles

/-- Goes on over the ends of documents. -/
def skipDocumentEnds : Nat → ReadStep Unit
  | 0 => pure ()
  | fuel + 1 => do
    if ← accept .documentEnd then skipDocumentEnds fuel

/-- Whether a token begins a document that is announced. -/
def announcesDocument : Token → Bool
  | .versionDirective _ => true
  | .tagDirective _ _ => true
  | .reservedDirective => true
  | .documentStart => true
  | _ => false

/-- The node at the root of a document that begins here. -/
def readRoot (fuel : Nat) : ReadStep NodeId := do
  if announcesDocument (← peek) then
    let handles ← readDirectives fuel false []
    modify fun reading => { reading with handles := handles ++ commonHandles }
    expect .documentStart
    let next ← peek
    if announcesDocument next || next == .documentEnd || next == .streamEnd then readEmpty
    else read .block fuel
  else
    modify fun reading => { reading with handles := commonHandles }
    read .block fuel

/-- The root of the single document of a text, if there is one.  What begins another
document is read before it is refused. -/
def readDocument (fuel : Nat) : ReadStep (Option NodeId) := do
  if (← peek) == .streamEnd then return none
  else
    let root ← readRoot fuel
    skipDocumentEnds fuel
    if (← peek) == .streamEnd then return some root
    else
      let _ ← readDirectives fuel false []
      fail .severalDocuments

end Reading

/-- A document: its nodes, and the one that holds all others. -/
structure RootedGraph where
  graph : Graph
  root : NodeId

namespace RootedGraph

/-- The single document of the tokens, if there is one. -/
def ofWords? (words : Words) : Except (Interruption Fault) (Option RootedGraph) := do
  let (root, reading) ←
    (Reading.readDocument (3 * words.tokens.length + 3)).run { words := words }
  return root.map fun root => { graph := reading.graph, root := root }

end RootedGraph
end Yaml
end ProtocolTypes
