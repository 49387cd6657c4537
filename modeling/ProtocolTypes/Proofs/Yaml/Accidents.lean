import ProtocolTypes.Proofs.Yaml.Scanning
import ProtocolTypes.Yaml.Read

/-!
# Accidents of reading YAML

The nodes of a document are read without accidents of their own; those of its tokens come to
light when they are asked for.  A value brings about an accident where its text does not fit
its tag.
-/

namespace ProtocolTypes
namespace Yaml

variable {α β : Type}

/-! ## Steps over a state -/

section

variable {State : Type} {kept : State → Prop}

/-- The outcome of a step: a value and a state that is kept, or an end that is foreseen. -/
inductive Ends (kept : State → Prop) : Except (Interruption Fault) (α × State) → Prop
  | value (value : α) {state : State} (isKept : kept state) : Ends kept (.ok (value, state))
  | fault (fault : Fault) : Ends kept (.error (.reported fault))
  | accident {kind : Accident} (isListed : kind ∈ accidents) :
      Ends kept (.error (.accident kind))

/-- An outcome that keeps what is kept has no accident but the foreseen ones. -/
theorem Ends.foreseen
    {outcome : Except (Interruption Fault) (α × State)}
    (ends : Ends kept outcome) :
    Foreseen outcome := by
  cases ends with
  | value value isKept => exact .value _
  | fault fault => exact .fault fault
  | accident isListed => exact .accident isListed

/-- From every state that is kept the step ends in a value and such a state, or as foreseen. -/
def Careful
    (kept : State → Prop)
    (step : StateT State (Except (Interruption Fault)) α) :
    Prop :=
  ∀ state, kept state → Ends kept (step.run state)

/-- A step that keeps what is kept may be followed by such steps. -/
theorem Careful.bind
    {first : StateT State (Except (Interruption Fault)) α}
    {next : α → StateT State (Except (Interruption Fault)) β}
    (careful : Careful kept first)
    (others : ∀ value, Careful kept (next value)) :
    Careful kept (first >>= next) := by
  intro state isKept
  have ends := careful state isKept
  rw [StateT.run_bind]
  generalize first.run state = outcome at ends
  cases ends with
  | value value isKeptToo => exact others value _ isKeptToo
  | fault fault => exact .fault fault
  | accident isListed => exact .accident isListed

/-- What follows a look at the state may rely on what is kept. -/
theorem Careful.get_bind
    {next : State → StateT State (Except (Interruption Fault)) α}
    (others : ∀ state, kept state → Careful kept (next state)) :
    Careful kept (get >>= next) :=
  fun state isKept => others state isKept state isKept

theorem careful_pure (value : α) :
    Careful kept (pure value : StateT State (Except (Interruption Fault)) α) :=
  fun _ isKept => .value value isKept

theorem careful_set {state : State} (isKept : kept state) :
    Careful kept (set state : StateT State (Except (Interruption Fault)) PUnit) :=
  fun _ _ => .value _ isKept

theorem careful_modify
    {change : State → State}
    (keeps : ∀ state, kept state → kept (change state)) :
    Careful kept (modify change : StateT State (Except (Interruption Fault)) PUnit) :=
  fun state isKept => .value _ (keeps state isKept)

theorem careful_fault (fault : Fault) :
    Careful kept (throw (.reported fault) : StateT State (Except (Interruption Fault)) α) :=
  fun _ _ => .fault fault

/-- A step that breaks off is as careful as its cause is foreseen. -/
theorem careful_throw
    {cause : Interruption Fault}
    (foreseen : Foreseen (.error cause : Except (Interruption Fault) β)) :
    Careful kept (throw cause : StateT State (Except (Interruption Fault)) α) := by
  intro state _
  cases foreseen with
  | fault fault => exact .fault fault
  | accident isListed => exact .accident isListed

theorem Careful.ite
    {condition : Prop}
    [Decidable condition]
    {first second : StateT State (Except (Interruption Fault)) α}
    (whenTrue : Careful kept first)
    (whenFalse : Careful kept second) :
    Careful kept (if condition then first else second) := by
  split
  · exact whenTrue
  · exact whenFalse

/-- A careful step may be taken for every value of a list. -/
theorem careful_mapM
    {step : α → StateT State (Except (Interruption Fault)) β}
    (careful : ∀ value, Careful kept (step value))
    (values : List α) :
    Careful kept (values.mapM step) := by
  induction values with
  | nil => exact careful_pure []
  | cons value rest inductionHypothesis =>
      rw [List.mapM_cons]
      exact (careful value).bind fun _ => inductionHypothesis.bind fun _ => careful_pure _

theorem careful_forM
    {step : α → StateT State (Except (Interruption Fault)) PUnit}
    (careful : ∀ value, Careful kept (step value))
    (values : List α) :
    Careful kept (values.forM step) := by
  induction values with
  | nil => exact careful_pure _
  | cons value rest inductionHypothesis =>
      exact (careful value).bind fun _ => inductionHypothesis

/-- Two ways to a value from which the work goes on. -/
theorem Careful.either
    {condition : Prop}
    [Decidable condition]
    {first second : StateT State (Except (Interruption Fault)) α}
    {next : α → StateT State (Except (Interruption Fault)) β}
    (whenTrue : Careful kept first)
    (whenFalse : Careful kept second)
    (others : ∀ value, Careful kept (next value)) :
    Careful kept (if condition then first >>= next else second >>= next) :=
  .ite (whenTrue.bind others) (whenFalse.bind others)

/-- A step that is taken on a condition, before the work goes on. -/
theorem Careful.optional
    {condition : Prop}
    [Decidable condition]
    {first : StateT State (Except (Interruption Fault)) PUnit}
    {next : PUnit → StateT State (Except (Interruption Fault)) β}
    (whenTrue : Careful kept first)
    (others : ∀ done, Careful kept (next done)) :
    Careful kept (if condition then first >>= next else next ⟨⟩) :=
  .ite (whenTrue.bind others) (others ⟨⟩)

end

/-! ## Nodes -/

namespace Reading

/-- What keeps the next token from being told is nothing unforeseen. -/
def Kept (reading : Reading) : Prop := reading.words.Foreseen

theorem careful_peek : Careful Kept peek := by
  refine .get_bind fun reading isKept => ?_
  dsimp only
  split
  · exact careful_pure _
  · next isCause => exact careful_throw (isKept _ isCause)
  · exact careful_pure _

theorem careful_skip : Careful Kept skip :=
  careful_modify fun _ isKept => isKept

theorem careful_nextIsOneOf (tokens : List Token) : Careful Kept (nextIsOneOf tokens) :=
  careful_peek.bind fun _ => careful_pure _

theorem careful_accept (token : Token) : Careful Kept (accept token) := by
  refine careful_peek.bind fun _ => .ite ?_ (careful_pure _)
  exact careful_skip.bind fun _ => careful_pure _

/-- The token that is expected is there, or its absence is a fault. -/
theorem careful_expect (token : Token) : Careful Kept (expect token) := by
  refine (careful_accept token).bind fun _ => .ite (careful_fault _) (careful_pure _)

/-- A tag with a handle that is not defined is a fault. -/
theorem careful_tagAddress (handle : Option String) (suffix : String) :
    Careful Kept (tagAddress handle suffix) := by
  unfold tagAddress
  split
  · exact careful_pure _
  · refine .get_bind fun reading _ => ?_
    split
    · exact careful_pure _
    · exact careful_fault _

theorem careful_readAnchor : Careful Kept readAnchor := by
  refine careful_peek.bind fun _ => ?_
  split
  · exact careful_skip.bind fun _ => careful_pure _
  · exact careful_pure _

theorem careful_readTag : Careful Kept readTag := by
  refine careful_peek.bind fun _ => ?_
  split
  · exact careful_skip.bind fun _ => careful_pure _
  · exact careful_pure _

theorem careful_readProperties : Careful Kept readProperties := by
  refine careful_readAnchor.bind fun anchor => careful_readTag.bind fun tag => ?_
  refine .either (careful_pure _) careful_readAnchor fun anchor => ?_
  split
  · exact careful_pure _
  · exact (careful_tagAddress _ _).bind fun _ => careful_pure _

/-- An anchor that is there already is a fault; nothing else is asked of a new node. -/
theorem careful_addNode (anchor : Option String) (node : Node) :
    Careful Kept (addNode anchor node) := by
  refine .get_bind fun reading isKept => ?_
  dsimp only
  split
  · refine (careful_set ?_).bind fun _ => careful_pure _
    exact isKept
  · refine .ite (careful_fault _) ((careful_set ?_).bind fun _ => careful_pure _)
    exact isKept

/-- A shape is given to a node without a look at the words. -/
theorem careful_complete (id : NodeId) (shape : Shape) : Careful Kept (complete id shape) := by
  refine (careful_modify ?_).bind fun _ => careful_pure _
  exact fun _ isKept => isKept

/-- An alias of an unknown anchor is a fault. -/
theorem careful_readAlias (name : String) : Careful Kept (readAlias name) := by
  refine .get_bind fun reading _ => ?_
  split
  · exact careful_pure _
  · exact careful_fault _

theorem careful_readScalar (properties : Properties) (text : String) (plain : Bool) :
    Careful Kept (readScalar properties text plain) :=
  careful_addNode _ _

theorem careful_readNothing (properties : Properties) :
    Careful Kept (readNothing properties) := by
  unfold readNothing
  exact .ite (careful_fault _) (careful_readScalar _ _ _)

/-- A sequence is read as carefully as its items are. -/
theorem careful_readSequence
    (properties : Properties)
    {items : ReadStep (List NodeId)}
    (careful : Careful Kept items) :
    Careful Kept (readSequence properties items) := by
  refine (careful_addNode _ _).bind fun _ => careful.bind fun _ => careful_complete _ _

/-- A mapping is read as carefully as its entries are. -/
theorem careful_readMapping
    (properties : Properties)
    {entries : ReadStep (List (NodeId × NodeId))}
    (careful : Careful Kept entries) :
    Careful Kept (readMapping properties entries) := by
  refine (careful_addNode _ _).bind fun _ => careful.bind fun _ => careful_complete _ _

theorem careful_readEmpty : Careful Kept readEmpty := careful_addNode _ _

/-- The steps that read nodes are careful: by induction on the depth that is left, for all of
them at once. -/
structure CarefulSteps (fuel : Nat) : Prop where
  read : ∀ place, Careful Kept (read place fuel)
  readUnless : ∀ ends place, Careful Kept (readUnless ends place fuel)
  readBlockItems : Careful Kept (readBlockItems fuel)
  readUnindentedItems : Careful Kept (readUnindentedItems fuel)
  readBlockEntries : Careful Kept (readBlockEntries fuel)
  readFlowItems : ∀ first, Careful Kept (readFlowItems first fuel)
  readFlowEntries : ∀ first, Careful Kept (readFlowEntries first fuel)

/-- Every step of the reader is careful; by induction on the fuel that all of them share. -/
theorem carefulSteps (fuel : Nat) : CarefulSteps fuel := by
  induction fuel with
  | zero =>
      exact
        { read := fun _ => careful_fault _
          readUnless := fun _ _ => careful_fault _
          readBlockItems := careful_fault _
          readUnindentedItems := careful_fault _
          readBlockEntries := careful_fault _
          readFlowItems := fun _ => careful_fault _
          readFlowEntries := fun _ => careful_fault _ }
  | succ fuel steps =>
      refine
        { read := fun place => ?_
          readUnless := fun ends place => ?_
          readBlockItems := ?_
          readUnindentedItems := ?_
          readBlockEntries := ?_
          readFlowItems := fun first => ?_
          readFlowEntries := fun first => ?_ }
      · unfold read
        refine careful_peek.bind fun _ => ?_
        split
        · exact careful_skip.bind fun _ => careful_readAlias _
        · refine careful_readProperties.bind fun _ => careful_peek.bind fun _ => ?_
          split
          · exact careful_skip.bind fun _ => careful_readScalar _ _ _
          · exact careful_skip.bind fun _ => careful_readSequence _ (steps.readFlowItems _)
          · exact careful_skip.bind fun _ => careful_readMapping _ (steps.readFlowEntries _)
          · refine .ite (careful_fault _) (careful_skip.bind fun _ => ?_)
            exact careful_readSequence _ steps.readBlockItems
          · refine .ite (careful_fault _) (careful_skip.bind fun _ => ?_)
            exact careful_readMapping _ steps.readBlockEntries
          · exact .ite (careful_readSequence _ steps.readUnindentedItems) (careful_readNothing _)
          · exact careful_readNothing _
      · unfold readUnless
        exact (careful_nextIsOneOf _).bind fun _ => .ite careful_readEmpty (steps.read _)
      · unfold readBlockItems
        refine (careful_accept _).bind fun _ => .ite ?_ ?_
        · refine (steps.readUnless _ _).bind fun _ => ?_
          exact steps.readBlockItems.bind fun _ => careful_pure _
        · exact (careful_expect _).bind fun _ => careful_pure _
      · unfold readUnindentedItems
        refine (careful_accept _).bind fun _ => .ite ?_ (careful_pure _)
        refine (steps.readUnless _ _).bind fun _ => ?_
        exact steps.readUnindentedItems.bind fun _ => careful_pure _
      · unfold readBlockEntries
        dsimp only
        refine (careful_accept _).bind fun _ => .ite ?_ ?_
        · refine (steps.readUnless _ _).bind fun _ => (careful_accept _).bind fun _ => ?_
          refine .either (steps.readUnless _ _) careful_readEmpty fun _ => ?_
          exact steps.readBlockEntries.bind fun _ => careful_pure _
        · exact (careful_expect _).bind fun _ => careful_pure _
      · unfold readFlowItems
        refine (careful_accept _).bind fun _ => .ite (careful_pure _) ?_
        refine .optional (careful_expect _) fun _ => ?_
        refine (careful_accept _).bind fun _ => .ite (careful_pure _) ?_
        have rest (item : NodeId) : Careful Kept
            (readFlowItems false fuel >>= fun others => pure (item :: others)) :=
          (steps.readFlowItems false).bind fun _ => careful_pure _
        refine (careful_accept _).bind fun _ => .ite ?_ ((steps.read _).bind rest)
        refine (steps.readUnless _ _).bind fun _ => (careful_accept _).bind fun _ => ?_
        refine .either (steps.readUnless _ _) careful_readEmpty fun _ => ?_
        exact (careful_addNode _ _).bind rest
      · unfold readFlowEntries
        refine (careful_accept _).bind fun _ => .ite (careful_pure _) ?_
        refine .optional (careful_expect _) fun _ => ?_
        refine (careful_accept _).bind fun _ => .ite (careful_pure _) ?_
        have rest (entry : NodeId × NodeId) : Careful Kept
            (readFlowEntries false fuel >>= fun others => pure (entry :: others)) :=
          (steps.readFlowEntries false).bind fun _ => careful_pure _
        refine (careful_accept _).bind fun _ => .ite ?_ ?_
        · refine (steps.readUnless _ _).bind fun _ => (careful_accept _).bind fun _ => ?_
          refine .either (steps.readUnless _ _) careful_readEmpty fun _ => ?_
          exact (careful_pure _).bind rest
        · refine (steps.read _).bind fun _ => careful_readEmpty.bind fun _ => ?_
          exact (careful_pure _).bind rest

/-- Directives are read one after the other; by induction on the fuel. -/
theorem careful_readDirectives
    (fuel : Nat)
    (versioned : Bool)
    (handles : List (String × String)) :
    Careful Kept (readDirectives fuel versioned handles) := by
  induction fuel generalizing versioned handles with
  | zero => exact careful_pure _
  | succ fuel inductionHypothesis =>
      unfold readDirectives
      refine careful_peek.bind fun _ => ?_
      split
      · refine careful_skip.bind fun _ => .ite (careful_fault _) (.ite (careful_fault _) ?_)
        exact inductionHypothesis _ _
      · exact careful_skip.bind fun _ => .ite (careful_fault _) (inductionHypothesis _ _)
      · exact careful_skip.bind fun _ => inductionHypothesis _ _
      · exact careful_pure _

theorem careful_skipDocumentEnds (fuel : Nat) : Careful Kept (skipDocumentEnds fuel) := by
  induction fuel with
  | zero => exact careful_pure _
  | succ fuel inductionHypothesis =>
      unfold skipDocumentEnds
      exact (careful_accept _).bind fun _ => .ite inductionHypothesis (careful_pure _)

theorem careful_readRoot (fuel : Nat) : Careful Kept (readRoot fuel) := by
  have keeps (handles : List (String × String)) (reading : Reading) (isKept : reading.Kept) :
      Kept { reading with handles := handles } := isKept
  refine careful_peek.bind fun _ => .ite ?_ ?_
  · refine (careful_readDirectives _ _ _).bind fun _ => ?_
    refine (careful_modify (keeps _)).bind fun _ => (careful_expect _).bind fun _ => ?_
    exact careful_peek.bind fun _ => .ite careful_readEmpty ((carefulSteps fuel).read _)
  · exact (careful_modify (keeps _)).bind fun _ => (carefulSteps fuel).read _

/-- The document is read with its end; another one behind it is a fault. -/
theorem careful_readDocument (fuel : Nat) : Careful Kept (readDocument fuel) := by
  refine careful_peek.bind fun _ => .ite (careful_pure _) ?_
  refine (careful_readRoot fuel).bind fun _ => (careful_skipDocumentEnds fuel).bind fun _ => ?_
  refine careful_peek.bind fun _ => .ite (careful_pure _) ?_
  exact (careful_readDirectives _ _ _).bind fun _ => careful_fault _

end Reading

/-- The graph of foreseen words is made without an unforeseen accident. -/
theorem RootedGraph.foreseen_ofWords? (words : Words) (foreseen : words.Foreseen) :
    Yaml.Foreseen (ofWords? words) := by
  have ends :=
    Reading.careful_readDocument (3 * words.tokens.length + 3) { words := words } foreseen
  exact ends.foreseen.bind fun _ => .value _

/-! ## Values -/

namespace Scalar

/-- A value that is not there is the accident of a bad value. -/
theorem foreseen_orBadValue (value : Option α) : Foreseen (orBadValue value) := by
  cases value with
  | none => exact .accident (by decide)
  | some value => exact .value value

end Scalar

/-- A step may be taken for every value of a list. -/
theorem foreseen_mapM
    {step : α → Except (Interruption Fault) β}
    (foreseen : ∀ value, Foreseen (step value))
    (values : List α) :
    Foreseen (values.mapM step) := by
  induction values with
  | nil => exact .value []
  | cons value rest inductionHypothesis =>
      rw [List.mapM_cons]
      exact (foreseen value).bind fun _ => inductionHypothesis.bind fun _ => .value _

namespace Scalar

/-- An integer has no digits at all, or digits of another base, at worst. -/
theorem foreseen_unsignedInteger (text : List Char) : Foreseen (unsignedInteger text) := by
  unfold unsignedInteger
  split
  · exact .accident (by decide)
  · exact foreseen_orBadValue _
  · exact foreseen_orBadValue _
  · exact .value _
  · exact foreseen_orBadValue _
  · refine .ite ?_ (foreseen_orBadValue _)
    exact (foreseen_mapM (fun _ => foreseen_orBadValue _) _).bind fun _ => .value _

theorem foreseen_integer (text : List Char) : Foreseen (integer text) := by
  unfold integer
  split
  · exact .accident (by decide)
  · exact (foreseen_unsignedInteger _).bind fun _ => .value _

/-- A place in base sixty may weigh too much for a float. -/
theorem foreseen_addSixtieths (places : List Float) (weight : Nat) (total : Float) :
    Foreseen (addSixtieths places weight total) := by
  induction places generalizing weight total with
  | nil => exact .value total
  | cons place rest inductionHypothesis =>
      unfold addSixtieths
      split
      · exact inductionHypothesis _ _
      · exact .accident (by decide)

theorem foreseen_unsignedFloat (text : List Char) : Foreseen (unsignedFloat text) := by
  unfold unsignedFloat
  refine .ite (.value _) (.ite ?_ (foreseen_orBadValue _))
  exact (foreseen_mapM (fun _ => foreseen_orBadValue _) _).bind fun _ =>
    foreseen_addSixtieths _ _ _

theorem foreseen_float (text : List Char) : Foreseen (float text) := by
  unfold float
  split
  · exact .accident (by decide)
  · refine .ite (.value _) ?_
    exact (foreseen_unsignedFloat _).bind fun _ => .value _

theorem foreseen_bool (text : List Char) : Foreseen (bool text) := by
  unfold bool
  exact .ite (.value _) (.ite (.value _) (.accident (by decide)))

theorem foreseen_offset? (text : List Char) : Foreseen (offset? text) := by
  unfold offset?
  split
  · exact .value _
  · exact .value _
  · exact .ite (.value _) (.accident (by decide))

/-- A moment that no day has is a bad value. -/
theorem foreseen_moment (day : Day) (text : List Char) : Foreseen (moment day text) := by
  unfold moment
  refine (foreseen_offset? _).bind fun _ => ?_
  exact .ite (.value _) (.accident (by decide))

/-- A tagged timestamp may be written like none, or be of a day that no calendar has. -/
theorem foreseen_timestamp (written : List Char) : Foreseen (timestamp written) := by
  unfold timestamp
  refine .ite (.accident (by decide)) (.ite (.ite (.value _) (.accident (by decide))) ?_)
  exact (foreseen_moment _ _).map _

/-- Bytes that are badly encoded are a fault. -/
theorem foreseen_binary (text : List Char) : Foreseen (binary text) := by
  unfold binary
  refine .ite (.fault _) ?_
  split
  · exact .value _
  · exact .fault _

end Scalar

namespace Building

/-- A default that is given by itself is an accident; by induction on the fuel. -/
theorem foreseen_scalarText (graph : Graph) (fuel : Nat) (id : NodeId) :
    Foreseen (scalarText graph fuel id) := by
  induction fuel generalizing id with
  | zero => exact .accident (by decide)
  | succ fuel inductionHypothesis =>
      unfold scalarText
      split
      · exact .value _
      · exact .fault _
      · split
        · exact inductionHypothesis _
        · exact .fault _

/-- Each reader of scalars has foreseen accidents alone. -/
theorem foreseen_reader
    {tag : Tag}
    {reader : List Char → Scalar.Outcome Value}
    (isReader : scalarReader? tag = some reader)
    (text : List Char) :
    Foreseen (reader text) := by
  unfold scalarReader? at isReader
  split at isReader
  · cases isReader; exact .value _
  · cases isReader; exact (Scalar.foreseen_bool text).map _
  · cases isReader; exact (Scalar.foreseen_integer text).map _
  · cases isReader; exact (Scalar.foreseen_float text).map _
  · cases isReader; exact .value _
  · cases isReader; exact Scalar.foreseen_timestamp text
  · cases isReader; exact Scalar.foreseen_binary text
  · cases isReader

/-- The leaf of a node is made by the reader that its tag has, if it has one. -/
theorem foreseen_leafOf (graph : Graph) (id : NodeId) : Foreseen (leafOf graph id) := by
  unfold leafOf
  dsimp only
  split
  · exact .fault _
  · next reader isReader =>
      refine (foreseen_scalarText _ _ _).bind fun _ => ?_
      split
      · exact .accident (by decide)
      · exact (foreseen_reader isReader _).bind fun _ => .value _

/-- Nothing is asked of the objects so far. -/
def Kept (_ : Building) : Prop := True

theorem careful_modifyObjects (change : Building → Building) :
    Careful Kept (modify change : BuildStep PUnit) :=
  careful_modify fun _ _ => trivial

theorem careful_node (id : NodeId) : Careful Kept (node id) :=
  .get_bind fun _ _ => careful_pure _

theorem careful_object (id : NodeId) : Careful Kept (object id) := by
  refine .get_bind fun building _ => ?_
  split
  · exact careful_pure _
  · refine (careful_node id).bind fun _ => ?_
    split
    · refine (careful_modifyObjects _).bind fun _ => ?_
      exact (careful_modifyObjects _).bind fun _ => careful_pure _
    · refine .get_bind fun building _ => ?_
      have foreseen := foreseen_leafOf building.graph id
      split
      · exact (careful_modifyObjects _).bind fun _ => careful_pure _
      · next isError => exact careful_throw (isError ▸ foreseen)

/-- Meeting a node is asking for its object. -/
theorem careful_meet (id : NodeId) : Careful Kept (meet id) :=
  (careful_object id).bind fun _ => careful_pure _

/-- A key that is a collection is a fault. -/
theorem careful_key (id : NodeId) : Careful Kept (key id) := by
  refine (careful_object id).bind fun _ => ?_
  split
  · exact careful_pure _
  · exact careful_fault _

/-- A merge of a wrong node is a fault. -/
theorem careful_merge (id : NodeId) : Careful Kept (merge id) := by
  refine .get_bind fun building _ => ?_
  split
  · exact careful_modifyObjects _
  · exact careful_fault _

theorem careful_entries (id : NodeId) : Careful Kept (entries id) := by
  refine (careful_node id).bind fun _ => ?_
  split
  · refine (careful_merge id).bind fun _ => (careful_node id).bind fun _ => ?_
    refine careful_mapM (fun entry => ?_) _
    exact (careful_key _).bind fun _ => (careful_meet _).bind fun _ => careful_pure _
  · exact careful_fault _

theorem careful_items (id : NodeId) : Careful Kept (items id) := by
  refine (careful_node id).bind fun _ => ?_
  split
  · exact careful_pure _
  · exact careful_fault _

theorem careful_pair (id : NodeId) : Careful Kept (pair id) := by
  refine (careful_node id).bind fun _ => ?_
  split
  · exact (careful_meet _).bind fun _ => (careful_meet _).bind fun _ => careful_pure _
  · exact careful_fault _

/-- Filling is careful for each kind of collection. -/
theorem careful_fill (id : NodeId) : Careful Kept (fill id) := by
  refine (careful_object id).bind fun _ => ?_
  split
  · exact careful_pure _
  · refine (careful_items id).bind fun items => ?_
    exact (careful_forM careful_meet items).bind fun _ => careful_modifyObjects _
  · exact (careful_entries id).bind fun _ => careful_modifyObjects _
  · exact (careful_entries id).bind fun _ => careful_modifyObjects _
  · refine (careful_items id).bind fun items => ?_
    exact (careful_mapM careful_pair items).bind fun _ => careful_modifyObjects _

/-- All collections are filled in turn; by induction on the fuel. -/
theorem careful_fillFrom (fuel place : Nat) : Careful Kept (fillFrom fuel place) := by
  induction fuel generalizing place with
  | zero => exact careful_pure _
  | succ fuel inductionHypothesis =>
      unfold fillFrom
      refine .get_bind fun building _ => ?_
      split
      · exact careful_pure _
      · exact (careful_fill _).bind fun _ => inductionHypothesis _

/-- Values are made of a graph without an unforeseen accident. -/
theorem foreseen_ofDocument (document : RootedGraph) : Foreseen (ofDocument document) := by
  have careful : Careful Kept
      (meet document.root >>= fun _ => fillFrom (document.graph.size + 1) 0) :=
    (careful_meet _).bind fun _ => careful_fillFrom _ _
  have ends := careful
    { graph := document.graph, objects := Array.replicate document.graph.size none } trivial
  exact ends.foreseen.bind fun _ => .value _

end Building

variable [StandIns]

/-- Reading a YAML text has a value, a fault, or one of a few kinds of accident. -/
theorem foreseen_read (text : String) : Foreseen (read text) := by
  unfold read
  refine (RootedGraph.foreseen_ofWords? _ (Words.foreseen_ofText text)).bind fun _ => ?_
  split
  · exact .value _
  · exact (Building.foreseen_ofDocument _).bind fun _ => .value _

/-- Reading a text breaks off by one of the listed accidents alone. -/
theorem mem_accidents_of_read
    {text : String}
    {accident : Accident}
    (breaks : read text = .error (.accident accident)) :
    accident ∈ accidents := by
  have foreseen := foreseen_read text
  rw [breaks] at foreseen
  cases foreseen with
  | accident isListed => exact isListed

end Yaml
end ProtocolTypes
