import ProtocolTypes.Proofs.CommandLine.Outcome
import ProtocolTypes.Proofs.CommandLine.Streams
import ProtocolTypes.Proofs.Module.NoData

/-!
# Showing agrees with generating

A run that shows one declaration prints the member that the interface of its kind has for the
first entity of that name, and tells the failure that keep-going generation reports for it.
The other entities and the enums of the protocol may be broken or missing
(`shown_as_generated`).  A member that cannot be encoded is not printed, and ends the run in an
accident.  What a run does before it has the protocol is `sought`, and from
there on it is `printFrom`.
-/

namespace ProtocolTypes

namespace Interface

/-- A failing entity is reported between the failing ones around it. -/
theorem reported_append_cons
    (before after : List Entity)
    (entity : Entity)
    (failure : SchemaFailure)
    (fails : entity.declaration = .error failure) :
    reported .keepGoing (before ++ entity :: after) =
      reported .keepGoing before ++
        ⟨entity.kind, entity.name, failure⟩ :: reported .keepGoing after := by
  simp [reported, failures, Entity.failure?, fails]

/-- In either mode an interface that is made has the member of an entity that compiles
between the members of the entities around it. -/
theorem exists_members_of_append_cons
    (mode : GenerationMode)
    (before after : List Entity)
    (entity : Entity)
    (declaration : String)
    (compiles : entity.declaration = .ok declaration)
    (lines : List String)
    (made : members mode (before ++ entity :: after) = .ok lines) :
    ∃ earlier later, members mode before = .ok earlier ∧ members mode after = .ok later ∧
      lines = earlier ++ entity.member declaration :: later := by
  cases mode with
  | keepGoing =>
      refine ⟨_, _, rfl, rfl, ?_⟩
      rw [← keptMembers_append_cons before after entity declaration compiles]
      exact (Except.ok.inj made).symm
  | strict =>
      have isMember : entity.member? = .ok (entity.member declaration) := by
        rw [Entity.member?, compiles]
        rfl
      rw [members, strictMembers, List.mapM_append, List.mapM_cons] at made
      obtain ⟨earlier, madeEarlier, made⟩ := exists_of_bind_eq_ok made
      obtain ⟨others, madeOthers, made⟩ := exists_of_bind_eq_ok made
      obtain ⟨line, isLine, madeOthers⟩ := exists_of_bind_eq_ok madeOthers
      obtain ⟨later, madeLater, madeOthers⟩ := exists_of_bind_eq_ok madeOthers
      obtain rfl := Except.ok.inj (isMember.symm.trans isLine)
      obtain rfl := Except.ok.inj madeOthers
      exact ⟨earlier, later, madeEarlier, madeLater, (Except.ok.inj made).symm⟩

end Interface

namespace CommandLine

open Session

section

variable [StandIns]

/-- The protocol that a run has before it looks for an entity: the console is started, the
settings are resolved, and the document is loaded and extracted. -/
def sought
    (surroundings : Surroundings)
    (switches : ConsoleSwitches)
    (choices : ShowChoices) :
    Except (Interruption Failure) Protocol := do
  let _ ← (consoleFor surroundings switches).mapError Interruption.accident
  let settings ← (Settings.resolve surroundings.storage surroundings.environment
    { commit := choices.commit }).mapError (Interruption.map SettingsFault.report)
  extracted surroundings (Origin.ofText? choices.source) settings

/-! ## Printing a declaration -/

/-- While a protocol is loaded and extracted nothing but records is printed. -/
theorem exists_prints_protocol
    (surroundings : Surroundings)
    (console : Console)
    (origin : Origin)
    (settings : Settings)
    (protocol : Protocol)
    (loads : extracted surroundings origin settings = .ok protocol) :
    ∃ records, Prints (Session.protocol surroundings console origin settings) (.ok protocol) ""
      (Text.escaped (console.logText records)) := by
  obtain ⟨entries, hasEntries, loads⟩ := exists_of_bind_eq_ok loads
  obtain ⟨extraction, hasExtraction, isProtocol⟩ := exists_of_bind_eq_ok loads
  obtain rfl := Except.ok.inj isProtocol
  let loading := Document.load origin settings
    { storage := surroundings.storage
      standardInput := surroundings.standardInput
      replies := surroundings.replies }
  have loaded := Prints.orInterrupt LoadFault.report loading.result
  have read := Prints.orInterrupt LoadFault.report (Protocol.ofValue (.map entries))
  rw [hasEntries] at loaded
  rw [hasExtraction] at read
  refine ⟨loading.records ++ extraction.records, ?_⟩
  unfold Session.protocol
  refine Prints.andThen (.modify _ (fun _ => rfl) fun _ => rfl) ?_
  refine ((Prints.note console loading.records).bind (loaded.andThen (read.andThen
    ((Prints.note console extraction.records).bind (.pure extraction.protocol))))).congr rfl ?_
  rw [console.logText_append, Text.escaped_append, String.append_empty]

/-- What is left to do when the protocol is there. -/
def printFrom (console : Console) (choices : ShowChoices) (protocol : Protocol) : Session Unit := do
  let entity ← orFail id (askedEntity protocol choices)
  note console entity.records
  let declaration ← orFail SchemaFailure.report entity.declaration
  print (Console.source (entity.member declaration))

/-- Up to the protocol nothing but records is printed. -/
theorem exists_prints_printDeclaration
    (surroundings : Surroundings)
    (console : Console)
    (choices : ShowChoices)
    (settings : Settings)
    (resolves : Settings.resolve surroundings.storage surroundings.environment
      { commit := choices.commit } = .ok settings)
    (protocol : Protocol)
    (loads : extracted surroundings (Origin.ofText? choices.source) settings = .ok protocol)
    {result : Except (Interruption Failure) Unit}
    {output : String}
    {laterRecords : List LogRecord}
    (rest : Prints (printFrom console choices protocol) result output
      (Text.escaped (console.logText laterRecords))) :
    ∃ records, Prints (printDeclaration surroundings console choices) result output
      (Text.escaped (console.logText records)) := by
  obtain ⟨records, prints⟩ := exists_prints_protocol surroundings console _ settings protocol loads
  refine ⟨records ++ laterRecords, ?_⟩
  rw [console.logText_append, Text.escaped_append]
  have settled : Prints (Session.settings surroundings { commit := choices.commit })
      (.ok settings) "" "" := by
    rw [Session.settings, resolves]
    exact .pure settings
  have whole : Prints (printDeclaration surroundings console choices) result ("" ++ output)
      (Text.escaped (console.logText records) ++ Text.escaped (console.logText laterRecords)) :=
    settled.andThen (prints.bind rest)
  exact whole.congr String.empty_append rfl

omit [StandIns] in
/-- A member ends in a semicolon, so that it is printed as it is. -/
theorem source_member (entity : Entity) (declaration : String) :
    Console.source (entity.member declaration) = entity.member declaration ++ "\n" := by
  have isEnd : (entity.member declaration).toList =
      (entity.name ++ ": " ++ declaration).toList ++ [';'] := by
    rw [Entity.member, String.toList_append]
    rfl
  have kept : Text.trimEndNewlines (entity.member declaration) = entity.member declaration := by
    apply String.toList_injective
    simp [Text.trimEndNewlines, Text.dropEndWhile, isEnd]
  rw [Console.source, Console.data, kept]

section

variable (console : Console) (choices : ShowChoices) (protocol : Protocol)

theorem prints_unknown
    (absent : protocol.entity? choices.kind choices.name = none) :
    Prints (printFrom console choices protocol)
      (.error (.reported (unknownEntity choices.kind choices.name))) "" "" := by
  rw [printFrom, askedEntity, absent]
  exact (Prints.throw _).bind_error _

variable
  (entity : Entity)
  (isAsked : protocol.entity? choices.kind choices.name = some entity)

include isAsked

theorem prints_failing
    (failure : SchemaFailure)
    (fails : entity.declaration = .error failure) :
    Prints (printFrom console choices protocol) (.error (.reported failure.report)) ""
      (Text.escaped (console.logText entity.records)) := by
  rw [printFrom, askedEntity, isAsked]
  refine (Prints.pure entity).andThen ?_
  rw [fails]
  have failed : Prints (orFail SchemaFailure.report (.error failure) : Session String)
      (.error (.reported failure.report)) "" "" := .throw _
  exact ((Prints.note console entity.records).bind (failed.bind_error _)).congr rfl
    String.append_empty

theorem prints_compiling
    (declaration : String)
    (compiles : entity.declaration = .ok declaration)
    (encodable : Text.isEncodable (entity.member declaration) = true) :
    Prints (printFrom console choices protocol) (.ok ()) (entity.member declaration ++ "\n")
      (Text.escaped (console.logText entity.records)) := by
  rw [printFrom, askedEntity, isAsked]
  refine (Prints.pure entity).andThen ?_
  rw [compiles, ← source_member]
  have given : Prints (orFail SchemaFailure.report (.ok declaration) : Session String)
      (.ok declaration) "" "" := .pure declaration
  have sourceEncodable : Text.isEncodable (Console.source (entity.member declaration)) = true :=
    (isEncodable_source _).trans encodable
  have shown : Prints
      (orFail SchemaFailure.report (.ok declaration) >>= fun declaration =>
        print (Console.source (entity.member declaration)))
      (.ok ()) (Console.source (entity.member declaration)) "" :=
    given.andThen (.print _ sourceEncodable)
  refine Prints.congr ?_ String.empty_append String.append_empty
  exact (Prints.note console entity.records).bind shown

/-- A member that cannot be encoded is not printed. -/
theorem printFrom_unprintable
    (declaration : String)
    (compiles : entity.declaration = .ok declaration)
    (notEncodable : Text.isEncodable (entity.member declaration) = false) :
    Quiet (printFrom console choices protocol) (.error (.accident .unencodable)) := by
  rw [printFrom, askedEntity, isAsked]
  refine (Quiet.pure entity).andThen ((Quiet.note console entity.records).andThen ?_)
  rw [compiles]
  have given : Quiet (orFail SchemaFailure.report (.ok declaration) : Session String)
      (.ok declaration) := .pure declaration
  exact given.andThen (.print_unencodable _ ((isEncodable_source _).trans notEncodable))

end

/-! ## The whole run -/

omit [StandIns] in
/-- The console shows details where the switches ask for them. -/
theorem verbose_of_consoleFor
    (surroundings : Surroundings)
    (switches : ConsoleSwitches)
    (console : Console)
    (starts : consoleFor surroundings switches = .ok console) :
    console.verbose = switches.verbose := by
  unfold consoleFor Console.start at starts
  obtain ⟨width, -, starts⟩ := exists_of_bind_eq_ok starts
  obtain ⟨height, -, starts⟩ := exists_of_bind_eq_ok starts
  obtain rfl := Except.ok.inj starts
  rfl

/-- Before a run has a protocol it has a console and settings. -/
theorem exists_of_sought
    (surroundings : Surroundings)
    (switches : ConsoleSwitches)
    (choices : ShowChoices)
    (protocol : Protocol)
    (finds : sought surroundings switches choices = .ok protocol) :
    ∃ console settings, consoleFor surroundings switches = .ok console ∧
      Settings.resolve surroundings.storage surroundings.environment
        { commit := choices.commit } = .ok settings ∧
      extracted surroundings (Origin.ofText? choices.source) settings = .ok protocol := by
  obtain ⟨console, starts, finds⟩ := exists_of_bind_eq_ok finds
  obtain ⟨settings, resolves, loads⟩ := exists_of_bind_eq_ok finds
  exact ⟨console, settings, eq_ok_of_mapError_eq_ok starts, eq_ok_of_mapError_eq_ok resolves, loads⟩

/-- A run that has a console and settings has the protocol that it loads and extracts. -/
theorem sought_eq_ok
    (surroundings : Surroundings)
    (switches : ConsoleSwitches)
    (choices : ShowChoices)
    {console : Console}
    (starts : consoleFor surroundings switches = .ok console)
    {settings : Settings}
    (resolves : Settings.resolve surroundings.storage surroundings.environment
      { commit := choices.commit } = .ok settings)
    {origin : Origin}
    (isOrigin : Origin.ofText? choices.source = origin)
    {protocol : Protocol}
    (loads : extracted surroundings origin settings = .ok protocol) :
    sought surroundings switches choices = .ok protocol := by
  rw [sought, starts, resolves, isOrigin]
  exact loads

section

variable
  (surroundings : Surroundings)
  (words : List String)
  (switches : ConsoleSwitches)
  (choices : ShowChoices)
  (asks : Invocation.ofWords words = .ok (.run switches (.display choices)))
  (noColor : switches.noColor = true)
  (protocol : Protocol)
  (finds : sought surroundings switches choices = .ok protocol)

include asks finds

/-- A run ends with the exit code of its command and shows what that prints. -/
theorem exists_run_eq
    {exitCode : Int}
    {output error : String}
    (prints : ∀ console settings, consoleFor surroundings switches = .ok console →
      Settings.resolve surroundings.storage surroundings.environment
        { commit := choices.commit } = .ok settings →
      extracted surroundings (Origin.ofText? choices.source) settings = .ok protocol →
      ∃ records, Prints (display surroundings console choices) (.ok exitCode) output
        (Text.escaped (console.logText records) ++ error)) :
    exitCodeOf (run surroundings words).1 = exitCode ∧
      (run surroundings words).2.standardOutput = output ∧
      ∃ details, (run surroundings words).2.standardError = details ++ error ∧
        (switches.verbose = false → details = "") := by
  obtain ⟨console, settings, starts, resolves, loads⟩ :=
    exists_of_sought surroundings switches choices protocol finds
  obtain ⟨records, displays⟩ := prints console settings starts resolves loads
  have guarded : Prints (runGuarded surroundings console (.display choices)) (.ok exitCode)
      (output ++ "") (Text.escaped (console.logText records) ++ error ++ "") :=
    displays.outcome.bind (.pure exitCode)
  obtain ⟨after, ran, hasOutput, hasError⟩ := guarded { storage := surroundings.storage }
  rw [run_eq_runGuarded surroundings words switches _ asks console starts, ran]
  refine ⟨rfl, by simpa using hasOutput, _, by simpa using hasError, fun sparse => ?_⟩
  have silent : console.verbose = false := by
    rw [verbose_of_consoleFor surroundings switches console starts, sparse]
  rw [console.logText_of_not_verbose silent, Text.escaped_empty]

include noColor

/-- A part that is interrupted by a failure tells of it, and its exit code ends the run. -/
theorem run_told
    (failure : Failure)
    (fails : ∀ console, ∃ records, Prints (printFrom console choices protocol)
      (.error (.reported failure)) "" (Text.escaped (console.logText records))) :
    exitCodeOf (run surroundings words).1 = failure.exitCode ∧
      (run surroundings words).2.standardOutput = "" ∧
      ∃ details, (run surroundings words).2.standardError =
          details ++ Text.escaped ("Error: " ++ failure.text ++ "\n") ∧
        (switches.verbose = false → details = "") := by
  refine exists_run_eq surroundings words switches choices asks protocol finds ?_
  intro console settings starts resolves loads
  obtain ⟨laterRecords, interrupted⟩ := fails console
  obtain ⟨records, prints⟩ := exists_prints_printDeclaration surroundings console choices settings
    resolves protocol loads interrupted
  have plain := noColor_of_consoleFor surroundings switches noColor console starts
  exact ⟨records, prints.conclude_reported console plain _⟩

/-- A part that is interrupted by an accident ends the run in it. -/
theorem run_unprintable
    (accident : Accident)
    (breaks : ∀ console, Quiet (printFrom console choices protocol)
      (.error (.accident accident))) :
    EndsInAccident surroundings accident (noEffects surroundings)
      (run surroundings words).1 (run surroundings words).2.effects := by
  obtain ⟨console, settings, starts, resolves, loads⟩ :=
    exists_of_sought surroundings switches choices protocol finds
  have plain := noColor_of_consoleFor surroundings switches noColor console starts
  have settled := Quiet.orInterrupt SettingsFault.report
    (Settings.resolve surroundings.storage surroundings.environment { commit := choices.commit })
  have loaded := protocol_quiet surroundings console (Origin.ofText? choices.source) settings
  rw [resolves] at settled
  rw [loads] at loaded
  have interrupted : Quiet (printDeclaration surroundings console choices)
      (.error (.accident accident)) := by
    rw [printDeclaration, Session.settings, resolves]
    exact settled.andThen (loaded.andThen (breaks console))
  have displays : Leads (display surroundings console choices) (noEffects surroundings)
      (.error (.accident accident)) (noEffects surroundings) :=
    (interrupted _).conclude_accident console _
  obtain ⟨result, after, leads, ends⟩ :=
    concludeAccident_leads surroundings (.ok console)
      (fun _ same => Except.ok.inj same ▸ plain) accident (noEffects surroundings)
  have guarded : Leads (runGuarded surroundings console (.display choices))
      (noEffects surroundings) result after :=
    runGuarded_broken surroundings console (.display choices) displays leads
  obtain ⟨left, ran, rfl⟩ := guarded { storage := surroundings.storage } rfl
  rw [run_eq_runGuarded surroundings words switches _ asks console starts, ran]
  exact ends

omit noColor in
/-- A part that ends well ends the run with the exit code zero, and is all that is printed. -/
theorem run_shown
    (text : String)
    (succeeds : ∀ console, ∃ records, Prints (printFrom console choices protocol) (.ok ()) text
      (Text.escaped (console.logText records))) :
    exitCodeOf (run surroundings words).1 = 0 ∧
      (run surroundings words).2.standardOutput = text := by
  have displays (console : Console) (settings : Settings)
      (_ : consoleFor surroundings switches = .ok console)
      (resolves : Settings.resolve surroundings.storage surroundings.environment
        { commit := choices.commit } = .ok settings)
      (loads : extracted surroundings (Origin.ofText? choices.source) settings = .ok protocol) :
      ∃ records, Prints (display surroundings console choices) (.ok 0) text
        (Text.escaped (console.logText records) ++ "") := by
    obtain ⟨laterRecords, printed⟩ := succeeds console
    obtain ⟨records, prints⟩ := exists_prints_printDeclaration surroundings console choices
      settings resolves protocol loads printed
    exact ⟨records, (prints.conclude console (.pure 0)).congr String.append_empty rfl⟩
  obtain ⟨hasCode, hasOutput, -⟩ :=
    exists_run_eq surroundings words switches choices asks protocol finds displays
  exact ⟨hasCode, hasOutput⟩

end

omit [StandIns] in
/-- The entity is the first one of its name, and stands between these. -/
structure FirstNamed
    (name : String)
    (entities before : List Entity)
    (entity : Entity)
    (after : List Entity) :
    Prop where
  split : entities = before ++ entity :: after
  fresh : ∀ earlier ∈ before, earlier.name ≠ name
  named : entity.name = name

omit [StandIns] in
/-- The first entity of a name is the one that is found. -/
theorem FirstNamed.entity?_eq
    {protocol : Protocol}
    {kind : EntityKind}
    {name : String}
    {before after : List Entity}
    {entity : Entity}
    (first : FirstNamed name (protocol.entities kind) before entity after) :
    protocol.entity? kind name = some entity := by
  rw [Protocol.entity?, List.find?_eq_some_iff_append]
  refine ⟨by simpa using first.named, before, after, first.split, ?_⟩
  intro earlier isBefore
  simpa using first.fresh earlier isBefore

omit [StandIns] in
/-- A name that no entity has is not found. -/
theorem entity?_eq_none
    (protocol : Protocol)
    (kind : EntityKind)
    (name : String)
    (absent : ∀ entity ∈ protocol.entities kind, entity.name ≠ name) :
    protocol.entity? kind name = none := by
  rw [Protocol.entity?, List.find?_eq_none]
  intro entity isThere
  simpa using absent entity isThere

/-- How a run that shows a declaration of the protocol ends. -/
structure ShowOutcome
    (surroundings : Surroundings)
    (protocol : Protocol)
    (verbose : Bool)
    (kind : EntityKind)
    (name : String)
    (result : Except (Interruption Failure) Int)
    (transcript : Transcript) : Prop where
  /-- A name that no entity has is a misuse. -/
  unknown : (∀ entity ∈ protocol.entities kind, entity.name ≠ name) →
    exitCodeOf result = 2 ∧ transcript.standardOutput = ""
  /-- A failure is told in the words of the one that keep-going generation reports. -/
  failing : ∀ before entity after,
    FirstNamed name (protocol.entities kind) before entity after →
    ∀ failure, entity.declaration = .error failure →
    exitCodeOf result = 8 ∧ transcript.standardOutput = "" ∧
      Interface.reported .keepGoing (protocol.entities kind) =
        Interface.reported .keepGoing before ++
          ⟨kind, name, failure⟩ :: Interface.reported .keepGoing after ∧
      ∃ details, transcript.standardError =
          details ++ Text.escaped ("Error: " ++ failure.report.text ++ "\n") ∧
        (verbose = false → details = "")
  /-- A declaration is printed as the member that it is in every interface that is made. -/
  compiling : ∀ before entity after,
    FirstNamed name (protocol.entities kind) before entity after →
    ∀ declaration, entity.declaration = .ok declaration →
    Text.isEncodable (entity.member declaration) = true →
    exitCodeOf result = 0 ∧
      transcript.standardOutput = entity.member declaration ++ "\n" ∧
      ∀ mode lines, Interface.members mode (protocol.entities kind) = .ok lines →
        ∃ earlier later, Interface.members mode before = .ok earlier ∧
          Interface.members mode after = .ok later ∧
          lines = earlier ++ entity.member declaration :: later
  /-- A member that cannot be encoded is not printed. -/
  unprintable : ∀ before entity after,
    FirstNamed name (protocol.entities kind) before entity after →
    ∀ declaration, entity.declaration = .ok declaration →
    Text.isEncodable (entity.member declaration) = false →
    EndsInAccident surroundings .unencodable (noEffects surroundings) result transcript.effects

/-- Without colours a run that has a protocol shows what generation makes of the entity. -/
theorem shown_as_generated
    (surroundings : Surroundings)
    (words : List String)
    (switches : ConsoleSwitches)
    (choices : ShowChoices)
    (asks : Invocation.ofWords words = .ok (.run switches (.display choices)))
    (noColor : switches.noColor = true)
    (protocol : Protocol)
    (finds : sought surroundings switches choices = .ok protocol) :
    ShowOutcome surroundings protocol switches.verbose choices.kind choices.name
      (run surroundings words).1 (run surroundings words).2 := by
  constructor
  · intro absent
    have isMissing := entity?_eq_none protocol choices.kind choices.name absent
    obtain ⟨hasCode, hasOutput, -⟩ := run_told surroundings words switches choices asks noColor
      protocol finds (unknownEntity choices.kind choices.name) fun console =>
        ⟨[], prints_unknown console choices protocol isMissing⟩
    exact ⟨hasCode, hasOutput⟩
  · intro before entity after first failure fails
    obtain ⟨hasCode, hasOutput, told⟩ := run_told surroundings words switches choices asks noColor
      protocol finds failure.report fun console =>
        ⟨entity.records,
          prints_failing console choices protocol entity first.entity?_eq failure fails⟩
    have isKind : entity.kind = choices.kind :=
      (protocol.mem_entities_append choices.kind entity (by simp [first.split])).1
    refine ⟨hasCode.trans failure.exitCode_report, hasOutput, ?_, told⟩
    rw [first.split, Interface.reported_append_cons before after entity failure fails, isKind,
      first.named]
  · intro before entity after first declaration compiles encodable
    obtain ⟨hasCode, hasOutput⟩ := run_shown surroundings words switches choices asks protocol
      finds (entity.member declaration ++ "\n") fun console =>
        ⟨entity.records, prints_compiling console choices protocol entity first.entity?_eq
          declaration compiles encodable⟩
    refine ⟨hasCode, hasOutput, ?_⟩
    rw [first.split]
    exact fun mode lines made =>
      Interface.exists_members_of_append_cons mode before after entity declaration compiles lines
        made
  · intro before entity after first declaration compiles notEncodable
    exact run_unprintable surroundings words switches choices asks noColor protocol finds _
      fun console => printFrom_unprintable console choices protocol entity first.entity?_eq
        declaration compiles notEncodable

end

/-- Every kind and name can be asked for, of a document from any source. -/
theorem ofWords_show (kind : EntityKind) (name source : String) :
    Invocation.ofWords ["--no-color", "show", "--source", source, "--", kind.spelling, name] =
      .ok (.run { noColor := true }
        (.display { kind := kind, name := name, source := some source })) := by
  have scanned : Invocation.ofWords
      ["--no-color", "show", "--source", source, "--", kind.spelling, name] =
        finishCommand { noColor := true }
          ⟨⟨{ source := some source }, none⟩, [kind.spelling, name]⟩ showCommand := rfl
  rw [scanned]
  simp [finishCommand, showCommand, Except.map]

/-- A document without enums, of an event that fails and one without data. -/
def brokenInput : Surroundings where
  standardInput := "\x7b\"events\": [\x7b\"eventType\": \"Beat\", " ++
    "\"dataFields\": [\x7b\"valueName\": \"at\", \"valueType\": \"Blob\"\x7d]\x7d, " ++
    "\x7b\"eventType\": \"Exit\"\x7d]\x7d"

theorem exit_is_shown_beside_a_broken_event :
    exitCodeOf (run brokenInput
        ["--no-color", "show", "--source", "-", "--", "event", "Exit"]).1 = 0 ∧
      (run brokenInput
        ["--no-color", "show", "--source", "-", "--", "event", "Exit"]).2.standardOutput =
          "Exit: undefined;\n" := by
  let choices : ShowChoices := { kind := .event, name := "Exit", source := some "-" }
  have asks : Invocation.ofWords ["--no-color", "show", "--source", "-", "--", "event", "Exit"] =
      .ok (.run { noColor := true } (.display choices)) := ofWords_show .event "Exit" "-"
  have holds : ((sought brokenInput { noColor := true } choices).toOption.map fun protocol =>
      (protocol.entities .event).map fun entity => (entity.name, entity.declaration.toOption)) =
        some [("Beat", none), ("Exit", some "undefined")] := by
    decide +kernel
  obtain ⟨protocol, finds, holds⟩ := Option.map_eq_some_iff.mp holds
  obtain ⟨beat, rest, hasEvents, isBeat, holds⟩ := List.map_eq_cons_iff.mp holds
  obtain ⟨exit, rest, rfl, isExit, holds⟩ := List.map_eq_cons_iff.mp holds
  obtain rfl := List.map_eq_nil_iff.mp holds
  obtain ⟨beatNamed, -⟩ := Prod.mk.inj isBeat
  obtain ⟨exitNamed, compiles⟩ := Prod.mk.inj isExit
  have first : FirstNamed "Exit" (protocol.entities .event) [beat] exit [] := by
    refine ⟨hasEvents, fun earlier isEarlier => ?_, exitNamed⟩
    rw [List.mem_singleton.mp isEarlier, beatNamed]
    decide
  have isMember : exit.member "undefined" = "Exit: undefined;" := by
    rw [Entity.member, exitNamed]
    decide
  have encodable : Text.isEncodable (exit.member "undefined") = true := by
    rw [isMember]
    exact Text.isEncodable_of_forall_lt _ (by simp)
  obtain ⟨hasCode, hasOutput, -⟩ :=
    (shown_as_generated brokenInput _ { noColor := true } choices asks rfl protocol
      (eq_ok_of_toOption finds)).compiling _ _ _ first _ (eq_ok_of_toOption compiles) encodable
  rw [isMember] at hasOutput
  exact ⟨hasCode, hasOutput.trans (by decide)⟩

/-- A document of one event, with a field that is described by a surrogate. -/
def surrogateCharacters : List Char :=
  "\x7b\"events\": [\x7b\"eventType\": \"E\", ".toList ++
    "\"dataFields\": [\x7b\"valueName\": ".toList ++
    "\"a\", \"valueType\": \"Any\", ".toList ++
    "\"valueDescription\": \"\\ud800\"\x7d]\x7d]\x7d".toList

@[inherit_doc surrogateCharacters]
def surrogateInput : Surroundings where
  standardInput := String.ofList surrogateCharacters

/-- A document of one event, where the width of the terminal is a digit that is no decimal. -/
def squareInput : Surroundings where
  standardInput := "\x7b\"events\": [\x7b\"eventType\": \"Exit\"\x7d]\x7d"
  environment := { settings := [("COLUMNS", "²")] }

/-- Whether the member for the event of that name can be encoded, if it compiles. -/
def eventEncodes? (name : String) (protocol : Protocol) : Option Bool := do
  let event ← protocol.entity? .event name
  let declaration ← event.declaration.toOption
  return Text.isEncodable (event.member declaration)

/-- An event has a declaration, but a run that is to show it ends with the exit code one and
prints nothing. -/
def IsNotShown (surroundings : Surroundings) (name : String) : Prop :=
  let words := ["--no-color", "show", "--source", "-", "--", "event", name]
  ∃ protocol entity declaration,
    extracted surroundings .standardInput .standard = .ok protocol ∧
      protocol.entity? .event name = some entity ∧ entity.declaration = .ok declaration ∧
      exitCodeOf (run surroundings words).1 = 1 ∧
      (run surroundings words).2.effects.standardOutput = ""

/-- Not every declaration is shown: one with a surrogate is not, and none is without a
console. -/
theorem some_declarations_are_not_shown :
    IsNotShown surrogateInput "E" ∧ IsNotShown squareInput "Exit" := by
  constructor
  · let choices : ShowChoices := { kind := .event, name := "E", source := some "-" }
    have asks : Invocation.ofWords ["--no-color", "show", "--source", "-", "--", "event", "E"] =
        .ok (.run { noColor := true } (.display choices)) :=
      ofWords_show .event "E" "-"
    have reads : ((Json.readWhole surrogateCharacters).toOption.bind fun value =>
        (Protocol.ofValue value).toOption.map fun extraction =>
          eventEncodes? "E" extraction.protocol) = some (some false) := by
      decide +kernel
    have noMark : ['\uFEFF'].isPrefixOf surrogateCharacters = false := by decide +kernel
    obtain ⟨protocol, loads, seen⟩ :=
      exists_extracted_of_input noMark reads surrogateInput rfl .standard
    obtain ⟨entity, isAsked, seen⟩ := Option.bind_eq_some_iff.mp seen
    obtain ⟨declaration, isThere, seen⟩ := Option.bind_eq_some_iff.mp seen
    have compiles := eq_ok_of_toOption isThere
    have notEncodable := Option.some.inj seen
    have finds : sought surrogateInput { noColor := true } choices = .ok protocol :=
      sought_eq_ok surrogateInput { noColor := true } choices rfl rfl rfl loads
    have ends := run_unprintable surrogateInput _ { noColor := true } choices asks rfl protocol
      finds _ fun console => printFrom_unprintable console choices protocol entity isAsked
        declaration compiles notEncodable
    exact ⟨protocol, entity, declaration, loads, isAsked, compiles, ends.exitCode,
      ends.touches.output⟩
  · have reads : ((extracted squareInput .standardInput .standard).toOption.bind
        (eventEncodes? "Exit")) = some true := by
      decide +kernel
    obtain ⟨protocol, loads, seen⟩ := Option.bind_eq_some_iff.mp reads
    obtain ⟨entity, isAsked, seen⟩ := Option.bind_eq_some_iff.mp seen
    obtain ⟨declaration, compiles, -⟩ := Option.bind_eq_some_iff.mp seen
    have noConsole : (consoleFor squareInput { noColor := true }).toOption.isSome = false := by
      decide +kernel
    obtain ⟨accident, fails⟩ : ∃ accident,
        consoleFor squareInput { noColor := true } = .error accident := by
      cases starts : consoleFor squareInput { noColor := true } with
      | ok console => simp [starts, Except.toOption] at noConsole
      | error accident => exact ⟨accident, rfl⟩
    have asks : Invocation.ofWords ["--no-color", "show", "--source", "-", "--", "event", "Exit"] =
        .ok (.run { noColor := true }
          (.display { kind := .event, name := "Exit", source := some "-" })) :=
      ofWords_show .event "Exit" "-"
    have ends := run_unstarted squareInput _ _ _ asks accident fails
    exact ⟨protocol, entity, declaration, eq_ok_of_toOption loads, isAsked,
      eq_ok_of_toOption compiles, ends.exitCode, ends.touches.output⟩

end CommandLine
end ProtocolTypes
