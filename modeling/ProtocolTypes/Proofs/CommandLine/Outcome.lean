import ProtocolTypes.CommandLine.Run
import ProtocolTypes.Proofs.CommandLine.Making
import ProtocolTypes.Proofs.Module.Encoding
import ProtocolTypes.Proofs.Storage.Writing

/-!
# The outcome of a run that generates a module

A run without colours ends in one of four ways.  A failure that a stage reports gives the
exit code, and nothing else is to be seen.  A module is printed or written, and the exit
code tells what it has left out.  An accident, in a stage or because the module can be neither
printed nor written, gives the exit code one, with nothing printed and no file touched but the
crash log.
-/

namespace ProtocolTypes
namespace CommandLine

open Session

/-! ## What is asked for -/

theorem ofWords_noColor_generate (options : List String) :
    Invocation.ofWords ("--no-color" :: "generate" :: options) =
      commandInvocation { noColor := true } ("generate" :: options) := rfl

/-- The options of a command leave the switches of the program as they are. -/
theorem switches_eq_of_asks
    (options : List String)
    (switches : ConsoleSwitches)
    (command : Command)
    (asks : Invocation.ofWords ("--no-color" :: "generate" :: options) =
      .ok (.run switches command)) :
    switches = { noColor := true } := by
  rw [ofWords_noColor_generate, commandInvocation] at asks
  obtain ⟨scanned, -, asks⟩ := exists_of_bind_eq_ok asks
  unfold finishCommand at asks
  split at asks
  · cases asks
  · cases made : generateCommand scanned.choices.choices scanned.arguments with
    | error misuse => simp [made, Except.map] at asks
    | ok found =>
        simp only [made, Except.map, Except.ok.injEq, Invocation.run.injEq] at asks
        exact asks.1.symm

/-- The console has no colours where they are switched off. -/
theorem noColor_of_consoleFor
    (surroundings : Surroundings)
    (switches : ConsoleSwitches)
    (noColor : switches.noColor = true)
    (console : Console)
    (starts : consoleFor surroundings switches = .ok console) :
    console.noColor = true := by
  unfold consoleFor Console.start at starts
  obtain ⟨width, -, starts⟩ := exists_of_bind_eq_ok starts
  obtain ⟨height, -, starts⟩ := exists_of_bind_eq_ok starts
  obtain rfl := Except.ok.inj starts
  simp [noColor]

/-! ## Accidents -/

/-- The location is where the run keeps its crash log. -/
def IsCrashLog (surroundings : Surroundings) (storage : Storage) (location : Location) : Prop :=
  ∃ directory, crashLogDirectory surroundings = .ok directory ∧
    storage.locate (directory.child (crashLogName surroundings.moment)) = .ok location

/-- The crash log tells of the accident. -/
def LoggedIn (surroundings : Surroundings) (accident : Accident) (storage : Storage) : Prop :=
  ∃ location, IsCrashLog surroundings storage location ∧
    storage.content? location = some (crashText accident).toUTF8

/-- Nothing is printed, and no file is touched but the crash log. -/
structure TouchesCrashLogOnly (surroundings : Surroundings) (before after : Effects) : Prop where
  output : after.standardOutput = before.standardOutput
  files : ∀ location, after.storage.content? location = before.storage.content? location ∨
    IsCrashLog surroundings after.storage location

theorem TouchesCrashLogOnly.of_grows
    {surroundings : Surroundings}
    {before : Effects}
    {storage : Storage}
    (grows : before.storage.Grows storage) :
    TouchesCrashLogOnly surroundings before { before with storage := storage } :=
  ⟨rfl, fun location => .inl (grows.entries location).content?⟩

/-- What was touched before no file was touched adds nothing. -/
theorem TouchesCrashLogOnly.after_grows
    {surroundings : Surroundings}
    {before after : Effects}
    {storage : Storage}
    (grows : before.storage.Grows storage)
    (touches : TouchesCrashLogOnly surroundings { before with storage := storage } after) :
    TouchesCrashLogOnly surroundings before after := by
  refine ⟨touches.output, fun location => ?_⟩
  rw [← (grows.entries location).content?]
  exact touches.files location

/-- Whether or not the crash log can be written, no other file is touched. -/
theorem writeCrashLog_leads
    (surroundings : Surroundings)
    (accident : Accident)
    (effects : Effects) :
    ∃ result after, Leads (writeCrashLog surroundings accident) effects result after ∧
      TouchesCrashLogOnly surroundings effects after ∧
      ∀ path, result = .ok path → LoggedIn surroundings accident after.storage := by
  unfold writeCrashLog
  cases hasDirectory : crashLogDirectory surroundings with
  | error problem =>
      exact ⟨_, effects, (Leads.throw (.accident problem) effects).bind_error _,
        .of_grows (.refl effects.storage), nofun⟩
  | ok directory =>
      have grows := effects.storage.grows_makeDirectories directory
      have making := Leads.makeDirectories directory effects
      have start := Quiet.orBreak (.ok directory) effects
      cases made : effects.storage.makeDirectories directory with
      | mk storage failed =>
          rw [made] at grows making
          cases failed with
          | some problem =>
              exact ⟨_, _, start.bind (making.bind_error _), .of_grows grows, nofun⟩
          | none =>
              let path := directory.child (crashLogName surroundings.moment)
              cases written : storage.overwrite path (crashText accident) with
              | error problem =>
                  have fails := Leads.overwrite_error path (crashText accident)
                    { effects with storage := storage } problem written
                  exact ⟨_, _, start.bind (making.bind (fails.bind_error _)), .of_grows grows,
                    nofun⟩
              | ok logged =>
                  have succeeds := Leads.overwrite path (crashText accident)
                    { effects with storage := storage } logged written
                  obtain ⟨location, located, isFile, others⟩ :=
                    Storage.holds_overwrite grows path (crashText accident) logged written
                  have isCrashLog : IsCrashLog surroundings logged location :=
                    ⟨directory, hasDirectory, located⟩
                  refine ⟨_, _, start.bind (making.bind (succeeds.bind (.pure path _))),
                    ⟨rfl, fun other => ?_⟩,
                    fun _ _ => ⟨location, isCrashLog, Storage.content?_of_file isFile⟩⟩
                  by_cases same : other = location
                  · exact .inr (same ▸ isCrashLog)
                  · exact .inl (others other same).content?

/-- The end of a run after an accident. -/
structure EndsInAccident
    (surroundings : Surroundings)
    (accident : Accident)
    (before : Effects)
    (result : Except (Interruption Failure) Int)
    (after : Effects) : Prop where
  exitCode : exitCodeOf result = 1
  touches : TouchesCrashLogOnly surroundings before after
  /-- Where the accident could be told, the crash log tells of it, too. -/
  logged : ∀ code, result = .ok code → LoggedIn surroundings accident after.storage

section

variable [StandIns]

/-- After an accident the exit code is one, also where the crash log cannot be written or
there is no console to tell of it. -/
theorem concludeAccident_leads
    (surroundings : Surroundings)
    (console : Except Accident Console)
    (noColor : ∀ shown, console = .ok shown → shown.noColor = true)
    (accident : Accident)
    (effects : Effects) :
    ∃ result after, Leads (concludeAccident surroundings console accident) effects result after ∧
      EndsInAccident surroundings accident effects result after := by
  obtain ⟨result, after, leads, touches, logged⟩ :=
    writeCrashLog_leads surroundings accident effects
  cases result with
  | error cause => exact ⟨_, after, leads.bind_error _, ⟨rfl, touches, nofun⟩⟩
  | ok path =>
      have isLogged := logged path rfl
      cases console with
      | error problem =>
          have noConsole := Quiet.orBreak (.error problem : Except Accident Console) after
          exact ⟨_, after, leads.bind (noConsole.bind_error _),
            ⟨rfl, touches, fun _ _ => isLogged⟩⟩
      | ok shown =>
          have hasConsole := Quiet.orBreak (.ok shown) after
          have told := Quiet.say shown (noColor shown rfl) .error
            ("Unexpected error. Debug log: " ++ path.text) after
          exact ⟨_, after, leads.bind (hasConsole.bind (told.bind (.pure accidentCode after))),
            ⟨rfl, touches, fun _ _ => isLogged⟩⟩

/-! ## The whole run -/

/-- What a run comes to before the module is delivered: the console is started, and then
come the stages. -/
def attempt
    (surroundings : Surroundings)
    (switches : ConsoleSwitches)
    (choices : GenerateChoices) :
    Except (Interruption Failure) Draft := do
  let _ ← (consoleFor surroundings switches).mapError Interruption.accident
  stages surroundings choices

/-- What is to be seen of a run before it begins. -/
def noEffects (surroundings : Surroundings) : Effects := { storage := surroundings.storage }

namespace Draft

omit [StandIns] in
/-- The file that a draft is meant for. -/
def path (draft : Draft) : FilePath := FilePath.ofText draft.settings.outputFile

/-- The module can be printed, or written, as is asked for. -/
inductive IsDeliverable (draft : Draft) (storage : Storage) : Bool → Prop
  | printed (encodable : Text.isEncodable draft.text = true) : IsDeliverable draft storage true
  | written
      {after : Storage}
      {path : FilePath}
      (writes : storage.write draft.path draft.text = (after, .ok path)) :
      IsDeliverable draft storage false

/-- How an accident keeps the module from being printed, or written, as is asked for. -/
inductive DeliveryBreaks (draft : Draft) (storage : Storage) : Bool → Accident → Prop
  | printed (notEncodable : Text.isEncodable draft.text = false) :
      DeliveryBreaks draft storage true .unencodable
  | written
      {after : Storage}
      {accident : Accident}
      (fails : storage.write draft.path draft.text = (after, .error accident)) :
      DeliveryBreaks draft storage false accident

/-- A module is delivered unless an accident breaks the delivery. -/
theorem isDeliverable_iff (draft : Draft) (storage : Storage) (toStandardOutput : Bool) :
    draft.IsDeliverable storage toStandardOutput ↔
      ∀ accident, ¬draft.DeliveryBreaks storage toStandardOutput accident := by
  constructor
  · rintro (encodable | writes) accident (notEncodable | fails)
    · rw [encodable] at notEncodable
      cases notEncodable
    · rw [writes] at fails
      cases fails
  · intro notBroken
    cases toStandardOutput with
    | true =>
        cases encodable : Text.isEncodable draft.text with
        | true => exact .printed encodable
        | false => exact absurd (.printed encodable) (notBroken _)
    | false =>
        cases attempted : storage.write draft.path draft.text with
        | mk after result =>
            cases result with
            | ok path => exact .written attempted
            | error accident => exact absurd (.written attempted) (notBroken accident)

end Draft

/-- A run that has a console is what its command comes to. -/
theorem run_eq_runGuarded
    (surroundings : Surroundings)
    (words : List String)
    (switches : ConsoleSwitches)
    (command : Command)
    (asks : Invocation.ofWords words = .ok (.run switches command))
    (console : Console)
    (starts : consoleFor surroundings switches = .ok console) :
    run surroundings words =
      (runGuarded surroundings console command).run { storage := surroundings.storage } := by
  rw [run, asks, perform, withConsole, starts]

/-- Without a console the run ends in an accident before its command is begun. -/
theorem run_unstarted
    (surroundings : Surroundings)
    (words : List String)
    (switches : ConsoleSwitches)
    (command : Command)
    (asks : Invocation.ofWords words = .ok (.run switches command))
    (accident : Accident)
    (fails : consoleFor surroundings switches = .error accident) :
    EndsInAccident surroundings accident (noEffects surroundings)
      (run surroundings words).1 (run surroundings words).2.effects := by
  obtain ⟨result, after, leads, ends⟩ :=
    concludeAccident_leads surroundings (.error accident) nofun accident (noEffects surroundings)
  obtain ⟨left, ran, rfl⟩ := leads { storage := surroundings.storage } rfl
  have whole : run surroundings words = (result, left) := by
    rw [run, asks, perform, withConsole, fails]
    exact ran
  rw [whole]
  exact ends

/-- A delivery that breaks may have made directories, and leaves every file as it is. -/
theorem exists_undelivered
    (surroundings : Surroundings)
    (console : Console)
    (draft : Draft)
    (toStandardOutput : Bool)
    (accident : Accident)
    (breaks : draft.DeliveryBreaks surroundings.storage toStandardOutput accident) :
    ∃ storage, surroundings.storage.Grows storage ∧
      Leads (deliver console draft.settings toStandardOutput draft.text) (noEffects surroundings)
        (.error (.accident accident)) { storage := storage } := by
  cases breaks with
  | printed notEncodable =>
      exact ⟨_, .refl _, deliver_unprinted console draft.settings draft.text notEncodable _⟩
  | written fails =>
      have changes := surroundings.storage.write_changes draft.path draft.text
      rw [fails] at changes
      cases changes with
      | failed _ _ grows =>
          exact ⟨_, grows, deliver_unwritten console draft.settings draft.text
            (noEffects surroundings) _ accident fails⟩

/-- How a run that is asked to generate the module ends. -/
structure GenerateOutcome
    (surroundings : Surroundings)
    (switches : ConsoleSwitches)
    (choices : GenerateChoices)
    (result : Except (Interruption Failure) Int)
    (effects : Effects) : Prop where
  /-- A failure that a stage reports gives the exit code, and there are no effects. -/
  reported : ∀ failure, attempt surroundings switches choices = .error (.reported failure) →
    exitCodeOf result = failure.exitCode ∧
      effects.standardOutput = "" ∧ effects.storage = surroundings.storage
  /-- The exit code of a delivery tells of entities first, and of problems then. -/
  delivered : ∀ draft, attempt surroundings switches choices = .ok draft →
    draft.IsDeliverable surroundings.storage choices.toStandardOutput →
    exitCodeOf result =
      if draft.failures.isEmpty then if draft.problems.isEmpty then 0 else 9 else 8
  printed : ∀ draft, attempt surroundings switches choices = .ok draft →
    choices.toStandardOutput = true → Text.isEncodable draft.text = true →
    effects.standardOutput = Text.trimEndNewlines draft.text ++ "\n" ∧
      effects.storage = surroundings.storage
  written : ∀ draft, attempt surroundings switches choices = .ok draft →
    choices.toStandardOutput = false →
    ∀ storage path, surroundings.storage.write draft.path draft.text = (storage, .ok path) →
    effects.standardOutput = "" ∧
      surroundings.storage.Holds effects.storage draft.path
        (Storage.withFinalNewline draft.text).toUTF8
  /-- Without a lint pass a module is printed as it is written. -/
  unlinted : ∀ draft, attempt surroundings switches choices = .ok draft →
    draft.settings.lint.enabled = false →
    Text.trimEndNewlines draft.text ++ "\n" = Storage.withFinalNewline draft.text
  /-- An accident ends the run, in a stage or while the module is printed or written. -/
  broken : ∀ accident, attempt surroundings switches choices = .error (.accident accident) ∨
      (∃ draft, attempt surroundings switches choices = .ok draft ∧
        draft.DeliveryBreaks surroundings.storage choices.toStandardOutput accident) →
    EndsInAccident surroundings accident (noEffects surroundings) result effects

section

variable
  (surroundings : Surroundings)
  (switches : ConsoleSwitches)
  (choices : GenerateChoices)
  (words : List String)
  (asks : Invocation.ofWords words = .ok (.run switches (.generate choices)))
  (noColor : switches.noColor = true)

include asks in
/-- The result and the effects of a run are what its command leads to. -/
theorem run_of_leads
    (console : Console)
    (starts : consoleFor surroundings switches = .ok console)
    {result : Except (Interruption Failure) Int}
    {after : Effects}
    (leads : Leads (runGuarded surroundings console (.generate choices))
      (noEffects surroundings) result after) :
    (run surroundings words).1 = result ∧ (run surroundings words).2.effects = after := by
  obtain ⟨left, ran, sameEffects⟩ := leads { storage := surroundings.storage } rfl
  rw [run_eq_runGuarded surroundings words switches _ asks console starts, ran]
  exact ⟨rfl, sameEffects⟩

/-- A command that ends with an exit code ends the run with it. -/
theorem runGuarded_leads
    (console : Console)
    (command : Command)
    {before after : Effects}
    {exitCode : Int}
    (leads : Leads (runCommand surroundings console command) before (.ok exitCode) after) :
    Leads (runGuarded surroundings console command) before (.ok exitCode) after :=
  leads.outcome.bind (.pure exitCode after)

/-- An accident that ends a command is dealt with. -/
theorem runGuarded_broken
    (console : Console)
    (command : Command)
    {before middle after : Effects}
    {accident : Accident}
    (leads : Leads (runCommand surroundings console command) before
      (.error (.accident accident)) middle)
    {result : Except (Interruption Failure) Int}
    (dealtWith : Leads (concludeAccident surroundings (.ok console) accident) middle result after) :
    Leads (runGuarded surroundings console command) before result after :=
  leads.outcome.bind dealtWith

/-- Past the start of the console come the stages. -/
theorem attempt_eq_stages
    (console : Console)
    (starts : consoleFor surroundings switches = .ok console) :
    attempt surroundings switches choices = stages surroundings choices := by
  rw [attempt, starts]
  rfl

/-- Unless an accident kept the console from being made, an attempt is its stages. -/
theorem exists_console_of_attempt
    {result : Except (Interruption Failure) Draft}
    (attempted : attempt surroundings switches choices = result)
    (noAccident : ∀ accident, result ≠ .error (.accident accident)) :
    ∃ console, consoleFor surroundings switches = .ok console ∧
      stages surroundings choices = result := by
  cases starts : consoleFor surroundings switches with
  | error accident =>
      rw [attempt, starts] at attempted
      exact absurd attempted.symm (noAccident accident)
  | ok console =>
      rw [attempt_eq_stages surroundings switches choices console starts] at attempted
      exact ⟨console, rfl, attempted⟩

include asks noColor

/-- A reported failure ends the run with its exit code and without an effect. -/
theorem run_reported
    (failure : Failure)
    (fails : attempt surroundings switches choices = .error (.reported failure)) :
    (run surroundings words).1 = .ok failure.exitCode ∧
      (run surroundings words).2.effects = noEffects surroundings := by
  obtain ⟨console, starts, stagesFail⟩ :=
    exists_console_of_attempt surroundings switches choices fails nofun
  have plain := noColor_of_consoleFor surroundings switches noColor console starts
  have generated :=
    generate_reported surroundings console choices plain failure stagesFail (noEffects surroundings)
  exact run_of_leads surroundings switches choices words asks console starts
    (runGuarded_leads surroundings console (.generate choices) generated)

/-- A module that is delivered ends the run with the exit code of the delivery. -/
theorem run_delivered
    (draft : Draft)
    (made : attempt surroundings switches choices = .ok draft)
    (after : Effects)
    (delivers : ∀ console : Console, console.noColor = true →
      Leads (deliver console draft.settings choices.toStandardOutput draft.text)
        (noEffects surroundings) (.ok ()) after) :
    (run surroundings words).1 = .ok draft.exitCode ∧
      (run surroundings words).2.effects = after := by
  obtain ⟨console, starts, stagesMake⟩ :=
    exists_console_of_attempt surroundings switches choices made nofun
  have plain := noColor_of_consoleFor surroundings switches noColor console starts
  have generated := generate_delivered surroundings console choices plain draft stagesMake
    (noEffects surroundings) after (delivers console plain)
  exact run_of_leads surroundings switches choices words asks console starts
    (runGuarded_leads surroundings console (.generate choices) generated)

/-- A draft for standard output is printed there, and nothing else is done. -/
theorem run_printed
    (draft : Draft)
    (made : attempt surroundings switches choices = .ok draft)
    (toStandardOutput : choices.toStandardOutput = true)
    (encodable : Text.isEncodable draft.text = true) :
    (run surroundings words).1 = .ok draft.exitCode ∧
      (run surroundings words).2.effects =
        { standardOutput := Text.trimEndNewlines draft.text ++ "\n"
          storage := surroundings.storage } := by
  refine run_delivered surroundings switches choices words asks noColor draft made _
    fun console _ => ?_
  have prints :=
    deliver_printed console draft.settings draft.text encodable (noEffects surroundings)
  rw [toStandardOutput]
  simpa [noEffects, Console.source, Console.data] using prints

/-- A draft for a file is written to it, and nothing else is done. -/
theorem run_written
    (draft : Draft)
    (made : attempt surroundings switches choices = .ok draft)
    (toFile : choices.toStandardOutput = false)
    (storage : Storage)
    (path : FilePath)
    (writes : surroundings.storage.write draft.path draft.text = (storage, .ok path)) :
    (run surroundings words).1 = .ok draft.exitCode ∧
      (run surroundings words).2.effects = { storage := storage } := by
  refine run_delivered surroundings switches choices words asks noColor draft made _
    fun console plain => ?_
  rw [toFile]
  exact deliver_written console plain draft.settings draft.text (noEffects surroundings) storage
    path writes

/-- A delivery that breaks, or a stage, ends the run in an accident. -/
theorem run_broken
    (console : Console)
    (starts : consoleFor surroundings switches = .ok console)
    (accident : Accident)
    (storage : Storage)
    (grows : surroundings.storage.Grows storage)
    (breaks : Leads (generate surroundings console choices) (noEffects surroundings)
      (.error (.accident accident)) { storage := storage }) :
    EndsInAccident surroundings accident (noEffects surroundings)
      (run surroundings words).1 (run surroundings words).2.effects := by
  have plain := noColor_of_consoleFor surroundings switches noColor console starts
  obtain ⟨result, after, leads, exitCode, touches, logged⟩ :=
    concludeAccident_leads surroundings (.ok console)
      (fun _ same => Except.ok.inj same ▸ plain) accident { storage := storage }
  obtain ⟨rfl, rfl⟩ := run_of_leads surroundings switches choices words asks console starts
    (runGuarded_broken surroundings console (.generate choices) breaks leads)
  exact ⟨exitCode, touches.after_grows grows, logged⟩

/-- An accident in a stage ends the run before it has an effect. -/
theorem run_stageBroken
    (accident : Accident)
    (fails : attempt surroundings switches choices = .error (.accident accident)) :
    EndsInAccident surroundings accident (noEffects surroundings)
      (run surroundings words).1 (run surroundings words).2.effects := by
  cases starts : consoleFor surroundings switches with
  | error problem =>
      rw [attempt, starts] at fails
      obtain rfl : problem = accident := by
        simpa [Except.mapError, bind, Except.bind] using fails
      exact run_unstarted surroundings words switches _ asks problem starts
  | ok console =>
      rw [attempt_eq_stages surroundings switches choices console starts] at fails
      have plain := noColor_of_consoleFor surroundings switches noColor console starts
      exact run_broken surroundings switches choices words asks noColor console starts accident
        surroundings.storage (.refl _)
        (generate_broken surroundings console choices plain accident fails _)

/-- An accident in the delivery of a draft ends the run as one in a stage. -/
theorem run_undelivered
    (draft : Draft)
    (made : attempt surroundings switches choices = .ok draft)
    (accident : Accident)
    (breaks : draft.DeliveryBreaks surroundings.storage choices.toStandardOutput accident) :
    EndsInAccident surroundings accident (noEffects surroundings)
      (run surroundings words).1 (run surroundings words).2.effects := by
  obtain ⟨console, starts, stagesMake⟩ :=
    exists_console_of_attempt surroundings switches choices made nofun
  have plain := noColor_of_consoleFor surroundings switches noColor console starts
  obtain ⟨storage, grows, undelivered⟩ :=
    exists_undelivered surroundings console draft choices.toStandardOutput accident breaks
  exact run_broken surroundings switches choices words asks noColor console starts accident
    storage grows (generate_undelivered surroundings console choices plain draft stagesMake
      (noEffects surroundings) _ accident undelivered)

end

/-- Every run that is asked to generate the module without colours ends in that way. -/
theorem generate_outcome
    (surroundings : Surroundings)
    (options : List String)
    (switches : ConsoleSwitches)
    (choices : GenerateChoices)
    (asks : Invocation.ofWords ("--no-color" :: "generate" :: options) =
      .ok (.run switches (.generate choices))) :
    GenerateOutcome surroundings switches choices
      (run surroundings ("--no-color" :: "generate" :: options)).1
      (run surroundings ("--no-color" :: "generate" :: options)).2.effects := by
  have noColor : switches.noColor = true := by
    rw [switches_eq_of_asks options switches _ asks]
  constructor
  · intro failure fails
    obtain ⟨hasResult, hasEffects⟩ :=
      run_reported surroundings switches choices _ asks noColor failure fails
    rw [hasResult, hasEffects]
    exact ⟨rfl, rfl, rfl⟩
  · intro draft made delivers
    have hasResult : (run surroundings ("--no-color" :: "generate" :: options)).1 =
        .ok draft.exitCode := by
      cases destination : choices.toStandardOutput with
      | true =>
          rw [destination] at delivers
          cases delivers with
          | printed encodable =>
              exact (run_printed surroundings switches choices _ asks noColor draft made
                destination encodable).1
      | false =>
          rw [destination] at delivers
          cases delivers with
          | written writes =>
              exact (run_written surroundings switches choices _ asks noColor draft made
                destination _ _ writes).1
    rw [hasResult, exitCodeOf, Delivery.exitCode]
    cases draft.failures.isEmpty <;> cases draft.problems.isEmpty <;> rfl
  · intro draft made toStandardOutput encodable
    rw [(run_printed surroundings switches choices _ asks noColor draft made
      toStandardOutput encodable).2]
    exact ⟨rfl, rfl⟩
  · intro draft made toFile storage path writes
    rw [(run_written surroundings switches choices _ asks noColor draft made toFile storage path
      writes).2]
    have changes := surroundings.storage.write_changes draft.path draft.text
    rw [writes] at changes
    cases changes with
    | written _ holds => exact ⟨rfl, holds⟩
  · intro draft made unlinted
    obtain ⟨console, -, stagesMake⟩ :=
      exists_console_of_attempt surroundings switches choices made nofun
    exact printed_eq_written_of_unlinted surroundings choices draft stagesMake unlinted
  · rintro accident (fails | ⟨draft, made, breaks⟩)
    · exact run_stageBroken surroundings switches choices _ asks noColor accident fails
    · exact run_undelivered surroundings switches choices _ asks noColor draft made accident breaks

end

/-! ## A run of each kind -/

/-- An enum without members. -/
def enumCharacters (name : String) : List Char :=
  "\x7b\"enumType\": \"".toList ++ name.toList ++ "\", \"enumIdentifiers\": []\x7d".toList

/-- A document with the enums that a module needs, and with these events. -/
def documentCharacters (events : String) : List Char :=
  "\x7b\"enums\": [".toList ++ enumCharacters "WebSocketOpCode" ++ ", ".toList ++
    enumCharacters "EventSubscription" ++ ", ".toList ++
    enumCharacters "RequestBatchExecutionType" ++ "], \"events\": [".toList ++ events.toList ++
    "]\x7d".toList

/-- That document on standard input. -/
def inputOf (events : String) (linter : LinterOutcome) : Surroundings :=
  { standardInput := String.ofList (documentCharacters events), linter := linter }

/-- An event with a field of an unknown type. -/
def brokenEvent : String :=
  "\x7b\"eventType\": \"A\", \"dataFields\": [\x7b\"valueName\":\"b\",\"valueType\":\"C\"\x7d]\x7d"

/-- An event whose name is a surrogate. -/
def surrogateEvent : String := "\x7b\"eventType\": \"\\ud800\"\x7d"

/-- A linter's report with another text and one problem. -/
def problemReport : String := "[\x7b\"output\": \"a;\", \"messages\": [\x7b\x7d]\x7d]"

/-- Whether the texts of a protocol's module can be encoded, and whether all entities are in
the module. -/
def overview (mode : GenerationMode) (protocol : Protocol) : Option (Bool × Bool) :=
  (protocol.moduleParts mode false).toOption.map fun parts =>
    (parts.ownTexts.all Text.isEncodable, (Interface.reported mode protocol.allEntities).isEmpty)

/-- A document with these events is read as a protocol of that overview. -/
def ReadsAs (mode : GenerationMode) (events : String) (encodes complete : Bool) : Prop :=
  ((Json.readWhole (documentCharacters events)).toOption.bind fun value =>
    (Protocol.ofValue value).toOption.map fun extraction =>
      overview mode extraction.protocol) = some (some (encodes, complete))

instance (mode : GenerationMode) (events : String) (encodes complete : Bool) :
    Decidable (ReadsAs mode events encodes complete) :=
  inferInstanceAs (Decidable (_ = _))

/-- What is left of a run with such a document is the lint pass. -/
theorem exists_attempt_eq
    (events : String)
    (linter : LinterOutcome)
    (choices : GenerateChoices)
    (fromInput : choices.source = some "-")
    {settings : Settings}
    (settles : choices.settingsChoice.apply .standard = settings)
    (noOverloads : settings.overloads = false)
    {encodes complete : Bool}
    (reads : ReadsAs (modeOf settings) events encodes complete) :
    ∃ source failures, Text.isEncodable source = encodes ∧ failures.isEmpty = complete ∧
      ∀ linted, Linter.lint settings.lint source linter = linted →
        attempt (inputOf events linter) { noColor := true } choices = (do
          let result ← linted.mapError (Interruption.map LintFault.report)
          let text ← lintedText result
          return {
            settings := settings
            failures := failures
            problems := result.problems
            text := text }) := by
  obtain ⟨protocol, loads, seen⟩ :=
    exists_extracted_of_input rfl reads (inputOf events linter) rfl settings
  obtain ⟨parts, makes, seen⟩ := Option.map_eq_some_iff.mp seen
  obtain ⟨isEncodes, isComplete⟩ := Prod.mk.inj seen
  refine ⟨parts.source, _, parts.isEncodable_source.trans isEncodes, isComplete, ?_⟩
  have isOrigin : Origin.ofText? choices.source = .standardInput := by
    rw [fromInput]
    rfl
  have resolves : Settings.resolve (inputOf events linter).storage
      (inputOf events linter).environment choices.settingsChoice = .ok settings :=
    congrArg Except.ok settles
  rintro linted rfl
  change stages (inputOf events linter) choices = _
  exact stages_of_parts _ _ resolves (isOrigin ▸ loads) (noOverloads ▸ eq_ok_of_toOption makes)

/-- With the linter on, a module without surrogates is what the report says. -/
theorem lint_problemReport
    (settings : LintSettings)
    (enabled : settings.enabled = true)
    (source : String)
    (encodable : Text.isEncodable source = true) :
    ∃ problem, Linter.lint settings source (.finished 1 problemReport "") =
      .ok { output := .str "a;", problems := [problem] } := by
  have reads : Json.read problemReport =
      .ok (.list [.map [(.str "output", .str "a;"), (.str "messages", .list [.map []])]]) := by
    simp [problemReport, Json.read, Json.readWhole, Json.readValue, Json.readEntries,
      Json.readItems, Json.readString, Json.skipBlanks, Json.isBlank, Value.setEntry, Except.map,
      bind, Except.bind, Except.mapError]
  have present : problemReport.isEmpty = false := by decide +kernel
  have taken : Linter.resultOfTaken settings source (.finished 1 problemReport "") =
      Linter.resultOfOutput source problemReport := by
    rw [Linter.resultOfTaken]
    exact if_pos rfl
  rw [Linter.lint, if_pos enabled, Linter.resultOf, encodable, if_neg (by decide), taken,
    Linter.resultOfOutput, present, if_neg Bool.false_ne_true, reads]
  exact ⟨_, rfl⟩

/-- The words of a run that makes a module of standard input. -/
def wordsFor (options : List String) : List String :=
  "--no-color" :: "generate" :: "--source" :: "-" :: options

/-- That run has the exit code, has printed the output, and leaves the storage. -/
structure EndsWith
    (surroundings : Surroundings)
    (options : List String)
    (exitCode : Int)
    (output : String)
    (storage : Storage) : Prop where
  exitCode : exitCodeOf (run surroundings (wordsFor options)).1 = exitCode
  output : (run surroundings (wordsFor options)).2.effects.standardOutput = output
  storage : (run surroundings (wordsFor options)).2.effects.storage = storage

/-- That run breaks off in the accident. -/
def BreaksOff (surroundings : Surroundings) (options : List String) (accident : Accident) : Prop :=
  EndsInAccident surroundings accident (noEffects surroundings)
    (run surroundings (wordsFor options)).1 (run surroundings (wordsFor options)).2.effects

/-- Runs print a module and write one, leave an event out and problems in, report a failure,
and break off in a stage, in printing and in writing. -/
theorem generate_in_each_way :
    (∃ text, EndsWith (inputOf "" .missing) ["--stdout"] 0 (text ++ "\n") {}) ∧
      (∃ text, EndsWith (inputOf brokenEvent .missing) ["--stdout", "--keep-going"] 8
        (text ++ "\n") {}) ∧
      (∃ storage, EndsWith (inputOf "" (.finished 1 problemReport "")) ["--lint"] 9 "" storage ∧
        Storage.Holds {} storage (FilePath.ofText "src/types.ts") "a;\n".toUTF8) ∧
      EndsWith {} [] 7 "" {} ∧
      BreaksOff (inputOf "" .garbled) ["--lint"] .badEncoding ∧
      BreaksOff (inputOf surrogateEvent .missing) ["--stdout"] .unencodable ∧
      BreaksOff (inputOf surrogateEvent .missing) [] .unencodable := by
  have whole : ReadsAs .strict "" true true := by decide +kernel
  have broken : ReadsAs .keepGoing brokenEvent true false := by decide +kernel
  have surrogate : ReadsAs .strict surrogateEvent false true := by decide +kernel
  obtain ⟨after, writes⟩ : ∃ after, ({} : Storage).write (FilePath.ofText "src/types.ts") "a;" =
      (after, .ok (FilePath.ofText "src/types.ts")) := by
    have succeeds : (({} : Storage).write (FilePath.ofText "src/types.ts") "a;").2 =
        .ok (FilePath.ofText "src/types.ts") := by
      decide +kernel
    exact ⟨_, Prod.ext rfl succeeds⟩
  refine ⟨?printed, ?kept, ?written, ?reported, ?broken, ?unprinted, ?unwritten⟩
  case printed =>
    obtain ⟨source, failures, encodable, complete, made⟩ := exists_attempt_eq "" .missing
      { source := some "-", toStandardOutput := true } rfl rfl rfl whole
    have outcome := generate_outcome (inputOf "" .missing) ["--source", "-", "--stdout"]
      { noColor := true } { source := some "-", toStandardOutput := true } rfl
    have exitCode := outcome.delivered _ (made _ rfl) (.printed encodable)
    have prints := outcome.printed _ (made _ rfl) rfl encodable
    exact ⟨_, exitCode.trans (if_pos complete), prints.1, prints.2⟩
  case kept =>
    obtain ⟨source, failures, encodable, incomplete, made⟩ := exists_attempt_eq brokenEvent
      .missing { source := some "-", toStandardOutput := true, keepGoing := true }
      rfl rfl rfl broken
    have outcome := generate_outcome (inputOf brokenEvent .missing)
      ["--source", "-", "--stdout", "--keep-going"] { noColor := true }
      { source := some "-", toStandardOutput := true, keepGoing := true } rfl
    have exitCode := outcome.delivered _ (made _ rfl) (.printed encodable)
    have prints := outcome.printed _ (made _ rfl) rfl encodable
    exact ⟨_, exitCode.trans (if_neg (by simp [incomplete])), prints.1, prints.2⟩
  case written =>
    obtain ⟨source, failures, encodable, complete, made⟩ := exists_attempt_eq ""
      (.finished 1 problemReport "") { source := some "-", lint := some true } rfl rfl rfl whole
    obtain ⟨problem, lints⟩ := lint_problemReport { LintSettings.standard with enabled := true }
      rfl source encodable
    have outcome := generate_outcome (inputOf "" (.finished 1 problemReport ""))
      ["--source", "-", "--lint"] { noColor := true } { source := some "-", lint := some true } rfl
    have exitCode := outcome.delivered _ (made _ lints) (.written writes)
    obtain ⟨silent, holds⟩ := outcome.written _ (made _ lints) rfl _ _ writes
    have ended : Storage.withFinalNewline "a;" = "a;\n" := by decide +kernel
    change Storage.Holds _ _ _ (Storage.withFinalNewline "a;").toUTF8 at holds
    rw [ended] at holds
    exact ⟨_, ⟨exitCode.trans (if_pos complete), silent, rfl⟩, holds⟩
  case reported =>
    have ends := (generate_outcome {} ["--source", "-"] { noColor := true }
      { source := some "-" } rfl).reported LoadFault.noInput.report rfl
    exact ⟨ends.1, ends.2.1, ends.2.2⟩
  case broken =>
    obtain ⟨source, failures, encodable, -, made⟩ := exists_attempt_eq "" .garbled
      { source := some "-", lint := some true } rfl rfl rfl whole
    have lints : Linter.lint { LintSettings.standard with enabled := true } source .garbled =
        .error (.accident .badEncoding) := by
      rw [Linter.lint, if_pos rfl, Linter.resultOf, encodable, if_neg (by decide)]
      rfl
    exact (generate_outcome (inputOf "" .garbled) ["--source", "-", "--lint"] { noColor := true }
      { source := some "-", lint := some true } rfl).broken _ (.inl (made _ lints))
  case unprinted =>
    obtain ⟨source, failures, notEncodable, -, made⟩ := exists_attempt_eq surrogateEvent .missing
      { source := some "-", toStandardOutput := true } rfl rfl rfl surrogate
    exact (generate_outcome (inputOf surrogateEvent .missing) ["--source", "-", "--stdout"]
      { noColor := true } { source := some "-", toStandardOutput := true } rfl).broken _
        (.inr ⟨_, made _ rfl, .printed notEncodable⟩)
  case unwritten =>
    obtain ⟨source, failures, notEncodable, -, made⟩ := exists_attempt_eq surrogateEvent .missing
      { source := some "-" } rfl rfl rfl surrogate
    obtain ⟨after, fails⟩ : ∃ after, ({} : Storage).write (FilePath.ofText "src/types.ts") source =
        (after, .error .unencodable) :=
      ⟨_, Prod.ext rfl (Storage.write_unencodable {} _ "a;" source (by rw [writes]; rfl)
        notEncodable)⟩
    exact (generate_outcome (inputOf surrogateEvent .missing) ["--source", "-"]
      { noColor := true } { source := some "-" } rfl).broken _
        (.inr ⟨_, made _ rfl, .written fails⟩)

end CommandLine
end ProtocolTypes
