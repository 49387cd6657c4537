import ProtocolTypes.CommandLine.Generate
import ProtocolTypes.Proofs.CommandLine.Effects
import ProtocolTypes.Proofs.Document.Routes
import ProtocolTypes.Proofs.Results
import ProtocolTypes.Proofs.TypeTree.Reading

/-!
# Making and delivering a module

The stages of making a module are quiet: what they come to does not depend on what the
session has told before (`draft_quiet`).  Where they end well, the module is printed or
written, and the exit code tells what they have left out.  A module that no linter has
touched ends in one newline, so that it is printed as it is written
(`printed_eq_written_of_unlinted`).
-/

namespace ProtocolTypes

/-- A module ends in the line that closes its last block. -/
theorem ModuleParts.exists_source_eq (parts : ModuleParts) :
    ∃ front, parts.source.toList = front ++ ['\x7d', '\n'] := by
  have isLast : (opening ++ enumLines parts.enums ++ MessageTypes.lines ++ interfacesLines parts ++
      overloadLines parts.overloads).getLast? = some "\x7d" := by
    unfold overloadLines interfacesLines interfaceLines
    split <;> simp
  obtain ⟨lines, isEnd⟩ := List.getLast?_eq_some_iff.mp isLast
  refine ⟨Text.ended lines, ?_⟩
  rw [source, isEnd, String.toList_append, Text.joinLines_append_singleton, List.append_assoc]
  rfl

namespace CommandLine

open Session

/-! ## The stages -/

/-- The text that a lint result has for the module, if it has one. -/
def lintedText (result : LintResult) : Except (Interruption Failure) String :=
  match result.output with
  | .str text => .ok text
  | _ => .error (.accident .missingMember)

theorem linted_quiet (result : LintResult) : Quiet (linted result) (lintedText result) := by
  unfold linted lintedText
  cases result.output with
  | str text => exact .pure text
  | _ => exact .throw _

variable [StandIns]

/-- The protocol that is loaded from an origin and extracted. -/
def extracted (surroundings : Surroundings) (origin : Origin) (settings : Settings) :
    Except (Interruption Failure) Protocol := do
  let entries ← (Document.load origin settings
    { storage := surroundings.storage
      standardInput := surroundings.standardInput
      replies := surroundings.replies }).result.mapError (Interruption.map LoadFault.report)
  let extraction ← (Protocol.ofValue (.map entries)).mapError (Interruption.map LoadFault.report)
  return extraction.protocol

/-- What a document on standard input is read as is what is extracted. -/
theorem exists_extracted_of_input
    {characters : List Char}
    (noMark : ['\uFEFF'].isPrefixOf characters = false)
    {α : Type}
    {view : Protocol → α}
    {seen : α}
    (reads : ((Json.readWhole characters).toOption.bind fun value =>
      (Protocol.ofValue value).toOption.map fun extraction => view extraction.protocol) =
        some seen)
    (surroundings : Surroundings)
    (isInput : surroundings.standardInput = String.ofList characters)
    (settings : Settings) :
    ∃ protocol, extracted surroundings .standardInput settings = .ok protocol ∧
      view protocol = seen := by
  obtain ⟨value, isValue, reads⟩ := Option.bind_eq_some_iff.mp reads
  obtain ⟨extraction, isExtraction, isSeen⟩ := Option.map_eq_some_iff.mp reads
  have extracts := eq_ok_of_toOption isExtraction
  have accepts : Json.read surroundings.standardInput = .ok value := by
    rw [Json.read, isInput, String.toList_ofList, if_neg (by simp [noMark]),
      eq_ok_of_toOption isValue]
    rfl
  obtain ⟨entries, rfl⟩ : ∃ entries, value = .map entries := by
    cases value with
    | map entries => exact ⟨entries, rfl⟩
    | _ => cases extracts
  let sources : DocumentSources :=
    { storage := surroundings.storage
      standardInput := surroundings.standardInput
      replies := surroundings.replies }
  have arrives : Document.Arrives surroundings.standardInput settings sources .standardInput :=
    .standardInput (.inl rfl)
  have loads := Document.result_of_arrives accepts arrives
  refine ⟨extraction.protocol, ?_, isSeen⟩
  rw [extracted, loads]
  change (do
    let found ← (Protocol.ofValue (.map entries)).mapError (Interruption.map LoadFault.report)
    return found.protocol) = _
  rw [extracts]
  rfl

/-- What the stages of making a module come to: the settings are resolved, the protocol is
loaded and extracted, its module generated, and the module linted. -/
def stages (surroundings : Surroundings) (choices : GenerateChoices) :
    Except (Interruption Failure) Draft := do
  let settings ← (Settings.resolve surroundings.storage surroundings.environment
    choices.settingsChoice).mapError (Interruption.map SettingsFault.report)
  let protocol ← extracted surroundings (Origin.ofText? choices.source) settings
  let generated ← (protocol.generate (modeOf settings) settings.overloads).mapError
    (Interruption.map SchemaFailure.report)
  let result ← (Linter.lint settings.lint generated.source surroundings.linter).mapError
    (Interruption.map LintFault.report)
  let text ← lintedText result
  return {
    settings := settings
    failures := generated.failures
    problems := result.problems
    text := text }

theorem protocol_quiet
    (surroundings : Surroundings)
    (console : Console)
    (origin : Origin)
    (settings : Settings) :
    Quiet (Session.protocol surroundings console origin settings)
      (extracted surroundings origin settings) := by
  unfold Session.protocol extracted
  refine Quiet.andThen (.modify _ fun _ => rfl) ?_
  refine (Quiet.note console _).andThen ?_
  refine (Quiet.orInterrupt _ _).bind fun entries => ?_
  refine (Quiet.orInterrupt _ _).bind fun extraction => ?_
  exact (Quiet.note console _).andThen (.pure extraction.protocol)

theorem lint_quiet
    (surroundings : Surroundings)
    (console : Console)
    (settings : Settings)
    (source : String) :
    Quiet (Session.lint surroundings console settings source)
      ((Linter.lint settings.lint source surroundings.linter).mapError
        (Interruption.map LintFault.report)) := by
  unfold Session.lint
  refine Quiet.andThen (.modify _ fun _ => rfl) ?_
  exact (Quiet.note console _).andThen (Quiet.orInterrupt _ _)

section

variable (surroundings : Surroundings) (console : Console) (choices : GenerateChoices)

/-- Up to its text a module is made quietly, as the stages say. -/
theorem draft_quiet (noColor : console.noColor = true) :
    Quiet (draft surroundings console choices) (stages surroundings choices) := by
  unfold draft stages
  refine (Quiet.orInterrupt _ _).bind fun settings => ?_
  refine (Quiet.say console noColor _ _).andThen ?_
  dsimp only
  refine (protocol_quiet surroundings console _ settings).bind fun protocol => ?_
  refine (Quiet.say console noColor _ _).andThen ?_
  refine (Quiet.note console _).andThen ?_
  refine (Quiet.orInterrupt _ _).bind fun generated => ?_
  refine (Quiet.forEach generated.failures _ fun failure =>
    Quiet.say console noColor _ _).andThen ?_
  refine (lint_quiet surroundings console settings generated.source).bind fun result => ?_
  exact (linted_quiet result).bind fun text => .pure _

/-- Where there are settings, a protocol and the parts of its module, the lint pass is left. -/
theorem stages_of_parts
    {settings : Settings}
    (resolves : Settings.resolve surroundings.storage surroundings.environment
      choices.settingsChoice = .ok settings)
    {protocol : Protocol}
    (loads : extracted surroundings (Origin.ofText? choices.source) settings = .ok protocol)
    {parts : ModuleParts}
    (makes : protocol.moduleParts (modeOf settings) settings.overloads = .ok parts) :
    stages surroundings choices = (do
      let result ← (Linter.lint settings.lint parts.source surroundings.linter).mapError
        (Interruption.map LintFault.report)
      let text ← lintedText result
      return {
        settings := settings
        failures := Interface.reported (modeOf settings) protocol.allEntities
        problems := result.problems
        text := text }) := by
  rw [stages, resolves]
  change (extracted _ _ settings >>= _) = _
  rw [loads]
  change ((protocol.generate (modeOf settings) settings.overloads).mapError _ >>= _) = _
  rw [Protocol.generate, makes]
  rfl

/-! ## Modules without a lint pass -/

/-- Without a lint pass the text of a draft is the source of its module. -/
theorem exists_source_of_unlinted
    (draft : Draft)
    (made : stages surroundings choices = .ok draft)
    (unlinted : draft.settings.lint.enabled = false) :
    ∃ parts : ModuleParts, draft.text = parts.source := by
  obtain ⟨settings, -, made⟩ := exists_of_bind_eq_ok made
  obtain ⟨protocol, -, made⟩ := exists_of_bind_eq_ok made
  obtain ⟨generated, hasGenerated, made⟩ := exists_of_bind_eq_ok made
  obtain ⟨result, hasResult, made⟩ := exists_of_bind_eq_ok made
  obtain ⟨text, hasText, made⟩ := exists_of_bind_eq_ok made
  obtain rfl := Except.ok.inj made
  have clean := eq_ok_of_mapError_eq_ok hasResult
  rw [Linter.lint, unlinted] at clean
  obtain rfl := Except.ok.inj clean
  obtain rfl : generated.source = text := Except.ok.inj hasText
  have hasParts := eq_ok_of_mapError_eq_ok hasGenerated
  unfold Protocol.generate at hasParts
  cases parts : protocol.moduleParts (modeOf settings) settings.overloads with
  | error cause => simp [parts, Except.map] at hasParts
  | ok found =>
      rw [parts] at hasParts
      obtain rfl := Except.ok.inj hasParts
      exact ⟨found, rfl⟩

/-- Without a lint pass a module is printed as it is written. -/
theorem printed_eq_written_of_unlinted
    (draft : Draft)
    (made : stages surroundings choices = .ok draft)
    (unlinted : draft.settings.lint.enabled = false) :
    Text.trimEndNewlines draft.text ++ "\n" = Storage.withFinalNewline draft.text := by
  obtain ⟨parts, isSource⟩ :=
    exists_source_of_unlinted surroundings choices draft made unlinted
  obtain ⟨front, isEnd⟩ := parts.exists_source_eq
  rw [← isSource] at isEnd
  have ends : draft.text.toList.getLast? = some '\n' := by simp [isEnd]
  rw [Storage.withFinalNewline, if_pos ends]
  apply String.toList_injective
  simp [Text.trimEndNewlines, Text.dropEndWhile, isEnd]

/-! ## The delivery -/

omit [StandIns] in
/-- The newlines that a text ends in are cut off and no other character is. -/
theorem exists_newlines_eq (text : String) :
    ∃ count, text = Text.trimEndNewlines text ++ String.ofList (List.replicate count '\n') := by
  let newlines := text.toList.reverse.takeWhile (· == '\n')
  have areNewlines : newlines = List.replicate newlines.length '\n' :=
    List.eq_replicate_of_mem fun character isThere => by
      simpa using List.mem_takeWhile_imp isThere
  refine ⟨newlines.length, String.toList_injective ?_⟩
  have whole : (newlines ++ text.toList.reverse.dropWhile (· == '\n')).reverse = text.toList := by
    rw [List.takeWhile_append_dropWhile, List.reverse_reverse]
  rw [List.reverse_append, areNewlines, List.reverse_replicate] at whole
  simpa [Text.trimEndNewlines, Text.dropEndWhile] using whole.symm

/-- What a source adds to standard output can be encoded exactly if the source can. -/
theorem isEncodable_source (text : String) :
    Text.isEncodable (Console.source text) = Text.isEncodable text := by
  obtain ⟨count, isText⟩ := exists_newlines_eq text
  have newlines : Text.isEncodable (String.ofList (List.replicate count '\n')) = true := by
    refine Text.isEncodable_of_forall_lt _ fun character isThere => ?_
    rw [String.toList_ofList] at isThere
    obtain rfl := List.eq_of_mem_replicate isThere
    decide
  have newline : Text.isEncodable "\n" = true :=
    Text.isEncodable_of_forall_lt _ (by simp)
  have sameText := congrArg Text.isEncodable isText
  rw [Text.isEncodable_append, newlines, Bool.and_true] at sameText
  rw [Console.source, Console.data, Text.isEncodable_append, newline, Bool.and_true, sameText]

theorem tell_quiet (noColor : console.noColor = true) (delivery : Delivery) :
    Quiet (delivery.tell console) (.ok delivery.exitCode) := by
  have skipped : Quiet (do
      if !delivery.failures.isEmpty then
        Session.say console .error (Delivery.skippedText delivery.failures.length)
      return delivery.exitCode) (.ok delivery.exitCode) := by
    dsimp only
    split
    · exact (Quiet.say console noColor _ _).andThen (.pure _)
    · exact .pure _
  unfold Delivery.tell
  dsimp only
  split
  · exact (Quiet.say console noColor _ _).andThen skipped
  · exact skipped

/-- A module that is delivered ends the command with the exit code of its delivery. -/
theorem generate_delivered
    (noColor : console.noColor = true)
    (draft : Draft)
    (made : stages surroundings choices = .ok draft)
    (before after : Effects)
    (delivered : Leads (deliver console draft.settings choices.toStandardOutput draft.text)
      before (.ok ()) after) :
    Leads (generate surroundings console choices) before (.ok draft.exitCode) after := by
  have drafted := draft_quiet surroundings console choices noColor before
  rw [made] at drafted
  have whole : Leads (make surroundings console choices) before (.ok draft.toDelivery) after := by
    unfold make
    exact drafted.bind (delivered.bind (.pure draft.toDelivery after))
  exact whole.conclude console (tell_quiet console noColor draft.toDelivery after)

theorem deliver_printed
    (settings : Settings)
    (text : String)
    (encodable : Text.isEncodable text = true)
    (effects : Effects) :
    Leads (deliver console settings true text) effects (.ok ())
      { effects with standardOutput := effects.standardOutput ++ Console.source text } := by
  rw [deliver, if_pos rfl]
  exact .print _ ((isEncodable_source text).trans encodable) effects

theorem deliver_unprinted
    (settings : Settings)
    (text : String)
    (notEncodable : Text.isEncodable text = false) :
    Quiet (deliver console settings true text) (.error (.accident .unencodable)) := by
  rw [deliver, if_pos rfl]
  exact .print_unencodable _ ((isEncodable_source text).trans notEncodable)

theorem deliver_written
    (noColor : console.noColor = true)
    (settings : Settings)
    (text : String)
    (effects : Effects)
    (storage : Storage)
    (path : FilePath)
    (writes : effects.storage.write (FilePath.ofText settings.outputFile) text =
      (storage, .ok path)) :
    Leads (deliver console settings false text) effects (.ok ())
      { effects with storage := storage } := by
  have written := Leads.write (FilePath.ofText settings.outputFile) text effects
  rw [writes] at written
  exact written.bind (Quiet.say console noColor _ _ _)

theorem deliver_unwritten
    (settings : Settings)
    (text : String)
    (effects : Effects)
    (storage : Storage)
    (accident : Accident)
    (fails : effects.storage.write (FilePath.ofText settings.outputFile) text =
      (storage, .error accident)) :
    Leads (deliver console settings false text) effects (.error (.accident accident))
      { effects with storage := storage } := by
  have written := Leads.write (FilePath.ofText settings.outputFile) text effects
  rw [fails] at written
  exact written.bind_error _

/-- Where the module cannot be delivered, the accident ends the command. -/
theorem generate_undelivered
    (noColor : console.noColor = true)
    (draft : Draft)
    (made : stages surroundings choices = .ok draft)
    (before after : Effects)
    (accident : Accident)
    (fails : Leads (deliver console draft.settings choices.toStandardOutput draft.text)
      before (.error (.accident accident)) after) :
    Leads (generate surroundings console choices) before (.error (.accident accident)) after := by
  have drafted := draft_quiet surroundings console choices noColor before
  rw [made] at drafted
  have whole : Leads (make surroundings console choices) before (.error (.accident accident))
      after := by
    unfold make
    exact drafted.bind (fails.bind_error _)
  exact whole.conclude_accident console _

/-- A failure that a stage reports is shown, and ends the command with its exit code. -/
theorem generate_reported
    (noColor : console.noColor = true)
    (failure : Failure)
    (fails : stages surroundings choices = .error (.reported failure)) :
    Quiet (generate surroundings console choices) (.ok failure.exitCode) := by
  intro effects
  have drafted := draft_quiet surroundings console choices noColor effects
  rw [fails] at drafted
  exact (drafted.bind_error _).conclude_reported console noColor _

/-- An accident in a stage ends the command. -/
theorem generate_broken
    (noColor : console.noColor = true)
    (accident : Accident)
    (fails : stages surroundings choices = .error (.accident accident)) :
    Quiet (generate surroundings console choices) (.error (.accident accident)) := by
  intro effects
  have drafted := draft_quiet surroundings console choices noColor effects
  rw [fails] at drafted
  exact (drafted.bind_error _).conclude_accident console _

end

end CommandLine
end ProtocolTypes
