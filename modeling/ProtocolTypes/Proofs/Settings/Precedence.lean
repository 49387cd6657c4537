import Mathlib.Data.Option.Basic
import Mathlib.Tactic.MkIffOfInductiveProp
import ProtocolTypes.Proofs.Document.Routes
import ProtocolTypes.Proofs.Validation.Edit
import ProtocolTypes.Settings.Resolve

/-!
# The precedence of settings

Each field of the settings is what the command line asks for, else what the environment gives,
else what the project file has under its key, else its default, whatever the other fields are.
There are no settings exactly where a field of the project file is refused that the environment
gives nothing for; what the command line asks for has no part in that.  An integer with too many
digits, anywhere in the project file, is an accident that nothing stands above.
-/

namespace ProtocolTypes

namespace Checked

variable {α β : Type}

theorem map_eq_valid_iff {change : α → β} {check : Checked α} {result : β} :
    change <$> check = valid result ↔ ∃ value, check = valid value ∧ change value = result := by
  cases check with
  | valid value =>
      change valid (change value) = valid result ↔ _
      simp
  | invalid issues =>
      change invalid issues = valid result ↔ _
      simp

/-- Checks in a row accept exactly if each of them does. -/
theorem seq_eq_valid_iff {changes : Checked (α → β)} {check : Checked α} {result : β} :
    changes <*> check = valid result ↔
      ∃ change value, changes = valid change ∧ check = valid value ∧ change value = result := by
  change apply changes check = valid result ↔ _
  cases changes <;> cases check <;> simp [apply]

end Checked

namespace Value

/-- An entry that is set is there, and the others are as they were. -/
theorem entry?_setEntry (key other : String) (value : Value) (entries : List (Value × Value)) :
    entry? key (setEntry other value entries) =
      if other = key then some value else entry? key entries := by
  induction entries with
  | nil => simp [setEntry, entry?]
  | cons entry rest inductionHypothesis =>
      obtain ⟨present, old⟩ := entry
      cases present with
      | str name =>
          by_cases same : name = other
          · subst same
            by_cases here : name = key <;> simp [setEntry, entry?, here]
          · by_cases here : name = key
            · subst here
              simp [setEntry, entry?, same, Ne.symm same]
            · simp [setEntry, entry?, same, here, inductionHypothesis]
      | _ => simpa [setEntry, entry?] using inductionHypothesis

end Value

namespace Record

variable {α : Type}

/-- The value of a field, if it is given and its rule accepts it. -/
def accepted? (entries : List (Value × Value)) (key : String) (rule : Rule α) : Option α :=
  match (Value.entry? key entries).map rule with
  | some (.valid value) => some value
  | _ => none

/-- A field is given, and its rule refuses it. -/
def Refuses (entries : List (Value × Value)) (key : String) (rule : Rule α) : Prop :=
  ∃ value issues, Value.entry? key entries = some value ∧ rule value = .invalid issues

/-- A field is accepted unless it is refused; where it is not given, it is its default. -/
theorem withDefault_eq_valid_iff
    (entries : List (Value × Value))
    (key : String)
    (rule : Rule α)
    (default value : α) :
    withDefault entries (.same key) rule default = .valid value ↔
      ¬Refuses entries key rule ∧ (accepted? entries key rule).getD default = value := by
  cases given : Value.entry? key entries with
  | none => simp [withDefault, FieldKey.given?, FieldKey.same, Refuses, accepted?, given]
  | some found =>
      cases check : rule found <;>
        simp [withDefault, FieldKey.given?, FieldKey.same, Refuses, accepted?, given, check,
          Checked.under]

end Record

namespace LintSettings

/-- A field of the linter's settings is refused. -/
inductive Unfit (entries : Document.Entries) : Prop
  | enabled (refuses : Record.Refuses entries "enabled" Rule.boolean)
  | command (refuses : Record.Refuses entries "command" (Rule.listOf Rule.text))
  | timeout (refuses : Record.Refuses entries "timeout" Rule.integer)

/-- The linter's settings where each field is what is given, else its default. -/
def given (entries : Document.Entries) : LintSettings where
  enabled := (Record.accepted? entries "enabled" Rule.boolean).getD standard.enabled
  command := (Record.accepted? entries "command" (Rule.listOf Rule.text)).getD standard.command
  timeout := (Record.accepted? entries "timeout" Rule.integer).getD standard.timeout

theorem rule_map_eq_valid_iff (entries : Document.Entries) (settings : LintSettings) :
    rule (.map entries) = .valid settings ↔ ¬Unfit entries ∧ given entries = settings := by
  simp only [rule, Record.rule, Checked.seq_eq_valid_iff, Checked.map_eq_valid_iff,
    Record.withDefault_eq_valid_iff]
  constructor
  · rintro ⟨_, _, ⟨_, _, ⟨_, ⟨enabled, rfl⟩, rfl⟩, ⟨command, rfl⟩, rfl⟩, ⟨timeout, rfl⟩, rfl⟩
    refine ⟨fun unfit => ?_, rfl⟩
    cases unfit with
    | enabled refuses => exact enabled refuses
    | command refuses => exact command refuses
    | timeout refuses => exact timeout refuses
  · rintro ⟨fit, rfl⟩
    exact ⟨_, _, ⟨_, _, ⟨_, ⟨fit ∘ .enabled, rfl⟩, rfl⟩, ⟨fit ∘ .command, rfl⟩, rfl⟩,
      ⟨fit ∘ .timeout, rfl⟩, rfl⟩

/-- Where nothing is given, nothing is refused. -/
theorem not_unfit_nil : ¬Unfit [] := by
  intro unfit
  cases unfit with
  | _ refuses =>
      obtain ⟨value, issues, isGiven, refused⟩ := refuses
      cases isGiven

end LintSettings

namespace Settings

/-- The entries of the linter's settings; none where they are not given. -/
def lintEntries (entries : Document.Entries) : Document.Entries :=
  match Value.entry? "lint" entries with
  | some (.map inner) => inner
  | _ => []

/-- A field of the settings, or one of the linter's, is refused. -/
@[mk_iff]
inductive Unfit (entries : Document.Entries) : Prop
  | commit (refuses : Record.Refuses entries commitKey Rule.text)
  | repository (refuses : Record.Refuses entries "repository" Rule.text)
  | token (refuses : Record.Refuses entries tokenKey (Rule.optional Rule.text))
  | outputFile (refuses : Record.Refuses entries outputKey Rule.text)
  | timeout (refuses : Record.Refuses entries "timeout" Rule.number)
  | strict (refuses : Record.Refuses entries "strict" Rule.boolean)
  | overloads (refuses : Record.Refuses entries "overrides" Rule.boolean)
  | lintForm
      (value : Value)
      (isGiven : Value.entry? "lint" entries = some value)
      (noMap : ∀ inner, value ≠ .map inner)
  | lint (unfit : LintSettings.Unfit (lintEntries entries))

/-- The settings where each field is what is given, else its default. -/
def given (entries : Document.Entries) : Settings where
  commit := (Record.accepted? entries commitKey Rule.text).getD standard.commit
  repository := (Record.accepted? entries "repository" Rule.text).getD standard.repository
  token := (Record.accepted? entries tokenKey (Rule.optional Rule.text)).getD standard.token
  outputFile := (Record.accepted? entries outputKey Rule.text).getD standard.outputFile
  timeout := (Record.accepted? entries "timeout" Rule.number).getD standard.timeout
  strict := (Record.accepted? entries "strict" Rule.boolean).getD standard.strict
  overloads := (Record.accepted? entries "overrides" Rule.boolean).getD standard.overloads
  lint := LintSettings.given (lintEntries entries)

/-- The entry of the linter's settings is accepted where it is not given, or a map whose
fields are accepted; what it stands for is then given by those fields. -/
theorem lint_accepted_iff (entries : Document.Entries) (settings : LintSettings) :
    ¬Record.Refuses entries "lint" LintSettings.rule ∧
        (Record.accepted? entries "lint" LintSettings.rule).getD standard.lint = settings ↔
      (∀ value, Value.entry? "lint" entries = some value → ∃ inner, value = .map inner) ∧
        ¬LintSettings.Unfit (lintEntries entries) ∧
        LintSettings.given (lintEntries entries) = settings := by
  rw [← Record.withDefault_eq_valid_iff, ← LintSettings.rule_map_eq_valid_iff]
  cases isGiven : Value.entry? "lint" entries with
  | none =>
      have absent : standard.lint = LintSettings.given [] := rfl
      simp [Record.withDefault, FieldKey.given?, FieldKey.same, lintEntries, isGiven,
        LintSettings.rule_map_eq_valid_iff, LintSettings.not_unfit_nil, absent]
  | some value =>
      cases value with
      | map inner =>
          cases check : LintSettings.rule (.map inner) <;>
            simp [Record.withDefault, FieldKey.given?, FieldKey.same, lintEntries, isGiven, check,
              Checked.under]
      | _ =>
          simp [Record.withDefault, FieldKey.given?, FieldKey.same, isGiven, LintSettings.rule,
            Record.rule, Checked.under, Checked.refuse]

theorem rule_map_eq_valid_iff (entries : Document.Entries) (settings : Settings) :
    rule (.map entries) = .valid settings ↔ ¬Unfit entries ∧ given entries = settings := by
  simp only [rule, Record.rule, Checked.seq_eq_valid_iff, Checked.map_eq_valid_iff,
    Record.withDefault_eq_valid_iff, lint_accepted_iff]
  constructor
  · rintro ⟨_, _, ⟨_, _, ⟨_, _, ⟨_, _, ⟨_, _, ⟨_, _, ⟨_, _, ⟨_, ⟨commit, rfl⟩, rfl⟩,
      ⟨repository, rfl⟩, rfl⟩, ⟨token, rfl⟩, rfl⟩, ⟨outputFile, rfl⟩, rfl⟩, ⟨timeout, rfl⟩, rfl⟩,
      ⟨strict, rfl⟩, rfl⟩, ⟨overloads, rfl⟩, rfl⟩, ⟨isMap, lint, rfl⟩, rfl⟩
    refine ⟨fun unfit => ?_, rfl⟩
    cases unfit with
    | commit refuses => exact commit refuses
    | repository refuses => exact repository refuses
    | token refuses => exact token refuses
    | outputFile refuses => exact outputFile refuses
    | timeout refuses => exact timeout refuses
    | strict refuses => exact strict refuses
    | overloads refuses => exact overloads refuses
    | lintForm value isGiven noMap =>
        obtain ⟨inner, same⟩ := isMap value isGiven
        exact noMap inner same
    | lint unfit => exact lint unfit
  · rintro ⟨fit, rfl⟩
    have isMap (value : Value) (isGiven : Value.entry? "lint" entries = some value) :
        ∃ inner, value = .map inner := by
      by_contra noMap
      exact fit (.lintForm value isGiven fun inner same => noMap ⟨inner, same⟩)
    exact ⟨_, _, ⟨_, _, ⟨_, _, ⟨_, _, ⟨_, _, ⟨_, _, ⟨_, _, ⟨_, ⟨fit ∘ .commit, rfl⟩, rfl⟩,
      ⟨fit ∘ .repository, rfl⟩, rfl⟩, ⟨fit ∘ .token, rfl⟩, rfl⟩, ⟨fit ∘ .outputFile, rfl⟩, rfl⟩,
      ⟨fit ∘ .timeout, rfl⟩, rfl⟩, ⟨fit ∘ .strict, rfl⟩, rfl⟩, ⟨fit ∘ .overloads, rfl⟩, rfl⟩,
      ⟨isMap, fit ∘ .lint, rfl⟩, rfl⟩

section Environment

variable (environment : Environment) (entries : Document.Entries)

/-- The text that the environment gives for an entry; a commit may be named by nothing. -/
def overriding? (key : String) : Option String :=
  if key = commitKey then environment.value? "GH_COMMIT"
  else if key = tokenKey then (environment.value? "GH_TOKEN").filter (· ≠ "")
  else if key = outputKey then (environment.value? "OBSGEN_OUTPUT").filter (· ≠ "")
  else none

/-- The entries of the project file but for those that the environment gives. -/
def remaining : Document.Entries :=
  entries.filter fun
    | (.str key, _) => (overriding? environment key).isNone
    | _ => true

/-- What remains are the entries that the environment gives nothing for. -/
theorem entry?_remaining (key : String) :
    Value.entry? key (remaining environment entries) =
      if (overriding? environment key).isSome then none else Value.entry? key entries := by
  induction entries with
  | nil => simp [remaining, Value.entry?]
  | cons entry rest inductionHypothesis =>
      obtain ⟨present, value⟩ := entry
      rw [remaining] at inductionHypothesis ⊢
      cases present with
      | str name =>
          by_cases here : name = key
          · subst here
            cases given : overriding? environment name <;>
              simp_all [Value.entry?]
          · cases given : overriding? environment name <;>
              simp [Value.entry?, given, here, inductionHypothesis]
      | _ => simpa [Value.entry?] using inductionHypothesis

/-- Each entry is what the environment gives for it, else what the project file has. -/
theorem entry?_withEnvironment (key : String) :
    Value.entry? key (withEnvironment environment entries) =
      ((overriding? environment key).map Value.str).or (Value.entry? key entries) := by
  have distinct : commitKey ≠ tokenKey ∧ commitKey ≠ outputKey ∧ tokenKey ≠ outputKey := by
    decide
  obtain ⟨commitToken, commitOutput, tokenOutput⟩ := distinct
  rw [withEnvironment, environmentEntries, overriding?, ← environment.nonempty?_eq_filter,
    ← environment.nonempty?_eq_filter]
  cases environment.value? "GH_COMMIT" <;> cases environment.nonempty? "GH_TOKEN" <;>
    cases environment.nonempty? "OBSGEN_OUTPUT" <;>
    simp only [List.nil_append, List.append_nil, List.cons_append, List.foldl_nil, List.foldl_cons,
      Value.entry?_setEntry] <;>
    grind

variable {α : Type} {rule : Rule α} {key : String}

/-- What the environment gives is never refused, if the rule of the field accepts texts. -/
theorem refuses_withEnvironment_iff
    (accepts : ∀ text, overriding? environment key = some text →
      ∃ value, rule (.str text) = .valid value) :
    Record.Refuses (withEnvironment environment entries) key rule ↔
      Record.Refuses (remaining environment entries) key rule := by
  rw [Record.Refuses, Record.Refuses, entry?_withEnvironment, entry?_remaining]
  cases given : overriding? environment key with
  | none => simp
  | some text =>
      obtain ⟨value, accepted⟩ := accepts text given
      simp [accepted]

/-- A field whose rule accepts all texts is what the environment gives, else as it was. -/
theorem accepted?_withEnvironment
    (read : String → α)
    (accepts : ∀ text, rule (.str text) = .valid (read text)) :
    Record.accepted? (withEnvironment environment entries) key rule =
      ((overriding? environment key).map read).or (Record.accepted? entries key rule) := by
  rw [Record.accepted?, Record.accepted?, entry?_withEnvironment]
  cases overriding? environment key with
  | none => simp
  | some text => simp [accepts]

/-- The keys of the entries that the environment may give. -/
def environmentKeys : List String := [commitKey, tokenKey, outputKey]

/-- The environment gives nothing for other keys than its own. -/
theorem overriding?_of_notMem (isOwn : key ∉ environmentKeys) :
    overriding? environment key = none := by
  simp only [environmentKeys, List.mem_cons, List.not_mem_nil, or_false, not_or] at isOwn
  simp [overriding?, isOwn]

theorem entry?_withEnvironment_of_notMem (isOwn : key ∉ environmentKeys) :
    Value.entry? key (withEnvironment environment entries) = Value.entry? key entries := by
  rw [entry?_withEnvironment, overriding?_of_notMem environment isOwn]
  rfl

theorem entry?_remaining_of_notMem (isOwn : key ∉ environmentKeys) :
    Value.entry? key (remaining environment entries) = Value.entry? key entries := by
  rw [entry?_remaining, overriding?_of_notMem environment isOwn]
  rfl

theorem accepted?_withEnvironment_of_notMem (isOwn : key ∉ environmentKeys) :
    Record.accepted? (withEnvironment environment entries) key rule =
      Record.accepted? entries key rule := by
  rw [Record.accepted?, Record.accepted?, entry?_withEnvironment_of_notMem _ _ isOwn]

theorem lintEntries_withEnvironment :
    lintEntries (withEnvironment environment entries) = lintEntries entries := by
  rw [lintEntries, lintEntries, entry?_withEnvironment_of_notMem _ _ (by decide)]

/-- The entries as they are checked are refused where those are that the environment gives
nothing for. -/
theorem unfit_withEnvironment_iff :
    Unfit (withEnvironment environment entries) ↔ Unfit (remaining environment entries) := by
  have text (key : String) :
      Record.Refuses (withEnvironment environment entries) key Rule.text ↔
        Record.Refuses (remaining environment entries) key Rule.text :=
    refuses_withEnvironment_iff environment entries fun text _ => ⟨text, rfl⟩
  have token :
      Record.Refuses (withEnvironment environment entries) tokenKey (Rule.optional Rule.text) ↔
        Record.Refuses (remaining environment entries) tokenKey (Rule.optional Rule.text) :=
    refuses_withEnvironment_iff environment entries fun text _ => ⟨some text, rfl⟩
  have own {β : Type} (rule : Rule β) (key : String) (isOwn : key ∉ environmentKeys) :
      Record.Refuses (withEnvironment environment entries) key rule ↔
        Record.Refuses (remaining environment entries) key rule :=
    refuses_withEnvironment_iff environment entries fun text given => by
      simp [overriding?_of_notMem environment isOwn] at given
  have lint : Value.entry? "lint" (withEnvironment environment entries) =
      Value.entry? "lint" (remaining environment entries) := by
    rw [entry?_withEnvironment_of_notMem _ _ (by decide),
      entry?_remaining_of_notMem _ _ (by decide)]
  rw [unfit_iff, unfit_iff, text, text, text, token, own Rule.number "timeout" (by decide),
    own Rule.boolean "strict" (by decide), own Rule.boolean "overrides" (by decide), lintEntries,
    lintEntries, lint]

end Environment

/-- Each field is what the command line asks for, else what the environment gives, else what
the project file has, else its default.  What is asked for of the linter is only whether it is
started. -/
structure ByPrecedence
    (choice : SettingsChoice)
    (environment : Environment)
    (entries : Document.Entries)
    (settings : Settings) : Prop where
  commit : settings.commit =
    ((choice.commit.or (environment.value? "GH_COMMIT")).or
      (Record.accepted? entries "commit" Rule.text)).getD "master"
  repository : settings.repository =
    (Record.accepted? entries "repository" Rule.text).getD "obsproject/obs-websocket"
  token : settings.token =
    ((((environment.value? "GH_TOKEN").filter (· ≠ "")).map some).or
      (Record.accepted? entries "github_token" (Rule.optional Rule.text))).getD none
  outputFile : settings.outputFile =
    ((choice.outputFile.or ((environment.value? "OBSGEN_OUTPUT").filter (· ≠ ""))).or
      (Record.accepted? entries "output_file" Rule.text)).getD "src/types.ts"
  timeout : settings.timeout = (Record.accepted? entries "timeout" Rule.number).getD 30.0
  strict : settings.strict =
    (choice.strict.or (Record.accepted? entries "strict" Rule.boolean)).getD true
  overloads : settings.overloads =
    (choice.overloads.or (Record.accepted? entries "overrides" Rule.boolean)).getD false
  lintEnabled : settings.lint.enabled =
    (choice.lint.or (Record.accepted? (lintEntries entries) "enabled" Rule.boolean)).getD false
  lintCommand : settings.lint.command =
    (Record.accepted? (lintEntries entries) "command" (Rule.listOf Rule.text)).getD
      ["npx", "eslint"]
  lintTimeout : settings.lint.timeout =
    (Record.accepted? (lintEntries entries) "timeout" Rule.integer).getD 120

/-- The settings of the checked entries, with the choices made, go by precedence. -/
theorem byPrecedence_apply_given
    (choice : SettingsChoice)
    (environment : Environment)
    (entries : Document.Entries) :
    ByPrecedence choice environment entries
      (choice.apply (given (withEnvironment environment entries))) := by
  have text (key : String) :
      Record.accepted? (withEnvironment environment entries) key Rule.text =
        (overriding? environment key).or (Record.accepted? entries key Rule.text) := by
    rw [accepted?_withEnvironment environment entries id fun _ => rfl, Option.map_id, id]
  have commit := text commitKey
  have outputFile := text outputKey
  have token : Record.accepted? (withEnvironment environment entries) tokenKey
        (Rule.optional Rule.text) =
      ((overriding? environment tokenKey).map some).or
        (Record.accepted? entries tokenKey (Rule.optional Rule.text)) :=
    accepted?_withEnvironment environment entries some fun _ => rfl
  have own {α : Type} (key : String) (rule : Rule α) (isOwn : key ∉ environmentKeys) :
      Record.accepted? (withEnvironment environment entries) key rule =
        Record.accepted? entries key rule :=
    accepted?_withEnvironment_of_notMem environment entries isOwn
  simp only [overriding?, commitKey, tokenKey, outputKey] at commit outputFile token
  constructor <;>
    simp [SettingsChoice.apply, given, LintSettings.given, standard, LintSettings.standard,
      commitKey, tokenKey, outputKey, commit, outputFile, token, lintEntries_withEnvironment,
      own "repository" Rule.text (by decide), own "timeout" Rule.number (by decide),
      own "strict" Rule.boolean (by decide), own "overrides" Rule.boolean (by decide)]

end Settings

namespace ProjectFile

/-- The project file of the working directory holds the text. -/
def HasText (storage : Storage) (text : String) : Prop :=
  ∃ content, storage.readFile? (pathIn storage.workingPath) = .ok (some content) ∧
    Storage.textOf content = .ok text

variable [StandIns]

/-- There is no project file in the working directory, and so no entries, or it holds a JSON
map with these entries, or there is none to be had of it for an integer with too many digits. -/
inductive Holds (storage : Storage) : Option Document.Entries → Prop
  | nothing
      (isAbsent : storage.readFile? (pathIn storage.workingPath) = .ok none) :
      Holds storage (some [])
  | map
      {text : String}
      {entries : Document.Entries}
      (hasText : HasText storage text)
      (reads : Json.read text = .ok (.map entries)) :
      Holds storage (some entries)
  | overlong
      {text : String}
      (hasText : HasText storage text)
      (stops : Json.read text = .error .hugeInteger) :
      Holds storage none

/-- A project file that has a text is read from it. -/
theorem read?_of_hasText {storage : Storage} {text : String} (hasText : HasText storage text) :
    read? storage storage.workingPath =
      (entriesOf (pathIn storage.workingPath) text).map some := by
  obtain ⟨content, isThere, encodes⟩ := hasText
  simp [read?, isThere, encodes]

/-- Where there are entries, reading the project file has them. -/
theorem Holds.exists_read?_eq
    {storage : Storage}
    {entries : Document.Entries}
    (holds : Holds storage (some entries)) :
    ∃ found, read? storage storage.workingPath = .ok found ∧ found.getD [] = entries := by
  cases holds with
  | nothing isAbsent => exact ⟨none, by simp [read?, isAbsent], rfl⟩
  | map hasText reads =>
      refine ⟨some entries, ?_, rfl⟩
      rw [read?_of_hasText hasText, entriesOf, reads]
      rfl

/-- Where there are none to be had, there is a long number, and reading breaks off at it. -/
theorem Holds.overlong_spec {storage : Storage} (holds : Holds storage none) :
    read? storage storage.workingPath = .error (.accident .badValue) ∧
      ∃ text, HasText storage text ∧ Json.HasLongNumber text.toList := by
  cases holds with
  | overlong hasText stops =>
      refine ⟨?_, _, hasText, Json.hasLongNumber_of_read stops⟩
      rw [read?_of_hasText hasText, entriesOf, stops]
      rfl

end ProjectFile

namespace Settings

/-- Entries of which none is refused are settings. -/
theorem ofEntries_of_not_unfit (entries : Document.Entries) (fit : ¬Unfit entries) :
    ofEntries entries = .ok (given entries) := by
  rw [ofEntries, (rule_map_eq_valid_iff entries _).mpr ⟨fit, rfl⟩]

/-- Entries of which one is refused are a fault. -/
theorem ofEntries_of_unfit (entries : Document.Entries) (unfit : Unfit entries) :
    ∃ fault, ofEntries entries = .error fault := by
  rw [ofEntries]
  cases check : rule (.map entries) with
  | valid settings => exact absurd unfit ((rule_map_eq_valid_iff entries settings).mp check).1
  | invalid issues => exact ⟨_, rfl⟩

section

variable [StandIns]

/-- Where the project file holds entries or is absent, what is left is the check of its entries
under those of the environment, and then the choices. -/
theorem resolve_eq_of_holds
    {storage : Storage}
    {entries : Document.Entries}
    (holds : ProjectFile.Holds storage (some entries))
    (environment : Environment)
    (choice : SettingsChoice) :
    resolve storage environment choice =
      ((ofEntries (withEnvironment environment entries)).mapError .reported).map choice.apply := by
  obtain ⟨found, reads, rfl⟩ := holds.exists_read?_eq
  rw [resolve, reads]
  rfl

/-- A project file with a long integer breaks the resolving, whatever else there is. -/
theorem resolve_eq_of_overlong
    {storage : Storage}
    (holds : ProjectFile.Holds storage none)
    (environment : Environment)
    (choice : SettingsChoice) :
    resolve storage environment choice = .error (.accident .badValue) := by
  rw [resolve, holds.overlong_spec.1]
  rfl

/-- With entries there are settings, or a reported fault, but never an accident. -/
theorem resolve_ne_accident
    {storage : Storage}
    {entries : Document.Entries}
    (holds : ProjectFile.Holds storage (some entries))
    (environment : Environment)
    (choice : SettingsChoice)
    (accident : Accident) :
    resolve storage environment choice ≠ .error (.accident accident) := by
  rw [resolve_eq_of_holds holds]
  cases ofEntries (withEnvironment environment entries) <;> simp [Except.mapError, Except.map]

/-- There is an accident exactly where an integer of the project file has too many digits.
Where there is none there are no settings, and that is reported, exactly where a field of the
project file is refused that the environment gives nothing for, whatever the command line asks
for.  Otherwise each field goes by precedence. -/
theorem resolve_goes_by_precedence
    (storage : Storage)
    (held : Option Document.Entries)
    (holds : ProjectFile.Holds storage held)
    (environment : Environment)
    (choice : SettingsChoice) :
    ((∃ accident, resolve storage environment choice = .error (.accident accident)) ↔
      held = none) ∧
    (held = none →
      ∃ text, ProjectFile.HasText storage text ∧ Json.HasLongNumber text.toList) ∧
    ∀ entries, held = some entries →
      ((∃ fault : SettingsFault, resolve storage environment choice = .error (.reported fault) ∧
          fault.report.kind = .settings) ↔
        Unfit (remaining environment entries)) ∧
      (¬Unfit (remaining environment entries) →
        ∃ settings, resolve storage environment choice = .ok settings ∧
          ByPrecedence choice environment entries settings) := by
  cases held with
  | none =>
      exact ⟨iff_of_true ⟨_, resolve_eq_of_overlong holds environment choice⟩ rfl,
        fun _ => holds.overlong_spec.2, nofun⟩
  | some entries =>
      refine ⟨iff_of_false ?_ nofun, nofun, ?_⟩
      · rintro ⟨accident, breaks⟩
        exact resolve_ne_accident holds environment choice accident breaks
      rintro entries ⟨⟩
      rw [resolve_eq_of_holds holds, ← unfit_withEnvironment_iff]
      by_cases unfit : Unfit (withEnvironment environment entries)
      · obtain ⟨fault, fails⟩ := ofEntries_of_unfit _ unfit
        rw [fails]
        exact ⟨iff_of_true ⟨fault, rfl, fault.kind_report⟩ unfit, fun fit => absurd unfit fit⟩
      · rw [ofEntries_of_not_unfit _ unfit]
        refine ⟨iff_of_false ?_ unfit, fun _ => ⟨_, rfl, byPrecedence_apply_given _ _ _⟩⟩
        rintro ⟨fault, fails, -⟩
        cases fails

end

/-- A project file with a commit of the wrong kind. -/
def wrongCommitText : String :=
  "\x7b\"commit\": [], \"github_token\": \"old\", \"lint\": \x7b\"command\": [\"eslint\"]\x7d\x7d"

@[inherit_doc wrongCommitText]
def wrongCommitEntries : Document.Entries :=
  [(.str "commit", .list []), (.str "github_token", .str "old"),
    (.str "lint", .map [(.str "command", .list [.str "eslint"])])]

/-- A project file with an integer for a commit: a one, and then the digits. -/
def numberText (digits : List Char) : String :=
  "\x7b\"commit\": 1" ++ String.ofList digits ++ "\x7d"

/-- The characters of the project file, up to its number. -/
theorem toList_numberText (digits : List Char) :
    (numberText digits).toList =
      '\x7b' :: '"' :: 'c' :: 'o' :: 'm' :: 'm' :: 'i' :: 't' :: '"' :: ':' :: ' ' ::
        ('1' :: digits ++ ['\x7d']) := by
  simp [numberText]

/-- A project file with an integer of one digit too many. -/
def overlongText : String := numberText (List.replicate Digits.maxDecimalDigits '1')

/-- A working directory with that project file. -/
def storageWith (text : String) : Storage where
  entries := [(["work"], .directory), (["work", "obsgen.json"], .file text.toUTF8)]
  workingDirectory := ["work"]

theorem hasText_storageWith (text : String) (noReturn : Text.unifyNewlines text = text) :
    ProjectFile.HasText (storageWith text) text :=
  ⟨text.toUTF8, rfl, (Storage.textOf_toUTF8 text).trans (congrArg Except.ok noReturn)⟩

theorem holds_wrongCommit :
    ProjectFile.Holds (storageWith wrongCommitText) (some wrongCommitEntries) := by
  refine .map (hasText_storageWith _ (by decide)) ?_
  simp [wrongCommitText, wrongCommitEntries, Json.read, Json.readWhole, Json.readValue,
    Json.readEntries, Json.readItems, Json.readString, Json.skipBlanks, Json.isBlank,
    Value.setEntry, Except.map, bind, Except.bind, Except.mapError]

section

variable {digits : List Char} (areDigits : ∀ digit ∈ digits, digit.isDigit)

include areDigits

/-- There is no line end in the project file. -/
theorem unifyNewlines_numberText :
    Text.unifyNewlines (numberText digits) = numberText digits := by
  have noReturn : '\r' ∉ digits := fun isReturn => absurd (areDigits _ isReturn) (by decide)
  have noReturns : '\r' ∉ (numberText digits).toList := by simpa [toList_numberText] using noReturn
  rw [Text.unifyNewlines, Text.unifyNewlineChars_of_notMem noReturns, String.ofList_toList]

/-- The reader stops at the integer if it is too long. -/
theorem read_numberText [StandIns] (isLong : Digits.maxDecimalDigits ≤ digits.length) :
    Json.read (numberText digits) = .error .hugeInteger := by
  have ends : Json.EndsNumber ['\x7d'] := by simp [Json.EndsNumber]
  have allDigits : ∀ digit ∈ '1' :: digits, digit.isDigit :=
    List.forall_mem_cons.mpr ⟨by decide, areDigits⟩
  have entry (fuel : Nat) :
      Json.readEntries (fuel + 8) []
          ('"' :: 'c' :: 'o' :: 'm' :: 'm' :: 'i' :: 't' :: '"' :: ':' :: ' ' ::
            ('1' :: digits ++ ['\x7d'])) =
        .error .hugeInteger := by
    change Except.bind (Json.readValue (fuel + 7) ('1' :: digits ++ ['\x7d'])) _ = _
    rw [Json.readValue_long allDigits (by decide) isLong ends]
    rfl
  have whole : Json.readWhole (numberText digits).toList = .error .hugeInteger := by
    have enough : 2 * (numberText digits).toList.length + 2 = 2 * digits.length + 19 + 9 := by
      rw [toList_numberText]
      simp
      omega
    rw [Json.readWhole, enough, toList_numberText]
    change ((Json.readEntries (2 * digits.length + 19 + 8) []
      ('"' :: 'c' :: 'o' :: 'm' :: 'm' :: 'i' :: 't' :: '"' :: ':' :: ' ' ::
        ('1' :: digits ++ ['\x7d']))).map _ >>= _) = _
    rw [entry]
    rfl
  rw [Json.read, if_neg (by simp [toList_numberText]), whole]
  rfl

end

theorem holds_overlong : ProjectFile.Holds (storageWith overlongText) none := by
  have areDigits : ∀ digit ∈ List.replicate Digits.maxDecimalDigits '1', digit.isDigit := by
    simp [Char.isDigit]
  exact .overlong (hasText_storageWith _ (unifyNewlines_numberText areDigits))
    (read_numberText areDigits List.length_replicate.ge)

/-- An environment with all variables for settings; a commit may be named by nothing. -/
def fullEnvironment : Environment where
  settings := [("GH_COMMIT", ""), ("GH_TOKEN", "new"), ("OBSGEN_OUTPUT", "out.ts")]

/-- An environment with the same variables, of which two are set to nothing that counts. -/
def blankEnvironment : Environment where
  settings := [("GH_COMMIT", "v4"), ("GH_TOKEN", ""), ("OBSGEN_OUTPUT", "")]

/-- Variables take the place of a commit that would be refused and of other entries, but not
where they are set to nothing; a commit on the command line takes no refused one's place. -/
theorem wrong_commit_is_overridden :
    (∃ settings,
      resolve (storageWith wrongCommitText) fullEnvironment { lint := some true } = .ok settings ∧
        settings.commit = "" ∧ settings.token = some "new" ∧ settings.outputFile = "out.ts" ∧
        settings.lint.enabled = true ∧ settings.lint.command = ["eslint"]) ∧
      (∃ settings,
        resolve (storageWith wrongCommitText) blankEnvironment { commit := some "v5" } =
            .ok settings ∧
          settings.commit = "v5" ∧ settings.token = some "old" ∧
          settings.outputFile = "src/types.ts" ∧ settings.lint.enabled = false) ∧
      (∃ fault : SettingsFault,
        resolve (storageWith wrongCommitText) {} { commit := some "v5" } =
            .error (.reported fault) ∧
          fault.report.kind = .settings) ∧
      ∃ accident, resolve (storageWith overlongText) {} {} = .error (.accident accident) := by
  have fit (environment : Environment)
      (accepted : ∃ settings,
        rule (.map (withEnvironment environment wrongCommitEntries)) = .valid settings) :
      ¬Unfit (remaining environment wrongCommitEntries) := by
    obtain ⟨settings, accepted⟩ := accepted
    rw [← unfit_withEnvironment_iff]
    exact ((rule_map_eq_valid_iff _ settings).mp accepted).1
  have unfit : Unfit (remaining {} wrongCommitEntries) := .commit ⟨.list [], _, rfl, rfl⟩
  refine ⟨?_, ?_, ?_, ?_⟩
  · obtain ⟨settings, resolves, goes⟩ :=
      ((resolve_goes_by_precedence _ _ holds_wrongCommit fullEnvironment
        { lint := some true }).2.2 _ rfl).2 (fit _ ⟨_, rfl⟩)
    exact ⟨settings, resolves, goes.commit, goes.token, goes.outputFile, goes.lintEnabled,
      goes.lintCommand⟩
  · obtain ⟨settings, resolves, goes⟩ :=
      ((resolve_goes_by_precedence _ _ holds_wrongCommit blankEnvironment
        { commit := some "v5" }).2.2 _ rfl).2 (fit _ ⟨_, rfl⟩)
    exact ⟨settings, resolves, goes.commit, goes.token, goes.outputFile, goes.lintEnabled⟩
  · exact ((resolve_goes_by_precedence _ _ holds_wrongCommit {}
      { commit := some "v5" }).2.2 _ rfl).1.mpr unfit
  · exact (resolve_goes_by_precedence _ _ holds_overlong {} {}).1.mpr rfl

/-- A commit that is an integer is refused, whatever the integer, but one that is too long
breaks the resolving instead. -/
theorem overlong_commit_breaks_resolving :
    (∀ commit : Int, Unfit (remaining {} [(.str "commit", .int commit)])) ∧
      resolve (storageWith overlongText) {} {} = .error (.accident .badValue) :=
  ⟨fun commit => .commit ⟨.int commit, _, rfl, rfl⟩, resolve_eq_of_overlong holds_overlong {} {}⟩

end Settings

end ProtocolTypes
