import ProtocolTypes.Proofs.CommandLine.Outcome
import ProtocolTypes.Proofs.Console.Markup
import ProtocolTypes.Proofs.Console.Wrapping

/-!
# Colours and what is said

With colours a message is taken as markup and wrapped to the screen.  One that reads as it is
written says the same with colours and without.  One with no tag in it is always shown, so that
a failure with such a text ends a run with its exit code.  A tag in a message is not taken as
text: a closing one that closes nothing breaks the diagnostic, also that of a failure.
-/

namespace ProtocolTypes

namespace Diagnostic

open Markup

variable {message : String}

/-! ## Markup -/

theorem toList_markup_information : (information.markup message).toList = message.toList := rfl

theorem toList_markup_success :
    (success.markup message).toList =
      "[green]".toList ++ message.toList ++ "[/green]".toList := by
  unfold markup
  rw [String.toList_append, String.toList_append]

theorem toList_markup_warning :
    (warning.markup message).toList = "[yellow]Warning:[/yellow] ".toList ++ message.toList := by
  unfold markup
  rw [String.toList_append]

theorem toList_markup_error :
    (error.markup message).toList = "[bold red]Error:[/bold red] ".toList ++ message.toList := by
  unfold markup
  rw [String.toList_append]

section

variable
  {kind : Diagnostic}
  (notDebugging : kind ≠ .debugging)

include notDebugging

/-- The styles around a message can be shown. -/
theorem checkStyles_markup (untagged : Untagged message.toList) :
    checkStyles (kind.markup message) = .ok () := by
  apply checkStyles_of_isBare
  cases kind with
  | information =>
      rw [toList_markup_information, pieces_of_untagged untagged]
      exact fun _ => isBare_of_mem_collected
  | success =>
      rw [toList_markup_success, pieces_success untagged]
      simp only [List.forall_mem_cons, List.forall_mem_append]
      exact ⟨rfl, fun _ => isBare_of_mem_collected, fun _ => isBare_of_mem_tagPieces rfl⟩
  | warning =>
      rw [toList_markup_warning, pieces_warning untagged]
      simp only [List.forall_mem_cons, List.forall_mem_append]
      exact ⟨⟨rfl, trivial, rfl, nofun⟩, fun _ => isBare_of_mem_collected⟩
  | error =>
      rw [toList_markup_error, pieces_error untagged]
      simp only [List.forall_mem_cons, List.forall_mem_append]
      exact ⟨⟨rfl, trivial, rfl, nofun⟩, fun _ => isBare_of_mem_collected⟩
  | debugging => exact absurd rfl notDebugging

/-- A message without tags breaks nothing. -/
theorem exists_plainText_markup (untagged : Untagged message.toList) :
    ∃ shown, plainText (kind.markup message) = .ok shown := by
  have hasCharacters : ∃ characters,
      charactersFrom [] (pieces (kind.markup message).toList) = .ok characters := by
    cases kind with
    | information =>
        rw [toList_markup_information, pieces_of_untagged untagged]
        exact ⟨_, charactersFrom_collected_nil _ _⟩
    | success =>
        rw [toList_markup_success]
        exact exists_charactersFrom_success untagged
    | warning =>
        rw [toList_markup_warning]
        exact ⟨_, charactersFrom_warning untagged⟩
    | error =>
        rw [toList_markup_error]
        exact ⟨_, charactersFrom_error untagged⟩
    | debugging => exact absurd rfl notDebugging
  obtain ⟨characters, said⟩ := hasCharacters
  rw [plainText, said]
  exact ⟨_, rfl⟩

/-- A message that reads as it is written says in markup what it says without. -/
theorem plainText_markup
    (reads : ReadsAsWritten message.toList)
    (noBackslash : kind = .success → message.toList.getLast? ≠ some '\\') :
    plainText (kind.markup message) = .ok (kind.plain message) := by
  have hasCharacters : charactersFrom [] (pieces (kind.markup message).toList) =
      .ok (kind.plain message).toList := by
    cases kind with
    | information =>
        rw [toList_markup_information, pieces_of_untagged reads.untagged,
          charactersFrom_collected_nil, List.reverse_reverse, reads.said_eq, plain]
    | success =>
        rw [toList_markup_success, charactersFrom_success reads.untagged (noBackslash rfl),
          reads.said_eq, plain]
    | warning =>
        rw [toList_markup_warning, charactersFrom_warning reads.untagged, reads.said_space, plain,
          String.toList_append, show "Warning: ".toList = "Warning:".toList ++ [' '] by decide,
          List.append_assoc]
        rfl
    | error =>
        rw [toList_markup_error, charactersFrom_error reads.untagged, reads.said_space, plain,
          String.toList_append, show "Error: ".toList = "Error:".toList ++ [' '] by decide,
          List.append_assoc]
        rfl
    | debugging => exact absurd rfl notDebugging
  have noneDropped : ∀ character ∈ (kind.plain message).toList, !isDropped character := by
    cases kind with
    | information | success => exact reads.noneDropped
    | warning | error =>
        rw [plain, String.toList_append, List.forall_mem_append]
        exact ⟨List.all_eq_true.mp (by decide), reads.noneDropped⟩
    | debugging => exact absurd rfl notDebugging
  rw [plainText, hasCharacters, Except.map, List.filter_eq_self.mpr noneDropped,
    String.ofList_toList]

end

/-- No label has a tab. -/
theorem noTab_plain
    (kind : Diagnostic)
    (noTab : '\t' ∉ message.toList) :
    '\t' ∉ (kind.plain message).toList := by
  cases kind with
  | information | success => exact noTab
  | warning | error | debugging =>
      rw [plain, String.toList_append, List.mem_append, not_or]
      exact ⟨by decide, noTab⟩

end Diagnostic

namespace Console

/-- With colours the console shows the message as it is written: it reads as it is written, and
no line with it is wider than the screen. -/
structure ShowsAsWritten
    (console : Console)
    (kind : Diagnostic)
    (message : String) : Prop where
  reads : Markup.ReadsAsWritten message.toList
  /-- A backslash in front of the closing tag would be taken for an escape. -/
  noBackslash : kind = .success → message.toList.getLast? ≠ some '\\'
  noTab : '\t' ∉ message.toList
  hasWidth : console.width ≠ 0
  fits : ∀ line ∈ (kind.plain message).toList.splitOn '\n', Wrap.Fits console.width line

section

variable
  (console : Console)
  {kind : Diagnostic}
  (notDebugging : kind ≠ .debugging)
  {message : String}

include notDebugging

/-- What reads as written is rendered as it is printed without colours. -/
theorem render_markup (shows : console.ShowsAsWritten kind message) :
    console.render (kind.markup message) = .ok (kind.plain message ++ "\n") := by
  rw [render, Diagnostic.plainText_markup notDebugging shows.reads shows.noBackslash]
  change (if console.width = 0 then _ else _) = _
  rw [if_neg shows.hasWidth, Diagnostic.checkStyles_markup notDebugging shows.reads.untagged]
  change Except.ok (Wrap.text console.width (kind.plain message) ++ "\n") = _
  rw [Wrap.text_of_fits (kind.noTab_plain shows.noTab) shows.fits]

/-- Colours change no diagnostic that reads as it is written. -/
theorem diagnostic_colors (shows : console.ShowsAsWritten kind message) :
    console.diagnostic kind message =
      { console with noColor := true }.diagnostic kind message := by
  have sameKinds : { console with noColor := true }.shows kind = console.shows kind := by
    cases kind <;> rfl
  unfold diagnostic
  rw [sameKinds, console.render_markup notDebugging shows]
  simp

/-- A message without tags can be rendered with any label. -/
theorem exists_render (untagged : Markup.Untagged message.toList) :
    ∃ shown, console.render (kind.markup message) = .ok shown := by
  obtain ⟨plain, said⟩ := Diagnostic.exists_plainText_markup notDebugging untagged
  rw [render, said]
  change ∃ shown, (if console.width = 0 then _ else _) = _
  rw [Diagnostic.checkStyles_markup notDebugging untagged]
  split_ifs
  · exact ⟨_, rfl⟩
  · exact ⟨_, rfl⟩

/-- A message without tags can be told, with colours or without. -/
theorem exists_diagnostic (untagged : Markup.Untagged message.toList) :
    ∃ shown, console.diagnostic kind message = .ok shown := by
  unfold diagnostic
  split_ifs
  · exact ⟨_, rfl⟩
  · exact ⟨_, rfl⟩
  · exact console.exists_render notDebugging untagged

end

end Console

namespace Session

variable {α : Type}

/-- The outcome of a part of a run has the same transcript. -/
theorem run_outcome (part : Session α) (before : Transcript) :
    (outcome part).run before = (.ok (part.run before).1, (part.run before).2) := by
  change (match part.run before with | (result, left) => (Except.ok result, left)) = _
  cases part.run before
  rfl

variable [StandIns]

/-- A failure that is reported, and can be shown, ends the session with its exit code. -/
theorem run_conclude_reported
    (console : Console)
    {part : Session α}
    {before left : Transcript}
    {failure : Failure}
    (fails : part.run before = (.error (.reported failure), left))
    {shown : String}
    (canBeShown : console.diagnostic .error failure.text = .ok shown)
    (next : α → Session Int) :
    (conclude console part next).run before =
      (.ok failure.exitCode,
        { left with standardError := left.standardError ++ Text.escaped shown }) := by
  rw [conclude, run_bind, run_outcome, fails]
  dsimp only
  rw [say, canBeShown]
  rfl

/-- One that cannot be shown is an accident. -/
theorem run_conclude_unshown
    (console : Console)
    {part : Session α}
    {before left : Transcript}
    {failure : Failure}
    (fails : part.run before = (.error (.reported failure), left))
    {accident : Accident}
    (breaks : console.diagnostic .error failure.text = .error accident)
    (next : α → Session Int) :
    (conclude console part next).run before = (.error (.accident accident), left) := by
  rw [conclude, run_bind, run_outcome, fails]
  dsimp only
  rw [say, breaks]
  rfl

end Session

namespace CommandLine

open Session

section

variable [StandIns]

/-- The command comes to a failure that it reports, with that transcript so far. -/
def Reports
    (surroundings : Surroundings)
    (console : Console)
    (failure : Failure)
    (left : Transcript) :
    Command → Prop
  | .generate choices =>
      (make surroundings console choices).run { storage := surroundings.storage } =
        (.error (.reported failure), left)
  | .display choices =>
      (printDeclaration surroundings console choices).run { storage := surroundings.storage } =
        (.error (.reported failure), left)

/-- Whatever comes of the crash log and of telling it, the exit code is that of an accident. -/
theorem exitCodeOf_concludeAccident
    (surroundings : Surroundings)
    (console : Except Accident Console)
    (accident : Accident)
    (before : Transcript) :
    exitCodeOf ((concludeAccident surroundings console accident).run before).1 = accidentCode := by
  rw [concludeAccident, run_bind]
  rcases (writeCrashLog surroundings accident).run before with ⟨cause | path, logged⟩
  · rfl
  · dsimp only
    rw [run_bind]
    rcases (orBreak console).run logged with ⟨cause | shown, found⟩
    · rfl
    · dsimp only
      rw [run_bind]
      rcases (say shown .error ("Unexpected error. Debug log: " ++ path.text)).run found with
        ⟨cause | _, told⟩
      · rfl
      · rfl

section

variable
  (surroundings : Surroundings)
  (console : Console)
  (command : Command)
  {failure : Failure}
  {left : Transcript}
  (reports : Reports surroundings console failure left command)

include reports

/-- A failure that can be told ends the run with its exit code. -/
theorem runGuarded_told
    {shown : String}
    (canBeShown : console.diagnostic .error failure.text = .ok shown) :
    (runGuarded surroundings console command).run { storage := surroundings.storage } =
      (.ok failure.exitCode,
        { left with standardError := left.standardError ++ Text.escaped shown }) := by
  have concludes :
      (runCommand surroundings console command).run { storage := surroundings.storage } =
        (.ok failure.exitCode,
          { left with standardError := left.standardError ++ Text.escaped shown }) := by
    cases command with
    | generate choices => exact run_conclude_reported console reports canBeShown _
    | display choices => exact run_conclude_reported console reports canBeShown _
  rw [runGuarded, run_bind, run_outcome, concludes]
  rfl

/-- A failure that cannot be told ends the run in an accident. -/
theorem runGuarded_untold
    {accident : Accident}
    (breaks : console.diagnostic .error failure.text = .error accident) :
    exitCodeOf ((runGuarded surroundings console command).run
      { storage := surroundings.storage }).1 = accidentCode := by
  have concludes :
      (runCommand surroundings console command).run { storage := surroundings.storage } =
        (.error (.accident accident), left) := by
    cases command with
    | generate choices => exact run_conclude_unshown console reports breaks _
    | display choices => exact run_conclude_unshown console reports breaks _
  rw [runGuarded, run_bind, run_outcome, concludes]
  exact exitCodeOf_concludeAccident surroundings (.ok console) accident left

end

/-- How a run ends whose command comes to a failure that it reports, with that transcript so
far. -/
structure EndsReported
    (surroundings : Surroundings)
    (words : List String)
    (console : Console)
    (failure : Failure)
    (left : Transcript) : Prop where
  /-- A failure that can be shown is told last and gives the exit code. -/
  told : ∀ shown, console.diagnostic .error failure.text = .ok shown →
    run surroundings words =
      (.ok failure.exitCode,
        { left with standardError := left.standardError ++ Text.escaped shown })
  /-- One that cannot be shown is an accident. -/
  untold : ∀ accident, console.diagnostic .error failure.text = .error accident →
    exitCodeOf (run surroundings words).1 = accidentCode
  untagged : Markup.Untagged failure.text.toList →
    exitCodeOf (run surroundings words).1 = failure.exitCode

theorem endsReported
    (surroundings : Surroundings)
    (words : List String)
    (switches : ConsoleSwitches)
    (command : Command)
    (asks : Invocation.ofWords words = .ok (.run switches command))
    (console : Console)
    (starts : consoleFor surroundings switches = .ok console)
    (failure : Failure)
    (left : Transcript)
    (reports : Reports surroundings console failure left command) :
    EndsReported surroundings words console failure left := by
  have isGuarded := run_eq_runGuarded surroundings words switches command asks console starts
  constructor
  · intro shown canBeShown
    rw [isGuarded]
    exact runGuarded_told surroundings console command reports canBeShown
  · intro accident breaks
    rw [isGuarded]
    exact runGuarded_untold surroundings console command reports breaks
  · intro untagged
    obtain ⟨shown, canBeShown⟩ :=
      console.exists_diagnostic (show Diagnostic.error ≠ .debugging by decide) untagged
    rw [isGuarded, runGuarded_told surroundings console command reports canBeShown]
    rfl

/-- With colours a diagnostic says what it says without, so far as its message reads as it is
written.  One with no tag in it can always be shown, and a failure with such a text ends the run
with its exit code; a failure that cannot be shown ends it as an accident. -/
theorem colors_keep_untagged_diagnostics (console : Console) :
    (∀ (kind : Diagnostic) (message : String), kind ≠ .debugging →
      console.ShowsAsWritten kind message →
        console.diagnostic kind message =
          { console with noColor := true }.diagnostic kind message) ∧
    (∀ (kind : Diagnostic) (message : String), kind ≠ .debugging →
      Markup.Untagged message.toList →
        ∃ shown, console.diagnostic kind message = .ok shown) ∧
    ∀ (surroundings : Surroundings) (words : List String) (switches : ConsoleSwitches)
      (command : Command) (failure : Failure) (left : Transcript),
      Invocation.ofWords words = .ok (.run switches command) →
      consoleFor surroundings switches = .ok console →
      Reports surroundings console failure left command →
        EndsReported surroundings words console failure left := by
  refine ⟨fun kind message notDebugging => console.diagnostic_colors notDebugging,
    fun kind message notDebugging => console.exists_diagnostic notDebugging, ?_⟩
  intro surroundings words switches command failure left asks starts reports
  exact endsReported surroundings words switches command asks console starts failure left reports

end

theorem failures_are_told_in_colors :
    ({} : Console).diagnostic .error "Unknown request: GetSceneList" =
        .ok "Error: Unknown request: GetSceneList\n" ∧
      exitCodeOf (run {} ["show", "--source", "-", "request", "GetSceneList"]).1 =
        LoadFault.noInput.report.exitCode := by
  obtain ⟨sameAsPlain, -, endsReported⟩ := colors_keep_untagged_diagnostics {}
  constructor
  · have reads : Markup.ReadsAsWritten "Unknown request: GetSceneList".toList :=
      ⟨by decide, by decide, Emoji.noPicture_of_count (by decide),
        List.all_eq_true.mp (by decide)⟩
    have fits : ∀ line ∈ "Error: Unknown request: GetSceneList".toList.splitOn '\n',
        Wrap.Fits 80 line := by
      rw [List.splitOn_eq_singleton (by decide)]
      exact List.forall_mem_singleton.mpr ⟨by decide +kernel, .inl (by decide)⟩
    exact sameAsPlain .error _ (by decide) ⟨reads, nofun, by decide, by decide, fits⟩
  · exact (endsReported {} ["show", "--source", "-", "request", "GetSceneList"] {}
      (.display { kind := .request, name := "GetSceneList", source := some "-" })
      LoadFault.noInput.report {} rfl rfl rfl).untagged (by decide)

/-- In colours a closing tag in the name that is asked for breaks the telling of the failure,
so that the run ends with the exit code of an accident. -/
theorem tag_breaks_telling_in_colors :
    ({} : Console).diagnostic .error "Unknown request: [/x]" = .error .badMarkup ∧
      ({ noColor := true } : Console).diagnostic .error "Unknown request: [/x]" =
        .ok "Error: Unknown request: [/x]\n" ∧
      Reports { standardInput := "\x7b\x7d" } {} (unknownEntity .request "[/x]") {}
        (.display { kind := .request, name := "[/x]", source := some "-" }) ∧
      (unknownEntity .request "[/x]").exitCode = 2 ∧
      exitCodeOf (run { standardInput := "\x7b\x7d" }
        ["show", "--source", "-", "request", "[/x]"]).1 = 1 :=
  ⟨rfl, rfl, rfl, rfl, by decide +kernel⟩

end CommandLine
end ProtocolTypes
