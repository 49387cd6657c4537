import ProtocolTypes.CommandLine.Session

/-!
# Effects of a session

What a session does that others can see is what it prints on standard output and what
becomes of the files.  `Leads` says which result a part of a session has and which effects
it leaves, and is kept by composition.  A part is quiet when it adds nothing to the effects
and its result does not depend on them; quiet parts compose as their results do
(`Quiet.bind`).
-/

namespace ProtocolTypes

/-- What a session has done that others can see. -/
structure Effects where
  standardOutput : String := ""
  storage : Storage := {}

/-- The effects in a transcript. -/
def Transcript.effects (transcript : Transcript) : Effects :=
  { standardOutput := transcript.standardOutput, storage := transcript.storage }

namespace Session

variable {α β Cause : Type}

/-- The second part of a run goes on from the transcript of the first. -/
theorem run_bind
    (part : Session α)
    (next : α → Session β)
    (transcript : Transcript) :
    (part >>= next).run transcript =
      match part.run transcript with
      | (.ok value, after) => (next value).run after
      | (.error cause, after) => (.error cause, after) := by
  change StateT.run (part >>= next).run transcript =
    match StateT.run part.run transcript with
    | (.ok value, after) => (next value).run after
    | (.error cause, after) => (.error cause, after)
  rw [ExceptT.run_bind, StateT.run_bind]
  cases StateT.run part.run transcript with
  | mk result after => cases result <;> rfl

/-- After those effects, the part has that result and leaves these effects. -/
def Leads
    (part : Session α)
    (before : Effects)
    (result : Except (Interruption Failure) α)
    (after : Effects) :
    Prop :=
  ∀ transcript, transcript.effects = before →
    ∃ left, part.run transcript = (result, left) ∧ left.effects = after

namespace Leads

theorem pure (value : α) (effects : Effects) : Leads (pure value) effects (.ok value) effects :=
  fun transcript same => ⟨transcript, rfl, same⟩

theorem throw (cause : Interruption Failure) (effects : Effects) :
    Leads (throw cause : Session α) effects (.error cause) effects :=
  fun transcript same => ⟨transcript, rfl, same⟩

/-- One part goes on where another one has ended. -/
theorem bind
    {part : Session α}
    {next : α → Session β}
    {before middle after : Effects}
    {value : α}
    {result : Except (Interruption Failure) β}
    (first : Leads part before (.ok value) middle)
    (rest : Leads (next value) middle result after) :
    Leads (part >>= next) before result after := by
  intro transcript same
  obtain ⟨left, ran, leftSame⟩ := first transcript same
  rw [run_bind, ran]
  exact rest left leftSame

/-- An interruption ends what follows, too. -/
theorem bind_error
    {part : Session α}
    {before after : Effects}
    {cause : Interruption Failure}
    (first : Leads part before (.error cause) after)
    (next : α → Session β) :
    Leads (part >>= next) before (.error cause) after := by
  intro transcript same
  obtain ⟨left, ran, leftSame⟩ := first transcript same
  rw [run_bind, ran]
  exact ⟨left, rfl, leftSame⟩

/-- The outcome of a part is its result, and interrupts nothing. -/
theorem outcome
    {part : Session α}
    {before after : Effects}
    {result : Except (Interruption Failure) α}
    (leads : Leads part before result after) :
    Leads (Session.outcome part) before (.ok result) after := by
  intro transcript same
  obtain ⟨left, ran, leftSame⟩ := leads transcript same
  refine ⟨left, ?_, leftSame⟩
  change (match part.run transcript with | (result, left) => (Except.ok result, left)) = _
  rw [ran]

/-- A text that can be encoded is added to standard output. -/
theorem print
    [StandIns]
    (text : String)
    (encodable : Text.isEncodable text = true)
    (effects : Effects) :
    Leads (Session.print text) effects (.ok ())
      { effects with standardOutput := effects.standardOutput ++ text } := by
  rintro transcript rfl
  rw [Session.print, if_pos encodable]
  exact ⟨_, rfl, rfl⟩

/-- The storage becomes what a part makes of it. -/
theorem modifyStorage (storage : Storage) (effects : Effects) :
    Leads (modify fun transcript => { transcript with storage := storage }) effects (.ok ⟨⟩)
      { effects with storage := storage } := by
  rintro transcript rfl
  exact ⟨_, rfl, rfl⟩

/-- Of the transcript that a part looks at, the storage is known. -/
theorem get_bind
    {next : Transcript → Session α}
    {before after : Effects}
    {result : Except (Interruption Failure) α}
    (leads : ∀ transcript, transcript.storage = before.storage →
      Leads (next transcript) before result after) :
    Leads (get >>= next) before result after := by
  intro transcript same
  rw [run_bind]
  exact leads transcript (congrArg Effects.storage same) transcript same

end Leads

/-- Whatever the effects so far, the part has that result and adds nothing to them. -/
def Quiet (part : Session α) (result : Except (Interruption Failure) α) : Prop :=
  ∀ effects, Leads part effects result effects

namespace Quiet

theorem pure (value : α) : Quiet (pure value) (.ok value) := Leads.pure value

theorem throw (cause : Interruption Failure) : Quiet (throw cause : Session α) (.error cause) :=
  Leads.throw cause

/-- Quiet parts one after the other end as their results do. -/
theorem bind
    {part : Session α}
    {result : Except (Interruption Failure) α}
    {next : α → Session β}
    {results : α → Except (Interruption Failure) β}
    (first : Quiet part result)
    (rest : ∀ value, Quiet (next value) (results value)) :
    Quiet (part >>= next) (result >>= results) := by
  intro effects
  cases result with
  | ok value => exact (first effects).bind (rest value effects)
  | error cause => exact (first effects).bind_error next

/-- A quiet part that cannot fail leaves the result to what follows. -/
theorem andThen
    {part : Session α}
    {value : α}
    {next : α → Session β}
    {result : Except (Interruption Failure) β}
    (first : Quiet part (.ok value))
    (rest : Quiet (next value) result) :
    Quiet (part >>= next) result :=
  fun effects => (first effects).bind (rest effects)

/-- A loop of quiet parts that cannot fail is one. -/
theorem forEach
    (items : List α)
    (step : α → Session Unit)
    (quiet : ∀ item, Quiet (step item) (.ok ())) :
    Quiet
      (forIn items PUnit.unit fun item _ => do
        step item
        Pure.pure (ForInStep.yield PUnit.unit))
      (.ok PUnit.unit) := by
  induction items with
  | nil => exact pure PUnit.unit
  | cons item rest inductionHypothesis =>
      rw [List.forIn_cons]
      refine andThen ((quiet item).andThen (pure (ForInStep.yield PUnit.unit))) ?_
      exact inductionHypothesis

/-- What is only noted in the transcript is no effect. -/
theorem modify
    (change : Transcript → Transcript)
    (noEffect : ∀ transcript, (change transcript).effects = transcript.effects) :
    Quiet (modify change) (.ok ⟨⟩) :=
  fun _ transcript same => ⟨change transcript, rfl, (noEffect transcript).trans same⟩

/-- A text that cannot be encoded is not begun to be printed. -/
theorem print_unencodable
    [StandIns]
    (text : String)
    (notEncodable : Text.isEncodable text = false) :
    Quiet (Session.print text) (.error (.accident .unencodable)) := by
  rw [Session.print, if_neg (by simp [notEncodable])]
  exact throw _

theorem printError [StandIns] (text : String) : Quiet (printError text) (.ok ()) :=
  modify _ fun _ => rfl

theorem note [StandIns] (console : Console) (records : List LogRecord) :
    Quiet (note console records) (.ok ()) :=
  printError _

theorem orBreak (result : Except Accident α) :
    Quiet (orBreak result) (result.mapError .accident) := by
  cases result with
  | ok value => exact pure value
  | error accident => exact throw (.accident accident)

theorem orInterrupt
    (report : Cause → Failure)
    (result : Except (Interruption Cause) α) :
    Quiet (orInterrupt report result) (result.mapError (Interruption.map report)) := by
  cases result with
  | ok value => exact pure value
  | error cause => exact throw (cause.map report)

/-- Without colours a diagnostic is shown as it is, and nothing can go wrong. -/
theorem say
    [StandIns]
    (console : Console)
    (noColor : console.noColor = true)
    (kind : Diagnostic)
    (message : String) :
    Quiet (say console kind message) (.ok ()) := by
  obtain ⟨text, shown⟩ : ∃ text, console.diagnostic kind message = .ok text := by
    unfold Console.diagnostic
    split
    · exact ⟨_, rfl⟩
    · exact ⟨_, rfl⟩
  rw [Session.say, shown]
  exact andThen (pure text) (printError text)

end Quiet

/-! ## Files -/

/-- A write leaves the storage that it makes, and its result. -/
theorem Leads.write
    [StandIns]
    (path : FilePath)
    (text : String)
    (effects : Effects) :
    Leads (Session.write path text) effects
      ((effects.storage.write path text).2.mapError .accident)
      { effects with storage := (effects.storage.write path text).1 } := by
  refine Leads.get_bind fun transcript sameStorage => ?_
  rw [sameStorage]
  exact (Leads.modifyStorage _ effects).bind (Quiet.orBreak _ _)

/-- Making directories leaves the storage that it makes, also after an accident. -/
theorem Leads.makeDirectories
    (path : FilePath)
    (effects : Effects) :
    Leads (Session.makeDirectories path) effects
      (match (effects.storage.makeDirectories path).2 with
        | some accident => .error (.accident accident)
        | none => .ok ())
      { effects with storage := (effects.storage.makeDirectories path).1 } := by
  refine Leads.get_bind fun transcript sameStorage => ?_
  rw [sameStorage]
  cases effects.storage.makeDirectories path with
  | mk storage failed =>
      refine (Leads.modifyStorage storage effects).bind ?_
      cases failed with
      | some accident => exact .throw _ _
      | none => exact .pure _ _

/-- A file that can be overwritten has the text then. -/
theorem Leads.overwrite
    (path : FilePath)
    (text : String)
    (effects : Effects)
    (storage : Storage)
    (overwrites : effects.storage.overwrite path text = .ok storage) :
    Leads (Session.overwrite path text) effects (.ok ()) { effects with storage := storage } := by
  refine Leads.get_bind fun transcript sameStorage => ?_
  rw [sameStorage, overwrites]
  exact (Quiet.orBreak (.ok storage) effects).bind (.modifyStorage storage effects)

/-- Where a file cannot be overwritten nothing becomes of the storage. -/
theorem Leads.overwrite_error
    (path : FilePath)
    (text : String)
    (effects : Effects)
    (accident : Accident)
    (fails : effects.storage.overwrite path text = .error accident) :
    Leads (Session.overwrite path text) effects (.error (.accident accident)) effects := by
  refine Leads.get_bind fun transcript sameStorage => ?_
  rw [sameStorage, fails]
  exact (Quiet.orBreak (.error accident) effects).bind_error _

/-! ## Concluding -/

variable [StandIns]

/-- A part that ends well goes on. -/
theorem Leads.conclude
    (console : Console)
    {part : Session α}
    {before middle after : Effects}
    {value : α}
    (leads : Leads part before (.ok value) middle)
    {next : α → Session Int}
    {result : Except (Interruption Failure) Int}
    (rest : Leads (next value) middle result after) :
    Leads (Session.conclude console part next) before result after :=
  leads.outcome.bind rest

/-- A reported failure is shown, and its exit code is the result. -/
theorem Leads.conclude_reported
    (console : Console)
    (noColor : console.noColor = true)
    {part : Session α}
    {before after : Effects}
    {failure : Failure}
    (leads : Leads part before (.error (.reported failure)) after)
    (next : α → Session Int) :
    Leads (Session.conclude console part next) before (.ok failure.exitCode) after :=
  leads.outcome.bind
    ((Quiet.say console noColor .error failure.text).andThen (.pure failure.exitCode) after)

/-- An accident is left to the surroundings. -/
theorem Leads.conclude_accident
    (console : Console)
    {part : Session α}
    {before after : Effects}
    {accident : Accident}
    (leads : Leads part before (.error (.accident accident)) after)
    (next : α → Session Int) :
    Leads (Session.conclude console part next) before (.error (.accident accident)) after :=
  leads.outcome.bind (Leads.throw (.accident accident) after)

end Session
end ProtocolTypes
