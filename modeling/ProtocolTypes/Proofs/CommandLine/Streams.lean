import ProtocolTypes.Proofs.CommandLine.Effects

/-!
# What a session prints

`Prints` says which result a part of a session has, whatever was printed before it, and what it
adds to each of the two streams.  Parts that print one after the other print their texts one
after the other (`Prints.bind`).  On standard error surrogates are spelled; on standard output
a text with one is not printed.  A console shows log records only to those who ask for
details.
-/

namespace ProtocolTypes

namespace Console

theorem logText_append (console : Console) (first second : List LogRecord) :
    console.logText (first ++ second) = console.logText first ++ console.logText second := by
  simp [logText, String.join_append]

/-- Without a wish for details no records are shown. -/
theorem logText_of_not_verbose
    (console : Console)
    (sparse : console.verbose = false)
    (records : List LogRecord) :
    console.logText records = "" := by
  have silent (record : LogRecord) :
      console.logLine .debugging record.source record.message = "" := by
    simp [logLine, logLevel, sparse, LogLevel.number]
  induction records with
  | nil => rfl
  | cons record rest inductionHypothesis =>
      simpa [logText, silent] using inductionHypothesis

end Console

namespace Session

variable {α β Cause : Type}

/-- The part has that result and adds these texts to standard output and standard error,
whatever has gone before. -/
def Prints
    (part : Session α)
    (result : Except (Interruption Failure) α)
    (output error : String) :
    Prop :=
  ∀ before, ∃ after, part.run before = (result, after) ∧
    after.standardOutput = before.standardOutput ++ output ∧
    after.standardError = before.standardError ++ error

namespace Prints

theorem pure (value : α) : Prints (pure value) (.ok value) "" "" :=
  fun before => ⟨before, rfl, by simp, by simp⟩

theorem throw (cause : Interruption Failure) :
    Prints (throw cause : Session α) (.error cause) "" "" :=
  fun before => ⟨before, rfl, by simp, by simp⟩

/-- The texts that a part prints may be told in another way. -/
theorem congr
    {part : Session α}
    {result : Except (Interruption Failure) α}
    {output otherOutput error otherError : String}
    (prints : Prints part result output error)
    (sameOutput : output = otherOutput)
    (sameError : error = otherError) :
    Prints part result otherOutput otherError :=
  sameOutput ▸ sameError ▸ prints

/-- What follows prints behind what has gone before. -/
theorem bind
    {part : Session α}
    {next : α → Session β}
    {value : α}
    {result : Except (Interruption Failure) β}
    {output laterOutput error laterError : String}
    (first : Prints part (.ok value) output error)
    (rest : Prints (next value) result laterOutput laterError) :
    Prints (part >>= next) result (output ++ laterOutput) (error ++ laterError) := by
  intro before
  obtain ⟨middle, ran, addsOutput, addsError⟩ := first before
  obtain ⟨after, ranOn, addsLaterOutput, addsLaterError⟩ := rest middle
  refine ⟨after, ?_, ?_, ?_⟩
  · rw [run_bind, ran]
    exact ranOn
  · rw [addsLaterOutput, addsOutput, String.append_assoc]
  · rw [addsLaterError, addsError, String.append_assoc]

/-- A part that prints nothing leaves all to what follows. -/
theorem andThen
    {part : Session α}
    {next : α → Session β}
    {value : α}
    {result : Except (Interruption Failure) β}
    {output error : String}
    (silent : Prints part (.ok value) "" "")
    (rest : Prints (next value) result output error) :
    Prints (part >>= next) result output error := by
  simpa using silent.bind rest

/-- After an interruption nothing more is printed. -/
theorem bind_error
    {part : Session α}
    {cause : Interruption Failure}
    {output error : String}
    (first : Prints part (.error cause) output error)
    (next : α → Session β) :
    Prints (part >>= next) (.error cause) output error := by
  intro before
  obtain ⟨after, ran, adds⟩ := first before
  refine ⟨after, ?_, adds⟩
  rw [run_bind, ran]

theorem outcome
    {part : Session α}
    {result : Except (Interruption Failure) α}
    {output error : String}
    (prints : Prints part result output error) :
    Prints (Session.outcome part) (.ok result) output error := by
  intro before
  obtain ⟨after, ran, adds⟩ := prints before
  refine ⟨after, ?_, adds⟩
  change (match part.run before with | (result, left) => (Except.ok result, left)) = _
  rw [ran]

/-- A change of the transcript that touches neither stream prints nothing. -/
theorem modify
    (change : Transcript → Transcript)
    (sameOutput : ∀ transcript, (change transcript).standardOutput = transcript.standardOutput)
    (sameError : ∀ transcript, (change transcript).standardError = transcript.standardError) :
    Prints (modify change) (.ok ⟨⟩) "" "" :=
  fun before => ⟨change before, rfl, by simp [sameOutput], by simp [sameError]⟩

theorem orInterrupt
    (report : Cause → Failure)
    (result : Except (Interruption Cause) α) :
    Prints (Session.orInterrupt report result) (result.mapError (Interruption.map report)) "" "" := by
  cases result with
  | ok value => exact pure value
  | error cause => exact throw (cause.map report)

variable [StandIns]

theorem print (text : String) (encodable : Text.isEncodable text = true) :
    Prints (Session.print text) (.ok ()) text "" := by
  intro before
  rw [Session.print, if_pos encodable]
  exact ⟨_, rfl, rfl, by simp⟩

theorem printError (text : String) :
    Prints (Session.printError text) (.ok ()) "" (Text.escaped text) :=
  fun _ => ⟨_, rfl, by simp, rfl⟩

/-- Notes go to standard error, as the console tells them. -/
theorem note (console : Console) (records : List LogRecord) :
    Prints (Session.note console records) (.ok ()) "" (Text.escaped (console.logText records)) :=
  printError _

/-- Without colours a diagnostic that is shown is shown as it is, with its surrogates
spelled. -/
theorem say
    (console : Console)
    (noColor : console.noColor = true)
    (kind : Diagnostic)
    (shown : console.shows kind = true)
    (message : String) :
    Prints (Session.say console kind message) (.ok ()) ""
      (Text.escaped (kind.plain message ++ "\n")) := by
  rw [Session.say, console.diagnostic_of_noColor kind message shown noColor]
  exact (pure _).bind (printError _)

/-- A part that ends well goes on. -/
theorem conclude
    (console : Console)
    {part : Session α}
    {value : α}
    {next : α → Session Int}
    {result : Except (Interruption Failure) Int}
    {output laterOutput error laterError : String}
    (prints : Prints part (.ok value) output error)
    (rest : Prints (next value) result laterOutput laterError) :
    Prints (Session.conclude console part next) result (output ++ laterOutput)
      (error ++ laterError) :=
  prints.outcome.bind rest

/-- A reported failure is told on standard error, and its exit code is the result. -/
theorem conclude_reported
    (console : Console)
    (noColor : console.noColor = true)
    {part : Session α}
    {failure : Failure}
    {output error : String}
    (prints : Prints part (.error (.reported failure)) output error)
    (next : α → Session Int) :
    Prints (Session.conclude console part next) (.ok failure.exitCode) output
      (error ++ Text.escaped ("Error: " ++ failure.text ++ "\n")) := by
  let told := "Error: " ++ failure.text ++ "\n"
  have whole : Prints (Session.conclude console part next) (.ok failure.exitCode)
      (output ++ ("" ++ "")) (error ++ (Text.escaped told ++ "")) :=
    prints.outcome.bind ((say console noColor .error rfl failure.text).bind (pure _))
  simpa using whole

end Prints
end Session
end ProtocolTypes
