import ProtocolTypes.Linter.Run
import ProtocolTypes.Proofs.Json.LongNumbers
import ProtocolTypes.Proofs.Results

/-!
# How the lint pass ends

A lint pass has a result, or a fault that is reported as one of linting, unless an accident
breaks it.  The accidents are told in full, from a line number in a report up to the outcome
of the linter: a report is read item by item, and the first one of another shape than the
reader takes for granted breaks the reading.
-/

namespace ProtocolTypes

namespace LintReport

/-- The value is a map. -/
def IsMap : Value → Prop
  | .map _ => True
  | _ => False

/-- The value is a number, a truth value or a text, which may stand for a number. -/
def IsNumberLike : Value → Prop
  | .int _ | .bool _ | .float _ | .str _ => True
  | _ => False

/-- The value is a list, a text or a map, and so has items. -/
def HasItems : Value → Prop
  | .list _ | .str _ | .map _ => True
  | _ => False

/-- How an accident breaks the reading of a line or a column. -/
inductive PlaceBreaks : Value → Accident → Prop
  | text {text : String} (isNoNumber : numberOfText? text = none) :
      PlaceBreaks (.str text) .badValue
  | notANumber
      {value : Float}
      (notFinite : Binary64.truncate? value = none)
      (isNaN : value.isNaN = true) :
      PlaceBreaks (.float value) .badValue
  | infinite
      {value : Float}
      (notFinite : Binary64.truncate? value = none)
      (isNumber : value.isNaN = false) :
      PlaceBreaks (.float value) .overflow
  | otherShape {value : Value} (isOther : ¬IsNumberLike value) : PlaceBreaks value .wrongType

/-- How an accident breaks the reading of a problem: its line is read first, then its column,
then its severity. -/
inductive ProblemBreaks : Value → Accident → Prop
  | otherShape {value : Value} (isOther : ¬IsMap value) : ProblemBreaks value .missingMember
  | line
      {entries : List (Value × Value)}
      {accident : Accident}
      (breaks : PlaceBreaks (entryOr (.int 0) "line" entries) accident) :
      ProblemBreaks (.map entries) accident
  | column
      {entries : List (Value × Value)}
      {accident : Accident}
      (isLine : ∀ other, ¬PlaceBreaks (entryOr (.int 0) "line" entries) other)
      (breaks : PlaceBreaks (entryOr (.int 0) "column" entries) accident) :
      ProblemBreaks (.map entries) accident
  | severity
      {entries : List (Value × Value)}
      (isLine : ∀ other, ¬PlaceBreaks (entryOr (.int 0) "line" entries) other)
      (isColumn : ∀ other, ¬PlaceBreaks (entryOr (.int 0) "column" entries) other)
      (isCollection : (∃ items, entryOr (.int 2) "severity" entries = .list items) ∨
        ∃ parts, entryOr (.int 2) "severity" entries = .map parts) :
      ProblemBreaks (.map entries) .wrongType

/-- How an accident breaks the reading of a list of problems: at the first one that breaks. -/
inductive ProblemsBreak : Value → Accident → Prop
  | item
      {before after : List Value}
      {bad : Value}
      {accident : Accident}
      (fine : ∀ earlier ∈ before, ∀ other, ¬ProblemBreaks earlier other)
      (breaks : ProblemBreaks bad accident) :
      ProblemsBreak (.list (before ++ bad :: after)) accident
  | text {text : String} (notEmpty : text ≠ "") : ProblemsBreak (.str text) .missingMember
  | map {entries : List (Value × Value)} (notEmpty : entries ≠ []) :
      ProblemsBreak (.map entries) .missingMember
  | otherShape {value : Value} (isOther : ¬HasItems value) : ProblemsBreak value .wrongType

/-- How an accident breaks the reading of a report that is not empty. -/
inductive ReportBreaks : Value → Accident → Prop
  | problems
      {entries : List (Value × Value)}
      {others : List Value}
      {accident : Accident}
      (breaks : ProblemsBreak (entryOr (.list []) "messages" entries) accident) :
      ReportBreaks (.list (.map entries :: others)) accident
  | entry {entry : Value} {others : List Value} (isOther : ¬IsMap entry) :
      ReportBreaks (.list (entry :: others)) .missingMember
  | map {entries : List (Value × Value)} (notEmpty : entries ≠ []) :
      ReportBreaks (.map entries) .missingKey
  | text {text : String} (notEmpty : text ≠ "") : ReportBreaks (.str text) .missingMember
  | otherShape {value : Value} (isTruthy : value.isTruthy = true) (isOther : ¬HasItems value) :
      ReportBreaks value .wrongType

/-- A number in a report breaks it exactly as told. -/
theorem place_eq_error_iff (value : Value) (accident : Accident) :
    place value = .error accident ↔ PlaceBreaks value accident := by
  constructor
  · intro fails
    unfold place at fails
    split at fails
    · cases fails
    · cases fails
    · next number =>
        split at fails
        · cases fails
        · next notFinite =>
            cases isNaN : number.isNaN with
            | true =>
                rw [isNaN] at fails
                cases fails
                exact .notANumber notFinite isNaN
            | false =>
                rw [isNaN] at fails
                cases fails
                exact .infinite notFinite isNaN
    · split at fails
      · cases fails
      · next isNoNumber =>
          cases fails
          exact .text isNoNumber
    · next notInt notBool notFloat notText =>
        cases fails
        refine .otherShape ?_
        cases value with
        | int number => exact absurd rfl (notInt number)
        | bool truth => exact absurd rfl (notBool truth)
        | float number => exact absurd rfl (notFloat number)
        | str text => exact absurd rfl (notText text)
        | _ => exact id
  · intro breaks
    cases breaks with
    | text isNoNumber => simp only [place, isNoNumber]
    | notANumber notFinite isNaN => simp only [place, notFinite, isNaN, if_true]
    | infinite notFinite isNumber =>
        simp only [place, notFinite, isNumber, Bool.false_eq_true, if_false]
    | otherShape isOther =>
        cases value with
        | int | bool | float | str => exact absurd trivial isOther
        | _ => rfl

/-- A severity breaks a report if it cannot be hashed. -/
theorem severity_eq_error_iff (value : Value) (accident : Accident) :
    severity value = .error accident ↔
      ((∃ items, value = .list items) ∨ ∃ parts, value = .map parts) ∧
        accident = .wrongType := by
  cases value with
  | list items => simp [severity, eq_comm]
  | map parts => simp [severity, eq_comm]
  | bool truth => cases truth <;> simp [severity]
  | _ => simp [severity]

/-- A line or a column is read unless an accident breaks it. -/
theorem exists_place_iff (value : Value) :
    (∃ number, place value = .ok number) ↔ ∀ other, ¬PlaceBreaks value other := by
  simp only [← place_eq_error_iff]
  cases place value <;> simp

/-- A message breaks a report by its form, by one of its numbers or by its severity. -/
theorem problem_eq_error_iff (value : Value) (accident : Accident) :
    problem value = .error accident ↔ ProblemBreaks value accident := by
  constructor
  · intro fails
    cases value with
    | map entries =>
        rcases bind_eq_error_iff.mp fails with noLine | ⟨line, isLine, fails⟩
        · exact .line ((place_eq_error_iff _ _).mp noLine)
        have lineFine := (exists_place_iff _).mp ⟨line, isLine⟩
        rcases bind_eq_error_iff.mp fails with noColumn | ⟨column, isColumn, fails⟩
        · exact .column lineFine ((place_eq_error_iff _ _).mp noColumn)
        have columnFine := (exists_place_iff _).mp ⟨column, isColumn⟩
        rcases bind_eq_error_iff.mp fails with noGrade | ⟨grade, isGrade, fails⟩
        · obtain ⟨isCollection, rfl⟩ := (severity_eq_error_iff _ _).mp noGrade
          exact .severity lineFine columnFine isCollection
        · cases fails
    | _ =>
        cases fails
        exact .otherShape id
  · intro breaks
    cases breaks with
    | otherShape isOther =>
        cases value with
        | map => exact absurd trivial isOther
        | _ => rfl
    | line breaks => exact bind_eq_error_iff.mpr (.inl ((place_eq_error_iff _ _).mpr breaks))
    | column isLine breaks =>
        obtain ⟨line, isLine⟩ := (exists_place_iff _).mpr isLine
        refine bind_eq_error_iff.mpr (.inr ⟨line, isLine, bind_eq_error_iff.mpr (.inl ?_)⟩)
        exact (place_eq_error_iff _ _).mpr breaks
    | severity isLine isColumn isCollection =>
        obtain ⟨line, isLine⟩ := (exists_place_iff _).mpr isLine
        obtain ⟨column, isColumn⟩ := (exists_place_iff _).mpr isColumn
        refine bind_eq_error_iff.mpr (.inr ⟨line, isLine, bind_eq_error_iff.mpr (.inr ?_)⟩)
        refine ⟨column, isColumn, bind_eq_error_iff.mpr (.inl ?_)⟩
        exact (severity_eq_error_iff _ _).mpr ⟨isCollection, rfl⟩

/-- Messages break a report by their form, or by the first broken one. -/
theorem problems_eq_error_iff (value : Value) (accident : Accident) :
    problems value = .error accident ↔ ProblemsBreak value accident := by
  constructor
  · intro fails
    cases value with
    | list items =>
        obtain ⟨before, bad, after, rfl, fine, breaks⟩ := (mapM_eq_error_iff _ _ _).mp fails
        simp only [ne_eq, problem_eq_error_iff] at fine breaks
        exact .item fine breaks
    | str text =>
        simp only [problems, String.isEmpty_iff] at fails
        split at fails
        · cases fails
        · next notEmpty =>
            cases fails
            exact .text notEmpty
    | map entries =>
        simp only [problems, List.isEmpty_iff] at fails
        split at fails
        · cases fails
        · next notEmpty =>
            cases fails
            exact .map notEmpty
    | _ =>
        cases fails
        exact .otherShape id
  · intro breaks
    cases breaks with
    | item fine breaks =>
        refine (mapM_eq_error_iff _ _ _).mpr
          ⟨_, _, _, rfl, ?_, (problem_eq_error_iff _ _).mpr breaks⟩
        simpa only [ne_eq, problem_eq_error_iff] using fine
    | text notEmpty => simp [problems, notEmpty]
    | map notEmpty => simp [problems, notEmpty]
    | otherShape isOther =>
        cases value with
        | list | str | map => exact absurd trivial isOther
        | _ => rfl

/-- A report that is not empty is read unless an accident breaks it. -/
theorem result_eq_error_iff (source : String) (report : Value) (accident : Accident) :
    result source report = .error accident ↔ ReportBreaks report accident := by
  constructor
  · intro fails
    unfold result at fails
    split at fails
    · cases fails
    · next isTruthy =>
        replace isTruthy : report.isTruthy = true := by simpa using isTruthy
        split at fails
        · next entry others =>
            cases entry with
            | map entries =>
                rcases bind_eq_error_iff.mp fails with broken | ⟨_, _, fails⟩
                · exact .problems ((problems_eq_error_iff _ _).mp broken)
                · cases fails
            | _ =>
                cases fails
                exact .entry id
        · next entries =>
            cases fails
            exact .map (by simpa [Value.isTruthy] using isTruthy)
        · next text =>
            cases fails
            exact .text (by simpa [Value.isTruthy] using isTruthy)
        · next notList notMap notText =>
            cases fails
            refine .otherShape isTruthy ?_
            cases report with
            | list items =>
                cases items with
                | nil => cases isTruthy
                | cons entry others => exact absurd rfl (notList entry others)
            | map entries => exact absurd rfl (notMap entries)
            | str text => exact absurd rfl (notText text)
            | _ => exact id
  · intro breaks
    cases breaks with
    | problems breaks => exact bind_eq_error_iff.mpr (.inl ((problems_eq_error_iff _ _).mpr breaks))
    | @entry entry others isOther =>
        cases entry with
        | map => exact absurd trivial isOther
        | _ => rfl
    | map notEmpty => simp [result, Value.isTruthy, notEmpty]
    | text notEmpty => simp [result, Value.isTruthy, notEmpty]
    | otherShape isTruthy isOther =>
        unfold result
        rw [isTruthy]
        cases report with
        | list | str | map => exact absurd trivial isOther
        | _ => rfl

end LintReport

namespace Linter

/-- The text that is read as the report of a linter; no output is an empty report. -/
def reportText (output : String) : String :=
  if output.isEmpty then "[]" else output

section

variable [StandIns]

/-- How an accident breaks a lint pass that the source does not stand in the way of. -/
inductive OutcomeBreaks (settings : LintSettings) : LinterOutcome → Accident → Prop
  /-- There is no program to start, nor one whose name could be told. -/
  | noProgram (noCommand : settings.command = []) :
      OutcomeBreaks settings .missing .missingItem
  /-- The program cannot be started. -/
  | refused (accident : Accident) : OutcomeBreaks settings (.refused accident) accident
  /-- What the program prints is no text. -/
  | garbled : OutcomeBreaks settings .garbled .badEncoding
  /-- An integer of the report has more digits than are converted. -/
  | longNumber
      {exitCode : Int}
      {output errors : String}
      (isRegular : isRegular exitCode = true)
      (stops : Json.read (reportText output) = .error .hugeInteger)
      (isThere : Json.HasLongNumber output.toList) :
      OutcomeBreaks settings (.finished exitCode output errors) .badValue
  /-- The report has another shape than it is read by. -/
  | report
      {exitCode : Int}
      {output errors : String}
      {report : Value}
      {accident : Accident}
      (isRegular : isRegular exitCode = true)
      (isReport : Json.read (reportText output) = .ok report)
      (breaks : LintReport.ReportBreaks report accident) :
      OutcomeBreaks settings (.finished exitCode output errors) accident

/-- How an accident breaks a lint pass. -/
inductive PassBreaks (settings : LintSettings) (source : String) :
    LinterOutcome → Accident → Prop
  /-- The program is started and cannot be given the source. -/
  | source
      {outcome : LinterOutcome}
      (isEnabled : settings.enabled = true)
      (isStarted : outcome.isStarted = true)
      (noEncoding : Text.isEncodable source = false) :
      PassBreaks settings source outcome .unencodable
  | outcome
      {outcome : LinterOutcome}
      {accident : Accident}
      (isEnabled : settings.enabled = true)
      (isTaken : outcome.isStarted = true → Text.isEncodable source = true)
      (breaks : OutcomeBreaks settings outcome accident) :
      PassBreaks settings source outcome accident

/-- What the linter prints breaks the pass by a long number or by the form of the report. -/
theorem resultOfOutput_eq_accident_iff (source output : String) (accident : Accident) :
    resultOfOutput source output = .error (.accident accident) ↔
      (accident = .badValue ∧ Json.read (reportText output) = .error .hugeInteger) ∨
        ∃ report, Json.read (reportText output) = .ok report ∧
          LintReport.ReportBreaks report accident := by
  unfold resultOfOutput reportText
  generalize Json.read (if output.isEmpty then "[]" else output) = reading
  cases reading with
  | ok report =>
      simp only [reduceCtorEq, and_false, Except.ok.injEq, exists_eq_left', false_or,
        ← LintReport.result_eq_error_iff source]
      cases LintReport.result source report <;> simp [Except.mapError]
  | error refusal => cases refusal <;> simp [eq_comm]

/-- An output whose number is too long is the report itself. -/
theorem hasLongNumber_of_reportText
    {output : String}
    (stops : Json.read (reportText output) = .error .hugeInteger) :
    Json.HasLongNumber output.toList := by
  unfold reportText at stops
  split at stops
  · have isEmptyReport : Json.read "[]" = .ok (.list []) := rfl
    rw [isEmptyReport] at stops
    cases stops
  · exact Json.hasLongNumber_of_read stops

/-- The outcome of the linter breaks the pass exactly as told. -/
theorem resultOfTaken_eq_accident_iff
    (settings : LintSettings)
    (source : String)
    (outcome : LinterOutcome)
    (accident : Accident) :
    resultOfTaken settings source outcome = .error (.accident accident) ↔
      OutcomeBreaks settings outcome accident := by
  constructor
  · intro broken
    cases outcome with
    | missing =>
        cases hasCommand : settings.command with
        | cons program words =>
            rw [resultOfTaken, hasCommand] at broken
            cases broken
        | nil =>
            rw [resultOfTaken, hasCommand] at broken
            cases broken
            exact .noProgram hasCommand
    | refused reason =>
        cases broken
        exact .refused _
    | timedOut => cases broken
    | garbled =>
        cases broken
        exact .garbled
    | finished exitCode output errors =>
        rw [resultOfTaken] at broken
        split at broken
        · next isRegular =>
            rcases (resultOfOutput_eq_accident_iff _ _ _).mp broken with
              ⟨rfl, stops⟩ | ⟨report, isReport, breaks⟩
            · exact .longNumber isRegular stops (hasLongNumber_of_reportText stops)
            · exact .report isRegular isReport breaks
        · cases broken
  · intro breaks
    cases breaks with
    | noProgram noCommand => rw [resultOfTaken, noCommand]
    | refused => rfl
    | garbled => rfl
    | longNumber isRegular stops isThere =>
        rw [resultOfTaken, if_pos isRegular]
        exact (resultOfOutput_eq_accident_iff _ _ _).mpr (.inl ⟨rfl, stops⟩)
    | report isRegular isReport breaks =>
        rw [resultOfTaken, if_pos isRegular]
        exact (resultOfOutput_eq_accident_iff _ _ _).mpr (.inr ⟨_, isReport, breaks⟩)

/-- A pass is broken exactly as told, from the start of the linter to its report. -/
theorem lint_eq_accident_iff
    (settings : LintSettings)
    (source : String)
    (outcome : LinterOutcome)
    (accident : Accident) :
    lint settings source outcome = .error (.accident accident) ↔
      PassBreaks settings source outcome accident := by
  constructor
  · intro broken
    unfold lint at broken
    split at broken
    · next isEnabled =>
        unfold resultOf at broken
        split at broken
        · next isRefused =>
            cases broken
            simp only [Bool.and_eq_true, Bool.not_eq_true'] at isRefused
            exact .source isEnabled isRefused.1 isRefused.2
        · next isTaken =>
            refine .outcome isEnabled ?_ ((resultOfTaken_eq_accident_iff _ _ _ _).mp broken)
            simpa using isTaken
    · cases broken
  · intro breaks
    cases breaks with
    | source isEnabled isStarted noEncoding =>
        rw [lint, if_pos isEnabled, resultOf, if_pos (by simp [isStarted, noEncoding])]
    | outcome isEnabled isTaken breaks =>
        have notRefused : ¬(outcome.isStarted && !Text.isEncodable source) = true := by
          simpa using isTaken
        rw [lint, if_pos isEnabled, resultOf, if_neg notRefused]
        exact (resultOfTaken_eq_accident_iff _ _ _ _).mpr breaks

omit [StandIns] in
/-- A lint pass has a result, or fails as linting does. -/
def EndsAsDeclared (linted : Linted) : Prop :=
  (∃ result, linted = .ok result) ∨
    ∃ fault, linted = .error (.reported fault) ∧ fault.report.kind = .lint

omit [StandIns] in
/-- A pass ends as declared exactly if there is no accident. -/
theorem endsAsDeclared_iff (linted : Linted) :
    EndsAsDeclared linted ↔ ∀ accident, linted ≠ .error (.accident accident) := by
  cases linted with
  | ok result => simp [EndsAsDeclared]
  | error cause => cases cause <;> simp [EndsAsDeclared]

/-- A lint pass ends as declared, unless an accident breaks it in one of the ways that are
told. -/
theorem lint_ends_as_declared_unless_broken
    (settings : LintSettings)
    (source : String)
    (outcome : LinterOutcome) :
    EndsAsDeclared (lint settings source outcome) ↔
      ∀ accident, ¬PassBreaks settings source outcome accident := by
  rw [endsAsDeclared_iff]
  exact forall_congr' fun accident => not_congr (lint_eq_accident_iff settings source outcome _)

end

/-- A report that is a number, and no list with an entry for the file, breaks the pass. -/
theorem lint_breaks_on_a_number :
    ¬EndsAsDeclared (lint { enabled := true } "" (.finished 0 "7" "")) := by
  rw [endsAsDeclared_iff]
  exact fun neverBroken => neverBroken .wrongType rfl

end Linter
end ProtocolTypes
