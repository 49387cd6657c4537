import ProtocolTypes.Yaml.Tokens

/-!
# Accidents of scanning

What breaks the reading of a YAML text is one of a few kinds of accident.  Among the tokens it
is a code beyond the characters, or a version of too many digits; every other step over the
text passes on what its parts come to.
-/

namespace ProtocolTypes
namespace Yaml

/-- The kinds of accident that reading a YAML text may end in. -/
def accidents : List Accident :=
  [.badValue, .overflow, .missingItem, .missingKey, .missingMember, .wrongType, .endless]

variable {α β : Type}

/-- An outcome that is a value, a fault, or an accident of these kinds. -/
inductive Foreseen : Except (Interruption Fault) α → Prop
  | value (value : α) : Foreseen (.ok value)
  | fault (fault : Fault) : Foreseen (.error (.reported fault))
  | accident {kind : Accident} (isListed : kind ∈ accidents) :
      Foreseen (.error (.accident kind))

/-- A foreseen outcome may be followed by steps with foreseen outcomes. -/
theorem Foreseen.bind
    {first : Except (Interruption Fault) α}
    {next : α → Except (Interruption Fault) β}
    (foreseen : Foreseen first)
    (others : ∀ value, Foreseen (next value)) :
    Foreseen (first >>= next) := by
  cases foreseen with
  | value value => exact others value
  | fault fault => exact .fault fault
  | accident isListed => exact .accident isListed

theorem Foreseen.map
    {outcome : Except (Interruption Fault) α}
    (foreseen : Foreseen outcome)
    (change : α → β) :
    Foreseen (outcome.map change) := by
  cases foreseen with
  | value value => exact .value _
  | fault fault => exact .fault fault
  | accident isListed => exact .accident isListed

theorem Foreseen.ite
    {condition : Prop}
    [Decidable condition]
    {first second : Except (Interruption Fault) α}
    (whenTrue : Foreseen first)
    (whenFalse : Foreseen second) :
    Foreseen (if condition then first else second) := by
  split
  · exact whenTrue
  · exact whenFalse

/-! ## Words -/

theorem foreseen_scanName (cursor : Cursor) : Foreseen (scanName cursor) := by
  unfold scanName
  dsimp only
  split
  · exact .fault _
  · exact .value _

theorem foreseen_scanHandle (cursor : Cursor) : Foreseen (scanHandle cursor) := by
  unfold scanHandle
  split
  · exact .fault _
  · split
    · exact .value _
    · dsimp only
      split
      · exact .value _
      · exact .fault _

/-- An escaped byte without two digits is a fault; by induction on the fuel. -/
theorem foreseen_scanEscapedBytes (fuel : Nat) (cursor : Cursor) :
    Foreseen (scanEscapedBytes fuel cursor) := by
  induction fuel generalizing cursor with
  | zero => exact .value _
  | succ fuel inductionHypothesis =>
      unfold scanEscapedBytes
      split
      · split
        · exact (inductionHypothesis _).bind fun _ => .value _
        · exact .fault _
      · exact .fault _
      · exact .value _

/-- Escaped bytes that encode nothing are a fault; by induction on the fuel. -/
theorem foreseen_scanAddressParts (fuel : Nat) (cursor : Cursor) :
    Foreseen (scanAddressParts fuel cursor) := by
  induction fuel generalizing cursor with
  | zero => exact .value _
  | succ fuel inductionHypothesis =>
      unfold scanAddressParts
      split
      · refine (foreseen_scanEscapedBytes _ cursor).bind fun _ => ?_
        dsimp only
        split
        · exact (inductionHypothesis _).bind fun _ => .value _
        · exact .fault _
      · dsimp only
        split
        · exact .value _
        · exact (inductionHypothesis _).bind fun _ => .value _

theorem foreseen_scanAddress (cursor : Cursor) : Foreseen (scanAddress cursor) := by
  refine (foreseen_scanAddressParts _ cursor).bind fun _ => ?_
  dsimp only
  split
  · exact .fault _
  · exact .value _

theorem foreseen_scanTagParts (cursor : Cursor) : Foreseen (scanTagParts cursor) := by
  unfold scanTagParts
  split
  · refine (foreseen_scanAddress _).bind fun _ => ?_
    dsimp only
    split
    · exact .value _
    · exact .fault _
  · split
    · exact .value _
    · dsimp only
      split
      · refine (foreseen_scanHandle cursor).bind fun _ => ?_
        exact (foreseen_scanAddress _).bind fun _ => .value _
      · exact (foreseen_scanAddress _).bind fun _ => .value _

/-- A tag that no blank follows is a fault. -/
theorem foreseen_scanTag (cursor : Cursor) : Foreseen (scanTag cursor) := by
  refine (foreseen_scanTagParts cursor).bind fun _ => ?_
  dsimp only
  split
  · exact .value _
  · exact .fault _

theorem foreseen_scanLineRest (fault : Fault) (cursor : Cursor) :
    Foreseen (scanLineRest fault cursor) := by
  unfold scanLineRest
  dsimp only
  split
  · exact .value _
  · exact .fault _

theorem foreseen_scanVersionNumber (cursor : Cursor) : Foreseen (scanVersionNumber cursor) := by
  unfold scanVersionNumber
  dsimp only
  split
  · exact .fault _
  · split
    · exact .accident (by decide)
    · exact .value _

theorem foreseen_scanVersion (cursor : Cursor) : Foreseen (scanVersion cursor) := by
  refine (foreseen_scanVersionNumber _).bind fun _ => ?_
  dsimp only
  split
  · exact .fault _
  · refine (foreseen_scanVersionNumber _).bind fun _ => ?_
    split
    · exact .value _
    · exact .fault _

/-- A handle that is not defined as it should be is a fault. -/
theorem foreseen_scanHandleDefinition (cursor : Cursor) :
    Foreseen (scanHandleDefinition cursor) := by
  refine (foreseen_scanHandle _).bind fun _ => ?_
  dsimp only
  split
  · exact .fault _
  · refine (foreseen_scanAddress _).bind fun _ => ?_
    split
    · exact .value _
    · exact .fault _

/-- A directive has a name, and ends with its line, or it is a fault. -/
theorem foreseen_scanDirective (cursor : Cursor) : Foreseen (scanDirective cursor) := by
  unfold scanDirective
  dsimp only
  split
  · exact .fault _
  · have foreseenEnd (token : Token) (after : Cursor) :
        Foreseen (scanLineRest .badDirective after >>= fun last => pure (token, last)) :=
      (foreseen_scanLineRest _ after).bind fun _ => .value _
    split
    · exact (foreseen_scanVersion _).bind fun _ => foreseenEnd _ _
    · split
      · exact (foreseen_scanHandleDefinition _).bind fun _ => foreseenEnd _ _
      · exact foreseenEnd _ _

/-! ## Scalars -/

theorem foreseen_scanFoldedBreaks (fuel : Nat) (cursor : Cursor) :
    Foreseen (scanFoldedBreaks fuel cursor) := by
  induction fuel generalizing cursor with
  | zero => exact .value _
  | succ fuel inductionHypothesis =>
      unfold scanFoldedBreaks
      split
      · exact .fault _
      · dsimp only
        split
        · exact (inductionHypothesis _).bind fun _ => .value _
        · exact .value _

section

variable [StandIns]

/-- A code breaks off only beyond the characters. -/
theorem mem_accidents_of_characterOfCode
    {code : Nat}
    {accident : Accident}
    (breaks : characterOfCode code = .error accident) :
    accident ∈ accidents := by
  unfold characterOfCode at breaks
  split at breaks
  · cases breaks
    decide
  · split at breaks
    · cases breaks
      decide
    · cases breaks

/-- The code of an escape may be larger than any character's. -/
theorem foreseen_scanEscape (cursor : Cursor) : Foreseen (scanEscape cursor) := by
  unfold scanEscape
  split
  · exact .fault _
  · split
    · exact .value _
    · split
      · dsimp only
        split
        · split
          · exact .fault _
          · split
            · exact .value _
            · next breaks => exact .accident (mem_accidents_of_characterOfCode breaks)
        · exact .fault _
      · split
        · exact foreseen_scanFoldedBreaks _ _
        · exact .fault _

/-- A quoted scalar that does not end is a fault; by the cases of the scanner. -/
theorem foreseen_scanQuotedRest (double : Bool) (fuel : Nat) (cursor : Cursor) :
    Foreseen (scanQuotedRest double fuel cursor) := by
  induction fuel generalizing cursor with
  | zero => exact .fault _
  | succ fuel inductionHypothesis =>
      unfold scanQuotedRest
      split
      · exact .fault _
      · refine .ite ?_ (.ite (.value _) (.ite ?_ (.ite ?_ ?_)))
        · exact (inductionHypothesis _).bind fun _ => .value _
        · refine (foreseen_scanEscape _).bind fun _ => ?_
          exact (inductionHypothesis _).bind fun _ => .value _
        · dsimp only
          split
          · refine (foreseen_scanFoldedBreaks _ _).bind fun _ => ?_
            exact (inductionHypothesis _).bind fun _ => .value _
          · exact (inductionHypothesis _).bind fun _ => .value _
        · exact (inductionHypothesis _).bind fun _ => .value _

theorem foreseen_scanQuoted (double : Bool) (cursor : Cursor) :
    Foreseen (scanQuoted double cursor) :=
  (foreseen_scanQuotedRest double _ _).bind fun _ => .value _

end

/-- The header of a block scalar ends its line, or it is a fault. -/
theorem foreseen_scanBlockHeader (cursor : Cursor) : Foreseen (scanBlockHeader cursor) := by
  unfold scanBlockHeader
  dsimp only
  split
  · exact .fault _
  · exact (foreseen_scanLineRest _ _).bind fun _ => .value _

theorem foreseen_scanBlock (folded : Bool) (indent : Nat) (cursor : Cursor) :
    Foreseen (scanBlock folded indent cursor) :=
  (foreseen_scanBlockHeader _).bind fun _ => .value _

/-! ## Tokens -/

namespace Progress

/-- A required key that is left too far behind is a fault. -/
theorem foreseen_dropStaleKeys (progress : Progress) : Foreseen progress.dropStaleKeys := by
  unfold dropStaleKeys
  dsimp only
  split
  · exact .fault _
  · exact .value _

/-- Forgetting a required key is a fault. -/
theorem foreseen_dropKey (progress : Progress) : Foreseen progress.dropKey := by
  unfold dropKey
  split
  · split
    · exact .fault _
    · exact .value _
  · exact .value _

/-- Remembering a possible key forgets the one before. -/
theorem foreseen_rememberKey (progress : Progress) : Foreseen progress.rememberKey := by
  unfold rememberKey
  split
  · exact .value _
  · exact (foreseen_dropKey _).bind fun _ => .value _

theorem foreseen_scanMarker (token : Token) (progress : Progress) :
    Foreseen (progress.scanMarker token) :=
  (foreseen_dropKey _).bind fun _ => .value _

theorem foreseen_scanFlowStart (token : Token) (progress : Progress) :
    Foreseen (progress.scanFlowStart token) :=
  (foreseen_rememberKey _).bind fun _ => .value _

theorem foreseen_scanFlowEnd (token : Token) (progress : Progress) :
    Foreseen (progress.scanFlowEnd token) := by
  unfold scanFlowEnd
  split
  · exact .fault _
  · exact (foreseen_dropKey _).bind fun _ => .value _

theorem foreseen_scanFlowEntry (progress : Progress) : Foreseen progress.scanFlowEntry :=
  (foreseen_dropKey _).bind fun _ => .value _

theorem foreseen_scanBlockEntry (progress : Progress) : Foreseen progress.scanBlockEntry := by
  unfold scanBlockEntry
  split
  · exact .fault _
  · exact (foreseen_dropKey _).bind fun _ => .value _

theorem foreseen_scanKey (progress : Progress) : Foreseen progress.scanKey := by
  unfold scanKey
  split
  · exact .fault _
  · exact (foreseen_dropKey _).bind fun _ => .value _

theorem foreseen_scanValue (progress : Progress) : Foreseen progress.scanValue := by
  unfold scanValue
  split
  · exact .value _
  · split
    · exact .fault _
    · exact (foreseen_dropKey _).bind fun _ => .value _

/-- A token that may be a key is as foreseen as its step. -/
theorem foreseen_scanKeyable
    (step : Cursor → Scan (Token × Cursor))
    (foreseen : ∀ cursor, Foreseen (step cursor))
    (progress : Progress) :
    Foreseen (progress.scanKeyable step) := by
  refine (foreseen_rememberKey progress).bind fun _ => ?_
  exact (foreseen progress.cursor).bind fun _ => .value _

theorem foreseen_scanPlainToken (progress : Progress) : Foreseen progress.scanPlainToken :=
  (foreseen_rememberKey _).bind fun _ => .value _

theorem foreseen_scanBlockToken (folded : Bool) (progress : Progress) :
    Foreseen (progress.scanBlockToken folded) := by
  refine (foreseen_dropKey _).bind fun _ => ?_
  exact (foreseen_scanBlock folded _ _).bind fun _ => .value _

theorem foreseen_scanDirectiveToken (progress : Progress) :
    Foreseen progress.scanDirectiveToken := by
  refine (foreseen_dropKey _).bind fun _ => ?_
  exact (foreseen_scanDirective _).bind fun _ => .value _

theorem foreseen_scanNameToken (make : String → Token) (cursor : Cursor) :
    Foreseen (scanNameToken make cursor) :=
  (foreseen_scanName cursor).bind fun _ => .value _

/-- The first character tells which token is scanned. -/
theorem foreseen_scanToken [StandIns] (first : Char) (progress : Progress) :
    Foreseen (progress.scanToken first) := by
  unfold scanToken
  refine .ite (foreseen_scanDirectiveToken _) ?_
  refine .ite (foreseen_scanMarker _ _) (.ite (foreseen_scanMarker _ _) ?_)
  refine .ite (foreseen_scanFlowStart _ _) (.ite (foreseen_scanFlowStart _ _) ?_)
  refine .ite (foreseen_scanFlowEnd _ _) (.ite (foreseen_scanFlowEnd _ _) ?_)
  refine .ite (foreseen_scanFlowEntry _) (.ite (foreseen_scanBlockEntry _) ?_)
  refine .ite (foreseen_scanKey _) (.ite (foreseen_scanValue _) ?_)
  refine .ite (foreseen_scanKeyable _ (foreseen_scanNameToken _) _) ?_
  refine .ite (foreseen_scanKeyable _ (foreseen_scanNameToken _) _) ?_
  refine .ite (foreseen_scanKeyable _ foreseen_scanTag _) ?_
  refine .ite (foreseen_scanBlockToken _ _) (.ite (foreseen_scanBlockToken _ _) ?_)
  refine .ite (foreseen_scanKeyable _ (foreseen_scanQuoted _) _) ?_
  refine .ite (foreseen_scanKeyable _ (foreseen_scanQuoted _) _) ?_
  exact .ite (foreseen_scanPlainToken _) (.fault _)

/-- A step of the scanner has foreseen accidents alone. -/
theorem foreseen_step [StandIns] (progress : Progress) : Foreseen progress.step := by
  refine (foreseen_dropStaleKeys _).bind fun _ => ?_
  dsimp only
  split
  · exact (foreseen_dropKey _).bind fun _ => .value _
  · exact (foreseen_scanToken _ _).bind fun _ => .value _

end Progress

/-- What keeps a token from being told is nothing unforeseen. -/
def Words.Foreseen (words : Words) : Prop :=
  ∀ cause, words.cause = some cause → Yaml.Foreseen (.error cause : Scan Progress.Step)

/-- So has a whole run; by induction on the fuel, one step after the other. -/
theorem Progress.foreseen_scanAll [StandIns] (fuel : Nat) (progress : Progress) :
    (scanAll fuel progress).Foreseen := by
  induction fuel generalizing progress with
  | zero => rintro cause ⟨⟩
  | succ fuel inductionHypothesis =>
      have foreseen := foreseen_step progress
      unfold scanAll
      split
      · rintro cause ⟨⟩
      · exact inductionHypothesis _
      · next isError =>
          rintro cause ⟨⟩
          exact isError ▸ foreseen

/-- The words of a text are scanned without an unforeseen accident. -/
theorem Words.foreseen_ofText [StandIns] (text : String) : (ofText text).Foreseen := by
  unfold ofText
  dsimp only
  split
  · rintro cause ⟨⟩
    exact .fault _
  · exact Progress.foreseen_scanAll _ _

end Yaml
end ProtocolTypes
