import Mathlib.Data.List.Infix
import Mathlib.Data.List.TakeWhile
import ProtocolTypes.Json.Read

/-!
# Long numbers in JSON texts

The reader stops at an integer of too many digits only where the text has one: every step
leaves a rear part of the characters that it was given, so what stops it is in the text.
-/

namespace ProtocolTypes
namespace Json

/-- The text has more decimal digits in a row than are converted. -/
def HasLongNumber (text : List Char) : Prop :=
  ∃ digits, digits <:+: text ∧ Digits.maxDecimalDigits < digits.length ∧
    ∀ digit ∈ digits, digit.isDigit

/-- A long number in the rear of a text is one of the text. -/
theorem HasLongNumber.of_suffix
    {text rear : List Char}
    (long : HasLongNumber rear)
    (isRear : rear <:+ text) :
    HasLongNumber text := by
  obtain ⟨digits, isPart, isLong, areDigits⟩ := long
  exact ⟨digits, isPart.trans isRear.isInfix, isLong, areDigits⟩

variable {α β : Type}

/-- What a step over the text may come to: it leaves a rear part of it, or stops at a fault, or
at a long number in it. -/
inductive Fair (text : List Char) : Except Stop (α × List Char) → Prop
  | leaves (value : α) {left : List Char} (isRear : left <:+ text) : Fair text (.ok (value, left))
  | fault (reason : Reason) (left : List Char) : Fair text (.error (.fault reason left))
  | hugeInteger (long : HasLongNumber text) : Fair text (.error .hugeInteger)

/-- A step that is fair to the rear of a text is fair to the text. -/
theorem Fair.of_suffix
    {text rear : List Char}
    {step : Except Stop (α × List Char)}
    (fair : Fair rear step)
    (isRear : rear <:+ text) :
    Fair text step := by
  cases fair with
  | leaves value isLeft => exact .leaves value (isLeft.trans isRear)
  | fault reason left => exact .fault reason left
  | hugeInteger long => exact .hugeInteger (long.of_suffix isRear)

/-- A fair step may be followed by steps that are fair to what is left. -/
theorem Fair.bind
    {text : List Char}
    {step : Except Stop (α × List Char)}
    {next : α × List Char → Except Stop (β × List Char)}
    (fair : Fair text step)
    (others : ∀ value left, Fair left (next (value, left))) :
    Fair text (step >>= next) := by
  cases fair with
  | leaves value isRear => exact (others value _).of_suffix isRear
  | fault reason left => exact .fault reason left
  | hugeInteger long => exact .hugeInteger long

theorem Fair.map
    {text : List Char}
    {step : Except Stop (α × List Char)}
    (fair : Fair text step)
    (change : α → β) :
    Fair text (step.map fun (value, left) => (change value, left)) := by
  cases fair with
  | leaves value isRear => exact .leaves (change value) isRear
  | fault reason left => exact .fault reason left
  | hugeInteger long => exact .hugeInteger long

theorem skipBlanks_suffix (text : List Char) : skipBlanks text <:+ text :=
  List.dropWhile_suffix isBlank

/-- Four digits leave the rear of the text. -/
theorem hexQuad?_suffix
    {text left : List Char}
    {value : Nat}
    (read : hexQuad? text = some (value, left)) :
    left <:+ text := by
  unfold hexQuad? at read
  split at read
  · next first second third fourth rest =>
      simp only [Option.bind_eq_bind, Option.bind_eq_some_iff, Option.pure_def,
        Option.some.injEq, Prod.mk.injEq] at read
      obtain ⟨_, _, _, _, _, _, _, _, _, rfl⟩ := read
      exact List.suffix_append [first, second, third, fourth] rest
  · cases read

/-- A long escape leaves the rear of the text. -/
theorem longEscape_suffix
    [StandIns]
    {text left : List Char}
    {character : Char}
    (read : longEscape text = .ok (character, left)) :
    left <:+ text := by
  unfold longEscape at read
  split at read
  · cases read
  · cases read
  · next high rest _ quad =>
      have isRear := hexQuad?_suffix quad
      have keeps {point : Char}
          (same : (.ok (point, rest) : Except (List Char) (Char × List Char)) =
            .ok (character, left)) :
          left <:+ text := by
        simp only [Except.ok.injEq, Prod.mk.injEq] at same
        exact same.2 ▸ isRear
      split at read
      · split at read
        · next digits =>
            split at read
            · split at read
              · cases read
              · next low after quadToo =>
                  split at read
                  · simp only [Except.ok.injEq, Prod.mk.injEq] at read
                    obtain ⟨-, rfl⟩ := read
                    have isRearToo := hexQuad?_suffix quadToo
                    exact (isRearToo.trans (List.suffix_append ['\\', 'u'] _)).trans isRear
                  · exact keeps read
            · exact keeps read
        · exact keeps read
      · exact keeps read

/-- Reading a string leaves the rear of the text and breaks off at no number. -/
theorem fair_readString [StandIns] (start : List Char) (fuel : Nat) (before text : List Char) :
    Fair text (readString start fuel before text) := by
  fun_induction readString start fuel before text with
  | case1 => exact .fault _ _
  | case2 => exact .fault _ _
  | case3 _ _ rest => exact .leaves _ (List.suffix_cons _ rest)
  | case4 => exact .fault _ _
  | case5 _ _ rest character after escape inductionHypothesis =>
      have isRear := (longEscape_suffix escape).trans (List.suffix_append ['\\', 'u'] rest)
      exact inductionHypothesis.of_suffix isRear
  | case6 => exact .fault _ _
  | case7 _ _ escape rest _ character _ inductionHypothesis =>
      exact inductionHypothesis.of_suffix (List.suffix_append ['\\', escape] rest)
  | case8 => exact .fault _ _
  | case9 => exact .fault _ _
  | case10 _ _ character rest _ _ _ _ _ inductionHypothesis =>
      exact inductionHypothesis.of_suffix (List.suffix_cons character rest)

/-- The digits in front of a point begin the text, and what is left follows them. -/
theorem wholeDigits_spec (text : List Char) :
    (wholeDigits text).1 ++ (wholeDigits text).2 = text ∧
      ∀ digit ∈ (wholeDigits text).1, digit.isDigit := by
  unfold wholeDigits
  split
  · exact ⟨rfl, by simp⟩
  · exact ⟨List.takeWhile_append_dropWhile, fun _ isTaken => List.mem_takeWhile_imp isTaken⟩

theorem fraction?_suffix
    {text decimals left : List Char}
    (read : fraction? text = some (decimals, left)) :
    left <:+ text := by
  unfold fraction? at read
  split at read
  · next rest =>
      simp only [Option.ite_none_left_eq_some, Option.some.injEq, Prod.mk.injEq] at read
      obtain ⟨_, _, rfl⟩ := read
      exact (List.dropWhile_suffix _).trans (List.suffix_cons '.' rest)
  · cases read

theorem sign_suffix (text : List Char) : (Digits.sign text).2 <:+ text := by
  unfold Digits.sign
  split
  · exact List.suffix_cons _ _
  · exact List.suffix_cons _ _
  · exact List.suffix_rfl

theorem exponent?_suffix
    {text left : List Char}
    {exponent : Int}
    (read : exponent? text = some (exponent, left)) :
    left <:+ text := by
  unfold exponent? at read
  split at read
  · next mark rest =>
      split at read
      · simp only [Option.ite_none_left_eq_some, Option.some.injEq, Prod.mk.injEq] at read
        obtain ⟨_, _, rfl⟩ := read
        exact ((List.dropWhile_suffix _).trans (sign_suffix rest)).trans
          (List.suffix_cons mark rest)
      · cases read
  · cases read

/-- A number whose digits are too many is one of the text. -/
theorem fair_readMagnitude (start : List Char) (negative : Bool) (text : List Char) :
    Fair text (readMagnitude start negative text) := by
  obtain ⟨isText, areDigits⟩ := wholeDigits_spec text
  unfold readMagnitude
  generalize wholeDigits text = number at isText areDigits ⊢
  obtain ⟨whole, afterWhole⟩ := number
  have afterFraction : ((fraction? afterWhole).getD ([], afterWhole)).2 <:+ text := by
    have isRear : afterWhole <:+ text := isText ▸ List.suffix_append whole afterWhole
    cases read : fraction? afterWhole with
    | none => exact isRear
    | some fraction => exact (fraction?_suffix read).trans isRear
  have afterExponent (left : List Char) (isRear : left <:+ text) :
      ((exponent? left).getD (0, left)).2 <:+ text := by
    cases read : exponent? left with
    | none => exact isRear
    | some exponent => exact (exponent?_suffix read).trans isRear
  dsimp only
  split
  · exact .fault _ _
  · split
    · split
      · next isLong =>
          refine .hugeInteger ⟨whole, ?_, isLong, areDigits⟩
          exact isText ▸ (List.prefix_append whole afterWhole).isInfix
      · exact .leaves _ afterFraction
    · exact .leaves _ (afterExponent _ afterFraction)

/-- The sign of a number changes nothing. -/
theorem fair_readNumber (text : List Char) : Fair text (readNumber text) := by
  unfold readNumber
  split
  · next rest => exact (fair_readMagnitude _ _ rest).of_suffix (List.suffix_cons '-' rest)
  · exact fair_readMagnitude _ _ text

theorem fair_of_readWord?
    {text : List Char}
    {found : Value × List Char}
    (read : readWord? text = some found) :
    Fair text (.ok found) := by
  obtain ⟨⟨word, value⟩, -, isFound⟩ := List.exists_of_findSome?_eq_some read
  obtain ⟨left, isAfter, rfl⟩ := Option.map_eq_some_iff.mp isFound
  simp only [afterWord?, Option.ite_none_right_eq_some, Option.some.injEq] at isAfter
  obtain ⟨-, rfl⟩ := isAfter
  exact .leaves value (List.drop_suffix _ _)

section

variable [StandIns]

/-- Every step of the reader is fair: by induction on the depth that is left, for the three
kinds of step at once. -/
theorem fair_steps (fuel : Nat) :
    (∀ text, Fair text (readValue fuel text)) ∧
      (∀ items text, Fair text (readItems fuel items text)) ∧
      ∀ entries text, Fair text (readEntries fuel entries text) := by
  induction fuel with
  | zero =>
      refine ⟨fun text => ?_, fun items text => ?_, fun entries text => ?_⟩
      · exact .fault _ _
      · exact .fault _ _
      · exact .fault _ _
  | succ fuel inductionHypothesis =>
      obtain ⟨fairValue, fairItems, fairEntries⟩ := inductionHypothesis
      refine ⟨fun text => ?value, fun items text => ?items, fun entries text => ?entries⟩
      case value =>
        unfold readValue
        split
        · next rest =>
            exact ((fair_readString _ fuel [] rest).map Value.str).of_suffix
              (List.suffix_cons _ rest)
        · next rest =>
            have isRear := (skipBlanks_suffix rest).trans (List.suffix_cons '\x7b' rest)
            split
            · next left isNext =>
                exact .leaves _ ((List.suffix_cons '\x7d' left).trans (isNext ▸ isRear))
            · exact ((fairEntries [] _).map Value.map).of_suffix isRear
        · next rest =>
            have isRear := (skipBlanks_suffix rest).trans (List.suffix_cons '[' rest)
            split
            · next left isNext =>
                exact .leaves _ ((List.suffix_cons ']' left).trans (isNext ▸ isRear))
            · exact ((fairItems [] _).map Value.list).of_suffix isRear
        · split
          · next found read => exact fair_of_readWord? read
          · exact fair_readNumber _
      case items =>
        unfold readItems
        refine (fairValue text).bind fun item afterItem => ?_
        have isRear := skipBlanks_suffix afterItem
        dsimp only
        split
        · next left isNext =>
            exact .leaves _ ((List.suffix_cons ']' left).trans (isNext ▸ isRear))
        · next left isNext =>
            have isRearToo := (List.suffix_cons ',' left).trans (isNext ▸ isRear)
            exact (fairItems _ _).of_suffix ((skipBlanks_suffix left).trans isRearToo)
        · exact .fault _ _
      case entries =>
        unfold readEntries
        split
        · next rest =>
            refine Fair.of_suffix ?_ (List.suffix_cons '"' rest)
            refine (fair_readString _ fuel [] rest).bind fun key afterKey => ?_
            have isRear := skipBlanks_suffix afterKey
            dsimp only
            split
            · next afterColon isNext =>
                have isRearToo := (List.suffix_cons ':' afterColon).trans (isNext ▸ isRear)
                refine Fair.of_suffix ?_ ((skipBlanks_suffix afterColon).trans isRearToo)
                refine (fairValue _).bind fun value afterValue => ?_
                have isRear := skipBlanks_suffix afterValue
                dsimp only
                split
                · next left isNext =>
                    exact .leaves _ ((List.suffix_cons '\x7d' left).trans (isNext ▸ isRear))
                · next left isNext =>
                    have isRearToo := (List.suffix_cons ',' left).trans (isNext ▸ isRear)
                    exact (fairEntries _ _).of_suffix ((skipBlanks_suffix left).trans isRearToo)
                · exact .fault _ _
            · exact .fault _ _
        · exact .fault _ _

/-- A text that the reader breaks off at has a long number. -/
theorem hasLongNumber_of_readWhole
    {text : List Char}
    (stops : readWhole text = .error .hugeInteger) :
    HasLongNumber text := by
  have fair := (fair_steps (2 * text.length + 2)).1 (skipBlanks text)
  unfold readWhole at stops
  dsimp only at stops
  generalize readValue (2 * text.length + 2) (skipBlanks text) = step at fair stops
  cases fair with
  | hugeInteger long => exact long.of_suffix (skipBlanks_suffix text)
  | fault reason left => cases stops
  | leaves value isRear =>
      dsimp only [bind, Except.bind] at stops
      split at stops
      · cases stops
      · cases stops

/-- The reader stops at an integer only where the text has a long number. -/
theorem hasLongNumber_of_read
    {text : String}
    (stops : read text = .error .hugeInteger) :
    HasLongNumber text.toList := by
  unfold read at stops
  dsimp only at stops
  split at stops
  · cases stops
  · cases result : readWhole text.toList with
    | ok value => rw [result] at stops; cases stops
    | error cause =>
        cases cause with
        | fault reason left => rw [result] at stops; cases stops
        | hugeInteger => exact hasLongNumber_of_readWhole result

end

/-! ## Stopping at a long number -/

/-- Where no zero comes first, all digits are of the whole number. -/
theorem wholeDigits_of_ne {text : List Char} (noZero : ∀ rest, text ≠ '0' :: rest) :
    wholeDigits text = (text.takeWhile Char.isDigit, text.dropWhile Char.isDigit) := by
  unfold wholeDigits
  split
  · next rest => exact absurd rfl (noZero rest)
  · rfl

/-- There are no decimals without a point. -/
theorem fraction?_of_ne {text : List Char} (noPoint : ∀ rest, text ≠ '.' :: rest) :
    fraction? text = none := by
  unfold fraction?
  split
  · next rest => exact absurd rfl (noPoint rest)
  · rfl

/-- There is no exponent without its mark. -/
theorem exponent?_of_ne
    {text : List Char}
    (noMark : ∀ rest, text ≠ 'e' :: rest)
    (noCapital : ∀ rest, text ≠ 'E' :: rest) :
    exponent? text = none := by
  unfold exponent?
  split
  · next mark rest =>
      rw [if_neg]
      intro isMark
      rcases Bool.or_eq_true_iff.mp isMark with same | same
      · exact noMark rest (by rw [eq_of_beq same])
      · exact noCapital rest (by rw [eq_of_beq same])
  · rfl

/-- A text that begins like no string, map or list is a word or a number. -/
theorem readValue_of_ne
    [StandIns]
    {text : List Char}
    (noString : ∀ rest, text ≠ '"' :: rest)
    (noMap : ∀ rest, text ≠ '\x7b' :: rest)
    (noList : ∀ rest, text ≠ '[' :: rest)
    (fuel : Nat) :
    readValue (fuel + 1) text =
      match readWord? text with
      | some found => .ok found
      | none => readNumber text := by
  unfold readValue
  split
  · next rest => exact absurd rfl (noString rest)
  · next rest => exact absurd rfl (noMap rest)
  · next rest => exact absurd rfl (noList rest)
  · rfl

/-- No number goes on with the text. -/
def EndsNumber (text : List Char) : Prop :=
  ∀ character rest, text = character :: rest →
    ¬character.isDigit ∧ character ∉ ['.', 'e', 'E']

theorem EndsNumber.ne
    {text : List Char}
    (ends : EndsNumber text)
    {character : Char}
    (continues : character ∈ ['.', 'e', 'E'])
    (rest : List Char) :
    text ≠ character :: rest :=
  fun same => (ends character rest same).2 continues

section

variable
  {first : Char}
  {digits rest : List Char}
  (areDigits : ∀ digit ∈ first :: digits, digit.isDigit)
  (noZero : first ≠ '0')
  (isLong : Digits.maxDecimalDigits ≤ digits.length)
  (ends : EndsNumber rest)

include areDigits noZero ends

/-- The digits in front of what no number goes on with are all read. -/
theorem wholeDigits_append :
    wholeDigits (first :: digits ++ rest) = (first :: digits, rest) := by
  have stops : rest.takeWhile Char.isDigit = [] ∧ rest.dropWhile Char.isDigit = rest := by
    cases rest with
    | nil => exact ⟨rfl, rfl⟩
    | cons character rest =>
        have noDigit := (ends character rest rfl).1
        exact ⟨List.takeWhile_cons_of_neg noDigit, List.dropWhile_cons_of_neg noDigit⟩
  rw [wholeDigits_of_ne (by rintro rest ⟨⟩; exact noZero rfl),
    List.takeWhile_append_of_pos areDigits, List.dropWhile_append_of_pos areDigits, stops.1,
    stops.2, List.append_nil]

include isLong

/-- The reader of numbers stops at digits that are too many, with no fraction or exponent
behind them. -/
theorem readMagnitude_long (start : List Char) (negative : Bool) :
    readMagnitude start negative (first :: digits ++ rest) = .error .hugeInteger := by
  have noExponent : exponent? rest = none :=
    exponent?_of_ne (ends.ne (by simp)) (ends.ne (by simp))
  rw [readMagnitude, wholeDigits_append areDigits noZero ends]
  simp [fraction?_of_ne (ends.ne (by simp)), noExponent, Nat.lt_succ_of_le isLong]

/-- Where a value is due the reader stops at such digits: no other value begins with a digit. -/
theorem readValue_long [StandIns] (fuel : Nat) :
    readValue (fuel + 1) (first :: digits ++ rest) = .error .hugeInteger := by
  have ne (character : Char) (noDigit : ¬character.isDigit) : character ≠ first := by
    rintro rfl
    exact noDigit (areDigits _ List.mem_cons_self)
  have begins {character : Char} (noDigit : ¬character.isDigit) (left : List Char) :
      first :: digits ++ rest ≠ character :: left :=
    fun same => ne character noDigit (List.cons_eq_cons.mp same).1.symm
  have noWord : readWord? (first :: digits ++ rest) = none := by
    simp [readWord?, words, afterWord?, ne, Char.isDigit]
  rw [readValue_of_ne (begins (by decide)) (begins (by decide)) (begins (by decide)), noWord]
  change readNumber _ = _
  unfold readNumber
  split
  · next left isMinus => exact absurd isMinus (begins (by decide) left)
  · exact readMagnitude_long areDigits noZero isLong ends _ _

end

end Json
end ProtocolTypes
