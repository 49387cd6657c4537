import ProtocolTypes.Proofs.Json.LongNumbers
import ProtocolTypes.Text.Lines

/-!
# Newlines in JSON texts

A JSON text that is read with every line end turned into a newline has the same value.  Line
ends stand only between tokens, where they are blanks: within a string they are refused, and in
numbers and words there are none.  So each step of the reader that succeeds does so on the
turned text too, and what it leaves there is what it left, turned.
-/

namespace ProtocolTypes

namespace Text

/-- A character that ends no line. -/
def IsPlain (character : Char) : Prop := character ≠ '\r' ∧ character ≠ '\n'

instance (character : Char) : Decidable (IsPlain character) :=
  inferInstanceAs (Decidable (_ ∧ _))

theorem unifyNewlineChars_cons_of_ne
    {character : Char}
    (notReturn : character ≠ '\r')
    (rest : List Char) :
    unifyNewlineChars (character :: rest) = character :: unifyNewlineChars rest := by
  rw [unifyNewlineChars]
  · rw [if_neg notReturn]
  · intro after isReturn
    exact absurd isReturn notReturn

/-- A text without carriage returns is left as it is. -/
theorem unifyNewlineChars_of_notMem {text : List Char} (noReturn : '\r' ∉ text) :
    unifyNewlineChars text = text := by
  induction text with
  | nil => rfl
  | cons character rest inductionHypothesis =>
      obtain ⟨notReturn, noReturn⟩ := not_or.mp (mt List.mem_cons.mpr noReturn)
      rw [unifyNewlineChars_cons_of_ne (Ne.symm notReturn), inductionHypothesis noReturn]

/-- A plain character in front was there before. -/
theorem exists_of_unifyNewlineChars_eq_cons
    {text left : List Char}
    {character : Char}
    (isPlain : IsPlain character)
    (isFront : unifyNewlineChars text = character :: left) :
    ∃ rest, text = character :: rest ∧ unifyNewlineChars rest = left := by
  unfold unifyNewlineChars at isFront
  split at isFront
  · cases isFront
  · cases isFront
    exact absurd rfl isPlain.2
  · next first rest _ =>
      obtain ⟨isFirst, isRest⟩ := List.cons_eq_cons.mp isFront
      split at isFirst
      · exact absurd isFirst.symm isPlain.2
      · exact ⟨rest, by rw [isFirst], isRest⟩

/-- A plain character that is not in front is not put there. -/
theorem unifyNewlineChars_ne_cons
    {text : List Char}
    {character : Char}
    (isPlain : IsPlain character)
    (notFront : ∀ rest, text ≠ character :: rest)
    (left : List Char) :
    unifyNewlineChars text ≠ character :: left := by
  intro isFront
  obtain ⟨rest, same, -⟩ := exists_of_unifyNewlineChars_eq_cons isPlain isFront
  exact notFront rest same

/-- A text begins with a plain character both before and after its line ends are turned, or
neither before nor after. -/
theorem begins_or_not
    {character : Char}
    (isPlain : IsPlain character)
    (text : List Char) :
    (∃ rest, text = character :: rest ∧
        unifyNewlineChars text = character :: unifyNewlineChars rest) ∨
      (∀ rest, text ≠ character :: rest) ∧
        ∀ rest, unifyNewlineChars text ≠ character :: rest := by
  by_cases begins : ∃ rest, text = character :: rest
  · obtain ⟨rest, rfl⟩ := begins
    exact .inl ⟨rest, rfl, unifyNewlineChars_cons_of_ne isPlain.1 rest⟩
  · have notFront := not_exists.mp begins
    exact .inr ⟨notFront, unifyNewlineChars_ne_cons isPlain notFront⟩

/-- Plain characters in front stay as they are. -/
theorem unifyNewlineChars_append
    {front : List Char}
    (arePlain : ∀ character ∈ front, IsPlain character)
    (text : List Char) :
    unifyNewlineChars (front ++ text) = front ++ unifyNewlineChars text := by
  induction front with
  | nil => rfl
  | cons character front inductionHypothesis =>
      obtain ⟨isPlain, arePlain⟩ := List.forall_mem_cons.mp arePlain
      rw [List.cons_append, unifyNewlineChars_cons_of_ne isPlain.1, inductionHypothesis arePlain,
        List.cons_append]

/-- A plain word is found in front of a text in either form of it. -/
theorem prefix_unifyNewlineChars_iff
    {front : List Char}
    (arePlain : ∀ character ∈ front, IsPlain character)
    (text : List Char) :
    front <+: unifyNewlineChars text ↔ front <+: text := by
  constructor
  · rintro ⟨left, isText⟩
    induction front generalizing text with
    | nil => exact List.nil_prefix
    | cons character front inductionHypothesis =>
        obtain ⟨isPlain, arePlain⟩ := List.forall_mem_cons.mp arePlain
        obtain ⟨rest, rfl, isRest⟩ := exists_of_unifyNewlineChars_eq_cons isPlain isText.symm
        exact List.cons_prefix_cons.mpr ⟨rfl, inductionHypothesis arePlain rest isRest.symm⟩
  · rintro ⟨left, rfl⟩
    rw [unifyNewlineChars_append arePlain]
    exact List.prefix_append front _

/-- Unified newlines make a text no longer. -/
theorem length_unifyNewlineChars_le (text : List Char) :
    (unifyNewlineChars text).length ≤ text.length := by
  fun_induction unifyNewlineChars text with
  | case1 => simp
  | case2 rest inductionHypothesis => simp only [List.length_cons]; omega
  | case3 character rest _ inductionHypothesis => simp only [List.length_cons]; omega

theorem unifyNewlineChars_eq_nil_iff (text : List Char) :
    unifyNewlineChars text = [] ↔ text = [] := by
  fun_cases unifyNewlineChars text <;> simp

variable {inClass : Char → Bool}

/-- What is dropped in front is dropped before the line ends are turned as after, if they are
all in the class or none is. -/
theorem dropWhile_unifyNewlineChars
    (alike : inClass '\r' = inClass '\n')
    (text : List Char) :
    (unifyNewlineChars text).dropWhile inClass =
      unifyNewlineChars (text.dropWhile inClass) := by
  fun_induction unifyNewlineChars text with
  | case1 => rfl
  | case2 rest inductionHypothesis =>
      cases isIn : inClass '\n' with
      | true => simp [isIn, alike, inductionHypothesis]
      | false => simp [isIn, alike, unifyNewlineChars]
  | case3 character rest notPair inductionHypothesis =>
      by_cases isReturn : character = '\r'
      · subst isReturn
        cases isIn : inClass '\n' with
        | true => simp [isIn, alike, inductionHypothesis]
        | false =>
            simp [isIn, alike, unifyNewlineChars]
      · cases isIn : inClass character with
        | true => simp [isIn, isReturn, inductionHypothesis]
        | false => simp [isIn, isReturn, unifyNewlineChars_cons_of_ne isReturn]

/-- A class without line ends takes the same characters of a text. -/
theorem takeWhile_unifyNewlineChars
    (noReturn : inClass '\r' = false)
    (noNewline : inClass '\n' = false)
    (text : List Char) :
    (unifyNewlineChars text).takeWhile inClass = text.takeWhile inClass := by
  fun_induction unifyNewlineChars text with
  | case1 => rfl
  | case2 rest inductionHypothesis => simp [noReturn, noNewline]
  | case3 character rest _ inductionHypothesis =>
      by_cases isReturn : character = '\r'
      · subst isReturn
        simp [noReturn, noNewline]
      · cases isIn : inClass character <;> simp [isIn, isReturn, inductionHypothesis]

end Text

namespace Json

open Text

variable {α β : Type}

/-- Where the step succeeds, the turned one has its value and leaves what it leaves, turned. -/
def Carries (step turned : Except Stop (α × List Char)) : Prop :=
  ∀ value left, step = .ok (value, left) → turned = .ok (value, unifyNewlineChars left)

/-- What is carried may be changed on both sides. -/
theorem Carries.map
    {step turned : Except Stop (α × List Char)}
    (carries : Carries step turned)
    (change : α → β) :
    Carries (step.map fun (value, left) => (change value, left))
      (turned.map fun (value, left) => (change value, left)) := by
  intro value left changed
  cases step with
  | error stop => cases changed
  | ok found =>
      cases changed
      rw [carries _ _ rfl]
      rfl

/-- What follows a carried step has to carry only where the step has a value. -/
theorem Carries.bind
    {step turned : Except Stop (α × List Char)}
    {next nextTurned : α × List Char → Except Stop (β × List Char)}
    (carries : Carries step turned)
    (others : ∀ value left, turned = .ok (value, unifyNewlineChars left) →
      Carries (next (value, left)) (nextTurned (value, unifyNewlineChars left))) :
    Carries (step >>= next) (turned >>= nextTurned) := by
  intro value left follows
  cases step with
  | error stop => cases follows
  | ok found =>
      have isTurned := carries _ _ rfl
      rw [isTurned]
      exact others _ _ isTurned value left follows

theorem Carries.ok (value : α) (left : List Char) :
    Carries (.ok (value, left)) (.ok (value, unifyNewlineChars left)) := by
  intro other after same
  cases same
  rfl

theorem Carries.error (stop : Stop) (turned : Except Stop (α × List Char)) :
    Carries (.error stop) turned := by
  intro value left fails
  cases fails

/-- Line ends are blanks in either form. -/
theorem skipBlanks_unifyNewlineChars (text : List Char) :
    skipBlanks (unifyNewlineChars text) = unifyNewlineChars (skipBlanks text) :=
  dropWhile_unifyNewlineChars rfl text

/-! ## Strings -/

/-- No line end is a digit. -/
theorem ne_return_of_valueIn?
    {character : Char}
    {value : Nat}
    (isDigit : Digits.valueIn? 16 character = some value) :
    character ≠ '\r' := by
  rintro rfl
  cases isDigit

/-- Four digits are read alike. -/
theorem hexQuad?_unifyNewlineChars
    {text left : List Char}
    {value : Nat}
    (read : hexQuad? text = some (value, left)) :
    hexQuad? (unifyNewlineChars text) = some (value, unifyNewlineChars left) := by
  unfold hexQuad? at read
  split at read
  · next first second third fourth rest =>
      simp only [Option.bind_eq_bind, Option.bind_eq_some_iff, Option.pure_def,
        Option.some.injEq, Prod.mk.injEq] at read
      obtain ⟨_, isFirst, _, isSecond, _, isThird, _, isFourth, rfl, rfl⟩ := read
      rw [unifyNewlineChars_cons_of_ne (ne_return_of_valueIn? isFirst),
        unifyNewlineChars_cons_of_ne (ne_return_of_valueIn? isSecond),
        unifyNewlineChars_cons_of_ne (ne_return_of_valueIn? isThird),
        unifyNewlineChars_cons_of_ne (ne_return_of_valueIn? isFourth)]
      simp [hexQuad?, isFirst, isSecond, isThird, isFourth]
  · cases read

theorem length_of_hexQuad?
    {text left : List Char}
    {value : Nat}
    (read : hexQuad? text = some (value, left)) :
    text.length = left.length + 4 := by
  unfold hexQuad? at read
  split at read
  · simp only [Option.bind_eq_bind, Option.bind_eq_some_iff, Option.pure_def, Option.some.injEq,
      Prod.mk.injEq] at read
    obtain ⟨_, _, _, _, _, _, _, _, _, rfl⟩ := read
    rfl
  · cases read

/-- A number is the first half of a pair. -/
def isHigh (point : Nat) : Bool := 0xD800 ≤ point && point ≤ 0xDBFF

/-- What follows the digits of a first half may be the second one. -/
def MayPair (rest digits : List Char) : Prop :=
  rest = '\\' :: 'u' :: digits ∧ 5 ≤ digits.length

section

variable [StandIns]

/-- A long escape begins with four digits, and does not end the text. -/
theorem exists_quad_of_longEscape
    {text left : List Char}
    {character : Char}
    (read : longEscape text = .ok (character, left)) :
    ∃ high rest, hexQuad? text = some (high, rest) ∧ rest ≠ [] := by
  unfold longEscape at read
  split at read
  · cases read
  · cases read
  · next high rest notNil quad => exact ⟨high, rest, quad, notNil⟩

/-- An escape that no second one follows is read alone. -/
theorem longEscape_alone
    {text rest : List Char}
    {high : Nat}
    (quad : hexQuad? text = some (high, rest))
    (notNil : rest ≠ [])
    (alone : isHigh high = true → ∀ digits, ¬MayPair rest digits) :
    longEscape text = .ok (StandIns.ofPoint high, rest) := by
  unfold longEscape
  rw [quad]
  obtain ⟨first, more, rfl⟩ := List.exists_cons_of_ne_nil notNil
  dsimp only
  split
  · next isFirst =>
      split
      · next digits isPair =>
          split
          · exact absurd ⟨isPair, by simp⟩ (alone isFirst _)
          · rfl
      · rfl
  · rfl

/-- The first half of a pair is read with what follows it. -/
theorem longEscape_pair
    {text rest digits : List Char}
    {high : Nat}
    (quad : hexQuad? text = some (high, rest))
    (isFirst : isHigh high = true)
    (mayPair : MayPair rest digits) :
    longEscape text =
      match hexQuad? digits with
      | none => .error ('u' :: digits)
      | some (low, after) =>
        if 0xDC00 ≤ low && low ≤ 0xDFFF then
          .ok (Char.ofNat (0x10000 + (high - 0xD800) * 0x400 + (low - 0xDC00)), after)
        else .ok (StandIns.ofPoint high, rest) := by
  obtain ⟨rfl, isLong⟩ := mayPair
  unfold longEscape
  rw [quad]
  dsimp only
  refine (if_pos isFirst).trans ?_
  match digits, isLong with
  | _ :: _ :: _ :: _ :: _ :: _, _ => rfl

/-- A long escape is read alike, whatever line ends stand behind it. -/
theorem longEscape_unifyNewlineChars
    {text left : List Char}
    {character : Char}
    (read : longEscape text = .ok (character, left)) :
    longEscape (unifyNewlineChars text) = .ok (character, unifyNewlineChars left) := by
  obtain ⟨high, rest, quad, notNil⟩ := exists_quad_of_longEscape read
  have quadTurned := hexQuad?_unifyNewlineChars quad
  have restTurned : unifyNewlineChars rest ≠ [] := fun isNil =>
    notNil ((unifyNewlineChars_eq_nil_iff rest).mp isNil)
  by_cases paired : isHigh high = true ∧ ∃ digits, MayPair rest digits
  · obtain ⟨isFirst, digits, mayPair⟩ := paired
    rw [longEscape_pair quad isFirst mayPair] at read
    obtain ⟨rfl, isLong⟩ := mayPair
    cases second : hexQuad? digits with
    | none => rw [second] at read; cases read
    | some found =>
        obtain ⟨low, after⟩ := found
        have secondTurned := hexQuad?_unifyNewlineChars second
        -- Turning may shorten what stands behind the second half, but never to nothing.
        have isLongTurned : 5 ≤ (unifyNewlineChars digits).length := by
          have notEnd : after ≠ [] := by
            rintro rfl
            rw [length_of_hexQuad? second] at isLong
            simp at isLong
          rw [length_of_hexQuad? secondTurned]
          have notEndTurned := mt (unifyNewlineChars_eq_nil_iff after).mp notEnd
          have := List.length_pos_iff.mpr notEndTurned
          omega
        have pairTurned : MayPair (unifyNewlineChars ('\\' :: 'u' :: digits))
            (unifyNewlineChars digits) :=
          ⟨by simp [unifyNewlineChars], isLongTurned⟩
        rw [second] at read
        rw [longEscape_pair quadTurned isFirst pairTurned, secondTurned]
        dsimp only at read ⊢
        split at read
        · next isLow =>
            obtain ⟨rfl, rfl⟩ := Prod.mk.inj (Except.ok.inj read)
            rw [if_pos isLow]
        · next notLow =>
            obtain ⟨rfl, rfl⟩ := Prod.mk.inj (Except.ok.inj read)
            rw [if_neg notLow]
  · have alone (isFirst : isHigh high = true) (digits : List Char) : ¬MayPair rest digits :=
      fun mayPair => paired ⟨isFirst, digits, mayPair⟩
    rw [longEscape_alone quad notNil alone] at read
    cases read
    -- The turned text has no second half that was not there before.
    refine longEscape_alone quadTurned restTurned fun isFirst turned ⟨isPair, isLong⟩ => ?_
    obtain ⟨afterSlash, rfl, isAfter⟩ :=
      exists_of_unifyNewlineChars_eq_cons ⟨by decide, by decide⟩ isPair
    obtain ⟨digits, rfl, rfl⟩ := exists_of_unifyNewlineChars_eq_cons ⟨by decide, by decide⟩ isAfter
    exact alone isFirst digits ⟨rfl, isLong.trans (length_unifyNewlineChars_le digits)⟩

/-- A string is read alike, with at least as many steps as characters. -/
theorem carries_readString
    (start turnedStart : List Char)
    (fuel turnedFuel : Nat)
    (before text : List Char)
    (enough : (unifyNewlineChars text).length ≤ turnedFuel) :
    Carries (readString start fuel before text)
      (readString turnedStart turnedFuel before (unifyNewlineChars text)) := by
  fun_induction readString start fuel before text generalizing turnedFuel with
  | case1 => exact .error _ _
  | case2 => exact .error _ _
  | case3 _ before rest =>
      rw [unifyNewlineChars_cons_of_ne (by decide)] at enough ⊢
      cases turnedFuel with
      | zero => cases enough
      | succ turnedFuel => exact .ok _ _
  | case4 => exact .error _ _
  | case5 _ before rest character after escape inductionHypothesis =>
      rw [unifyNewlineChars_cons_of_ne (by decide), unifyNewlineChars_cons_of_ne (by decide)]
        at enough ⊢
      have escapeTurned := longEscape_unifyNewlineChars escape
      cases turnedFuel with
      | zero => cases enough
      | succ turnedFuel =>
          have isRear := (longEscape_suffix escapeTurned).length_le
          simp only [List.length_cons] at enough
          rw [readString, escapeTurned]
          exact inductionHypothesis turnedFuel (by omega)
  | case6 => exact .error _ _
  | case7 _ before escape rest notLong character short inductionHypothesis =>
      have notReturn : escape ≠ '\r' := by
        rintro rfl
        cases short
      rw [unifyNewlineChars_cons_of_ne (by decide), unifyNewlineChars_cons_of_ne notReturn]
        at enough ⊢
      cases turnedFuel with
      | zero => cases enough
      | succ turnedFuel =>
          simp only [List.length_cons] at enough
          rw [readString, short]
          · exact inductionHypothesis turnedFuel (by omega)
          · exact notLong
  | case8 => exact .error _ _
  | case9 => exact .error _ _
  | case10 _ before character rest noQuote noEnd _ noEscape notControl inductionHypothesis =>
      have notReturn : character ≠ '\r' := by
        rintro rfl
        exact notControl (by decide)
      have noSlash (isSlash : character = '\\') : False := by
        cases rest with
        | nil => exact noEnd isSlash rfl
        | cons escape rest => exact noEscape escape rest isSlash rfl
      rw [unifyNewlineChars_cons_of_ne notReturn] at enough ⊢
      cases turnedFuel with
      | zero => cases enough
      | succ turnedFuel =>
          simp only [List.length_cons] at enough
          rw [readString, if_neg notControl]
          · exact inductionHypothesis turnedFuel (by omega)
          · exact noQuote
          · exact fun isSlash _ => noSlash isSlash
          · exact fun _ isSlash _ => noSlash isSlash
          · exact fun _ _ isSlash _ => noSlash isSlash

end

/-! ## Numbers and words -/

theorem takeWhile_isDigit_unifyNewlineChars (text : List Char) :
    (unifyNewlineChars text).takeWhile Char.isDigit = text.takeWhile Char.isDigit :=
  takeWhile_unifyNewlineChars (by decide) (by decide) text

theorem dropWhile_isDigit_unifyNewlineChars (text : List Char) :
    (unifyNewlineChars text).dropWhile Char.isDigit =
      unifyNewlineChars (text.dropWhile Char.isDigit) :=
  dropWhile_unifyNewlineChars (by decide) text

/-- The digits of a whole number are read alike. -/
theorem wholeDigits_unifyNewlineChars (text : List Char) :
    wholeDigits (unifyNewlineChars text) =
      ((wholeDigits text).1, unifyNewlineChars (wholeDigits text).2) := by
  have isPlain : IsPlain '0' := by decide
  rcases begins_or_not isPlain text with ⟨rest, rfl, isTurned⟩ | ⟨noZero, noZeroTurned⟩
  · rw [isTurned]
    rfl
  · rw [wholeDigits_of_ne noZero, wholeDigits_of_ne noZeroTurned,
      takeWhile_isDigit_unifyNewlineChars, dropWhile_isDigit_unifyNewlineChars]

/-- The decimals of a number are read alike. -/
theorem fraction?_unifyNewlineChars (text : List Char) :
    fraction? (unifyNewlineChars text) =
      (fraction? text).map fun (decimals, left) => (decimals, unifyNewlineChars left) := by
  have isPlain : IsPlain '.' := by decide
  rcases begins_or_not isPlain text with ⟨rest, rfl, isTurned⟩ | ⟨noPoint, noPointTurned⟩
  · rw [isTurned]
    simp only [fraction?, takeWhile_isDigit_unifyNewlineChars,
      dropWhile_isDigit_unifyNewlineChars]
    split <;> rfl
  · rw [fraction?_of_ne noPoint, fraction?_of_ne noPointTurned]
    rfl

theorem sign_of_ne
    {text : List Char}
    (noMinus : ∀ rest, text ≠ '-' :: rest)
    (noPlus : ∀ rest, text ≠ '+' :: rest) :
    Digits.sign text = (false, text) := by
  unfold Digits.sign
  split
  · next rest => exact absurd rfl (noMinus rest)
  · next rest => exact absurd rfl (noPlus rest)
  · rfl

theorem sign_unifyNewlineChars (text : List Char) :
    Digits.sign (unifyNewlineChars text) =
      ((Digits.sign text).1, unifyNewlineChars (Digits.sign text).2) := by
  have minusPlain : IsPlain '-' := by decide
  have plusPlain : IsPlain '+' := by decide
  rcases begins_or_not minusPlain text with ⟨rest, rfl, isTurned⟩ | ⟨noMinus, noMinusTurned⟩
  · rw [isTurned]
    rfl
  · rcases begins_or_not plusPlain text with ⟨rest, rfl, isTurned⟩ | ⟨noPlus, noPlusTurned⟩
    · rw [isTurned]
      rfl
    · rw [sign_of_ne noMinus noPlus, sign_of_ne noMinusTurned noPlusTurned]

/-- The exponent of a number is read alike. -/
theorem exponent?_unifyNewlineChars (text : List Char) :
    exponent? (unifyNewlineChars text) =
      (exponent? text).map fun (exponent, left) => (exponent, unifyNewlineChars left) := by
  have smallPlain : IsPlain 'e' := by decide
  have capitalPlain : IsPlain 'E' := by decide
  have marked (mark : Char) (rest : List Char) :
      exponent? (mark :: unifyNewlineChars rest) =
        (exponent? (mark :: rest)).map fun (exponent, left) =>
          (exponent, unifyNewlineChars left) := by
    simp only [exponent?, sign_unifyNewlineChars, takeWhile_isDigit_unifyNewlineChars,
      dropWhile_isDigit_unifyNewlineChars]
    split
    · split <;> rfl
    · rfl
  rcases begins_or_not smallPlain text with ⟨rest, rfl, isTurned⟩ | ⟨noSmall, noSmallTurned⟩
  · rw [isTurned]
    exact marked 'e' rest
  · rcases begins_or_not capitalPlain text with
      ⟨rest, rfl, isTurned⟩ | ⟨noCapital, noCapitalTurned⟩
    · rw [isTurned]
      exact marked 'E' rest
    · rw [exponent?_of_ne noSmall noCapital, exponent?_of_ne noSmallTurned noCapitalTurned]
      rfl

/-- A number without its sign is carried, whatever text its fault would quote. -/
theorem carries_readMagnitude
    (start turnedStart : List Char)
    (negative : Bool)
    (text : List Char) :
    Carries (readMagnitude start negative text)
      (readMagnitude turnedStart negative (unifyNewlineChars text)) := by
  have fraction (afterWhole : List Char) :
      (fraction? (unifyNewlineChars afterWhole)).getD ([], unifyNewlineChars afterWhole) =
        (((fraction? afterWhole).getD ([], afterWhole)).1,
          unifyNewlineChars ((fraction? afterWhole).getD ([], afterWhole)).2) := by
    rw [fraction?_unifyNewlineChars]
    cases fraction? afterWhole <;> rfl
  unfold readMagnitude
  rw [wholeDigits_unifyNewlineChars]
  generalize wholeDigits text = number
  obtain ⟨whole, afterWhole⟩ := number
  dsimp only
  rw [fraction]
  generalize (fraction? afterWhole).getD ([], afterWhole) = found
  obtain ⟨decimals, afterFraction⟩ := found
  dsimp only
  rw [exponent?_unifyNewlineChars]
  split
  · exact .error _ _
  · cases exponent? afterFraction with
    | none =>
        dsimp only [Option.map_none, Option.getD_none, Option.isNone_none]
        split_ifs
        · exact .error _ _
        · exact .ok _ _
        · exact .ok _ _
    | some exponent =>
        dsimp only [Option.map_some, Option.getD_some, Option.isNone_some]
        rw [if_neg (by simp), if_neg (by simp)]
        exact .ok _ _

/-- A number is carried. -/
theorem carries_readNumber (text : List Char) :
    Carries (readNumber text) (readNumber (unifyNewlineChars text)) := by
  have isPlain : IsPlain '-' := by decide
  rcases begins_or_not isPlain text with ⟨rest, rfl, isTurned⟩ | ⟨noMinus, noMinusTurned⟩
  · rw [isTurned]
    exact carries_readMagnitude _ _ _ rest
  · rw [readNumber, readNumber]
    · exact carries_readMagnitude _ _ _ text
    · exact noMinusTurned
    · exact noMinus

theorem afterWord?_unifyNewlineChars
    {word : List Char}
    (arePlain : ∀ character ∈ word, IsPlain character)
    (text : List Char) :
    afterWord? word (unifyNewlineChars text) =
      (afterWord? word text).map unifyNewlineChars := by
  unfold afterWord?
  by_cases begins : word <+: text
  · have beginsTurned := (prefix_unifyNewlineChars_iff arePlain text).mpr begins
    rw [if_pos (List.isPrefixOf_iff_prefix.mpr begins),
      if_pos (List.isPrefixOf_iff_prefix.mpr beginsTurned)]
    obtain ⟨left, rfl⟩ := begins
    simp [unifyNewlineChars_append arePlain]
  · have notTurned := mt (prefix_unifyNewlineChars_iff arePlain text).mp begins
    rw [if_neg (mt List.isPrefixOf_iff_prefix.mp begins),
      if_neg (mt List.isPrefixOf_iff_prefix.mp notTurned)]
    rfl

/-- A word that stands for a value is read alike. -/
theorem readWord?_unifyNewlineChars (text : List Char) :
    readWord? (unifyNewlineChars text) =
      (readWord? text).map fun (value, left) => (value, unifyNewlineChars left) := by
  have arePlain : ∀ entry ∈ words, ∀ character ∈ entry.1, IsPlain character := by
    have allPlain : words.all (fun entry => entry.1.all fun character => IsPlain character) := by
      decide
    simpa using allPlain
  unfold readWord?
  generalize words = entries at arePlain
  induction entries with
  | nil => rfl
  | cons entry entries inductionHypothesis =>
      obtain ⟨word, value⟩ := entry
      obtain ⟨wordPlain, arePlain⟩ := List.forall_mem_cons.mp arePlain
      rw [List.findSome?_cons, List.findSome?_cons]
      dsimp only at wordPlain ⊢
      rw [afterWord?_unifyNewlineChars wordPlain, inductionHypothesis arePlain]
      cases afterWord? word text <;> rfl

/-! ## Values

The turned text is never longer, and may need fewer steps of depth, so that each kind of step
is carried to any number of steps that is enough for the turned text. -/

theorem length_turned_skipBlanks_le (text : List Char) :
    (unifyNewlineChars (skipBlanks text)).length ≤ (unifyNewlineChars text).length := by
  rw [← skipBlanks_unifyNewlineChars]
  exact (skipBlanks_suffix _).length_le

/-- What stands behind a character between blanks is shorter. -/
theorem length_turned_lt_of_next
    {text left : List Char}
    {character : Char}
    (notReturn : character ≠ '\r')
    (isNext : skipBlanks text = character :: left) :
    (unifyNewlineChars (skipBlanks left)).length < (unifyNewlineChars text).length := by
  have fewer := length_turned_skipBlanks_le text
  have fewerAgain := length_turned_skipBlanks_le left
  rw [isNext, unifyNewlineChars_cons_of_ne notReturn, List.length_cons] at fewer
  omega

/-- What a fair step leaves is no longer than the text. -/
theorem Fair.length_le
    {text left : List Char}
    {value : α}
    (fair : Fair text (.ok (value, left))) :
    left.length ≤ text.length := by
  cases fair with
  | leaves _ isRear => exact isRear.length_le

variable [StandIns]

/-- Reading a value leaves no longer text. -/
theorem length_le_of_readValue
    {fuel : Nat}
    {text left : List Char}
    {value : Value}
    (reads : readValue fuel text = .ok (value, left)) :
    left.length ≤ text.length := by
  have fair := (fair_steps fuel).1 text
  rw [reads] at fair
  exact fair.length_le

theorem length_le_of_readString
    {start before text left : List Char}
    {fuel : Nat}
    {string : String}
    (reads : readString start fuel before text = .ok (string, left)) :
    left.length ≤ text.length := by
  have fair := fair_readString start fuel before text
  rw [reads] at fair
  exact fair.length_le

/-- Values are carried that are read with that many steps of depth. -/
def ValuesCarried (fuel : Nat) : Prop :=
  ∀ text turnedFuel, 2 * (unifyNewlineChars text).length + 1 ≤ turnedFuel →
    Carries (readValue fuel text) (readValue turnedFuel (unifyNewlineChars text))

@[inherit_doc ValuesCarried]
def ItemsCarried (fuel : Nat) : Prop :=
  ∀ items text turnedFuel, 2 * (unifyNewlineChars text).length + 2 ≤ turnedFuel →
    Carries (readItems fuel items text) (readItems turnedFuel items (unifyNewlineChars text))

@[inherit_doc ValuesCarried]
def EntriesCarried (fuel : Nat) : Prop :=
  ∀ entries text turnedFuel, 2 * (unifyNewlineChars text).length + 2 ≤ turnedFuel →
    Carries (readEntries fuel entries text)
      (readEntries turnedFuel entries (unifyNewlineChars text))

section

variable {fuel : Nat}

/-- A map is carried if its entries are. -/
theorem carries_readMap
    (entriesCarried : EntriesCarried fuel)
    (rest : List Char)
    (turnedFuel : Nat)
    (enough : 2 * (unifyNewlineChars rest).length + 2 ≤ turnedFuel) :
    Carries (readValue (fuel + 1) ('\x7b' :: rest))
      (readValue (turnedFuel + 1) ('\x7b' :: unifyNewlineChars rest)) := by
  have fewer := length_turned_skipBlanks_le rest
  rw [readValue, readValue, skipBlanks_unifyNewlineChars]
  split
  · next left isNext =>
      rw [isNext, unifyNewlineChars_cons_of_ne (by decide)]
      exact .ok _ _
  · next noEnd =>
      split
      · next left isNext =>
          exact absurd isNext (unifyNewlineChars_ne_cons ⟨by decide, by decide⟩ noEnd left)
      · exact (entriesCarried [] _ turnedFuel (by omega)).map Value.map

/-- A list is carried if its items are. -/
theorem carries_readList
    (itemsCarried : ItemsCarried fuel)
    (rest : List Char)
    (turnedFuel : Nat)
    (enough : 2 * (unifyNewlineChars rest).length + 2 ≤ turnedFuel) :
    Carries (readValue (fuel + 1) ('[' :: rest))
      (readValue (turnedFuel + 1) ('[' :: unifyNewlineChars rest)) := by
  have fewer := length_turned_skipBlanks_le rest
  rw [readValue, readValue, skipBlanks_unifyNewlineChars]
  split
  · next left isNext =>
      rw [isNext, unifyNewlineChars_cons_of_ne (by decide)]
      exact .ok _ _
  · next noEnd =>
      split
      · next left isNext =>
          exact absurd isNext (unifyNewlineChars_ne_cons ⟨by decide, by decide⟩ noEnd left)
      · exact (itemsCarried [] _ turnedFuel (by omega)).map Value.list

/-- The step for values: one case for each first character. -/
theorem valuesCarried_succ
    (itemsCarried : ItemsCarried fuel)
    (entriesCarried : EntriesCarried fuel) :
    ValuesCarried (fuel + 1) := by
  have quotePlain : IsPlain '"' := by decide
  have bracePlain : IsPlain '\x7b' := by decide
  have bracketPlain : IsPlain '[' := by decide
  rintro text (_ | turnedFuel) enough
  · omega
  rcases begins_or_not quotePlain text with ⟨rest, rfl, isTurned⟩ | ⟨noString, noStringTurned⟩
  · rw [isTurned, List.length_cons] at enough
    rw [isTurned, readValue, readValue]
    exact (carries_readString _ _ _ _ _ rest (by omega)).map Value.str
  rcases begins_or_not bracePlain text with ⟨rest, rfl, isTurned⟩ | ⟨noMap, noMapTurned⟩
  · rw [isTurned, List.length_cons] at enough
    rw [isTurned]
    exact carries_readMap entriesCarried rest turnedFuel (by omega)
  rcases begins_or_not bracketPlain text with ⟨rest, rfl, isTurned⟩ | ⟨noList, noListTurned⟩
  · rw [isTurned, List.length_cons] at enough
    rw [isTurned]
    exact carries_readList itemsCarried rest turnedFuel (by omega)
  rw [readValue_of_ne noString noMap noList,
    readValue_of_ne noStringTurned noMapTurned noListTurned, readWord?_unifyNewlineChars]
  cases readWord? text with
  | none => exact carries_readNumber text
  | some found => exact .ok _ _

/-- The step for the items of a list. -/
theorem itemsCarried_succ
    (valuesCarried : ValuesCarried fuel)
    (itemsCarried : ItemsCarried fuel) :
    ItemsCarried (fuel + 1) := by
  rintro items text (_ | turnedFuel) enough
  · omega
  rw [readItems, readItems]
  refine (valuesCarried text turnedFuel (by omega)).bind fun item afterItem isTurned => ?_
  have fewer := length_le_of_readValue isTurned
  dsimp only
  rw [skipBlanks_unifyNewlineChars]
  split
  · next left isNext =>
      rw [isNext, unifyNewlineChars_cons_of_ne (by decide)]
      exact .ok _ _
  · next left isNext =>
      have fewerAgain := length_turned_lt_of_next (by decide) isNext
      rw [isNext, unifyNewlineChars_cons_of_ne (by decide)]
      simp only [skipBlanks_unifyNewlineChars]
      exact itemsCarried _ _ _ (by omega)
  · exact .error _ _

/-- Behind the key of an entry its value is read, and then the map ends or goes on. -/
theorem carries_readEntry
    (valuesCarried : ValuesCarried fuel)
    (entriesCarried : EntriesCarried fuel)
    (entries : List (Value × Value))
    (rest : List Char)
    (turnedFuel : Nat)
    (enough : 2 * (unifyNewlineChars rest).length + 2 ≤ turnedFuel) :
    Carries (readEntries (fuel + 1) entries ('"' :: rest))
      (readEntries (turnedFuel + 1) entries ('"' :: unifyNewlineChars rest)) := by
  rw [readEntries, readEntries]
  refine (carries_readString _ _ _ _ [] rest (by omega)).bind fun key afterKey isTurned => ?_
  have fewer := length_le_of_readString isTurned
  dsimp only
  rw [skipBlanks_unifyNewlineChars]
  split
  · next afterColon isNext =>
      have fewerAgain := length_turned_lt_of_next (by decide) isNext
      rw [isNext, unifyNewlineChars_cons_of_ne (by decide)]
      simp only [skipBlanks_unifyNewlineChars]
      refine (valuesCarried _ turnedFuel (by omega)).bind fun value afterValue isTurned => ?_
      have fewerStill := length_le_of_readValue isTurned
      dsimp only
      rw [skipBlanks_unifyNewlineChars]
      split
      · next left isNext =>
          rw [isNext, unifyNewlineChars_cons_of_ne (by decide)]
          exact .ok _ _
      · next left isNext =>
          have fewest := length_turned_lt_of_next (by decide) isNext
          rw [isNext, unifyNewlineChars_cons_of_ne (by decide)]
          simp only [skipBlanks_unifyNewlineChars]
          exact entriesCarried _ _ _ (by omega)
      · exact .error _ _
  · exact .error _ _

/-- The step for the entries of a map. -/
theorem entriesCarried_succ
    (valuesCarried : ValuesCarried fuel)
    (entriesCarried : EntriesCarried fuel) :
    EntriesCarried (fuel + 1) := by
  have quotePlain : IsPlain '"' := by decide
  rintro entries text (_ | turnedFuel) enough
  · omega
  rcases begins_or_not quotePlain text with ⟨rest, rfl, isTurned⟩ | ⟨noString, -⟩
  · rw [isTurned, List.length_cons] at enough
    rw [isTurned]
    exact carries_readEntry valuesCarried entriesCarried entries rest turnedFuel (by omega)
  · have refuses : readEntries (fuel + 1) entries text =
        .error (.fault .expectingName text) := by
      rw [readEntries]
      exact noString
    rw [refuses]
    exact .error _ _

end

/-- All steps are carried: by induction on the depth, for the three kinds of step at once. -/
theorem carried_steps (fuel : Nat) :
    ValuesCarried fuel ∧ ItemsCarried fuel ∧ EntriesCarried fuel := by
  induction fuel with
  | zero =>
      refine ⟨fun text turnedFuel _ => ?_, fun items text turnedFuel _ => ?_,
        fun entries text turnedFuel _ => ?_⟩
      · exact .error _ _
      · exact .error _ _
      · exact .error _ _
  | succ fuel inductionHypothesis =>
      obtain ⟨valuesCarried, itemsCarried, entriesCarried⟩ := inductionHypothesis
      exact ⟨valuesCarried_succ itemsCarried entriesCarried,
        itemsCarried_succ valuesCarried itemsCarried,
        entriesCarried_succ valuesCarried entriesCarried⟩

/-! ## Texts -/

/-- A text is accepted where no mark is in front and a value is read with nothing but blanks
behind it. -/
theorem read_eq_ok_iff (text : String) (value : Value) :
    read text = .ok value ↔
      ¬['\uFEFF'] <+: text.toList ∧
        ∃ left, readValue (2 * text.toList.length + 2) (skipBlanks text.toList) =
            .ok (value, left) ∧
          skipBlanks left = [] := by
  unfold read readWhole
  dsimp only
  by_cases marked : ['\uFEFF'] <+: text.toList
  · rw [if_pos (List.isPrefixOf_iff_prefix.mpr marked)]
    simp [marked]
  · rw [if_neg (mt List.isPrefixOf_iff_prefix.mp marked)]
    cases step : readValue (2 * text.toList.length + 2) (skipBlanks text.toList) with
    | error stop => cases stop <;> simp [bind, Except.bind, Except.mapError]
    | ok found =>
        obtain ⟨value, left⟩ := found
        cases rest : skipBlanks left with
        | nil => simp [bind, Except.bind, Except.mapError, rest, marked]
        | cons extra more => simp [bind, Except.bind, Except.mapError, rest, marked]

/-- A JSON text has the same value with its line ends turned into newlines. -/
theorem read_unifyNewlines
    {text : String}
    {value : Value}
    (accepts : read text = .ok value) :
    read (unifyNewlines text) = .ok value := by
  obtain ⟨notMarked, left, reads, isEnd⟩ := (read_eq_ok_iff text value).mp accepts
  have arePlain : ∀ character ∈ ['\uFEFF'], IsPlain character :=
    List.forall_mem_singleton.mpr (by decide)
  have enough := length_turned_skipBlanks_le text.toList
  rw [read_eq_ok_iff, unifyNewlines, String.toList_ofList, skipBlanks_unifyNewlineChars]
  refine ⟨mt (prefix_unifyNewlineChars_iff arePlain _).mp notMarked, unifyNewlineChars left, ?_, ?_⟩
  · exact (carried_steps _).1 _ _ (by omega) _ _ reads
  · rw [skipBlanks_unifyNewlineChars, isEnd]
    rfl

end Json
end ProtocolTypes
