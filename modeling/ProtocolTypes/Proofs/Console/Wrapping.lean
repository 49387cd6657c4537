import Mathlib.Data.List.TakeWhile
import ProtocolTypes.Console.Wrap
import ProtocolTypes.Proofs.Text.Pieces

/-!
# Lines that fit

A text whose lines all fit on the screen stands there as it is.  The words of a line are put on
the page one by one, and since together they take no more cells than the line, none of them
begins a new one.
-/

namespace ProtocolTypes

namespace Cell

theorem countAfter_joiner (before : Option Char) (rest : List Char) :
    countAfter before (joiner :: rest) = countAfter before rest.tail := by
  cases rest with
  | nil => simp [countAfter]
  | cons next rest => rw [countAfter, if_pos rfl, List.tail_cons]

theorem countAfter_selector (before : Option Char) (rest : List Char) :
    countAfter before (selector :: rest) = selectedMore before + countAfter none rest := by
  have other : selector ≠ joiner := by decide
  cases rest with
  | nil => simp [countAfter, other]
  | cons next rest => rw [countAfter, if_neg other, if_pos rfl]

theorem countAfter_cons
    {character : Char}
    (notJoiner : character ≠ joiner)
    (notSelector : character ≠ selector)
    (before : Option Char)
    (rest : List Char) :
    countAfter before (character :: rest) =
      width character + countAfter (changeable before character) rest := by
  cases rest with
  | nil => simp [countAfter, notJoiner, notSelector]
  | cons next rest => rw [countAfter, if_neg notJoiner, if_neg notSelector]

/-- Characters are counted one by one from the front, but for those that a joiner takes. -/
theorem counting_induction
    {motive : Option Char → List Char → Prop}
    (nil : ∀ before, motive before [])
    (joined : ∀ before rest, motive before rest.tail → motive before (joiner :: rest))
    (selected : ∀ before rest, motive none rest → motive before (selector :: rest))
    (plain : ∀ before character rest, character ≠ joiner → character ≠ selector →
      motive (changeable before character) rest → motive before (character :: rest))
    (before : Option Char)
    (text : List Char) :
    motive before text := by
  fun_induction countAfter before text with
  | case1 before => exact nil before
  | case2 before => exact joined before [] (nil before)
  | case3 before => exact selected before [] (nil none)
  | case4 before character notJoiner notSelector =>
      exact plain before character [] notJoiner notSelector (nil _)
  | case5 before next rest inductionHypothesis => exact joined before _ inductionHypothesis
  | case6 before next rest _ inductionHypothesis => exact selected before _ inductionHypothesis
  | case7 before character next rest notJoiner notSelector inductionHypothesis =>
      exact plain before character _ notJoiner notSelector inductionHypothesis

/-- A character in front that a selector may change only adds cells. -/
theorem countAfter_none_le (before : Option Char) (text : List Char) :
    countAfter none text ≤ countAfter before text := by
  induction before, text using counting_induction with
  | nil => exact le_rfl
  | joined before rest inductionHypothesis =>
      rw [countAfter_joiner, countAfter_joiner]
      exact inductionHypothesis
  | selected before rest inductionHypothesis =>
      rw [countAfter_selector, countAfter_selector]
      exact Nat.add_le_add_right (Nat.zero_le _) _
  | plain before character rest notJoiner notSelector inductionHypothesis =>
      rw [countAfter_cons notJoiner notSelector, countAfter_cons notJoiner notSelector]
      refine Nat.add_le_add_left ?_ _
      by_cases isMark : width character = 0
      · simpa [changeable, isMark] using inductionHypothesis
      · simp [changeable, isMark]

/-- The beginning of a text takes no more cells than the whole. -/
theorem countAfter_le_append (before : Option Char) (front back : List Char) :
    countAfter before front ≤ countAfter before (front ++ back) := by
  induction before, front using counting_induction with
  | nil => exact Nat.zero_le _
  | joined before rest inductionHypothesis =>
      cases rest with
      | nil => exact Nat.zero_le _
      | cons next rest =>
          rw [List.cons_append, countAfter_joiner, countAfter_joiner]
          exact inductionHypothesis
  | selected before rest inductionHypothesis =>
      rw [List.cons_append, countAfter_selector, countAfter_selector]
      exact Nat.add_le_add_left inductionHypothesis _
  | plain before character rest notJoiner notSelector inductionHypothesis =>
      rw [List.cons_append, countAfter_cons notJoiner notSelector,
        countAfter_cons notJoiner notSelector]
      exact Nat.add_le_add_left inductionHypothesis _

/-- Parts of a text take no more cells than the whole, if no joiner stands between them. -/
theorem countAfter_add_le
    (before : Option Char)
    (front back : List Char)
    (notJoined : front.getLast? ≠ some joiner) :
    countAfter before front + count back ≤ countAfter before (front ++ back) := by
  have rear {first : Char} {rest : List Char} (notJoined : (first :: rest).getLast? ≠ some joiner) :
      rest.getLast? ≠ some joiner := by
    cases rest with
    | nil => nofun
    | cons next rest => simpa using notJoined
  induction before, front using counting_induction with
  | nil before =>
      rw [List.nil_append, countAfter, Nat.zero_add]
      exact countAfter_none_le before back
  | joined before rest inductionHypothesis =>
      cases rest with
      | nil => exact absurd rfl notJoined
      | cons next rest =>
          rw [List.cons_append, countAfter_joiner, countAfter_joiner]
          exact inductionHypothesis (rear (rear notJoined))
  | selected before rest inductionHypothesis =>
      rw [List.cons_append, countAfter_selector, countAfter_selector, Nat.add_assoc]
      exact Nat.add_le_add_left (inductionHypothesis (rear notJoined)) _
  | plain before character rest notJoiner notSelector inductionHypothesis =>
      rw [List.cons_append, countAfter_cons notJoiner notSelector,
        countAfter_cons notJoiner notSelector, Nat.add_assoc]
      exact Nat.add_le_add_left (inductionHypothesis (rear notJoined)) _

end Cell

namespace Wrap

/-! ## Words -/

theorem firstWord_append (text : List Char) : (firstWord text).1 ++ (firstWord text).2 = text := by
  simp only [firstWord, List.append_assoc, List.takeWhile_append_dropWhile]

/-- What is left behind characters of a class begins with none of them. -/
theorem head_dropWhile
    {inClass : Char → Bool}
    {text rest : List Char}
    {character : Char}
    (isFront : text.dropWhile inClass = character :: rest) :
    inClass character = false := by
  have fails := List.head_dropWhile_not inClass (l := text) (by simp [isFront])
  simpa [isFront] using fails

/-- A word that another one follows ends in a blank, and so in no joiner. -/
theorem getLast?_firstWord_ne_joiner
    (text : List Char)
    (goesOn : (firstWord text).2 ≠ []) :
    (firstWord text).1.getLast? ≠ some Cell.joiner := by
  simp only [firstWord] at goesOn ⊢
  generalize isRear : (text.dropWhile Text.isBlank).dropWhile
    (fun character => !Text.isBlank character) = afterLetters at goesOn ⊢
  cases afterLetters with
  | nil => exact absurd rfl goesOn
  | cons blank rest =>
      have isBlank : Text.isBlank blank = true := by simpa using head_dropWhile isRear
      have someBlank : (blank :: rest).takeWhile Text.isBlank ≠ [] := by simp [isBlank]
      rw [List.getLast?_append_of_ne_nil _ someBlank]
      intro isJoiner
      have isTaken := List.mem_takeWhile_imp (List.mem_of_getLast? isJoiner)
      exact absurd isTaken (by decide)

theorem firstWord_ne_nil (text : List Char) (notNil : text ≠ []) : (firstWord text).1 ≠ [] := by
  cases text with
  | nil => exact absurd rfl notNil
  | cons first rest =>
      cases isBlank : Text.isBlank first <;> simp [firstWord, isBlank]

/-! ## Pages -/

/-- A word that there is room for is put on the line. -/
theorem putWord_of_le
    {width : Nat}
    {page : Page}
    {word : List Char}
    (fits : page.cells + Cell.count word ≤ width) :
    page.putWord width word =
      { page with line := page.line ++ word, cells := page.cells + Cell.count word } := by
  have fewer : Cell.count (Text.dropEndWhile Text.isBlank word) ≤ Cell.count word := by
    have isWord : Text.dropEndWhile Text.isBlank word <+: word := by
      have isRear := List.dropWhile_suffix Text.isBlank (l := word.reverse)
      simpa [Text.dropEndWhile] using List.reverse_prefix.mpr isRear
    obtain ⟨blanks, isWhole⟩ := isWord
    calc Cell.count (Text.dropEndWhile Text.isBlank word)
        ≤ Cell.count (Text.dropEndWhile Text.isBlank word ++ blanks) :=
          Cell.countAfter_le_append _ _ _
      _ = Cell.count word := by rw [isWhole]
  rw [Page.putWord, if_pos (by omega)]

/-- The words of a text that there is room for are all put on the line. -/
theorem foldl_putWord_wordsWithin
    (width bound cells : Nat)
    (text line : List Char)
    (enough : text.length ≤ bound)
    (hasLetter : text = [] ∨ text.all Text.isBlank = false)
    (fits : cells + Cell.count text ≤ width) :
    ∃ total, (wordsWithin bound text).foldl (Page.putWord width)
        { full := [], line := line, cells := cells } =
      { full := [], line := line ++ text, cells := total } := by
  induction bound generalizing text line cells with
  | zero =>
      obtain rfl := List.length_eq_zero_iff.mp (Nat.le_zero.mp enough)
      exact ⟨cells, by simp [wordsWithin]⟩
  | succ bound inductionHypothesis =>
      rcases hasLetter with rfl | hasLetter
      · exact ⟨cells, by simp [wordsWithin]⟩
      · have isWhole := firstWord_append text
        have goesOn := getLast?_firstWord_ne_joiner text
        have notNil := firstWord_ne_nil text (by rintro rfl; simp at hasLetter)
        have next (character : Char) (rest : List Char)
            (isFront : (firstWord text).2 = character :: rest) :
            Text.isBlank character = false := head_dropWhile isFront
        rw [wordsWithin, if_neg (by simp [hasLetter])]
        generalize firstWord text = found at isWhole goesOn notNil next ⊢
        obtain ⟨word, rest⟩ := found
        subst isWhole
        dsimp only at enough fits goesOn notNil next ⊢
        -- A joiner at the end of the word would take the next character from the count.
        have together : Cell.count word + Cell.count rest ≤ Cell.count (word ++ rest) := by
          cases rest with
          | nil => simp
          | cons first rest => exact Cell.countAfter_add_le _ _ _ (goesOn (by simp))
        have shorter := List.length_pos_iff.mpr notNil
        rw [List.length_append] at enough
        rw [List.foldl_cons, putWord_of_le (by dsimp only; omega)]
        have hasLetter : rest = [] ∨ rest.all Text.isBlank = false := by
          cases rest with
          | nil => exact .inl rfl
          | cons first rest => exact .inr (by simp [next first rest rfl])
        obtain ⟨total, done⟩ := inductionHypothesis (cells + Cell.count word) rest (line ++ word)
          (by omega) hasLetter (by omega)
        exact ⟨total, by rw [done, List.append_assoc]⟩

/-- A line that is no wider than the screen is not broken. -/
theorem brokenLines_of_le
    {width : Nat}
    {line : List Char}
    (fits : Cell.count line ≤ width) :
    brokenLines width line = [line] := by
  cases hasNone : line.all Text.isBlank with
  | true =>
      have noWords : words line = [] := by
        cases line with
        | nil => rfl
        | cons first rest => rw [words, List.length_cons, wordsWithin, if_pos hasNone]
      rw [brokenLines, noWords]
  | false =>
      obtain ⟨total, done⟩ := foldl_putWord_wordsWithin width line.length 0 line [] le_rfl
        (.inr hasNone) (by omega)
      unfold brokenLines
      split
      · rfl
      · rw [words, done]
        rfl

/-- A line fits on the screen as it is: it is not too wide, and no blanks at its end are
too many. -/
structure Fits (width : Nat) (line : List Char) : Prop where
  cells : Cell.count line ≤ width
  blanks : line.length ≤ width ∨ line.getLast?.all fun last => !Text.isBlank last

theorem dropExcessBlanks_of_fits
    {width : Nat}
    {line : List Char}
    (fits : Fits width line) :
    dropExcessBlanks width line = line := by
  unfold dropExcessBlanks
  rcases fits.blanks with short | noBlank
  · simp [Nat.sub_eq_zero_of_le short]
  · have noBlanks : line.reverse.takeWhile Text.isBlank = [] := by
      cases isReverse : line.reverse with
      | nil => rfl
      | cons last rest =>
          have isLast : line.getLast? = some last := by
            rw [List.getLast?_eq_head?_reverse, isReverse, List.head?_cons]
          rw [isLast, Option.all_some, Bool.not_eq_true'] at noBlank
          rw [List.takeWhile_cons_of_neg (by simp [noBlank])]
    simp [noBlanks]

theorem lineRows_of_fits
    {width : Nat}
    {line : List Char}
    (noTab : '\t' ∉ line)
    (fits : Fits width line) :
    lineRows width line = [line] := by
  have noTabs : expandTabs line = line := by
    rw [expandTabs, List.splitOn_eq_singleton noTab, joinAtStops]
  rw [lineRows, noTabs, brokenLines_of_le fits.cells, List.map_singleton,
    dropExcessBlanks_of_fits fits, Cell.fit_of_count_le width line fits.cells]

/-- A text without tabs whose lines all fit on the screen stands there as it is. -/
theorem text_of_fits
    {width : Nat}
    {shown : String}
    (noTab : '\t' ∉ shown.toList)
    (fits : ∀ line ∈ shown.toList.splitOn '\n', Fits width line) :
    Wrap.text width shown = shown := by
  have same : (shown.toList.splitOn '\n').flatMap (lineRows width) =
      shown.toList.splitOn '\n' := by
    have alone (line : List Char) (isLine : line ∈ shown.toList.splitOn '\n') :
        lineRows width line = [line] := by
      refine lineRows_of_fits (fun isTab => noTab ?_) (fits line isLine)
      exact (Text.isInfix_of_mem_splitOn '\n' _ line isLine).subset isTab
    rw [List.flatMap_def, List.map_congr_left alone, ← List.flatMap_def, List.flatMap_singleton']
  unfold Wrap.text
  rw [same]
  exact Text.joinLines_splitAt shown

end Wrap
end ProtocolTypes
