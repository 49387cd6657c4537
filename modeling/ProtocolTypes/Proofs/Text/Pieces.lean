import ProtocolTypes.Text.Lines
import Mathlib.Data.List.Infix

/-!
# Pieces of a text

A text that is cut at a separator has one piece more than it has separators, and each piece
lies inside it.  Cutting at newlines and joining by them undo each other
(`joinLines_splitAt`, `splitAt_joinLines_of_lines`).
-/

namespace ProtocolTypes
namespace Text

/-! ## Cutting -/

/-- A text has one piece more than it has separators. -/
theorem length_splitAt (separator : Char) (text : String) :
    (splitAt separator text).length = text.toList.count separator + 1 := by
  simp only [splitAt, List.length_map]
  induction text.toList with
  | nil => simp
  | cons first rest inductionHypothesis =>
      rw [List.splitOn_cons_eq_if_modifyHead, List.count_cons]
      by_cases same : first = separator <;> simp [same, inductionHypothesis]

/-- No piece of a text has the separator in it. -/
theorem not_mem_of_mem_splitOn
    (separator : Char)
    (text piece : List Char)
    (isPiece : piece ∈ text.splitOn separator) :
    separator ∉ piece := by
  induction text generalizing piece with
  | nil =>
      rw [List.splitOn_nil, List.mem_singleton] at isPiece
      simp [isPiece]
  | cons first rest inductionHypothesis =>
      rw [List.splitOn_cons_eq_if_modifyHead] at isPiece
      split at isPiece
      · rcases List.mem_cons.mp isPiece with rfl | later
        · simp
        · exact inductionHypothesis piece later
      · next different =>
          obtain ⟨front, others, split⟩ :=
            List.exists_cons_of_ne_nil (List.splitOn_ne_nil separator rest)
          rw [split] at isPiece inductionHypothesis
          rcases List.mem_cons.mp isPiece with rfl | later
          · have frontFree := inductionHypothesis front (by simp)
            simp only [beq_iff_eq] at different
            simp [frontFree, Ne.symm different]
          · exact inductionHypothesis piece (by simp [later])

/-- The pieces of a text lie inside it. -/
theorem isInfix_of_mem_splitOn
    (separator : Char)
    (text piece : List Char)
    (isPiece : piece ∈ text.splitOn separator) :
    piece <:+: text := by
  have joined : ∀ pieces : List (List Char), piece ∈ pieces →
      piece <:+: [separator].intercalate pieces := by
    intro pieces isThere
    induction pieces with
    | nil => simp at isThere
    | cons first rest inductionHypothesis =>
        cases rest with
        | nil => simp_all
        | cons second rest =>
            rw [List.intercalate_cons_cons]
            rcases List.mem_cons.mp isThere with rfl | isThere
            · rw [List.append_assoc]
              exact (List.prefix_append _ _).isInfix
            · exact (inductionHypothesis isThere).trans (List.suffix_append _ _).isInfix
  have whole : [separator].intercalate (text.splitOn separator) = text :=
    List.intercalate_splitOn separator
  have inside := joined (text.splitOn separator) isPiece
  rwa [whole] at inside

/-- What stands before the first separator, and what behind it, is told by the whole. -/
theorem eq_of_append_cons_eq
    {separator : Char}
    {front otherFront back otherBack : List Char}
    (frontFree : separator ∉ front)
    (otherFree : separator ∉ otherFront)
    (same : front ++ separator :: back = otherFront ++ separator :: otherBack) :
    front = otherFront ∧ back = otherBack := by
  have untilSeparator (text rest : List Char) (isFree : separator ∉ text) :
      (text ++ separator :: rest).takeWhile (· ≠ separator) = text := by
    have allOther : ∀ character ∈ text, decide (character ≠ separator) = true := by
      intro character isThere
      exact decide_eq_true fun equal => isFree (equal ▸ isThere)
    rw [List.takeWhile_append_of_pos allOther]
    simp
  have sameFront : front = otherFront := by
    rw [← untilSeparator front back frontFree, same,
      untilSeparator otherFront otherBack otherFree]
  subst sameFront
  exact ⟨rfl, by simpa using same⟩

/-! ## Joining -/

theorem splitAt_ne_nil (separator : Char) (text : String) : splitAt separator text ≠ [] := by
  simp [splitAt]

/-- A text is the join of its lines. -/
theorem joinLines_splitAt (text : String) : joinLines (splitAt '\n' text) = text := by
  apply String.toList_injective
  rw [joinLines, String.toList_intercalate, splitAt, List.map_map]
  have same : String.toList ∘ String.ofList = id := by
    funext characters
    exact String.toList_ofList
  rw [same, List.map_id]
  exact List.intercalate_splitOn '\n'

/-- The lines of joined texts are the lines of each. -/
theorem splitAt_joinLines
    (texts : List String)
    (present : texts ≠ []) :
    splitAt '\n' (joinLines texts) = texts.flatMap (splitAt '\n') := by
  induction texts with
  | nil => exact absurd rfl present
  | cons first rest inductionHypothesis =>
      cases rest with
      | nil => simp
      | cons second rest =>
          have newline : "\n".toList = ['\n'] := rfl
          rw [List.flatMap_cons, ← inductionHypothesis (by simp), joinLines_cons_cons, splitAt,
            String.toList_append, String.toList_append, newline, List.append_assoc,
            List.singleton_append, List.splitOn_append_cons_self, List.map_append]
          rfl

/-- Lines that are joined are the lines of the whole. -/
theorem splitAt_joinLines_of_lines
    (lines : List String)
    (present : lines ≠ [])
    (areLines : ∀ line ∈ lines, '\n' ∉ line.toList) :
    splitAt '\n' (joinLines lines) = lines := by
  have alone (line : String) (isThere : line ∈ lines) : splitAt '\n' line = [line] := by
    rw [splitAt, List.splitOn_eq_singleton (areLines line isThere), List.map_singleton,
      String.ofList_toList]
  rw [splitAt_joinLines lines present, List.flatMap_def, List.map_congr_left alone,
    ← List.flatMap_def, List.flatMap_singleton']

end Text
end ProtocolTypes
