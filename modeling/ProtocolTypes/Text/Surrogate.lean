/-!
# Surrogates

A surrogate is one half of a pair that stands for a character where units have two bytes.
Documents can spell one that belongs to no pair.  It is no character, and no text that holds
it can be encoded; up to there it is carried along like any other part of a text.

Texts here are made of characters, so that in the place of a surrogate a character of private
use stands in for it.  Which ones these are is left open.  What is said of texts holds for
every choice, and hence for one whose characters are in none of the texts of a run.
-/

namespace ProtocolTypes

/-- The point is a surrogate. -/
def IsSurrogate (point : Nat) : Prop := 0xD800 ≤ point ∧ point < 0xE000

instance (point : Nat) : Decidable (IsSurrogate point) :=
  inferInstanceAs (Decidable (_ ∧ _))

/-- The surrogate stands for a byte where a name of a file is not of characters alone. -/
def IsNameByte (point : Nat) : Prop := 0xDC80 ≤ point ∧ point < 0xDD00

instance (point : Nat) : Decidable (IsNameByte point) :=
  inferInstanceAs (Decidable (_ ∧ _))

/-- The characters that stand in for the surrogates, each for one of them. -/
class StandIns where
  character : Nat → Char
  injective : ∀ first second, IsSurrogate first → IsSurrogate second →
    character first = character second → first = second
  /-- They lie in the planes that are for private use. -/
  isPrivate : ∀ point, IsSurrogate point → 0xF0000 ≤ (character point).toNat

namespace StandIns

/-- One of the last characters of all, which are for private use. -/
def lastCharacter (point : Nat) : Char := Char.ofNat (0x102000 + point)

theorem toNat_lastCharacter (point : Nat) (isSurrogate : IsSurrogate point) :
    (lastCharacter point).toNat = 0x102000 + point := by
  obtain ⟨notBelow, notAbove⟩ := isSurrogate
  have isValid : (0x102000 + point).isValidChar := .inr (by omega)
  rw [lastCharacter, Char.ofNat, dif_pos isValid]
  rfl

/-- The choice of a program that has to make one. -/
instance lastCharacters : StandIns where
  character := lastCharacter
  injective first second isFirst isSecond same := by
    have samePoint := congrArg Char.toNat same
    rw [toNat_lastCharacter first isFirst, toNat_lastCharacter second isSecond] at samePoint
    omega
  isPrivate point isSurrogate := by
    rw [toNat_lastCharacter point isSurrogate]
    unfold IsSurrogate at isSurrogate
    omega

/-- All surrogates. -/
def points : List Nat := List.range' 0xD800 0x800

theorem mem_points_iff (point : Nat) : point ∈ points ↔ IsSurrogate point :=
  List.mem_range'_1

variable [StandIns]

/-- What stands in a text for a point: its character, or the one that stands in for it. -/
def ofPoint (point : Nat) : Char :=
  if IsSurrogate point then character point else Char.ofNat point

/-- The surrogate that a character stands in for, if it does. -/
def surrogate? (other : Char) : Option Nat :=
  if other.toNat < 0xF0000 then none
  else points.find? fun point => character point == other

/-- What is spelled for a character where everything is encoded: a surrogate by its number. -/
def escaped (other : Char) : List Char :=
  match surrogate? other with
  | some point => '\\' :: 'u' :: Nat.toDigits 16 point
  | none => [other]

theorem surrogate?_eq_some_iff (other : Char) (point : Nat) :
    surrogate? other = some point ↔ IsSurrogate point ∧ character point = other := by
  constructor
  · intro found
    unfold surrogate? at found
    split at found
    · cases found
    · have isThere := List.mem_of_find?_eq_some found
      have same := List.find?_some found
      exact ⟨(mem_points_iff point).mp isThere, eq_of_beq same⟩
  · rintro ⟨isSurrogate, rfl⟩
    have isFar := isPrivate point isSurrogate
    rw [surrogate?, if_neg (Nat.not_lt.mpr isFar)]
    cases found : points.find? fun other => character other == character point with
    | none =>
        have absent := List.find?_eq_none.mp found point ((mem_points_iff point).mpr isSurrogate)
        simp at absent
    | some other =>
        have isThere := (mem_points_iff other).mp (List.mem_of_find?_eq_some found)
        have same := List.find?_some found
        rw [injective other point isThere isSurrogate (eq_of_beq same)]

/-- Characters outside the planes for private use stand in for nothing. -/
theorem surrogate?_of_lt (other : Char) (isNear : other.toNat < 0xF0000) :
    surrogate? other = none :=
  if_pos isNear

/-- A surrogate is read back from what stands for its point. -/
theorem surrogate?_ofPoint (point : Nat) (isSurrogate : IsSurrogate point) :
    surrogate? (ofPoint point) = some point := by
  rw [ofPoint, if_pos isSurrogate]
  exact (surrogate?_eq_some_iff _ _).mpr ⟨isSurrogate, rfl⟩

end StandIns

namespace Text

variable [StandIns]

/-- Whether a text can be encoded: no surrogate is in it. -/
def isEncodable (text : String) : Bool :=
  text.toList.all fun character => (StandIns.surrogate? character).isNone

/-- The text with its surrogates spelled, so that it can be encoded. -/
def escaped (text : String) : String :=
  String.ofList (text.toList.flatMap StandIns.escaped)

/-- Whether a text can be the name of a file: the surrogates in it stand for bytes. -/
def isNameable (text : String) : Bool :=
  text.toList.all fun character =>
    (StandIns.surrogate? character).all fun point => decide (IsNameByte point)

/-- A text can be encoded exactly if nothing in it stands in for a surrogate. -/
theorem isEncodable_iff (text : String) :
    isEncodable text = true ↔
      ∀ point, IsSurrogate point → StandIns.character point ∉ text.toList := by
  simp only [isEncodable, List.all_eq_true, Option.isNone_iff_eq_none,
    Option.eq_none_iff_forall_ne_some, ne_eq, StandIns.surrogate?_eq_some_iff, not_and]
  constructor
  · intro noStandIn point isSurrogate isThere
    exact noStandIn _ isThere point isSurrogate rfl
  · rintro noStandIn character isThere point isSurrogate rfl
    exact noStandIn point isSurrogate isThere

@[simp]
theorem isEncodable_append (first second : String) :
    isEncodable (first ++ second) = (isEncodable first && isEncodable second) := by
  simp [isEncodable]

theorem isEncodable_of_forall_lt
    (text : String)
    (areNear : ∀ character ∈ text.toList, character.toNat < 0xF0000) :
    isEncodable text = true := by
  rw [isEncodable, List.all_eq_true]
  intro character isThere
  rw [StandIns.surrogate?_of_lt character (areNear character isThere)]
  rfl

@[simp]
theorem escaped_empty : escaped "" = "" := rfl

theorem escaped_append (first second : String) :
    escaped (first ++ second) = escaped first ++ escaped second := by
  apply String.toList_injective
  simp [escaped]

/-- A text that can be encoded is spelled as it is. -/
theorem escaped_of_isEncodable (text : String) (encodable : isEncodable text = true) :
    escaped text = text := by
  have asTheyAre (character : Char) (isThere : character ∈ text.toList) :
      StandIns.escaped character = [character] := by
    have isNone := List.all_eq_true.mp encodable character isThere
    rw [StandIns.escaped, Option.isNone_iff_eq_none.mp isNone]
  rw [escaped, List.flatMap_def, List.map_congr_left asTheyAre, ← List.flatMap_def,
    List.flatMap_singleton', String.ofList_toList]

end Text
end ProtocolTypes
