import ProtocolTypes.Web.Exchange

/-!
# Texts of pages

What keeps the text of a page from being told: the sections of a content type that cannot be
put in order, and encodings that are named but cannot be used on the content.
-/

namespace ProtocolTypes

namespace Encoding

/-- Reading by steps breaks off only where something at the end is too long. -/
theorem eq_undecodable_of_decodeSteps
    {State : Type}
    {step : State → UInt8 → List UInt8 → Step State}
    {state : State}
    {bytes : List UInt8}
    {accident : Accident}
    (breaks : decodeSteps step state bytes = .error accident) :
    accident = .undecodable := by
  fun_induction decodeSteps step state bytes with
  | case1 => cases breaks
  | case2 state byte rest characters more next _ inductionHypothesis =>
      cases others : decodeSteps step next (rest.drop more) with
      | ok text => rw [others] at breaks; cases breaks
      | error cause => rw [others] at breaks; cases breaks; exact inductionHypothesis others
  | case3 state byte rest more _ inductionHypothesis =>
      cases others : decodeSteps step state (rest.drop more) with
      | ok text => rw [others] at breaks; cases breaks
      | error cause => rw [others] at breaks; cases breaks; exact inductionHypothesis others
  | case4 => cases breaks; rfl
  | case5 => cases breaks

/-- Every encoding of characters in different numbers of bytes is read by steps. -/
theorem exists_steps_of_multiByte
    (several : MultiByte)
    (isKnown : several ∈ Chinese.all ++ Korean.all ++ Japanese.all ++ Designation.all) :
    ∃ (State : Type) (step : State → UInt8 → List UInt8 → Step State) (state : State),
      several.decode = decodeSteps step state := by
  simp only [Chinese.all, Korean.all, Japanese.all, Designation.all, List.cons_append,
    List.nil_append, List.mem_cons, List.not_mem_nil, or_false] at isKnown
  rcases isKnown with rfl | rfl | rfl | rfl | rfl | rfl | rfl | rfl | rfl | rfl | rfl | rfl |
    rfl | rfl | rfl | rfl | rfl | rfl | rfl | rfl | rfl | rfl | rfl | rfl <;>
    exact ⟨_, _, _, rfl⟩

theorem eq_undecodable_of_decodeMarked
    {width : Nat}
    {decode : ByteOrder → List UInt8 → List Char}
    {bytes : List UInt8}
    {accident : Accident}
    (breaks : decodeMarked width decode bytes = .error accident) :
    accident = .undecodable := by
  unfold decodeMarked at breaks
  dsimp only at breaks
  split at breaks
  · cases breaks
  · split at breaks
    · cases breaks
    · cases breaks
      rfl

theorem eq_badEncoding_of_punycode
    {bytes : List UInt8}
    {accident : Accident}
    (breaks : Punycode.decode bytes = .error accident) :
    accident = .badEncoding := by
  unfold Punycode.decode at breaks
  dsimp only at breaks
  split at breaks
  · cases breaks
    rfl
  · cases breaks

/-- The kinds of accident that the content of a page may bring about. -/
def accidents : List Accident := [.wrongType, .undecodable, .notTextual, .badEncoding]

theorem mem_accidents_of_unusable
    {named : Named}
    (isKnown : named ∈ all)
    {accident : Accident}
    (isUnusable : named.encoding = .unusable accident) :
    accident ∈ accidents := by
  simp only [all, List.mem_append] at isKnown
  rcases isKnown with ((isUnicode | isListed) | isPage) | isSeveral
  · have never : ∀ named ∈ unicode, named.encoding ≠ .unusable accident := by simp [unicode]
    exact absurd isUnusable (never named isUnicode)
  · have listed : ∀ named ∈ unusables, named.encoding = .unusable accident →
        accident ∈ accidents := by
      simp +contextual [unusables, accidents, eq_comm]
    exact listed named isListed isUnusable
  · obtain ⟨page, -, rfl⟩ := List.mem_map.mp isPage
    cases isUnusable
  · obtain ⟨several, -, rfl⟩ := List.mem_map.mp isSeveral
    cases isUnusable

theorem mem_multiByte
    {named : Named}
    (isKnown : named ∈ all)
    {several : MultiByte}
    (isSeveral : named.encoding = .multiByte several) :
    several ∈ Chinese.all ++ Korean.all ++ Japanese.all ++ Designation.all := by
  rw [all, List.mem_append, List.mem_append, List.mem_append] at isKnown
  rcases isKnown with ((isUnicode | isListed) | isPage) | isFound
  · have never : ∀ named ∈ unicode, named.encoding ≠ .multiByte several := by simp [unicode]
    exact absurd isSeveral (never named isUnicode)
  · have never : ∀ named ∈ unusables, named.encoding ≠ .multiByte several := by
      simp [unusables]
    exact absurd isSeveral (never named isListed)
  · obtain ⟨page, -, rfl⟩ := List.mem_map.mp isPage
    cases isSeveral
  · obtain ⟨found, isMember, rfl⟩ := List.mem_map.mp isFound
    cases isSeveral
    exact isMember

/-- Decoding by a known encoding ends in few kinds of accident. -/
theorem mem_accidents_of_decode
    [StandIns]
    {named : Named}
    (isKnown : named ∈ all)
    {content : List UInt8}
    {accident : Accident}
    (breaks : named.encoding.decode content = .error accident) :
    accident ∈ accidents := by
  unfold decode at breaks
  split at breaks
  · cases breaks
  · cases isEncoding : named.encoding with
    | unusable kind =>
        rw [isEncoding] at breaks
        cases breaks
        exact mem_accidents_of_unusable isKnown isEncoding
    | multiByte several =>
        obtain ⟨State, step, state, bySteps⟩ :=
          exists_steps_of_multiByte several (mem_multiByte isKnown isEncoding)
        rw [isEncoding] at breaks
        dsimp only at breaks
        rw [bySteps] at breaks
        rw [eq_undecodable_of_decodeSteps breaks]
        decide
    | pairs order =>
        rw [isEncoding] at breaks
        cases order with
        | none => rw [eq_undecodable_of_decodeMarked breaks]; decide
        | some order => cases breaks
    | quads order =>
        rw [isEncoding] at breaks
        cases order with
        | none => rw [eq_undecodable_of_decodeMarked breaks]; decide
        | some order => cases breaks
    | punycode =>
        rw [isEncoding] at breaks
        rw [eq_badEncoding_of_punycode breaks]
        decide
    | _ =>
        rw [isEncoding] at breaks
        cases breaks

/-- Where no encoding is named, or an unknown one, the encoding of bytes is meant. -/
theorem exists_named (name : Option String) :
    ∃ named ∈ all, named.encoding = (name.bind ofName?).getD .bytes := by
  cases found : name.bind ofName? with
  | none =>
      have isFirst : ∃ named ∈ unicode, named.encoding = .bytes := ⟨_, List.mem_cons_self, rfl⟩
      obtain ⟨named, isUnicode, isBytes⟩ := isFirst
      refine ⟨named, ?_, isBytes⟩
      rw [all, List.mem_append, List.mem_append, List.mem_append]
      exact .inl (.inl (.inl isUnicode))
  | some encoding =>
      obtain ⟨text, -, isFound⟩ := Option.bind_eq_some_iff.mp found
      obtain ⟨named, isNamed, same⟩ := Option.map_eq_some_iff.mp isFound
      exact ⟨named, List.mem_of_find?_eq_some isNamed, same⟩

end Encoding

namespace ContentType

/-- A content type has a known encoding unless its sections cannot be put in order. -/
theorem encoding_cases [StandIns] (contentType : String) :
    encoding contentType = .error .wrongType ∨
      ∃ named ∈ Encoding.all, encoding contentType = .ok named.encoding := by
  have values : value? contentType "charset" = .error .wrongType ∨
      ∃ value, value? contentType "charset" = .ok value := by
    unfold value?
    dsimp only
    split
    · exact .inl rfl
    · refine .inr ?_
      split
      · exact ⟨_, rfl⟩
      · split
        · exact ⟨_, rfl⟩
        · exact ⟨_, rfl⟩
  unfold encoding
  rcases values with breaks | ⟨value, isValue⟩
  · exact .inl (by rw [breaks]; rfl)
  · obtain ⟨named, isKnown, isMeant⟩ := Encoding.exists_named
      ((value.filter (·.all fun character => character.toNat < 0x80)).map String.ofList)
    exact .inr ⟨named, isKnown, by rw [isValue, isMeant]; rfl⟩

end ContentType

namespace WebPage

/-- The text of a page ends in few kinds of accident. -/
theorem mem_accidents_of_text
    [StandIns]
    {page : WebPage}
    {accident : Accident}
    (breaks : page.text = .error accident) :
    accident ∈ Encoding.accidents := by
  unfold text at breaks
  rcases ContentType.encoding_cases page.contentType with isError | ⟨named, isKnown, isOk⟩
  · rw [isError] at breaks
    cases breaks
    decide
  · rw [isOk] at breaks
    cases decoded : named.encoding.decode page.body with
    | ok characters =>
        dsimp only [bind, Except.bind] at breaks
        rw [decoded] at breaks
        cases breaks
    | error cause =>
        dsimp only [bind, Except.bind] at breaks
        rw [decoded] at breaks
        cases breaks
        exact Encoding.mem_accidents_of_decode isKnown decoded

end WebPage
end ProtocolTypes
