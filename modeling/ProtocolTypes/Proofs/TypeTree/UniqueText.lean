import ProtocolTypes.Proofs.TypeTree.Reading
import ProtocolTypes.Proofs.TypeTree.Reordering

/-!
# The text of a tree tells the tree

A declaration prints the note of every property of an object and no other note.  `printed`
keeps exactly that much of a tree, and reading the text of a legible tree gives its printed
part back (`read?_render`).  Two legible trees therefore have the same text exactly when
their printed parts agree (`render_eq_iff_printed_eq`).
-/

namespace ProtocolTypes
namespace TypeTree

/-- A name of ASCII letters, digits, underscores and dollar signs. -/
def IsPlainName (name : String) : Prop :=
  ∀ character ∈ name.toList, isNameCharacter character = true

instance (name : String) : Decidable (IsPlainName name) :=
  decidable_of_iff (name.toList.all isNameCharacter = true) List.all_eq_true

mutual

/-- The names of all properties are plain, and so are the lines of their documentation. -/
def Legible : TypeTree → Prop
  | scalar _ _ => True
  | opaqueJson _ => True
  | object properties _ => LegibleProperties properties
  | array element _ => Legible element

/-- The properties have plain names and documentation, and legible trees. -/
def LegibleProperties : List (String × TypeTree) → Prop
  | [] => True
  | (name, tree) :: rest =>
    (IsPlainName name ∧ ∀ text ∈ tree.note.documentation, DocBlock.IsPlainLine text) ∧
      Legible tree ∧ LegibleProperties rest

end

mutual

/-- The tree with the notes that no declaration prints made blank: the root's note and
those of array elements. -/
def printed : TypeTree → TypeTree
  | scalar kind _ => scalar kind Note.blank
  | opaqueJson _ => opaqueJson Note.blank
  | object properties _ => object (printedProperties properties) Note.blank
  | array element _ => array (printed element) Note.blank

/-- The properties under their own notes. -/
def printedProperties : List (String × TypeTree) → List (String × TypeTree)
  | [] => []
  | (name, tree) :: rest =>
    (name, (printed tree).withNote tree.note) :: printedProperties rest

end

/-! ## The text depends on the printed part only -/

@[simp] theorem render_withNote (note : Note) (tree : TypeTree) :
    (tree.withNote note).render = tree.render := by
  cases tree <;> simp [withNote, render]

theorem renderMembers_printedProperties
    (properties : List (String × TypeTree))
    (childrenAgree : ∀ name child, (name, child) ∈ properties →
      child.printed.render = child.render) :
    renderMembers (printedProperties properties) = renderMembers properties := by
  induction properties with
  | nil => simp [printedProperties]
  | cons property rest inductionHypothesis =>
      obtain ⟨name, child⟩ := property
      have restAgrees := inductionHypothesis fun other tree isThere =>
        childrenAgree other tree (by simp [isThere])
      simp [printedProperties, renderMembers, restAgrees, childrenAgree name child]

/-- The notes that are made blank leave no trace in the text. -/
theorem render_printed (tree : TypeTree) : tree.printed.render = tree.render := by
  induction tree using induction with
  | scalar kind note => simp [printed, render]
  | opaqueJson note => simp [printed, render]
  | object properties note inductionHypothesis =>
      have isEmpty : (printedProperties properties).isEmpty = properties.isEmpty := by
        cases properties <;> simp [printedProperties]
      simp [printed, render, isEmpty,
        renderMembers_printedProperties properties inductionHypothesis]
  | array element note inductionHypothesis => simp [printed, render, inductionHypothesis]

/-! ## The text of an object -/

/-- The members of an object stand between its braces, every line ended. -/
theorem toList_render_object
    (property : String × TypeTree)
    (others : List (String × TypeTree))
    (note : Note) :
    (render (object (property :: others) note)).toList =
      '\x7b' :: '\n' :: (Text.ended (renderMembers (property :: others)) ++ ['\x7d']) := by
  rw [render, List.isEmpty_cons, if_neg (by simp), ← List.cons_append,
    Text.joinLines_append_singleton]
  simp

/-- What stands between a member's documentation and its end. -/
def memberText (name : String) (optional : Bool) (declaration rest : List Char) : List Char :=
  name.toList ++ ((separator optional).toList ++ (declaration ++ ';' :: '\n' :: rest))

theorem ended_memberLines
    (name : String)
    (note : Note)
    (declaration : String)
    (rest : List Char) :
    Text.ended (memberLines name note declaration) ++ rest =
      DocBlock.blockOver note.documentation ++
        memberText name note.optional declaration.toList rest := by
  by_cases undocumented : note.documentation = []
  · simp [memberLines, DocBlock.blockOver, undocumented, memberText]
  · simp only [memberLines, DocBlock.blockOver, List.isEmpty_iff, undocumented, if_false,
      Text.ended_append, DocBlock.ended_text]
    simp [memberText]

/-- Neither a comment nor a closing brace begins a member. -/
theorem head_memberText
    (name : String)
    (plain : IsPlainName name)
    (optional : Bool)
    (declaration rest : List Char)
    (character : Char)
    (noName : isNameCharacter character = false)
    (noSeparator : character ≠ '?' ∧ character ≠ ':') :
    (memberText name optional declaration rest).head? ≠ some character := by
  cases characters : name.toList with
  | nil =>
      cases optional <;>
        simp [memberText, characters, separator, noSeparator.1.symm, noSeparator.2.symm]
  | cons first others =>
      have isPlain := plain first (by simp [characters])
      have different : first ≠ character := by
        rintro rfl
        simp [isPlain] at noName
      simp [memberText, characters, different]

/-- The name ends at the separator. -/
theorem takeWhile_memberText
    (name : String)
    (plain : IsPlainName name)
    (optional : Bool)
    (declaration rest : List Char) :
    (memberText name optional declaration rest).takeWhile isNameCharacter = name.toList ∧
      (memberText name optional declaration rest).dropWhile isNameCharacter =
        (separator optional).toList ++ (declaration ++ ';' :: '\n' :: rest) := by
  rw [memberText, List.takeWhile_append_of_pos plain, List.dropWhile_append_of_pos plain]
  cases optional <;> simp [separator, isNameCharacter]

/-! ## Reading back -/

/-- The text of the tree is read as its printed part, whatever follows but a bracket. -/
def ReadsBack (tree : TypeTree) : Prop :=
  ∀ depth rest, tree.render.toList.length < depth → rest.head? ≠ some '[' →
    readTree? depth (tree.render.toList ++ rest) = some (tree.printed, rest)

/-- One member is read, and then the others. -/
theorem readMembers?_memberLines
    (name : String)
    (plainName : IsPlainName name)
    (child : TypeTree)
    (plainLines : ∀ text ∈ child.note.documentation, DocBlock.IsPlainLine text)
    (childRead : child.ReadsBack)
    (depth : Nat)
    (enough : child.render.toList.length < depth)
    (rest : List Char) :
    readMembers? (depth + 1) (Text.ended (memberLines name child.note child.render) ++ rest) =
      (readMembers? depth rest).map fun (others, rest) =>
        ((name, child.printed.withNote child.note) :: others, rest) := by
  have headOther := head_memberText name plainName child.note.optional child.render.toList rest
  have noBlock := headOther '/' (by decide) (by decide)
  have noBrace := headOther '\x7d' (by decide) (by decide)
  have nameRead :=
    takeWhile_memberText name plainName child.note.optional child.render.toList rest
  have goesOn : Text.after? ['\x7d'] (DocBlock.blockOver child.note.documentation ++
      memberText name child.note.optional child.render.toList rest) = none := by
    apply Text.after?_of_head
    rw [DocBlock.head_blockOver]
    split
    · exact noBrace
    · decide
  have ending : Text.after? [';', '\n'] (';' :: '\n' :: rest) = some rest :=
    Text.after?_append [';', '\n'] rest
  rw [ended_memberLines, readMembers?, goesOn, DocBlock.read?_blockOver _ plainLines _ noBlock]
  simp only [Option.bind_eq_bind, Option.bind_some, nameRead.1, nameRead.2,
    readSeparator?_separator]
  rw [childRead depth _ enough (by simp)]
  simp only [Option.bind_some, ending, String.ofList_toList, Option.pure_def]
  cases readMembers? depth rest <;> rfl

theorem readMembers?_renderMembers
    (properties : List (String × TypeTree))
    (legible : LegibleProperties properties)
    (childrenRead : ∀ name child, (name, child) ∈ properties → child.Legible → child.ReadsBack)
    (depth : Nat)
    (rest : List Char)
    (enough : (Text.ended (renderMembers properties)).length < depth) :
    readMembers? depth (Text.ended (renderMembers properties) ++ '\x7d' :: rest) =
      some (printedProperties properties, rest) := by
  induction properties generalizing depth with
  | nil =>
      obtain ⟨depth, rfl⟩ := Nat.exists_eq_add_one.2 enough
      simp [readMembers?, renderMembers, printedProperties, Text.after?]
  | cons property others inductionHypothesis =>
      obtain ⟨name, child⟩ := property
      obtain ⟨⟨plainName, plainLines⟩, childLegible, othersLegible⟩ := legible
      obtain ⟨depth, rfl⟩ := Nat.exists_eq_add_one.2 (Nat.zero_lt_of_lt enough)
      have childRead := childrenRead name child (by simp) childLegible
      have lengths := congrArg List.length (ended_memberLines name child.note child.render [])
      simp only [List.append_nil, List.length_append, memberText, List.length_cons] at lengths
      simp only [renderMembers, Text.ended_append, List.length_append] at enough
      have othersRead := inductionHypothesis othersLegible
        (fun other tree isThere => childrenRead other tree (by simp [isThere]))
        depth (by omega)
      rw [renderMembers, Text.ended_append, List.append_assoc,
        readMembers?_memberLines name plainName child plainLines childRead depth (by omega),
        othersRead]
      rfl

theorem readTree?_word
    {word : String}
    {tree : TypeTree}
    (listed : (word, tree) ∈ words)
    (depth : Nat)
    (enough : 0 < depth)
    (rest : List Char)
    (closed : rest.head? ≠ some '[') :
    readTree? depth (word.toList ++ rest) = some (tree, rest) := by
  obtain ⟨depth, rfl⟩ := Nat.exists_eq_add_one.2 enough
  rw [readTree?, readWord?_append listed rest closed]

/-- A tree whose declaration is a word is read back. -/
theorem readsBack_of_word
    (tree : TypeTree)
    (listed : (tree.render, tree.printed) ∈ words) :
    tree.ReadsBack := by
  intro depth rest enough closed
  exact readTree?_word listed depth (Nat.zero_lt_of_lt enough) rest closed

theorem readsBack_object
    (property : String × TypeTree)
    (others : List (String × TypeTree))
    (note : Note)
    (legible : LegibleProperties (property :: others))
    (childrenRead : ∀ name child, (name, child) ∈ property :: others →
      child.Legible → child.ReadsBack) :
    (object (property :: others) note).ReadsBack := by
  intro depth rest enough closed
  obtain ⟨depth, rfl⟩ := Nat.exists_eq_add_one.2 (Nat.zero_lt_of_lt enough)
  have text := toList_render_object property others note
  simp only [text, List.length_cons, List.length_append] at enough
  have membersRead := readMembers?_renderMembers (property :: others) legible childrenRead
    depth rest (by omega)
  have noWord (text : List Char) : readWord? ('\x7b' :: '\n' :: text) = none := rfl
  have noArray (text : List Char) :
      Text.after? "Array<".toList ('\x7b' :: '\n' :: text) = none := rfl
  have opened (text : List Char) :
      Text.after? ['\x7b', '\n'] ('\x7b' :: '\n' :: text) = some text :=
    Text.after?_append ['\x7b', '\n'] text
  rw [text, List.cons_append, List.cons_append, List.append_assoc, List.singleton_append,
    readTree?, noWord, noArray, opened]
  simp [membersRead, printed]

theorem readsBack_array
    (element : TypeTree)
    (note : Note)
    (elementRead : element.ReadsBack) :
    (array element note).ReadsBack := by
  by_cases shorthand : element.render = jsonObject
  · -- What the element is read as is known, for its text is a word.
    have asElement := elementRead (element.render.toList.length + 1) []
      (Nat.lt_succ_self _) (by simp)
    have listed : (jsonObject, emptyObject) ∈ words := by simp [words]
    have asWord := readTree?_word listed (element.render.toList.length + 1) (Nat.succ_pos _) []
      (by simp)
    rw [← shorthand, asElement, Option.some.injEq, Prod.mk.injEq] at asWord
    apply readsBack_of_word
    rw [render, arrayText, if_pos shorthand, printed, asWord.1]
    simp [words]
  · intro depth rest enough closed
    obtain ⟨depth, rfl⟩ := Nat.exists_eq_add_one.2 (Nat.zero_lt_of_lt enough)
    have text : (render (array element note)).toList =
        "Array<".toList ++ (element.render.toList ++ ['>']) := by
      rw [render, arrayText, if_neg shorthand]
      simp
    have opening : "Array<".toList.length = 6 := rfl
    simp only [text, List.length_append, opening] at enough
    have elementText := elementRead depth ('>' :: rest) (by omega) (by simp)
    have noWord (text : List Char) : readWord? ("Array<".toList ++ text) = none := rfl
    have ending : Text.after? ['>'] ('>' :: rest) = some rest := Text.after?_append ['>'] rest
    rw [text, List.append_assoc, List.append_assoc, List.singleton_append, readTree?, noWord,
      Text.after?_append]
    simp [elementText, ending, printed]

/-- Every legible tree is read back from its text. -/
theorem readsBack_of_legible (tree : TypeTree) (legible : tree.Legible) : tree.ReadsBack := by
  induction tree using induction with
  | scalar kind note =>
      apply readsBack_of_word
      cases kind <;> simp [words, render, printed, ScalarKind.spelling]
  | opaqueJson note => exact readsBack_of_word _ (by simp [words, render, printed])
  | object properties note inductionHypothesis =>
      cases properties with
      | nil =>
          apply readsBack_of_word
          simp [words, render, printed, printedProperties, emptyObject]
      | cons property others =>
          exact readsBack_object property others note legible inductionHypothesis
  | array element note inductionHypothesis =>
      exact readsBack_array element note (inductionHypothesis legible)

/-- The printed part of the tree that a whole text declares. -/
def read? (text : String) : Option TypeTree :=
  match readTree? (text.toList.length + 1) text.toList with
  | some (tree, []) => some tree
  | _ => none

/-- Reading the declaration of a legible tree gives what the declaration prints of it. -/
theorem read?_render (tree : TypeTree) (legible : tree.Legible) :
    read? tree.render = some tree.printed := by
  have readBack := readsBack_of_legible tree legible (tree.render.toList.length + 1) []
    (Nat.lt_succ_self _) (by simp)
  rw [List.append_nil] at readBack
  rw [read?, readBack]

/-- Legible trees have the same text exactly when they agree but for the notes of the roots
and of array elements. -/
theorem render_eq_iff_printed_eq
    (left right : TypeTree)
    (leftLegible : left.Legible)
    (rightLegible : right.Legible) :
    left.render = right.render ↔ left.printed = right.printed := by
  constructor
  · intro sameText
    have sameReading := congrArg read? sameText
    rw [read?_render left leftLegible, read?_render right rightLegible] at sameReading
    exact Option.some.inj sameReading
  · intro samePrinted
    calc
      left.render = left.printed.render := (render_printed left).symm
      _ = right.printed.render := by rw [samePrinted]
      _ = right.render := render_printed right

/-- An optional documented property, an array of objects and an array of `JsonObject`, with
the given note at the places that are not printed. -/
def sampleUnder (unprinted : Note) : TypeTree :=
  object
    [("name", scalar .string ⟨true, ["The name.", "", "It may be missing."]⟩),
      ("rows", array (object [("$ref_1", opaqueJson Note.blank)] unprinted) Note.blank),
      ("more", array (object [] unprinted) ⟨false, ["*/ is no end here"]⟩)]
    unprinted

theorem legible_sampleUnder (unprinted : Note) : (sampleUnder unprinted).Legible := by
  simp only [sampleUnder, Legible, LegibleProperties, note, Note.blank, List.forall_mem_cons]
  simp only [List.not_mem_nil, false_implies, implies_true, and_true, true_and]
  decide

theorem sampleUnder_text_ignores_unprinted_notes :
    (sampleUnder Note.blank).Legible ∧ (sampleUnder ⟨true, ["unprinted"]⟩).Legible ∧
      (sampleUnder Note.blank).render = (sampleUnder ⟨true, ["unprinted"]⟩).render :=
  ⟨legible_sampleUnder _, legible_sampleUnder _,
    (render_eq_iff_printed_eq _ _ (legible_sampleUnder _) (legible_sampleUnder _)).mpr rfl⟩

end TypeTree
end ProtocolTypes
