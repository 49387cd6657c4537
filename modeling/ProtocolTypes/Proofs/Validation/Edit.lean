import ProtocolTypes.Proofs.Validation.Alike

/-!
# Edits of records

Edits of a record that its rule takes no notice of: one more entry that no field goes by, a
field under its name and not under its key, and an edit within the value of a field.
-/

namespace ProtocolTypes

namespace Value

theorem entry?_append (key : String) (front back : List (Value × Value)) :
    entry? key (front ++ back) = (Value.entry? key front).or (Value.entry? key back) := by
  induction front with
  | nil => rfl
  | cons entry rest inductionHypothesis =>
      obtain ⟨other, value⟩ := entry
      cases other with
      | str name => by_cases same : name = key <;> simp [Value.entry?, same, inductionHypothesis]
      | _ => simpa [Value.entry?] using inductionHypothesis

end Value

namespace FieldKey

/-- A field goes by its key and by its name. -/
def GoesBy (field : FieldKey) (key : String) : Prop :=
  key = field.key ∨ key = field.name

instance (field : FieldKey) (key : String) : Decidable (field.GoesBy key) :=
  inferInstanceAs (Decidable (_ ∨ _))

/-- No two of the fields go by one key. -/
def Separate (fields : List FieldKey) : Prop :=
  ∀ field ∈ fields, ∀ other ∈ fields,
    other.GoesBy field.key ∨ other.GoesBy field.name → field = other

instance (fields : List FieldKey) : Decidable (Separate fields) :=
  inferInstanceAs (Decidable (∀ field ∈ fields, ∀ other ∈ fields, _))

theorem Separate.eq_of_goesBy
    {fields : List FieldKey}
    (separate : Separate fields)
    {field other : FieldKey}
    (isField : field ∈ fields)
    (isOther : other ∈ fields)
    {key : String}
    (goesBy : field.GoesBy key)
    (otherGoesBy : other.GoesBy key) :
    field = other := by
  refine separate field isField other isOther ?_
  rcases goesBy with rfl | rfl
  · exact .inl otherGoesBy
  · exact .inr otherGoesBy

/-- The value by which the field is given, if it is. -/
def value? (field : FieldKey) (entries : List (Value × Value)) : Option Value :=
  (field.given? entries).map Prod.snd

/-- A field is looked up by its key, and then by its name. -/
theorem value?_eq (field : FieldKey) (entries : List (Value × Value)) :
    field.value? entries =
      (Value.entry? field.key entries).or (Value.entry? field.name entries) := by
  rw [value?, given?]
  cases Value.entry? field.key entries <;> simp [Function.comp_def]

end FieldKey

namespace Record

/-- The entries with one more, which may stand anywhere. -/
inductive Inserted (entry : Value × Value) :
    List (Value × Value) → List (Value × Value) → Prop
  | between (front back : List (Value × Value)) :
      Inserted entry (front ++ back) (front ++ entry :: back)

/-- An inserted entry changes nothing for other keys. -/
theorem Inserted.entry?_of_ne
    {name : String}
    {value : Value}
    {entries more : List (Value × Value)}
    (inserted : Inserted (.str name, value) entries more)
    (key : String)
    (other : key ≠ name) :
    Value.entry? key more = Value.entry? key entries := by
  obtain ⟨front, back⟩ := inserted
  rw [Value.entry?_append, Value.entry?_append, Value.entry?, if_neg (Ne.symm other)]

/-- An inserted entry is found unless there was one before it. -/
theorem Inserted.entry?_self
    {name : String}
    {value : Value}
    {entries more : List (Value × Value)}
    (inserted : Inserted (.str name, value) entries more)
    (absent : Value.entry? name entries = none) :
    Value.entry? name more = some value := by
  obtain ⟨front, back⟩ := inserted
  rw [Value.entry?_append, Option.or_eq_none_iff] at absent
  rw [Value.entry?_append, absent.1, Value.entry?, if_pos rfl]
  rfl

/-- One edit of the entries of a record with these fields.  A field is respelled only where
no other entry is under its key or its name; `part` tells how the value of a field may be
edited. -/
inductive EntriesEdited
    (fields : List FieldKey)
    (part : FieldKey → Value → Value → Prop) :
    List (Value × Value) → List (Value × Value) → Prop
  | added
      {before after : List (Value × Value)}
      {key : String}
      {value : Value}
      (unknown : ∀ field ∈ fields, ¬field.GoesBy key)
      (inserted : Inserted (.str key, value) before after) :
      EntriesEdited fields part before after
  | respelled
      {rest before after : List (Value × Value)}
      {field : FieldKey}
      {value : Value}
      (isField : field ∈ fields)
      (only : ∀ key, field.GoesBy key → Value.entry? key rest = none)
      (underKey : Inserted (.str field.key, value) rest before)
      (underName : Inserted (.str field.name, value) rest after) :
      EntriesEdited fields part before after
  | within
      (front back : List (Value × Value))
      {field : FieldKey}
      {key : String}
      {before after : Value}
      (isField : field ∈ fields)
      (goesBy : field.GoesBy key)
      (edited : part field before after) :
      EntriesEdited fields part
        (front ++ (.str key, before) :: back) (front ++ (.str key, after) :: back)

/-- A record in which one entry has been edited. -/
inductive Edited
    (fields : List FieldKey)
    (part : FieldKey → Value → Value → Prop) :
    Value → Value → Prop
  | map
      {before after : List (Value × Value)}
      (edited : EntriesEdited fields part before after) :
      Edited fields part (.map before) (.map after)

variable {fields : List FieldKey} {part : FieldKey → Value → Value → Prop}
  {before after : List (Value × Value)}

/-- The value of a field before an edit and after it: the same, or edited as a part. -/
def Follows (part : FieldKey → Value → Value → Prop) (field : FieldKey) :
    Option Value → Option Value → Prop :=
  Option.Rel fun before after => before = after ∨ part field before after

theorem follows_self (field : FieldKey) (value : Option Value) :
    Follows part field value value := by
  cases value with
  | none => exact .none
  | some value => exact .some (.inl rfl)

theorem Follows.or
    {field : FieldKey}
    {before after beforeToo afterToo : Option Value}
    (first : Follows part field before after)
    (second : Follows part field beforeToo afterToo) :
    Follows part field (before.or beforeToo) (after.or afterToo) := by
  cases first with
  | none => exact second
  | some related => exact .some related

/-- An edit leaves every field given as it was, or edits its value. -/
theorem EntriesEdited.follows
    (edited : EntriesEdited fields part before after)
    (separate : FieldKey.Separate fields)
    {field : FieldKey}
    (isField : field ∈ fields) :
    Follows part field (field.value? before) (field.value? after) := by
  rw [FieldKey.value?_eq, FieldKey.value?_eq]
  cases edited with
  | added unknown inserted =>
      have unknownHere := unknown field isField
      rw [inserted.entry?_of_ne field.key fun isKey => unknownHere (.inl isKey.symm),
        inserted.entry?_of_ne field.name fun isName => unknownHere (.inr isName.symm)]
      exact follows_self field _
  | @respelled rest _ _ other value isOther only underKey underName =>
      by_cases isSame : field = other
      · subst isSame
        have first := underKey.entry?_self (only _ (.inl rfl))
        have second := underName.entry?_self (only _ (.inr rfl))
        by_cases sameSpelling : field.key = field.name
        · rw [first, sameSpelling, second]
          exact follows_self field _
        · rw [first, second, underName.entry?_of_ne field.key sameSpelling, only _ (.inl rfl)]
          exact follows_self field _
      · have apart {key : String} (goesBy : field.GoesBy key) :
            key ≠ other.key ∧ key ≠ other.name :=
          ⟨fun isKey => isSame (separate.eq_of_goesBy isField isOther goesBy (.inl isKey)),
            fun isName => isSame (separate.eq_of_goesBy isField isOther goesBy (.inr isName))⟩
        have ofKey := apart (.inl rfl)
        have ofName := apart (.inr rfl)
        rw [underKey.entry?_of_ne _ ofKey.1, underName.entry?_of_ne _ ofKey.2,
          underKey.entry?_of_ne _ ofName.1, underName.entry?_of_ne _ ofName.2]
        exact follows_self field _
  | @within front back other key old new isOther goesBy edited =>
      have each {spelling : String} (fieldGoesBy : field.GoesBy spelling) :
          Follows part field (Value.entry? spelling (front ++ (.str key, old) :: back))
            (Value.entry? spelling (front ++ (.str key, new) :: back)) := by
        rw [Value.entry?_append, Value.entry?_append, Value.entry?, Value.entry?]
        refine (follows_self field _).or ?_
        by_cases here : key = spelling
        · subst here
          obtain rfl := separate.eq_of_goesBy isField isOther fieldGoesBy goesBy
          rw [if_pos rfl, if_pos rfl]
          exact .some (.inr edited)
        · rw [if_neg here, if_neg here]
          exact follows_self field _
      exact (each (.inl rfl)).or (each (.inr rfl))

variable {α : Type} {R : α → α → Prop}

/-- A field is checked alike before and after an edit, whatever its absence is taken for. -/
theorem EntriesEdited.given
    (edited : EntriesEdited fields part before after)
    (separate : FieldKey.Separate fields)
    {field : FieldKey}
    (isField : field ∈ fields)
    {rule : Rule α}
    (reflexive : ∀ value, R value value)
    {absent : Checked α}
    (ignores : rule.Ignores R (part field)) :
    Checked.Alike R
      (match field.given? before with
        | some (key, value) => (rule value).under (.key key)
        | none => absent)
      (match field.given? after with
        | some (key, value) => (rule value).under (.key key)
        | none => absent) := by
  have follows := edited.follows separate isField
  rw [FieldKey.value?, FieldKey.value?] at follows
  cases first : field.given? before with
  | none =>
      cases second : field.given? after with
      | none => exact .refl reflexive absent
      | some given => rw [first, second] at follows; cases follows
  | some given =>
      cases second : field.given? after with
      | none => rw [first, second] at follows; cases follows
      | some givenToo =>
          rw [first, second] at follows
          refine Checked.Alike.under ?_ _ _
          rcases follows with ⟨same | edited⟩
          · rw [same]
            exact .refl reflexive _
          · exact ignores _ _ edited

/-- A field whose value is never edited is accepted with one value or refused. -/
theorem EntriesEdited.whole
    (edited : EntriesEdited fields part before after)
    (separate : FieldKey.Separate fields)
    {field : FieldKey}
    (isField : field ∈ fields)
    (never : ∀ old new, ¬part field old new)
    {rule : Rule α}
    {absent : Checked α} :
    Checked.Alike Eq
      (match field.given? before with
        | some (key, value) => (rule value).under (.key key)
        | none => absent)
      (match field.given? after with
        | some (key, value) => (rule value).under (.key key)
        | none => absent) :=
  edited.given separate isField (fun _ => rfl) fun old new part => absurd part (never old new)

/-- A list of records whose rule takes no notice of an edit is the same up to the view. -/
theorem EntriesEdited.items
    {β : Type}
    (edited : EntriesEdited fields part before after)
    (separate : FieldKey.Separate fields)
    {field : FieldKey}
    (isField : field ∈ fields)
    {rule : Rule α}
    {view : α → β}
    {changed : Value → Value → Prop}
    (ignores : rule.Ignores (InvImage Eq view) changed)
    (onlyItems : ∀ old new, part field old new → Rule.ItemChanged changed old new)
    (default : List α) :
    (withDefault before field (Rule.listOf rule) default).Alike (InvImage Eq (List.map view))
      (withDefault after field (Rule.listOf rule) default) :=
  edited.given separate isField (fun items => Eq.refl (items.map view))
    fun old new part => ignores.listOf old new (onlyItems old new part)

/-- Every key is a text. -/
def TextKeys (entries : List (Value × Value)) : Prop :=
  ∀ entry ∈ entries, ∃ name, entry.1 = .str name

theorem textKeys_append_cons_iff
    (front back : List (Value × Value))
    (key : String)
    (value : Value) :
    TextKeys (front ++ (.str key, value) :: back) ↔ TextKeys (front ++ back) := by
  rw [TextKeys, TextKeys, List.forall_mem_append, List.forall_mem_cons, List.forall_mem_append]
  simp

theorem Inserted.textKeys_iff
    {key : String}
    {value : Value}
    {entries more : List (Value × Value)}
    (inserted : Inserted (.str key, value) entries more) :
    TextKeys more ↔ TextKeys entries := by
  obtain ⟨front, back⟩ := inserted
  exact textKeys_append_cons_iff front back key value

/-- Extra entries are accepted exactly if all keys are texts. -/
theorem exists_extras_iff (entries : List (Value × Value)) (fields : List FieldKey) :
    (∃ found, extras entries fields = .valid found) ↔ TextKeys entries := by
  rw [extras, Checked.exists_sequence_iff]
  constructor
  · rintro accepts ⟨key, value⟩ isEntry
    cases key with
    | str name => exact ⟨name, rfl⟩
    | _ =>
        obtain ⟨_, isValid⟩ := accepts _ (List.mem_filterMap.mpr ⟨_, isEntry, rfl⟩)
        cases isValid
  · intro texts check isFound
    obtain ⟨⟨key, value⟩, isEntry, isCheck⟩ := List.mem_filterMap.mp isFound
    obtain ⟨name, rfl⟩ := texts _ isEntry
    simp only [Option.ite_none_left_eq_some, Option.some.injEq] at isCheck
    exact ⟨_, isCheck.2.symm⟩

/-- An edit leaves the extra entries accepted or refused. -/
theorem EntriesEdited.extras (edited : EntriesEdited fields part before after) :
    (extras before fields).Alike (fun _ _ => True) (extras after fields) := by
  refine Checked.alike_of_exists_iff _ _ ?_
  rw [exists_extras_iff, exists_extras_iff]
  cases edited with
  | added unknown inserted => exact inserted.textKeys_iff.symm
  | respelled isField only underKey underName =>
      exact underKey.textKeys_iff.trans underName.textKeys_iff.symm
  | within front back isField goesBy edited =>
      rw [textKeys_append_cons_iff, textKeys_append_cons_iff]

/-- A record's rule takes no notice of an edit that the check of its entries takes none of. -/
theorem ignores_edited
    {record : String}
    {check : List (Value × Value) → Checked α}
    (alike : ∀ before after, EntriesEdited fields part before after →
      (check before).Alike R (check after)) :
    (rule record check).Ignores R (Edited fields part) := by
  rintro _ _ ⟨edited⟩
  exact alike _ _ edited

end Record
end ProtocolTypes
