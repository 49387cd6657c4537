import ProtocolTypes.Validation.Rule

/-!
# Rules for records

A record is given as a map.  Each of its fields has a key in the document and a name
of its own, either of which may be used; where both are given the key counts and the
named entry is kept as an extra one.  Keys of no field are extra entries.
-/

namespace ProtocolTypes

/-- How a field is called: its key in a document, and its own name. -/
structure FieldKey where
  key : String
  name : String
  deriving DecidableEq, Repr

namespace FieldKey

/-- A field whose key is its name. -/
def same (name : String) : FieldKey := ⟨name, name⟩

/-- The entry by which the field is given, if it is: the key that is used, and the value. -/
def given? (field : FieldKey) (entries : List (Value × Value)) : Option (String × Value) :=
  match Value.entry? field.key entries with
  | some value => some (field.key, value)
  | none => (Value.entry? field.name entries).map fun value => (field.name, value)

end FieldKey

namespace Record

variable {α : Type}

/-- The check of a field that has to be given; its issues lie under the key that is used,
and where none is, under the one that a document should use. -/
def required
    (entries : List (Value × Value))
    (field : FieldKey)
    (rule : Rule α) :
    Checked α :=
  match field.given? entries with
  | some (key, value) => (rule value).under (.key key)
  | none => (Checked.refuse .missing).under (.key field.key)

/-- The check of a field that has a default. -/
def withDefault
    (entries : List (Value × Value))
    (field : FieldKey)
    (rule : Rule α)
    (default : α) :
    Checked α :=
  match field.given? entries with
  | some (key, value) => (rule value).under (.key key)
  | none => .valid default

/-- The bound below which the magnitude of an index lies; only the lower end reaches it. -/
def indexBound : Int := 0x8000000000000000

/-- The location step of an entry's key.  A number beyond the indices is named by its
digits, if it can be written, and every other key by its literal. -/
def keyStep : Value → LocationStep
  | .str name => .key name
  | .bool value => .index (if value then 1 else 0)
  | .int value =>
    if -indexBound ≤ value && value < indexBound then .index value
    else .key ((Digits.text? value).getD "<unprintable int object>")
  | other => .key (Display.literal other)

/-- The extra entries of a record with these fields; every key has to be a text. -/
def extras
    (entries : List (Value × Value))
    (fields : List FieldKey) :
    Checked (List (String × Value)) :=
  let used := fields.filterMap fun field => (field.given? entries).map Prod.fst
  let found := entries.filterMap fun (key, value) =>
    match key with
    | .str name => if used.contains name then none else some (Checked.valid (name, value))
    | other => some ((Checked.refuse .keyType).under (keyStep other))
  Checked.sequence found

/-- The rule for a record of that name, given the check of its entries. -/
def rule (record : String) (check : List (Value × Value) → Checked α) : Rule α
  | .map entries => check entries
  | _ => .refuse (.recordType record)

end Record
end ProtocolTypes
