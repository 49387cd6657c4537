import ProtocolTypes.Yaml.Object

/-!
# Unrolling

The value of an object, with all that it holds.  An object that holds itself, even by
detours, has no end; its value goes down to a fixed depth, where collections are empty.
-/

namespace ProtocolTypes
namespace Yaml
namespace Unrolling

/-- What is known of the values of objects: `some none` means that there is no end, or
that the value is being looked for. -/
abbrev Known := Array (Option (Option Value))

/-- The value of an object, unless it has no end.  On the way down an object is known to
have none; whoever meets it there has none either.  No way is longer than the number of
objects. -/
def finiteValue (objects : Array Object) : Nat → NodeId → StateM Known (Option Value)
  | 0, _ => return none
  | fuel + 1, id => do
    match (← get)[id]?.join, objects[id]? with
    | some known, _ => return known
    | none, none => return none
    | none, some object =>
      modify fun known => known.setIfInBounds id (some none)
      let values ← object.parts.mapM (finiteValue objects fuel)
      if values.all Option.isSome then
        modifyGet fun known =>
          let value := object.toValue fun part => (known[part]?.join.join).getD .null
          (some value, known.setIfInBounds id (some (some value)))
      else return none

/-- The values of all objects down to a depth, where those that have an end are whole. -/
def cutOff (objects : Array Object) (known : Known) : Nat → Array Value
  | 0 => objects.map fun object => object.emptied.toValue fun _ => .null
  | depth + 1 =>
    let inner := cutOff objects known depth
    objects.map fun object =>
      object.toValue fun part =>
        match known[part]?.join.join with
        | some value => value
        | none => inner[part]?.getD .null

/-- The depth down to which a value without end goes. -/
def maxDepth : Nat := 8

/-- The value of an object. -/
def value (objects : Array Object) (id : NodeId) : Value :=
  let (found, known) :=
    (finiteValue objects (objects.size + 1) id).run (Array.replicate objects.size none)
  match found with
  | some value => value
  | none => (cutOff objects known maxDepth)[id]?.getD .null

end Unrolling
end Yaml
end ProtocolTypes
