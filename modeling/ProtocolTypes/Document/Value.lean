/-!
# Document values

What a JSON or YAML text stands for.  A map keeps its entries in the order in which
its keys first appeared; JSON texts give string keys only.  Days and moments,
bytes and sets come from YAML alone.
-/

namespace ProtocolTypes

/-- A day of the calendar. -/
structure Day where
  year : Nat
  month : Nat
  day : Nat
  deriving DecidableEq, Repr

/-- A time of a day, with the offset from universal time in seconds if it is known. -/
structure Moment where
  date : Day
  hour : Nat
  minute : Nat
  second : Nat
  microsecond : Nat
  offset : Option Int
  deriving DecidableEq, Repr

/-- A document value. -/
inductive Value
  | null
  | bool (value : Bool)
  | int (value : Int)
  | float (value : Float)
  | str (value : String)
  | list (items : List Value)
  | map (entries : List (Value × Value))
  | date (value : Day)
  | datetime (value : Moment)
  | bytes (value : List UInt8)
  | set (members : List Value)
  deriving Inhabited

namespace Value

/-- The name of the value's kind, as diagnostics give it. -/
def kindName : Value → String
  | null => "NoneType"
  | bool _ => "bool"
  | int _ => "int"
  | float _ => "float"
  | str _ => "str"
  | list _ => "list"
  | map _ => "dict"
  | date _ => "date"
  | datetime _ => "datetime"
  | bytes _ => "bytes"
  | set _ => "set"

/-- The entry under a string key. -/
def entry? (key : String) : List (Value × Value) → Option Value
  | [] => none
  | (str other, value) :: rest => if other = key then some value else entry? key rest
  | _ :: rest => entry? key rest

/-- Sets the entry under a string key: one that is present keeps its place. -/
def setEntry (key : String) (value : Value) : List (Value × Value) → List (Value × Value)
  | [] => [(str key, value)]
  | (str other, old) :: rest =>
    if other = key then (str other, value) :: rest
    else (str other, old) :: setEntry key value rest
  | head :: rest => head :: setEntry key value rest

end Value
end ProtocolTypes
