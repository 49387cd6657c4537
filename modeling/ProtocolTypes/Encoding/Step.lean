import ProtocolTypes.Accident
import ProtocolTypes.Encoding.CodePage

/-!
# Steps through bytes

Where characters take different numbers of bytes, a text is read in steps: each looks at
the bytes from a place on and tells how many of them it takes.
-/

namespace ProtocolTypes
namespace Encoding

/-- What stands at a place in bytes, with the number of bytes besides the first. -/
inductive Step (State : Type)
  /-- Some characters, and the state behind them. -/
  | text (characters : List Char) (more : Nat) (state : State)
  /-- Bytes of no meaning. -/
  | spoiled (more : Nat)
  /-- The beginning of something that has no end. -/
  | cut

/-- How many bytes the beginning of something may have at the end of a text. -/
def keptBytes : Nat := 8

/-- The text of bytes by steps.  Bytes of no meaning are replaced, and so is what is cut off
at the end, unless it is too long to be kept. -/
def decodeSteps {State : Type}
    (step : State → UInt8 → List UInt8 → Step State)
    (state : State) :
    List UInt8 → Except Accident (List Char)
  | [] => .ok []
  | byte :: rest =>
    match step state byte rest with
    | .text characters more next =>
      (decodeSteps step next (rest.drop more)).map (characters ++ ·)
    | .spoiled more =>
      (decodeSteps step state (rest.drop more)).map (replacementCharacter :: ·)
    | .cut =>
      if keptBytes ≤ rest.length then .error .undecodable else .ok [replacementCharacter]
termination_by bytes => bytes.length
decreasing_by all_goals (simp only [List.length_cons, List.length_drop]; omega)

/-- The step over a character of some bytes, or over a byte of no meaning. -/
def Step.ofOption (character : Option Char) (more : Nat) : Step Unit :=
  match character with
  | some character => .text [character] more ()
  | none => .spoiled 0

/-- The step over a character of one byte. -/
def Step.single (point : Nat) : Step Unit :=
  .text [Char.ofNat point] 0 ()

/-- A step where bytes below 128 are ASCII and others begin pairs. -/
def pairStep (character? : Nat → Nat → Option Char) (byte : UInt8) (rest : List UInt8) :
    Step Unit :=
  if byte < 0x80 then .single byte.toNat
  else
    match rest with
    | [] => .cut
    | second :: _ => .ofOption (character? byte.toNat second.toNat) 1

/-- The text of bytes whose steps need no state. -/
def decodeStateless (step : UInt8 → List UInt8 → Step Unit) :
    List UInt8 → Except Accident (List Char) :=
  decodeSteps (fun _ => step) ()

/-- An encoding of characters in different numbers of bytes. -/
structure MultiByte where
  name : String
  /-- Other names. -/
  aliases : List String
  decode : List UInt8 → Except Accident (List Char)

end Encoding
end ProtocolTypes
