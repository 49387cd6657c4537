import ProtocolTypes.Encoding.Chinese
import ProtocolTypes.Encoding.Japanese
import ProtocolTypes.Encoding.Korean
import ProtocolTypes.Encoding.NamedPages

/-!
# Encodings with designations

In seven bits, escape sequences tell which set of characters the bytes that follow belong
to.  Three sets can be told at a time; two control characters turn from the first to the
second and back, and the third serves for one character after an escape.
-/

namespace ProtocolTypes
namespace Encoding
namespace Designation

/-- A set of characters that can be told. -/
inductive CharacterSet
  | ascii
  | roman
  | narrow
  | chinese
  | korean
  /-- The Japanese set, in its old form or not. -/
  | japanese (isOld : Bool)
  | supplement
  | firstPlane (edition : Japanese.Edition)
  | secondPlane (edition : Japanese.Edition)
  /-- The letters of western Europe, which serve as the third set. -/
  | western
  /-- The letters of Greece, which serve as the third set. -/
  | greek

namespace CharacterSet

/-- Whether a character takes two bytes, and the byte that names the set. -/
def mark : CharacterSet → Bool × Char
  | ascii => (false, 'B')
  | roman => (false, 'J')
  | narrow => (false, 'I')
  | western => (false, 'A')
  | greek => (false, 'F')
  | chinese => (true, 'A')
  | korean => (true, 'C')
  | japanese true => (true, '@')
  | japanese false => (true, 'B')
  | supplement => (true, 'D')
  | firstPlane .first => (true, 'O')
  | firstPlane .second => (true, 'Q')
  | secondPlane _ => (true, 'P')

/-- Whether a character takes two bytes. -/
def isDouble (set : CharacterSet) : Bool :=
  set.mark.1

/-- The characters of one byte. -/
def single? (set : CharacterSet) (byte : UInt8) : Option (List Char) :=
  match set with
  | ascii => some [Char.ofNat byte.toNat]
  | roman => some [Japanese.romanCharacter byte]
  | narrow => (Japanese.narrowSyllable? (byte ^^^ 0x80)).map ([·])
  | _ => none

/-- The characters of two bytes. -/
def double? (set : CharacterSet) (row column : Nat) : Option (List Char) :=
  match set with
  | chinese => (Chinese.standardCharacter? (row + 0x80) (column + 0x80)).map ([·])
  | korean => (Korean.standardCharacter? (row + 0x80) (column + 0x80)).map ([·])
  | japanese _ => Japanese.standard? row column
  | supplement => (Chart.japaneseSupplement.character? row column).map ([·])
  | firstPlane edition => Japanese.firstPlane? edition row column
  | secondPlane edition => (Japanese.secondPlane? edition row column).map ([·])
  | _ => none

/-- The character of a byte in the third set. -/
def third? (set : CharacterSet) (byte : UInt8) : Option Char :=
  match set with
  | western => if byte < 0x80 then some (Char.ofNat (byte.toNat + 0x80)) else none
  | greek =>
    let raised := byte ^^^ 0x80
    (greekPage.decode [raised]).head?.filter (· != replacementCharacter)
  | _ => if byte < 0x80 then some (Char.ofNat byte.toNat) else none
where
  /-- The page of Greek. -/
  greekPage : CodePage :=
    (CodePage.named.find? (·.name == "iso8859_7")).getD .ascii

end CharacterSet

/-- What an encoding allows. -/
structure Rules where
  /-- The sets besides ASCII. -/
  sets : List CharacterSet
  /-- Whether two control characters turn to the second set and back. -/
  turns : Bool := false
  hasThird : Bool := false
  /-- Whether the Japanese set may be announced in a newer form. -/
  announces : Bool := true

/-- The sets that have been told. -/
structure Designated where
  first : CharacterSet := .ascii
  second : CharacterSet := .ascii
  third : CharacterSet := .ascii
  /-- Whether the second set is in use. -/
  isTurned : Bool := false
  /-- Whether an escape sequence of another kind lasts, whose bytes are passed on. -/
  isPassing : Bool := false

/-- The byte that begins an escape sequence. -/
def escape : UInt8 := 0x1B

/-- How many bytes an escape sequence has at most. -/
def maxLength : Nat := 16

/-- Whether a byte ends an escape sequence. -/
def endsEscape (byte : UInt8) : Bool :=
  ('A'.toUInt8 ≤ byte && byte ≤ 'Z'.toUInt8) || byte == '@'.toUInt8

/-- Where an escape sequence ends. -/
inductive Extent
  /-- After some bytes. -/
  | length (bytes : Nat)
  /-- Not before the bytes do. -/
  | cut
  /-- Not in time. -/
  | endless

/-- The extent of an escape sequence of which some bytes have been read.  An announcement is
no end. -/
def extent (rules : Rules) (read : Nat) (rest : List UInt8) : Extent :=
  if maxLength ≤ read then .endless
  else
    match rest with
    | [] => .cut
    | byte :: others =>
      if endsEscape byte then .length (read + 1)
      else if rules.announces && byte == '&'.toUInt8 && others.head? == some '@'.toUInt8 then
        extent rules (read + 3) (others.drop 2)
      else extent rules (read + 1) others
termination_by rest.length
decreasing_by all_goals (simp only [List.length_cons, List.length_drop]; omega)

/-- The set of a mark, if it is allowed. -/
def Rules.set? (rules : Rules) (isDouble : Bool) (mark : Char) : Option CharacterSet :=
  (.ascii :: rules.sets).find? (·.mark == (isDouble, mark))

/-- The sets after what follows an escape. -/
def Designated.tell? (designated : Designated) (rules : Rules) (sequence : List Char) :
    Option Designated := do
  match sequence with
  | ['$', mark] | ['$', '(', mark] =>
    some { designated with first := ← rules.set? true mark }
  | ['$', ')', mark] => some { designated with second := ← rules.set? true mark }
  | ['(', mark] => some { designated with first := ← rules.set? false mark }
  | [')', mark] => some { designated with second := ← rules.set? false mark }
  | ['.', mark] =>
    if rules.hasThird then some { designated with third := ← rules.set? false mark } else none
  | [_, _, '\x1b', '$', 'B'] =>
    if rules.announces then some { designated with first := ← rules.set? true 'B' } else none
  | _ => none

/-- The step over an escape sequence that tells a set. -/
def tellStep (rules : Rules) (designated : Designated) (rest : List UInt8) : Step Designated :=
  match extent rules 1 rest with
  | .cut => .cut
  | .endless => .spoiled 0
  | .length length =>
    let more := length - 1
    let sequence := (rest.take more).map fun byte => Char.ofNat byte.toNat
    match designated.tell? rules sequence with
    | some next => .text [] more next
    | none => .spoiled more

/-- The step over a character of the third set, after an escape. -/
def thirdStep (designated : Designated) (rest : List UInt8) : Step Designated :=
  match rest with
  | _ :: byte :: _ =>
    match designated.third.third? byte with
    | some character => .text [character] 2 designated
    | none => .spoiled 2
  | _ => .cut

/-- The step over an escape. -/
def escapeStep (rules : Rules) (designated : Designated) (rest : List UInt8) :
    Step Designated :=
  match rest with
  | [] => .cut
  | kind :: _ =>
    if ['(', ')', '$', '.', '&'].any fun tells => kind == tells.toUInt8 then
      tellStep rules designated rest
    else if rules.hasThird && kind == 'N'.toUInt8 then thirdStep designated rest
    else .text [Char.ofNat escape.toNat] 0 { designated with isPassing := true }

/-- The step over a character of the set in use. -/
def characterStep (designated : Designated) (byte : UInt8) (rest : List UInt8) :
    Step Designated :=
  let set := if designated.isTurned then designated.second else designated.first
  if set.isDouble then
    match rest with
    | [] => .cut
    | second :: _ =>
      match set.double? byte.toNat second.toNat with
      | some characters => .text characters 1 designated
      | none => .spoiled 1
  else
    match set.single? byte with
    | some characters => .text characters 0 designated
    | none => .spoiled 0

/-- A step with some sets told.  Control characters are none of any set, and a new line
turns back to the first one. -/
def step (rules : Rules) (designated : Designated) (byte : UInt8) (rest : List UInt8) :
    Step Designated :=
  let itself := [Char.ofNat byte.toNat]
  if designated.isPassing then
    .text itself 0 { designated with isPassing := !endsEscape byte }
  else if byte == escape then escapeStep rules designated rest
  else if rules.turns && byte == turnBack then .text [] 0 { designated with isTurned := false }
  else if rules.turns && byte == turn then .text [] 0 { designated with isTurned := true }
  else if byte == '\n'.toUInt8 then .text itself 0 { designated with isTurned := false }
  else if byte < 0x20 then .text itself 0 designated
  else if 0x80 ≤ byte then .spoiled 0
  else characterStep designated byte rest
where
  /-- The control character that turns to the second set. -/
  turn : UInt8 := 0x0E
  /-- The control character that turns to the first set. -/
  turnBack : UInt8 := 0x0F

/-- The Japanese set in both of its forms. -/
def japaneseForms : List CharacterSet :=
  [.japanese false, .japanese true]

/-- The encodings with designations. -/
def all : List MultiByte :=
  [ { name := "iso2022_kr", aliases := ["csiso2022kr", "iso2022kr", "iso_2022_kr"]
      decode := decodeWith { sets := [.korean], turns := true, announces := false } },
    { name := "iso2022_jp", aliases := ["csiso2022jp", "iso2022jp", "iso_2022_jp"]
      decode := decodeWith { sets := japaneseForms ++ [.roman] } },
    { name := "iso2022_jp_1", aliases := ["iso2022jp_1", "iso_2022_jp_1"]
      decode := decodeWith { sets := japaneseForms ++ [.supplement, .roman] } },
    { name := "iso2022_jp_2", aliases := ["iso2022jp_2", "iso_2022_jp_2"]
      decode :=
        decodeWith
          { sets := japaneseForms ++ [.supplement, .korean, .chinese, .roman, .western, .greek]
            hasThird := true } },
    { name := "iso2022_jp_3", aliases := ["iso2022jp_3", "iso_2022_jp_3"]
      decode :=
        decodeWith { sets := [.japanese false, .firstPlane .first, .secondPlane .first] } },
    { name := "iso2022_jp_2004", aliases := ["iso_2022_jp_2004", "iso2022jp_2004"]
      decode :=
        decodeWith { sets := [.japanese false, .firstPlane .second, .secondPlane .second] } },
    { name := "iso2022_jp_ext", aliases := ["iso2022jp_ext", "iso_2022_jp_ext"]
      decode := decodeWith { sets := japaneseForms ++ [.supplement, .roman, .narrow] } } ]
where
  /-- Decodes by rules. -/
  decodeWith (rules : Rules) : List UInt8 → Except Accident (List Char) :=
    decodeSteps (step rules) {}

end Designation
end Encoding
end ProtocolTypes
