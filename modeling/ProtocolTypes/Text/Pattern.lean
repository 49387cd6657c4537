/-!
# Patterns

Regular patterns over character classes, matched against a whole text by derivatives:
the derivative of a pattern by a character matches what may follow that character.
-/

namespace ProtocolTypes

/-- A regular pattern. -/
inductive Pattern
  | nothing
  | empty
  | one (inClass : Char → Bool)
  | seq (first second : Pattern)
  | alt (left right : Pattern)
  | many (item : Pattern)

namespace Pattern

/-- Whether the pattern matches the empty text. -/
def matchesEmpty : Pattern → Bool
  | nothing => false
  | empty => true
  | one _ => false
  | seq first second => first.matchesEmpty && second.matchesEmpty
  | alt left right => left.matchesEmpty || right.matchesEmpty
  | many _ => true

/-- A sequence, simplified where one side is trivial. -/
def andThen : Pattern → Pattern → Pattern
  | nothing, _ => nothing
  | empty, second => second
  | _, nothing => nothing
  | first, second => seq first second

/-- A choice, simplified where one side is impossible. -/
def orElse : Pattern → Pattern → Pattern
  | nothing, right => right
  | left, nothing => left
  | left, right => alt left right

/-- What may follow that character. -/
def derivative (character : Char) : Pattern → Pattern
  | nothing => nothing
  | empty => nothing
  | one inClass => if inClass character then empty else nothing
  | seq first second =>
    if first.matchesEmpty then
      orElse (andThen (first.derivative character) second) (second.derivative character)
    else andThen (first.derivative character) second
  | alt left right => orElse (left.derivative character) (right.derivative character)
  | many item => andThen (item.derivative character) (many item)

/-- Whether the pattern matches the whole text. -/
def accepts (pattern : Pattern) : List Char → Bool
  | [] => pattern.matchesEmpty
  | character :: rest => (pattern.derivative character).accepts rest

@[simp]
theorem accepts_nil (pattern : Pattern) :
    pattern.accepts [] = pattern.matchesEmpty := rfl

@[simp]
theorem accepts_cons (pattern : Pattern) (character : Char) (rest : List Char) :
    pattern.accepts (character :: rest) = (pattern.derivative character).accepts rest := rfl

/-- Whether the pattern matches the text, or all of it but a newline that ends it. -/
def acceptsLine (pattern : Pattern) (text : List Char) : Bool :=
  pattern.accepts text ||
    (text.getLast? == some '\n' && pattern.accepts text.dropLast)

/-- The characters of the text, in their order. -/
def word (text : String) : Pattern :=
  text.toList.foldr (fun character rest => seq (one (· == character)) rest) empty

/-- One of the patterns. -/
def choice (patterns : List Pattern) : Pattern :=
  patterns.foldr orElse nothing

/-- The patterns one after the other. -/
def sequence (patterns : List Pattern) : Pattern :=
  patterns.foldr andThen empty

/-- The pattern or nothing. -/
def optional (pattern : Pattern) : Pattern := alt pattern empty

/-- The pattern once or more. -/
def oneOrMore (pattern : Pattern) : Pattern := seq pattern (many pattern)

/-- One of the text's characters. -/
def oneOf (characters : String) : Pattern :=
  one fun character => characters.toList.contains character

/-- A decimal digit. -/
def digit : Pattern := one Char.isDigit

end Pattern
end ProtocolTypes
