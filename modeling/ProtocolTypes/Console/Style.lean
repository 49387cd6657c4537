import ProtocolTypes.Console.Color

/-!
# Styles

A style is written in words: attributes that are on or off, a colour, one for the
background, and a link.  Spellings of one style share one name.
-/

namespace ProtocolTypes

/-- What text may look like. -/
structure Style where
  /-- The attributes that are on or off. -/
  attributes : List (String × Bool) := []
  color : Option String := none
  background : Option String := none
  link : Option String := none
  deriving DecidableEq, Repr

namespace Style

/-- The names of attributes, with their short forms. -/
def attributeNames : List (String × List String) :=
  [ ("bold", ["b"]), ("dim", ["d"]), ("italic", ["i"]), ("underline", ["u"]), ("blink", []),
    ("blink2", []), ("reverse", ["r"]), ("conceal", ["c"]), ("strike", ["s"]),
    ("underline2", ["uu"]), ("frame", []), ("encircle", []), ("overline", ["o"]) ]

/-- The name of the attribute that a word stands for. -/
def attribute? (word : String) : Option String :=
  (attributeNames.find? fun (name, short) => name == word || short.contains word).map
    Prod.fst

/-- The style with an attribute on or off. -/
def withAttribute (style : Style) (name : String) (isOn : Bool) : Style :=
  { style with
    attributes := (name, isOn) :: style.attributes.filter fun (other, _) => other != name }

/-- The style that words add to one, if they are words of styles.  Colours and the
words that lead on are known in any case, attributes behind `not` in small letters
only. -/
def ofWordsFrom (style : Style) : List String → Except Accident (Option Style)
  | [] => .ok (some style)
  | word :: rest =>
    match Text.lower word with
    | "on" =>
      match rest with
      | [] => .ok none
      | color :: later => do
        if ← Color.isColor (Text.lower color) then
          ofWordsFrom { style with background := some (Text.lower color) } later
        else return none
    | "not" =>
      match rest with
      | [] => .ok none
      | switched :: later =>
        match attribute? switched with
        | some name => ofWordsFrom (style.withAttribute name false) later
        | none => .ok none
    | "link" =>
      match rest with
      | [] => .ok none
      | place :: later => ofWordsFrom { style with link := some place } later
    | small =>
      match attribute? small with
      | some name => ofWordsFrom (style.withAttribute name true) rest
      | none => do
        if ← Color.isColor small then ofWordsFrom { style with color := some small } rest
        else return none

/-- The words of a text. -/
def wordsOf (text : List Char) : List String :=
  ((text.splitBy fun left right => Text.isBlank left == Text.isBlank right).filter
    fun word => !word.all Text.isBlank).map String.ofList

/-- The style that a text writes, if it writes one. -/
def ofText (text : List Char) : Except Accident (Option Style) :=
  ofWordsFrom {} (wordsOf text)

/-- The words of an attribute that is on or off. -/
def switch (name : String) (isOn : Bool) : String :=
  if isOn then name else "not " ++ name

/-- The name that all spellings of a style share. -/
def name (style : Style) : String :=
  let switched := attributeNames.filterMap fun (name, _) =>
    (style.attributes.lookup name).map (switch name)
  let background := (style.background.map ("on " ++ ·)).toList
  let link := (style.link.map ("link " ++ ·)).toList
  let words := switched ++ style.color.toList ++ background ++ link
  if words.isEmpty then "none" else " ".intercalate words

/-- The name by which an opening and a closing tag find each other: that of the style
that a text writes, or else the text in small letters. -/
def nameOf (text : List Char) : Except Accident String :=
  (ofText text).map fun
    | some style => style.name
    | none => String.ofList (Text.lowerCase (Text.stripWhile Text.isBlank text))

end Style
end ProtocolTypes
