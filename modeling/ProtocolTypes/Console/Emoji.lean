import ProtocolTypes.Console.EmojiNames
import ProtocolTypes.Text.Blank
import ProtocolTypes.Text.LowerCase

/-!
# Emoji

A name between two colons stands for a picture.  A word behind the name tells how the
picture is shown, as text or as a picture.  Colons around anything else stay.
-/

namespace ProtocolTypes
namespace Emoji

/-- The pictures by their names. -/
def pictures : List (String × List Nat) :=
  picturesAToE ++ picturesFToL ++ picturesMToO ++ picturesPToS ++ picturesTToZ

/-- The picture of a name. -/
def picture? (name : List Char) : Option (List Char) :=
  (pictures.lookup (String.ofList name)).map (·.map Char.ofNat)

/-- The words that tell how a picture is shown, each with the mark for it. -/
def variants : List (List Char × Char) :=
  [("-emoji".toList, '\uFE0F'), ("-text".toList, '\uFE0E')]

/-- A name without the word for the variant at its end, and the mark of the variant. -/
def splitVariant (name : List Char) : List Char × List Char :=
  match variants.find? fun (ending, _) => ending.isSuffixOf name with
  | some (ending, mark) => (name.take (name.length - ending.length), [mark])
  | none => (name, [])

/-- What stands for the name between two colons. -/
def shown (name : List Char) : List Char :=
  let (bare, mark) := splitVariant name
  match picture? (Text.lowerCase bare) with
  | some picture => picture ++ mark
  | none => ':' :: name ++ [':']

/-- The text of parts that have a colon in front each.  A part that has a colon behind
it, too, and no blanks, is a name. -/
def joinParts : List (List Char) → List Char
  | [] => []
  | [last] => ':' :: last
  | part :: next :: later =>
    if part.any Text.isBlank then ':' :: part ++ joinParts (next :: later)
    else shown part ++ next ++ joinParts later

/-- The text with pictures in the places of their names. -/
def replace (text : List Char) : List Char :=
  match text.splitOn ':' with
  | [] => []
  | first :: parts => first ++ joinParts parts

@[simp]
theorem replace_nil : replace [] = [] := rfl

end Emoji
end ProtocolTypes
