/-!
# Texts

Taking texts apart and away from their ends.

- `Text.split` takes a text apart at every occurrence of a character. There is always at least one
  piece, and joining the pieces with the character between them gives the text back.
- `Text.trim` takes the white space away from both ends of a text. White space is what Unicode says
  it is.
-/

namespace FactoryOverloads.Text

/-- The pieces of a text from the first on; `piece` is what has been read of it, last character
first. -/
def splitFrom (separator : Char) (piece : List Char) : List Char → List String
  | [] => [String.ofList piece.reverse]
  | c :: rest =>
    if c = separator then String.ofList piece.reverse :: splitFrom separator [] rest
    else splitFrom separator (c :: piece) rest

/-- The pieces of a text between occurrences of a character. -/
def split (separator : Char) (text : String) : List String := splitFrom separator [] text.toList

/-- Whether a character is white space. -/
def isWhiteSpace (c : Char) : Bool :=
  let n := c.toNat
  (9 ≤ n && n ≤ 13) || n == 0x20 || n == 0x85 || n == 0xA0 || n == 0x1680 ||
    (0x2000 ≤ n && n ≤ 0x200A) || n == 0x2028 || n == 0x2029 || n == 0x202F || n == 0x205F ||
    n == 0x3000

/-- The text without white space at its ends. -/
def trim (text : String) : String :=
  let fromStart := text.toList.dropWhile isWhiteSpace
  String.ofList (fromStart.reverse.dropWhile isWhiteSpace).reverse

end FactoryOverloads.Text
