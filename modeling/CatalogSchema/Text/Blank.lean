/-
**Blanks: trimming and splitting.**

The blank characters are those with the Unicode property of white space: U+00A0 and U+3000 are among
them, U+200B is not. Texts are lists of characters here.
-/

namespace CatalogSchema.Text

/-- Holds of white space of every script. -/
def isBlank (c : Char) : Bool :=
  let code := c.toNat
  (9 ≤ code && code ≤ 13) || code = 0x20 || code = 0x85 || code = 0xA0 || code = 0x1680 ||
    (0x2000 ≤ code && code ≤ 0x200A) || code = 0x2028 || code = 0x2029 || code = 0x202F ||
    code = 0x205F || code = 0x3000

/-- Drops the leading characters with a property. -/
def trimStart (dropped : Char → Bool) (text : List Char) : List Char := text.dropWhile dropped

/-- Drops the final characters with a property. -/
def trimEnd (dropped : Char → Bool) (text : List Char) : List Char :=
  (text.reverse.dropWhile dropped).reverse

/-- Drops the blanks on both sides. -/
def trim (text : List Char) : List Char := trimEnd isBlank (trimStart isBlank text)

/-- Cuts a text at every separator; there is one piece more than there are separators. -/
def splitAt (separates : Char → Bool) : List Char → List (List Char)
  | [] => [[]]
  | c :: rest =>
    if separates c then [] :: splitAt separates rest
    else
      match splitAt separates rest with
      | [] => [[c]]
      | piece :: pieces => (c :: piece) :: pieces

/-- The pieces between blanks that are not empty. -/
def blankSeparated (text : List Char) : List (List Char) :=
  (splitAt isBlank text).filter fun piece => !piece.isEmpty

/-- Joins pieces with a separator between neighbours. -/
def join (separator : List Char) : List (List Char) → List Char
  | [] => []
  | [piece] => piece
  | piece :: rest => piece ++ separator ++ join separator rest

end CatalogSchema.Text
