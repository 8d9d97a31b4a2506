/-
**Words of an identifier, and identifiers in another case.**

A word ends at every character that is neither letter nor digit, after a lower case character that
an upper case one follows (`userId` is `user Id`), and before the last character of an upper case
run that a lower case one follows (`XMLFile` is `XML File`). A character without case continues what
was before it.
-/
import CatalogSchema.Text.Blank
import CatalogSchema.Text.Letter
import CatalogSchema.Text.Casing

namespace CatalogSchema.Text

/-- The case of the characters just read, once a word has shown one. -/
inductive CaseMode where
  | start
  | lower
  | upper
  deriving DecidableEq

/-- The mode after a character. -/
def CaseMode.after (mode : CaseMode) (c : Char) : CaseMode :=
  if isLowercase c then .lower else if isUppercase c then .upper else mode

/-- Splits a row of letters and digits, at least one, at its case boundaries. `current` holds the
characters of the word being read, last first. -/
def splitCase (mode : CaseMode) (current : List Char) : List Char → List (List Char)
  | [] => []
  | [c] => [(c :: current).reverse]
  | c :: next :: rest =>
    let mode' := mode.after c
    if mode' = .lower ∧ isUppercase next then
      (c :: current).reverse :: splitCase .start [] (next :: rest)
    else if mode = .upper ∧ isUppercase c ∧ isLowercase next then
      current.reverse :: splitCase .start [c] (next :: rest)
    else
      splitCase mode' (c :: current) (next :: rest)

/-- The words of a text. -/
def wordsOf (text : List Char) : List (List Char) :=
  ((splitAt (fun c => !isAlphanumeric c) text).filter fun piece => !piece.isEmpty).flatMap
    (splitCase .start [])

/-- A word in upper case. -/
def upperWord (word : List Char) : List Char := word.flatMap upperChar

/-- A word in lower case; a sigma at its end takes its final form. -/
def lowerWord : List Char → List Char
  | [] => []
  | [c] => if c = 'Σ' then ['ς'] else lowerChar c
  | c :: rest => lowerChar c ++ lowerWord rest

/-- A word with a capital first character. -/
def capitalWord : List Char → List Char
  | [] => []
  | c :: rest => upperChar c ++ lowerWord rest

/-- `UpperCamelCase`: every word with a capital. -/
def upperCamel (text : List Char) : List Char := (wordsOf text).flatMap capitalWord

/-- `lowerCamelCase`: the first word in lower case, the others with a capital. -/
def lowerCamel (text : List Char) : List Char :=
  match wordsOf text with
  | [] => []
  | first :: rest => lowerWord first ++ rest.flatMap capitalWord

/-- `SHOUTY_SNAKE_CASE`: every word in upper case, underscores between them. -/
def shoutySnake (text : List Char) : List Char := join ['_'] ((wordsOf text).map upperWord)

end CatalogSchema.Text
