/-
**Reading JSON documents.**

Reading has two steps. `JsonTree.read?` checks the grammar and keeps what a document says, repeated
members, lone surrogates and numbers out of range included. `JsonTree.toJson?` turns a tree into a
value: it refuses those numbers and surrogates and more than 127 nested arrays and objects, and of
members with one key it keeps the last. `Json.read?` does both. A reader of records works on the
tree itself, because it refuses a repeated member and does not look into a member it does not know.

The grammar does not depend on how a floating point number comes out of its digits: the readers take
a rule for it. Documents are read `stepwise`.
-/
import CatalogSchema.Json.Value
import CatalogSchema.Number.Stepwise

namespace CatalogSchema

open Number

/-- What a document says. A number is missing if it overflows, a string if it has a lone
surrogate. -/
inductive JsonTree where
  | null
  | bool (value : Bool)
  | number (value : Option JsonNumber)
  | string (value : Option String)
  | array (items : List JsonTree)
  | object (members : List (Option String × JsonTree))

instance : Inhabited JsonTree := ⟨.null⟩

namespace JsonTree

/-! ### Tokens -/

/-- The blank characters between tokens. -/
def isSpace (c : Char) : Bool := c = ' ' || c = '\t' || c = '\n' || c = '\r'

/-- Drops the blanks before a token. -/
def skipSpace (text : List Char) : List Char := text.dropWhile isSpace

/-- The value of a hexadecimal digit of either case. -/
def hexValue? (c : Char) : Option Nat :=
  if c.isDigit then some (c.toNat - '0'.toNat)
  else if 'a' ≤ c ∧ c ≤ 'f' then some (c.toNat - 'a'.toNat + 10)
  else if 'A' ≤ c ∧ c ≤ 'F' then some (c.toNat - 'A'.toNat + 10)
  else none

/-- The value of four hexadecimal digits. -/
def hexValue4? (a b c d : Char) : Option Nat := do
  let a ← hexValue? a
  let b ← hexValue? b
  let c ← hexValue? c
  let d ← hexValue? d
  some (((a * 16 + b) * 16 + c) * 16 + d)

/-- The character that a backslash and a letter stand for. -/
def simpleEscape? (c : Char) : Option Nat :=
  match c with
  | '"' => some '"'.toNat
  | '\\' => some '\\'.toNat
  | '/' => some '/'.toNat
  | 'b' => some 8
  | 'f' => some 12
  | 'n' => some 10
  | 'r' => some 13
  | 't' => some 9
  | _ => none

/-- Reads the inside of a string up to its closing quote, as code points; a surrogate that was
written as an escape stays one. Control characters are refused. -/
def readCodes? : List Char → Option (List Nat × List Char)
  | [] => none
  | '"' :: rest => some ([], rest)
  | '\\' :: 'u' :: a :: b :: c :: d :: rest => do
    let code ← hexValue4? a b c d
    let (codes, rest) ← readCodes? rest
    some (code :: codes, rest)
  | '\\' :: c :: rest => do
    let code ← simpleEscape? c
    let (codes, rest) ← readCodes? rest
    some (code :: codes, rest)
  | c :: rest =>
    if c = '\\' ∨ c.toNat < 0x20 then none
    else do
      let (codes, rest) ← readCodes? rest
      some (c.toNat :: codes, rest)

/-- Holds of the code units that open a surrogate pair. -/
def isLeadSurrogate (code : Nat) : Bool := 0xD800 ≤ code && code ≤ 0xDBFF

/-- Holds of the code units that close a surrogate pair. -/
def isTrailSurrogate (code : Nat) : Bool := 0xDC00 ≤ code && code ≤ 0xDFFF

/-- Joins surrogate pairs to characters; a lone surrogate is no character. -/
def joinSurrogates? : List Nat → Option (List Char)
  | [] => some []
  | lead :: trail :: rest =>
    if isLeadSurrogate lead then
      if isTrailSurrogate trail then
        (joinSurrogates? rest).map
          (Char.ofNat (0x10000 + (lead - 0xD800) * 0x400 + (trail - 0xDC00)) :: ·)
      else none
    else if isTrailSurrogate lead then none
    else (joinSurrogates? (trail :: rest)).map (Char.ofNat lead :: ·)
  | [code] =>
    if isLeadSurrogate code || isTrailSurrogate code then none else some [Char.ofNat code]

/-- Reads a string after its opening quote. -/
def readString? (text : List Char) : Option (Option String × List Char) := do
  let (codes, rest) ← readCodes? text
  some ((joinSurrogates? codes).map String.ofList, rest)

/-- Splits a fraction, a point and at least one digit, off a text; no point is no fraction. -/
def readFraction? : List Char → Option (Option (List Char) × List Char)
  | '.' :: rest =>
    let (digits, rest) := spanDigits rest
    if digits.isEmpty then none else some (some digits, rest)
  | text => some (none, text)

/-- Splits an exponent, a mark, a sign and at least one digit, off a text; no mark is no
exponent. -/
def readPower? : List Char → Option (Option Int × List Char)
  | mark :: rest =>
    if mark = 'e' ∨ mark = 'E' then
      let (negative, rest) := splitSign rest
      let (digits, rest) := spanDigits rest
      if digits.isEmpty then none
      else some (some (if negative then -(natOfDigits digits : Int) else natOfDigits digits), rest)
    else some (none, mark :: rest)
  | [] => some (none, [])

section Numbers

variable (rule : DecimalRule)

/-- The floating point number of a sign, digits and an exponent, if it does not overflow. -/
def floatNumber? (negative : Bool) (whole fraction : List Char) (exponent : Int) :
    Option JsonNumber :=
  (rule negative whole fraction exponent).finite?.map .float

/-- The number of a row of digits without fraction and exponent: an integer if it fits, and a
floating point number otherwise. Negative zero is a floating point number. -/
def wholeNumber? (negative : Bool) (digits : List Char) : Option JsonNumber :=
  let magnitude := natOfDigits digits
  if negative then
    if 0 < magnitude ∧ magnitude ≤ Nat.pow 2 63 then some (.integer (-(magnitude : Int)))
    else floatNumber? rule true digits [] 0
  else if magnitude < Nat.pow 2 64 then some (.integer magnitude)
  else floatNumber? rule false digits [] 0

/-- Reads a number after its sign. -/
def readUnsigned? (negative : Bool) (text : List Char) :
    Option (Option JsonNumber × List Char) := do
  let (whole, rest) := spanDigits text
  if whole.isEmpty || (whole.head? = some '0' && whole.length > 1) then none
  else
    let (fraction, rest) ← readFraction? rest
    let (exponent, rest) ← readPower? rest
    match fraction, exponent with
    | none, none => some (wholeNumber? rule negative whole, rest)
    | fraction, exponent =>
      some (floatNumber? rule negative whole (fraction.getD []) (exponent.getD 0), rest)

/-- Reads a number. -/
def readNumber? : List Char → Option (Option JsonNumber × List Char)
  | '-' :: rest => readUnsigned? rule true rest
  | text => readUnsigned? rule false text

end Numbers

/-! ### Documents -/

section Documents

variable (rule : DecimalRule)

mutual

/-- Reads a value, blanks before it included. The fuel bounds the calls still to come. -/
def readValue? : Nat → List Char → Option (JsonTree × List Char)
  | 0, _ => none
  | fuel + 1, text =>
    match skipSpace text with
    | 'n' :: 'u' :: 'l' :: 'l' :: rest => some (.null, rest)
    | 't' :: 'r' :: 'u' :: 'e' :: rest => some (.bool true, rest)
    | 'f' :: 'a' :: 'l' :: 's' :: 'e' :: rest => some (.bool false, rest)
    | '"' :: rest => do
      let (value, rest) ← readString? rest
      some (.string value, rest)
    | '[' :: rest =>
      match skipSpace rest with
      | ']' :: rest => some (.array [], rest)
      | rest => do
        let (items, rest) ← readItems? fuel rest
        some (.array items, rest)
    | '\x7b' :: rest =>
      match skipSpace rest with
      | '\x7d' :: rest => some (.object [], rest)
      | rest => do
        let (members, rest) ← readMembers? fuel rest
        some (.object members, rest)
    | rest => do
      let (value, rest) ← readNumber? rule rest
      some (.number value, rest)

/-- Reads the items of an array, at least one, and its closing bracket. -/
def readItems? : Nat → List Char → Option (List JsonTree × List Char)
  | 0, _ => none
  | fuel + 1, text => do
    let (item, rest) ← readValue? fuel text
    match skipSpace rest with
    | ']' :: rest => some ([item], rest)
    | ',' :: rest => do
      let (items, rest) ← readItems? fuel rest
      some (item :: items, rest)
    | _ => none

/-- Reads the members of an object, at least one, and its closing brace. -/
def readMembers? : Nat → List Char → Option (List (Option String × JsonTree) × List Char)
  | 0, _ => none
  | fuel + 1, text =>
    match skipSpace text with
    | '"' :: rest => do
      let (key, rest) ← readString? rest
      match skipSpace rest with
      | ':' :: rest => do
        let (value, rest) ← readValue? fuel rest
        match skipSpace rest with
        | '\x7d' :: rest => some ([(key, value)], rest)
        | ',' :: rest => do
          let (members, rest) ← readMembers? fuel rest
          some ((key, value) :: members, rest)
        | _ => none
      | _ => none
    | _ => none

end

/-- Reads a document by a rule: one value between blanks. Two calls for each character are
enough. -/
def readBy? (text : List Char) : Option JsonTree := do
  let (tree, rest) ← readValue? rule (2 * text.length + 2) text
  if (skipSpace rest).isEmpty then some tree else none

end Documents

/-- Reads a document. -/
def read? (text : List Char) : Option JsonTree := readBy? stepwise text

/-! ### Values -/

mutual

/-- The value of a tree with a bound on the arrays and objects around a leaf. -/
def toJson? : Nat → JsonTree → Option Json
  | _, .null => some .null
  | _, .bool value => some (.bool value)
  | _, .number value => value.map .number
  | _, .string value => value.map .string
  | 0, .array _ => none
  | 0, .object _ => none
  | depth + 1, .array items => (toItems? depth items).map .array
  | depth + 1, .object members => (toMembers? depth members).map Json.ofMembers

/-- The values of the items of an array. -/
def toItems? : Nat → List JsonTree → Option (List Json)
  | _, [] => some []
  | depth, item :: rest => do
    let value ← toJson? depth item
    let values ← toItems? depth rest
    some (value :: values)

/-- The members of an object, each with its value. -/
def toMembers? : Nat → List (Option String × JsonTree) → Option (List (String × Json))
  | _, [] => some []
  | depth, (key, tree) :: rest => do
    let key ← key
    let value ← toJson? depth tree
    let members ← toMembers? depth rest
    some ((key, value) :: members)

end

end JsonTree

/-- The deepest nesting of arrays and objects that is read. -/
def Json.depthLimit : Nat := 127

/-- Reads a document by a rule as a value. -/
def Json.readBy? (rule : DecimalRule) (text : String) : Option Json := do
  (← JsonTree.readBy? rule text.toList).toJson? depthLimit

/-- Reads a document as a value. -/
def Json.read? (text : String) : Option Json := readBy? stepwise text

mutual

/-- A value as a document says it. -/
def Json.toTree : Json → JsonTree
  | .null => .null
  | .bool value => .bool value
  | .number value => .number (some value)
  | .string value => .string (some value)
  | .array items => .array (Json.itemTrees items)
  | .object members => .object (Json.memberTrees members)

/-- The items of an array as a document says them. -/
def Json.itemTrees : List Json → List JsonTree
  | [] => []
  | item :: rest => item.toTree :: Json.itemTrees rest

/-- The members of an object as a document says them. -/
def Json.memberTrees : List (String × Json) → List (Option String × JsonTree)
  | [] => []
  | (key, value) :: rest => (some key, value.toTree) :: Json.memberTrees rest

end

end CatalogSchema
