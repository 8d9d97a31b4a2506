/-
**Base64 with padding.**

Three bytes are four characters of the standard alphabet; the last group is padded. Decoding accepts
the output of encoding and nothing else: padding must be there, and the bits it leaves over are
zero.
-/

namespace CatalogSchema.Text.Base64

/-- The character of a six-bit number. -/
def digit (value : Nat) : Char :=
  if value < 26 then Char.ofNat ('A'.toNat + value)
  else if value < 52 then Char.ofNat ('a'.toNat + (value - 26))
  else if value < 62 then Char.ofNat ('0'.toNat + (value - 52))
  else if value = 62 then '+'
  else '/'

/-- The six-bit number of a character. -/
def digitValue? (c : Char) : Option Nat :=
  if 'A' ≤ c ∧ c ≤ 'Z' then some (c.toNat - 'A'.toNat)
  else if 'a' ≤ c ∧ c ≤ 'z' then some (c.toNat - 'a'.toNat + 26)
  else if '0' ≤ c ∧ c ≤ '9' then some (c.toNat - '0'.toNat + 52)
  else if c = '+' then some 62
  else if c = '/' then some 63
  else none

/-- The text of a row of bytes. -/
def encode : List UInt8 → List Char
  | [] => []
  | [a] =>
    let bits := a.toNat * 16
    [digit (bits / 64), digit (bits % 64), '=', '=']
  | [a, b] =>
    let bits := (a.toNat * 256 + b.toNat) * 4
    [digit (bits / 4096), digit (bits / 64 % 64), digit (bits % 64), '=']
  | a :: b :: c :: rest =>
    let bits := (a.toNat * 256 + b.toNat) * 256 + c.toNat
    digit (bits / 262144) :: digit (bits / 4096 % 64) :: digit (bits / 64 % 64) ::
      digit (bits % 64) :: encode rest

/-- The bytes of a text, if it is the text of a row of bytes. -/
def decode? : List Char → Option (List UInt8)
  | [] => some []
  | [a, b, '=', '='] => do
    let bits := (← digitValue? a) * 64 + (← digitValue? b)
    if bits % 16 = 0 then some [.ofNat (bits / 16)] else none
  | [a, b, c, '='] => do
    let bits := ((← digitValue? a) * 64 + (← digitValue? b)) * 64 + (← digitValue? c)
    if bits % 4 = 0 then some [.ofNat (bits / 1024), .ofNat (bits / 4 % 256)] else none
  | a :: b :: c :: d :: rest => do
    let bits :=
      (((← digitValue? a) * 64 + (← digitValue? b)) * 64 + (← digitValue? c)) * 64 +
        (← digitValue? d)
    let bytes ← decode? rest
    some (.ofNat (bits / 65536) :: .ofNat (bits / 256 % 256) :: .ofNat (bits % 256) :: bytes)
  | _ => none

end CatalogSchema.Text.Base64
