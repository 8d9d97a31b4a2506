/-
**Base64 decoding undoes encoding.**

* `digitValue?_digit`: a digit stands for its number.
* `decode?_encode`: the text of a row of bytes gives the bytes.
* `encode_visible`: no blank stands in the text.
-/

import CatalogSchema.Text.Base64
import CatalogSchema.Proofs.Text.Blank

namespace CatalogSchema.Text

namespace Base64

theorem digitValue?_digit {value : Nat} (small : value < 64) :
    digitValue? (digit value) = some value := by
  have all : ∀ value : Fin 64, digitValue? (digit value) = some value.val := by decide +kernel
  exact all ⟨value, small⟩

/-- A digit is neither the padding nor a blank. -/
theorem digit_visible {value : Nat} (small : value < 64) :
    digit value ≠ '=' ∧ isBlank (digit value) = false := by
  have all : ∀ value : Fin 64, digit value ≠ '=' ∧ isBlank (digit value) = false := by
    decide +kernel
  exact all ⟨value, small⟩

/-- Three bytes that are padded once. -/
theorem decode?_single {bits : Nat} (small : bits < 4096) (aligned : bits % 16 = 0) :
    decode? [digit (bits / 64), digit (bits % 64), '=', '='] = some [.ofNat (bits / 16)] := by
  have whole : bits / 64 * 64 + bits % 64 = bits := by omega
  rw [decode?, digitValue?_digit (by omega), digitValue?_digit (by omega)]
  change (if (bits / 64 * 64 + bits % 64) % 16 = 0 then some [_] else none) = _
  rw [whole, if_pos aligned]

theorem decode?_pair {bits : Nat} (small : bits < 262144) (aligned : bits % 4 = 0) :
    decode? [digit (bits / 4096), digit (bits / 64 % 64), digit (bits % 64), '='] =
      some [.ofNat (bits / 1024), .ofNat (bits / 4 % 256)] := by
  have visible : digit (bits % 64) ≠ '=' := (digit_visible (by omega)).1
  have whole : (bits / 4096 * 64 + bits / 64 % 64) * 64 + bits % 64 = bits := by omega
  rw [decode?, digitValue?_digit (by omega), digitValue?_digit (by omega),
    digitValue?_digit (by omega)]
  · change (if ((bits / 4096 * 64 + bits / 64 % 64) * 64 + bits % 64) % 4 = 0 then some [_, _]
      else none) = _
    rw [whole, if_pos aligned]
  · exact visible

theorem decode?_triple {bits : Nat} (small : bits < 16777216) (rest : List Char) :
    decode? (digit (bits / 262144) :: digit (bits / 4096 % 64) :: digit (bits / 64 % 64) ::
      digit (bits % 64) :: rest) =
        (decode? rest).map fun bytes =>
          .ofNat (bits / 65536) :: .ofNat (bits / 256 % 256) :: .ofNat (bits % 256) :: bytes := by
  have visible : digit (bits % 64) ≠ '=' := (digit_visible (by omega)).1
  have whole : ((bits / 262144 * 64 + bits / 4096 % 64) * 64 + bits / 64 % 64) * 64 + bits % 64 =
      bits := by
    omega
  rw [decode?, digitValue?_digit (by omega), digitValue?_digit (by omega),
    digitValue?_digit (by omega), digitValue?_digit (by omega)]
  · simp only [Option.bind_eq_bind, Option.bind_some, whole]
    cases decode? rest <;> rfl
  · exact fun _ same _ => visible same
  · exact fun same _ => visible same

/-- **Decoding undoes encoding.** -/
theorem decode?_encode (bytes : List UInt8) : decode? (encode bytes) = some bytes := by
  induction bytes using encode.induct with
  | case1 => rfl
  | case2 a =>
    have small := a.toNat_lt
    have first : a.toNat * 16 / 16 = a.toNat := by omega
    rw [encode, decode?_single (by omega) (by omega), first, UInt8.ofNat_toNat]
  | case3 a b =>
    have small := a.toNat_lt
    have smallToo := b.toNat_lt
    have first : (a.toNat * 256 + b.toNat) * 4 / 1024 = a.toNat := by omega
    have second : (a.toNat * 256 + b.toNat) * 4 / 4 % 256 = b.toNat := by omega
    rw [encode, decode?_pair (by omega) (by omega), first, second, UInt8.ofNat_toNat,
      UInt8.ofNat_toNat]
  | case4 a b c rest ih =>
    have small := a.toNat_lt
    have smallToo := b.toNat_lt
    have smallLast := c.toNat_lt
    have first : ((a.toNat * 256 + b.toNat) * 256 + c.toNat) / 65536 = a.toNat := by omega
    have second : ((a.toNat * 256 + b.toNat) * 256 + c.toNat) / 256 % 256 = b.toNat := by omega
    have third : ((a.toNat * 256 + b.toNat) * 256 + c.toNat) % 256 = c.toNat := by omega
    rw [encode, decode?_triple (by omega), ih, Option.map_some, first, second,
      third, UInt8.ofNat_toNat, UInt8.ofNat_toNat, UInt8.ofNat_toNat]

/-- No blank stands in the text of bytes. -/
theorem encode_visible (bytes : List UInt8) : ∀ c ∈ encode bytes, isBlank c = false := by
  have visible {value : Nat} (small : value < 64) := (digit_visible small).2
  have padding : isBlank '=' = false := by decide
  induction bytes using encode.induct with
  | case1 => exact nofun
  | case2 a =>
    have small := a.toNat_lt
    simp only [encode, List.forall_mem_cons]
    exact ⟨visible (by omega), visible (by omega), padding, padding, nofun⟩
  | case3 a b =>
    have small := a.toNat_lt
    have smallToo := b.toNat_lt
    simp only [encode, List.forall_mem_cons]
    exact ⟨visible (by omega), visible (by omega), visible (by omega), padding, nofun⟩
  | case4 a b c rest ih =>
    have small := a.toNat_lt
    have smallToo := b.toNat_lt
    have smallLast := c.toNat_lt
    simp only [encode, List.forall_mem_cons]
    exact ⟨visible (by omega), visible (by omega), visible (by omega), visible (by omega), ih⟩

end Base64

end CatalogSchema.Text
