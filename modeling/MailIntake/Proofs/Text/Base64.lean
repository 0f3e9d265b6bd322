import MailIntake.Text.Base64
import Mathlib.Data.List.Basic
/-!
Encoding and decoding of base64 fit together (`decode?_encode`), and what is encoded has no other
characters than those of the alphabet and the padding.
-/
namespace MailIntake.Text.Base64

section Digits

variable {p q r s : Nat}

theorem value?_digit (hp : p < 64) : value? (digit p) = some p := by
  decide +revert

theorem digit_ne_padding (hp : p < 64) : digit p ≠ '=' := by
  decide +revert

theorem decodeBlock_one (hp : p < 64) (hq : q < 64) (hrest : q % 16 = 0) :
    decodeBlock (digit p) (digit q) '=' '=' = some [UInt8.ofNat (p * 4 + q / 16)] := by
  simp [decodeBlock, value?_digit hp, value?_digit hq, hrest]

theorem decodeBlock_two (hp : p < 64) (hq : q < 64) (hr : r < 64) (hrest : r % 4 = 0) :
    decodeBlock (digit p) (digit q) (digit r) '=' =
      some [UInt8.ofNat (p * 4 + q / 16), UInt8.ofNat (q % 16 * 16 + r / 4)] := by
  simp [decodeBlock, value?_digit hp, value?_digit hq, value?_digit hr, digit_ne_padding hr, hrest]

theorem decodeBlock_three (hp : p < 64) (hq : q < 64) (hr : r < 64) (hs : s < 64) :
    decodeBlock (digit p) (digit q) (digit r) (digit s) =
      some [UInt8.ofNat (p * 4 + q / 16), UInt8.ofNat (q % 16 * 16 + r / 4),
        UInt8.ofNat (r % 4 * 64 + s)] := by
  simp [decodeBlock, value?_digit hp, value?_digit hq, value?_digit hr, value?_digit hs,
    digit_ne_padding hr, digit_ne_padding hs]

end Digits

theorem eq_of_toNat_eq {n : Nat} {b : UInt8} (h : n = b.toNat) : UInt8.ofNat n = b := by
  rw [h, UInt8.ofNat_toNat]

theorem decode?_encode (bytes : List UInt8) : decode? (encode bytes) = some bytes := by
  induction bytes using encode.induct with
  | case1 a b c rest ih =>
      have ha := a.toNat_lt
      have hb := b.toNat_lt
      have hc := c.toNat_lt
      rw [encode, decode?, decodeBlock_three (by omega) (by omega) (by omega) (by omega), ih,
        eq_of_toNat_eq (b := a) (by omega), eq_of_toNat_eq (b := b) (by omega),
        eq_of_toNat_eq (b := c) (by omega)]
      rfl
  | case2 a b =>
      have ha := a.toNat_lt
      have hb := b.toNat_lt
      rw [encode, decode?, decodeBlock_two (by omega) (by omega) (by omega) (by omega),
        eq_of_toNat_eq (b := a) (by omega), eq_of_toNat_eq (b := b) (by omega)]
      rfl
  | case3 a =>
      have ha := a.toNat_lt
      rw [encode, decode?, decodeBlock_one (by omega) (by omega) (by omega),
        eq_of_toNat_eq (b := a) (by omega)]
      rfl
  | case4 => rfl

def isBase64 (c : Char) : Bool :=
  (value? c).isSome || c == '='

theorem isBase64_digit {v : Nat} (h : v < 64) : isBase64 (digit v) = true := by
  rw [isBase64, value?_digit h]
  rfl

theorem isBase64_of_mem_encode {bytes : List UInt8} {c : Char} (hc : c ∈ encode bytes) :
    isBase64 c = true := by
  induction bytes using encode.induct with
  | case1 a b d rest ih =>
      have ha := a.toNat_lt
      have hb := b.toNat_lt
      have hd := d.toNat_lt
      rw [encode] at hc
      simp only [List.mem_cons] at hc
      rcases hc with rfl | rfl | rfl | rfl | hrest
      · exact isBase64_digit (by omega)
      · exact isBase64_digit (by omega)
      · exact isBase64_digit (by omega)
      · exact isBase64_digit (by omega)
      · exact ih hrest
  | case2 a b =>
      have ha := a.toNat_lt
      have hb := b.toNat_lt
      rw [encode] at hc
      simp only [List.mem_cons, List.not_mem_nil, or_false] at hc
      rcases hc with rfl | rfl | rfl | rfl
      · exact isBase64_digit (by omega)
      · exact isBase64_digit (by omega)
      · exact isBase64_digit (by omega)
      · rfl
  | case3 a =>
      have ha := a.toNat_lt
      rw [encode] at hc
      simp only [List.mem_cons, List.not_mem_nil, or_false] at hc
      rcases hc with rfl | rfl | rfl | rfl
      · exact isBase64_digit (by omega)
      · exact isBase64_digit (by omega)
      · rfl
      · rfl
  | case4 => cases hc

/-- Something is written in four characters at least. -/
theorem four_le_length_encode {bytes : List UInt8} (h : bytes ≠ []) :
    4 ≤ (encode bytes).length := by
  cases bytes using encode.induct with
  | case1 | case2 | case3 => simp [encode]
  | case4 => exact absurd rfl h

end MailIntake.Text.Base64
