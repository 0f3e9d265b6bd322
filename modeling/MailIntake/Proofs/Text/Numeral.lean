import MailIntake.Text.Ascii
import Mathlib.Data.Nat.Digits.Defs
/-!
Numbers in digits.  Decimal digits are read as the number that they write, however many they are,
and digits without a zero in front of others are the only way to write theirs
(`toDigits_ofDigitChars`).
Hexadecimal digits are read back as the number that they were written for.
-/
namespace MailIntake

namespace Text.Ascii

theorem digit?_of_isDigit {c : Char} (hdigit : c.isDigit) :
    digit? c = some (c.toNat - '0'.toNat) := by
  have hrange : '0' ≤ c ∧ c ≤ '9' := by
    simpa [Char.isDigit, Char.le_def, ← UInt32.le_iff_toNat_le] using hdigit
  rw [digit?, if_pos hrange]

theorem isDigit_of_digit? {c : Char} {value : Nat} (hdigit : digit? c = some value) :
    c.isDigit := by
  rw [digit?] at hdigit
  split at hdigit
  · next hrange => simpa [Char.isDigit, Char.le_def, ← UInt32.le_iff_toNat_le] using hrange
  · cases hdigit

theorem foldlM_digit? {digits : List Char} (hdigits : ∀ c ∈ digits, c.isDigit) (value : Nat) :
    digits.foldlM (fun value c => (digit? c).map fun d => value * 10 + d) value =
      some (Nat.ofDigitChars 10 digits value) := by
  induction digits generalizing value with
  | nil => rfl
  | cons c rest ih =>
      obtain ⟨hc, hrest⟩ := List.forall_mem_cons.mp hdigits
      rw [List.foldlM_cons, digit?_of_isDigit hc, Nat.ofDigitChars_cons, Nat.mul_comm]
      exact ih hrest _

theorem isDigit_of_foldlM_digit? {digits : List Char} {value result : Nat}
    (hfold : digits.foldlM (fun value c => (digit? c).map fun d => value * 10 + d) value =
      some result) : ∀ c ∈ digits, c.isDigit := by
  induction digits generalizing value with
  | nil => exact List.forall_mem_nil _
  | cons c rest ih =>
      rw [List.foldlM_cons] at hfold
      cases hdigit : digit? c with
      | none =>
          rw [hdigit] at hfold
          cases hfold
      | some d =>
          rw [hdigit] at hfold
          exact List.forall_mem_cons.mpr ⟨isDigit_of_digit? hdigit, ih hfold⟩

/-- A non-empty text of decimal digits is read as the number that it writes, and no other text is
read. -/
theorem number?_eq_some_iff {c : Char} {rest : List Char} {value : Nat} :
    number? (c :: rest) = some value ↔
      (∀ d ∈ c :: rest, d.isDigit) ∧ Nat.ofDigitChars 10 (c :: rest) 0 = value := by
  constructor
  · intro hnumber
    have hdigits := isDigit_of_foldlM_digit? hnumber
    exact ⟨hdigits, Option.some.inj ((foldlM_digit? hdigits 0).symm.trans hnumber)⟩
  · rintro ⟨hdigits, rfl⟩
    exact foldlM_digit? hdigits 0

theorem isDigit_of_mem_toDigits {value : Nat} {c : Char} (hc : c ∈ Nat.toDigits 10 value) :
    c.isDigit :=
  Nat.isDigit_of_mem_toDigits (by decide) (by decide) hc

theorem number?_toDigits (value : Nat) : number? (Nat.toDigits 10 value) = some value := by
  cases hdigits : Nat.toDigits 10 value with
  | nil => exact absurd hdigits Nat.toDigits_ne_nil
  | cons c rest =>
      rw [number?_eq_some_iff, ← hdigits]
      exact ⟨fun _ => isDigit_of_mem_toDigits, Nat.ofDigitChars_toDigits (by decide) (by decide)⟩

theorem digitChar_ne_zero {value : Nat} (hvalue : value < 10) (hpos : 0 < value) :
    value.digitChar ≠ '0' := by
  decide +revert

theorem head?_toDigits_ne {value : Nat} (hpos : 0 < value) :
    (Nat.toDigits 10 value).head? ≠ some '0' := by
  induction value using Nat.strongRecOn with
  | ind value ih =>
      by_cases hsmall : value < 10
      · rw [Nat.toDigits_of_lt_base hsmall, List.head?_singleton]
        exact fun hzero => digitChar_ne_zero hsmall hpos (Option.some.inj hzero)
      · have hfront := ih (value / 10) (by omega) (by omega)
        rw [Nat.toDigits_of_base_le (by decide) (Nat.le_of_not_lt hsmall), List.head?_append]
        cases hhead : (Nat.toDigits 10 (value / 10)).head? with
        | none => exact absurd (List.head?_eq_none_iff.mp hhead) Nat.toDigits_ne_nil
        | some c => rwa [hhead] at hfront

/-- A number is written without a zero in front of other digits. -/
theorem head_of_toDigits {value : Nat} {c : Char} {rest : List Char}
    (hdigits : Nat.toDigits 10 value = c :: rest) : c ≠ '0' ∨ rest = [] := by
  rcases Nat.eq_zero_or_pos value with rfl | hpos
  · rw [Nat.toDigits_zero] at hdigits
    exact .inr (List.cons.inj hdigits).2.symm
  · refine .inl fun hzero => head?_toDigits_ne hpos ?_
    rw [hdigits, hzero]
    rfl

theorem digitChar_of_isDigit {c : Char} (hdigit : c.isDigit) :
    (c.toNat - '0'.toNat).digitChar = c ∧ c.toNat - '0'.toNat < 10 := by
  rw [Char.isDigit_iff_toNat] at hdigit
  have hcodes : '0'.toNat = 48 ∧ '9'.toNat = 57 := by decide
  have hvalue : c.toNat - '0'.toNat < 10 := by omega
  refine ⟨Char.toNat_inj.mp ?_, hvalue⟩
  rw [Nat.toNat_digitChar_of_lt_ten hvalue]
  omega

/-- Digits behind those of a number go on writing it. -/
theorem toDigits_append_digits {digits : List Char} (hdigits : ∀ c ∈ digits, c.isDigit)
    {value : Nat} (hvalue : 0 < value) :
    Nat.toDigits 10 value ++ digits = Nat.toDigits 10 (Nat.ofDigitChars 10 digits value) := by
  induction digits generalizing value with
  | nil => rw [List.append_nil, Nat.ofDigitChars_nil]
  | cons c rest ih =>
      obtain ⟨hc, hrest⟩ := List.forall_mem_cons.mp hdigits
      obtain ⟨hchar, hlt⟩ := digitChar_of_isDigit hc
      have hlonger := Nat.toDigits_append_toDigits (b := 10) (by decide) hvalue hlt
      rw [Nat.toDigits_of_lt_base hlt, hchar] at hlonger
      rw [← List.singleton_append, ← List.append_assoc, hlonger, ih hrest (by omega),
        List.singleton_append, Nat.ofDigitChars_cons]

/-- Digits without a zero in front of others are those in which their number is written. -/
theorem toDigits_ofDigitChars {c : Char} {rest : List Char} (hdigits : ∀ d ∈ c :: rest, d.isDigit)
    (hhead : c ≠ '0' ∨ rest = []) :
    Nat.toDigits 10 (Nat.ofDigitChars 10 (c :: rest) 0) = c :: rest := by
  obtain ⟨hc, hrest⟩ := List.forall_mem_cons.mp hdigits
  obtain ⟨hchar, hlt⟩ := digitChar_of_isDigit hc
  have hfirst : Nat.toDigits 10 (c.toNat - '0'.toNat) = [c] := by
    rw [Nat.toDigits_of_lt_base hlt, hchar]
  rw [Nat.ofDigitChars_cons, Nat.mul_zero, Nat.zero_add]
  rcases hhead with hzero | rfl
  · have hpos : 0 < c.toNat - '0'.toNat := by
      rw [Nat.pos_iff_ne_zero]
      intro hnone
      rw [hnone] at hchar
      exact hzero hchar.symm
    rw [← toDigits_append_digits hrest hpos, hfirst, List.singleton_append]
  · exact hfirst

end Text.Ascii

theorem Text.hexDigit?_digitChar {value : Nat} (hvalue : value < 16) :
    Ascii.hexDigit? value.digitChar = some value := by
  decide +revert

theorem exists_digit_of_mem_toDigits {value : Nat} {c : Char} (hc : c ∈ Nat.toDigits 16 value) :
    ∃ digit < 16, c = digit.digitChar := by
  induction value using Nat.strongRecOn with
  | ind value ih =>
      by_cases hsmall : value < 16
      · rw [Nat.toDigits_of_lt_base hsmall, List.mem_singleton] at hc
        exact ⟨value, hsmall, hc⟩
      · rw [Nat.toDigits_of_base_le (by decide) (Nat.le_of_not_lt hsmall), List.mem_append,
          List.mem_singleton] at hc
        rcases hc with hfront | hlast
        · exact ih (value / 16) (by omega) hfront
        · exact ⟨value % 16, Nat.mod_lt value (Nat.zero_lt_succ 15), hlast⟩

/-- Hexadecimal digits are read as the number that they were written for. -/
theorem Text.foldl_hexDigit?_toDigits (value : Nat) :
    (Nat.toDigits 16 value).foldl (fun value c => value * 16 + (Ascii.hexDigit? c).getD 0) 0 =
      value := by
  induction value using Nat.strongRecOn with
  | ind value ih =>
      by_cases hsmall : value < 16
      · rw [Nat.toDigits_of_lt_base hsmall]
        simp [hexDigit?_digitChar hsmall]
      · have hdigit := hexDigit?_digitChar (Nat.mod_lt value (Nat.zero_lt_succ 15))
        rw [Nat.toDigits_of_base_le (by decide) (Nat.le_of_not_lt hsmall), List.foldl_append,
          ih _ (by omega), List.foldl_cons, List.foldl_nil, hdigit]
        exact Nat.div_add_mod' value 16

end MailIntake
