import MailIntake.Text.Utf8
import Mathlib.Data.List.Basic
import Mathlib.Tactic.IntervalCases
/-!
Encoding and decoding of UTF-8 fit together: the scanner finds the characters of an encoded text and
no fault (`scan_encode`), so that strict and lossy decoding give the text back.
-/
namespace MailIntake.Text.Utf8

theorem scanFrom_cons (pending : Option Begun) (b : UInt8) (rest : List UInt8) :
    scanFrom pending (b :: rest) = (step pending b).1 ++ scanFrom (step pending b).2 rest := by
  cases pending with
  | none => rfl
  | some begun => rfl

section Lead

variable {k : Nat}

theorem toNat_ofNat (h : k < 256) : (UInt8.ofNat k).toNat = k := by
  rw [UInt8.toNat_ofNat']
  exact Nat.mod_eq_of_lt h

theorem lead_one (h : k < 128) : lead (UInt8.ofNat k) = .char (Char.ofNat k) := by
  have hbyte : (UInt8.ofNat k).toNat = k := toNat_ofNat (by omega)
  have hlow : UInt8.ofNat k < 0x80 := by
    rw [UInt8.lt_iff_toNat_lt, hbyte]
    exact h
  rw [lead, if_pos hlow, hbyte]

theorem lead_two (hlow : 2 ≤ k) (hhigh : k < 32) :
    lead (UInt8.ofNat (k + 192)) = .opens ⟨k, 1, 0x80, 0xBF⟩ := by
  interval_cases k <;> rfl

theorem lead_three (h : k < 16) :
    lead (UInt8.ofNat (k + 224)) =
      .opens ⟨k, 2, if k = 0 then 0xA0 else 0x80, if k = 13 then 0x9F else 0xBF⟩ := by
  interval_cases k <;> rfl

theorem lead_four (h : k < 5) :
    lead (UInt8.ofNat (k + 240)) =
      .opens ⟨k, 3, if k = 0 then 0x90 else 0x80, if k = 4 then 0x8F else 0xBF⟩ := by
  interval_cases k <;> rfl

end Lead

theorem scanFrom_opens {b : UInt8} {begun : Begun} (h : lead b = .opens begun)
    (rest : List UInt8) : scanFrom none (b :: rest) = scanFrom (some begun) rest := by
  rw [scanFrom_cons, step, enter, h, List.nil_append]

/-- A byte within the bounds of the character begun adds its six bits. -/
theorem step_continue {begun : Begun} {k : Nat} (hk : k < 64) (hlow : begun.low.toNat ≤ k + 128)
    (hhigh : k + 128 ≤ begun.high.toNat) :
    step (some begun) (UInt8.ofNat (k + 128)) =
      if begun.owed ≤ 1 then ([some (Char.ofNat (begun.bits * 64 + k))], none)
      else ([], some ⟨begun.bits * 64 + k, begun.owed - 1, 0x80, 0xBF⟩) := by
  have hbyte : (UInt8.ofNat (k + 128)).toNat = k + 128 := toNat_ofNat (by omega)
  have hwithin :
      (begun.low ≤ UInt8.ofNat (k + 128) && UInt8.ofNat (k + 128) ≤ begun.high) = true := by
    rw [Bool.and_eq_true, decide_eq_true_iff, decide_eq_true_iff, UInt8.le_iff_toNat_le,
      UInt8.le_iff_toNat_le, hbyte]
    exact ⟨hlow, hhigh⟩
  have hbits : (k + 128) % 64 = k := by omega
  rw [step, if_pos hwithin, hbyte, hbits]

/-- The last byte of a character. -/
theorem scanFrom_last {bits k : Nat} {low high : UInt8} (hk : k < 64) (hlow : low.toNat ≤ k + 128)
    (hhigh : k + 128 ≤ high.toNat) (rest : List UInt8) :
    scanFrom (some ⟨bits, 1, low, high⟩) (UInt8.ofNat (k + 128) :: rest) =
      some (Char.ofNat (bits * 64 + k)) :: scanFrom none rest := by
  rw [scanFrom_cons, step_continue hk hlow hhigh]
  rfl

/-- A byte that others of its character follow. -/
theorem scanFrom_more {bits owed k : Nat} {low high : UInt8} (hk : k < 64)
    (hlow : low.toNat ≤ k + 128) (hhigh : k + 128 ≤ high.toNat) (rest : List UInt8) :
    scanFrom (some ⟨bits, owed + 2, low, high⟩) (UInt8.ofNat (k + 128) :: rest) =
      scanFrom (some ⟨bits * 64 + k, owed + 1, 0x80, 0xBF⟩) rest := by
  rw [scanFrom_cons, step_continue hk hlow hhigh]
  simp

theorem scanFrom_utf8EncodeChar (c : Char) (rest : List UInt8) :
    scanFrom none (String.utf8EncodeChar c ++ rest) = some c :: scanFrom none rest := by
  have hvalid : c.val.toNat < 0xD800 ∨ 0xDFFF < c.val.toNat ∧ c.val.toNat < 0x110000 := c.valid
  have hback : Char.ofNat c.val.toNat = c := Char.ofNat_toNat c
  simp only [String.utf8EncodeChar]
  generalize c.val.toNat = n at hvalid hback ⊢
  by_cases hone : n ≤ 127
  · rw [if_pos hone, List.singleton_append, scanFrom_cons, step, enter, lead_one (by omega), hback]
    rfl
  rw [if_neg hone]
  by_cases htwo : n ≤ 2047
  · have hbits : n / 64 % 32 * 64 + n % 64 = n := by omega
    rw [if_pos htwo, List.cons_append, List.singleton_append,
      scanFrom_opens (lead_two (by omega) (by omega)),
      scanFrom_last (by omega) (Nat.le_add_left 128 _) (show _ ≤ 191 by omega), hbits, hback]
  rw [if_neg htwo]
  by_cases hthree : n ≤ 65535
  · have hbits : (n / 4096 % 16 * 64 + n / 64 % 64) * 64 + n % 64 = n := by omega
    -- Below U+0800 the first byte would be overlong, and from U+D800 there are no characters.
    have hlow : (if n / 4096 % 16 = 0 then (0xA0 : UInt8) else 0x80).toNat ≤ n / 64 % 64 + 128 := by
      split
      · show 160 ≤ _
        omega
      · exact Nat.le_add_left 128 _
    have hhigh : n / 64 % 64 + 128 ≤
        (if n / 4096 % 16 = 13 then (0x9F : UInt8) else 0xBF).toNat := by
      split
      · show _ ≤ 159
        omega
      · show _ ≤ 191
        omega
    rw [if_pos hthree, List.cons_append, List.cons_append, List.singleton_append,
      scanFrom_opens (lead_three (by omega)), scanFrom_more (by omega) hlow hhigh,
      scanFrom_last (by omega) (Nat.le_add_left 128 _) (show _ ≤ 191 by omega), hbits, hback]
  rw [if_neg hthree]
  have hbits : ((n / 262144 % 8 * 64 + n / 4096 % 64) * 64 + n / 64 % 64) * 64 + n % 64 = n := by
    omega
  have hlow : (if n / 262144 % 8 = 0 then (0x90 : UInt8) else 0x80).toNat ≤
      n / 4096 % 64 + 128 := by
    split
    · show 144 ≤ _
      omega
    · exact Nat.le_add_left 128 _
  have hhigh : n / 4096 % 64 + 128 ≤
      (if n / 262144 % 8 = 4 then (0x8F : UInt8) else 0xBF).toNat := by
    split
    · show _ ≤ 143
      omega
    · show _ ≤ 191
      omega
  rw [List.cons_append, List.cons_append, List.cons_append, List.singleton_append,
    scanFrom_opens (lead_four (by omega)), scanFrom_more (by omega) hlow hhigh,
    scanFrom_more (by omega) (Nat.le_add_left 128 _) (show _ ≤ 191 by omega),
    scanFrom_last (by omega) (Nat.le_add_left 128 _) (show _ ≤ 191 by omega), hbits, hback]

/-- Each character of an encoded text is found, and no fault. -/
theorem scan_encode (text : String) : scan (encode text) = text.toList.map some := by
  rw [scan, encode]
  induction text.toList with
  | nil => rfl
  | cons c rest ih => rw [List.flatMap_cons, scanFrom_utf8EncodeChar, ih, List.map_cons]

theorem decode?_encode (text : String) : decode? (encode text) = some text := by
  have hall : (text.toList.map some).mapM id = some text.toList := by
    induction text.toList with
    | nil => rfl
    | cons c rest ih => simp [ih]
  rw [decode?, scan_encode, hall, Option.map_some, String.ofList_toList]

theorem decodeLossy_encode (text : String) : decodeLossy (encode text) = text := by
  rw [decodeLossy, scan_encode, List.map_map]
  have hsame : (fun piece : Option Char => piece.getD '\uFFFD') ∘ some = id := rfl
  rw [hsame, List.map_id, String.ofList_toList]

theorem encode_injective {a b : String} (h : encode a = encode b) : a = b := by
  apply Option.some.inj
  rw [← decode?_encode a, h, decode?_encode]

/-- ASCII characters stand for themselves. -/
theorem encode_of_ascii {text : String} (h : ∀ c ∈ text.toList, c.toNat < 128) :
    encode text = text.toList.map fun c => UInt8.ofNat c.toNat := by
  rw [encode]
  generalize text.toList = chars at h ⊢
  induction chars with
  | nil => rfl
  | cons c rest ih =>
      have hc : c.val.toNat ≤ 127 := Nat.le_of_lt_succ (h c List.mem_cons_self)
      have hrest := ih fun d hd => h d (List.mem_cons_of_mem c hd)
      rw [List.flatMap_cons, hrest, List.map_cons]
      rw [String.utf8EncodeChar, if_pos hc]
      rfl

/-- A byte below 128 is a character of its own; all bytes of a longer encoding are above. -/
theorem toNat_of_mem_utf8EncodeChar {c : Char} {b : UInt8} (hb : b ∈ String.utf8EncodeChar c)
    (hlow : b.toNat < 128) : b.toNat = c.toNat := by
  have habove : ∀ k, 128 ≤ k → k < 256 → b ≠ UInt8.ofNat k := by
    rintro k hle hlt rfl
    rw [toNat_ofNat hlt] at hlow
    omega
  simp only [String.utf8EncodeChar] at hb
  split at hb
  · rw [List.mem_singleton.mp hb]
    exact toNat_ofNat (by omega)
  split at hb
  · simp only [List.mem_cons, List.not_mem_nil, or_false] at hb
    rcases hb with hb | hb <;> exact absurd hb (habove _ (by omega) (by omega))
  split at hb
  · simp only [List.mem_cons, List.not_mem_nil, or_false] at hb
    rcases hb with hb | hb | hb <;> exact absurd hb (habove _ (by omega) (by omega))
  · simp only [List.mem_cons, List.not_mem_nil, or_false] at hb
    rcases hb with hb | hb | hb | hb <;> exact absurd hb (habove _ (by omega) (by omega))

end MailIntake.Text.Utf8
