import MailIntake.Office
import MailIntake.Sasl
import MailIntake.Proofs.Text.Base64
import MailIntake.Proofs.Text.Split
import MailIntake.Proofs.Text.Utf8
import Mathlib.Data.List.Forall2
import Mathlib.Data.List.TakeWhile
/-!
Credentials on their way: what is encoded for an `AUTH` exchange is decoded again, and credentials
that the exchange cannot carry do not come out as others (`credentials_read_back`); a table of users
accepts exactly the passwords that it holds (`Users.accepts_iff`).
-/
namespace MailIntake

open Text

namespace Sasl

/-- Every character of base64 has a code between those of `+` and `z`. -/
theorem toNat_of_isBase64 {c : Char} (h : Base64.isBase64 c) : 0x2B ≤ c.toNat ∧ c.toNat ≤ 0x7A := by
  by_cases hpadding : c = '='
  · subst hpadding
    decide
  have hvalue : (Base64.value? c).isSome := by
    rw [Base64.isBase64, Bool.or_eq_true, beq_iff_eq] at h
    exact h.resolve_right hpadding
  rw [Base64.value?] at hvalue
  simp only [Char.le_def, UInt32.le_iff_toNat_le] at hvalue
  have hcode : c.val.toNat = c.toNat := rfl
  split at hvalue
  · next hupper =>
      have hfirst : 'A'.val.toNat = 65 := rfl
      have hlast : 'Z'.val.toNat = 90 := rfl
      omega
  split at hvalue
  · next hlower =>
      have hfirst : 'a'.val.toNat = 97 := rfl
      have hlast : 'z'.val.toNat = 122 := rfl
      omega
  split at hvalue
  · next hdigit =>
      have hfirst : '0'.val.toNat = 48 := rfl
      have hlast : '9'.val.toNat = 57 := rfl
      omega
  split at hvalue
  · next hplus =>
      subst hplus
      decide
  split at hvalue
  · next hslash =>
      subst hslash
      decide
  · cases hvalue

theorem isBlank_of_isBase64 {c : Char} (h : Base64.isBase64 c) : Text.isBlank c = false := by
  obtain ⟨hlow, hhigh⟩ := toNat_of_isBase64 h
  simp [Text.isBlank]
  omega

theorem trim_of_forall {text : String} (h : ∀ c ∈ text.toList, Text.isBlank c = false) :
    trim text = text := by
  have hfront : text.toList.dropWhile Text.isBlank = text.toList := by
    generalize text.toList = chars at h
    cases chars with
    | nil => rfl
    | cons c rest => exact List.dropWhile_cons_of_neg (by simp [h c List.mem_cons_self])
  rw [trim, hfront, dropTailWhile_of_forall h, String.ofList_toList]

/-- The characters of an encoded text. -/
theorem isBase64_of_mem_encodeText {text : String} {c : Char} (hc : c ∈ (encodeText text).toList) :
    Base64.isBase64 c := by
  rw [encodeText, String.toList_ofList] at hc
  exact Base64.isBase64_of_mem_encode hc

theorem trim_encodeText (text : String) : trim (encodeText text) = encodeText text :=
  trim_of_forall fun _ hc => isBlank_of_isBase64 (isBase64_of_mem_encodeText hc)

theorem decodeText_encodeText (text : String) : decodeText (encodeText text) = .ok text := by
  rw [decodeText, trim_encodeText, encodeText, String.toList_ofList, Base64.decode?_encode]
  simp only [Utf8.decode?_encode]

theorem decodeLogin_encodeLogin (text : String) : decodeLogin (encodeLogin text) = .ok text :=
  decodeText_encodeText text

/-- Credentials that a PLAIN response can carry. -/
structure PlainCredentials.Sendable (c : PlainCredentials) : Prop where
  username_ne : c.username ≠ ""
  authzid : '\x00' ∉ c.authzid.toList
  username : '\x00' ∉ c.username.toList
  password : '\x00' ∉ c.password.toList

theorem isNul_of_notMem {text : List Char} (h : '\x00' ∉ text) : ∀ c ∈ text, isNul c = false := by
  intro c hc
  by_contra hnul
  rw [Bool.not_eq_false, isNul, beq_iff_eq] at hnul
  exact h (hnul ▸ hc)

/-- The text behind a PLAIN response. -/
theorem toList_plain (c : PlainCredentials) :
    (c.authzid ++ "\x00" ++ c.username ++ "\x00" ++ c.password).toList =
      joinWith ['\x00'] [c.authzid.toList, c.username.toList, c.password.toList] := by
  simp [joinWith]

/-- What becomes of credentials without a separator of their own. -/
theorem decodePlain_encodePlain_of_notMem {c : PlainCredentials}
    (hauthzid : '\x00' ∉ c.authzid.toList) (husername : '\x00' ∉ c.username.toList)
    (hpassword : '\x00' ∉ c.password.toList) :
    decodePlain (encodePlain c) = if c.username = "" then .error .malformed else .ok c := by
  have hpieces : ∀ piece ∈ [c.authzid.toList, c.username.toList, c.password.toList],
      ∀ a ∈ piece, isNul a = false := by
    intro piece hpiece
    simp only [List.mem_cons, List.not_mem_nil, or_false] at hpiece
    rcases hpiece with rfl | rfl | rfl
    · exact isNul_of_notMem hauthzid
    · exact isNul_of_notMem husername
    · exact isNul_of_notMem hpassword
  have hsplit : splitOn isNul (c.authzid ++ "\x00" ++ c.username ++ "\x00" ++ c.password).toList =
      [c.authzid.toList, c.username.toList, c.password.toList] := by
    rw [toList_plain]
    exact splitOn_joinWith rfl (List.cons_ne_nil _ _) hpieces
  rw [decodePlain, encodePlain, decodeText_encodeText]
  simp only [bind, Except.bind, hsplit, String.ofList_toList, List.isEmpty_iff,
    String.toList_eq_nil_iff]

theorem decodePlain_encodePlain {c : PlainCredentials} (h : c.Sendable) :
    decodePlain (encodePlain c) = .ok c := by
  rw [decodePlain_encodePlain_of_notMem h.authzid h.username h.password, if_neg h.username_ne]

/-- A text with more or fewer separators than two holds no credentials. -/
theorem decodePlain_encodeText_of_countP {text : String} (hcount : text.toList.countP isNul ≠ 2) :
    decodePlain (encodeText text) = .error .malformed := by
  rw [decodePlain, decodeText_encodeText]
  simp only [bind, Except.bind]
  split
  · next authzid username password hsplit =>
      have hlength := length_splitOn isNul text.toList
      rw [hsplit] at hlength
      simp only [List.length_cons, List.length_nil] at hlength
      omega
  · rfl

/-- Credentials that a PLAIN response cannot carry do not come out as others. -/
theorem decodePlain_encodePlain_of_not_sendable {c : PlainCredentials} (h : ¬ c.Sendable) :
    decodePlain (encodePlain c) = .error .malformed := by
  by_cases hfree : '\x00' ∉ c.authzid.toList ∧ '\x00' ∉ c.username.toList ∧
      '\x00' ∉ c.password.toList
  · obtain ⟨hauthzid, husername, hpassword⟩ := hfree
    have hempty : c.username = "" := by
      by_contra hne
      exact h ⟨hne, hauthzid, husername, hpassword⟩
    rw [decodePlain_encodePlain_of_notMem hauthzid husername hpassword, if_pos hempty]
  · have hpositive : 0 < c.authzid.toList.countP isNul + c.username.toList.countP isNul +
        c.password.toList.countP isNul := by
      by_contra hzero
      refine hfree ⟨?_, ?_, ?_⟩
      all_goals
        intro hmem
        have hpos := List.countP_pos_iff.mpr ⟨_, hmem, show isNul '\x00' by decide⟩
        omega
    apply decodePlain_encodeText_of_countP
    rw [toList_plain]
    simp only [joinWith, List.countP_append, List.countP_singleton, show isNul '\x00' by decide,
      if_true]
    omega

/-- Texts of blanks only. -/
def Blanks (text : String) : Prop :=
  ∀ c ∈ text.toList, Text.isBlank c

instance (text : String) : Decidable (Blanks text) :=
  List.decidableBAll _ text.toList

theorem trim_append {front back : String} (text : String) (hfront : Blanks front)
    (hback : Blanks back) : trim (front ++ text ++ back) = trim text := by
  rw [trim, trim, String.toList_append, String.toList_append, List.append_assoc,
    List.dropWhile_append_of_pos hfront, List.dropWhile_append]
  by_cases hblank : (text.toList.dropWhile Text.isBlank).isEmpty
  · have hnone : back.toList.dropWhile Text.isBlank = [] := List.dropWhile_eq_nil_iff.mpr hback
    rw [if_pos hblank, hnone, List.isEmpty_iff.mp hblank]
  · rw [if_neg hblank, dropTailWhile_append_of_forall _ hback]

/-- Blanks at either end of a response make no difference. -/
theorem decodeText_append {front back : String} (response : String) (hfront : Blanks front)
    (hback : Blanks back) : decodeText (front ++ response ++ back) = decodeText response := by
  rw [decodeText, trim_append response hfront hback, decodeText]

/-- What is encoded for an exchange is decoded again: credentials with a user name and without a
separator of their own as they were, all others not at all, and the texts of LOGIN as they were.
Blanks around a response make no difference to what it holds. -/
theorem credentials_read_back :
    (∀ c : PlainCredentials, (c.Sendable → decodePlain (encodePlain c) = .ok c) ∧
      (¬ c.Sendable → decodePlain (encodePlain c) = .error .malformed)) ∧
    (∀ text, decodeLogin (encodeLogin text) = .ok text) ∧
    ∀ response front back : String, Blanks front → Blanks back →
      decodePlain (front ++ response ++ back) = decodePlain response ∧
      decodeLogin (front ++ response ++ back) = decodeLogin response := by
  refine ⟨fun c => ⟨decodePlain_encodePlain, decodePlain_encodePlain_of_not_sendable⟩,
    decodeLogin_encodeLogin, ?_⟩
  intro response front back hfront hback
  have htext := decodeText_append response hfront hback
  exact ⟨by rw [decodePlain, htext, decodePlain], htext⟩

theorem credentials_read_back_blanks :
    decodePlain (" \t" ++ encodePlain ⟨"", "ünal", "s3cret"⟩ ++ "\u2003\r\n") =
        .ok ⟨"", "ünal", "s3cret"⟩ ∧
      decodePlain (encodePlain ⟨"", "a\x00b", "c"⟩) = .error .malformed := by
  obtain ⟨hplain, -, hblanks⟩ := credentials_read_back
  have hsendable : PlainCredentials.Sendable ⟨"", "ünal", "s3cret"⟩ :=
    ⟨by decide, by decide, by decide, by decide⟩
  have hcut : ¬ PlainCredentials.Sendable ⟨"", "a\x00b", "c"⟩ := fun h =>
    absurd h.username (by decide)
  obtain ⟨htrimmed, -⟩ := hblanks (encodePlain ⟨"", "ünal", "s3cret"⟩) " \t" "\u2003\r\n"
    (by decide) (by decide)
  exact ⟨htrimmed.trans ((hplain _).1 hsendable), (hplain _).2 hcut⟩

end Sasl

namespace Users

/-- A difference that was found is not lost again. -/
theorem foldl_or_eq_zero (pairs : List (UInt8 × UInt8)) (found : UInt8) :
    pairs.foldl (fun found pair => found ||| (pair.1 ^^^ pair.2)) found = 0 ↔
      found = 0 ∧ ∀ pair ∈ pairs, pair.1 = pair.2 := by
  induction pairs generalizing found with
  | nil => simp
  | cons pair rest ih =>
      rw [List.foldl_cons, ih, UInt8.or_eq_zero_iff, UInt8.xor_eq_zero_iff, List.forall_mem_cons,
        and_assoc]

/-- Comparing without stopping finds the same as comparing. -/
theorem sameSecret_iff {a b : String} : sameSecret a b ↔ a = b := by
  rw [sameSecret]
  simp only [Bool.and_eq_true, beq_iff_eq, foldl_or_eq_zero, true_and]
  constructor
  · rintro ⟨hlength, hpairs⟩
    have hsame : List.Forall₂ Eq (Utf8.encode a) (Utf8.encode b) :=
      List.forall₂_iff_zip.mpr ⟨hlength, fun hpair => hpairs _ hpair⟩
    rw [List.forall₂_eq_eq_eq] at hsame
    exact Utf8.encode_injective hsame
  · rintro rfl
    have hsame : List.Forall₂ Eq (Utf8.encode a) (Utf8.encode a) := by rw [List.forall₂_eq_eq_eq]
    exact ⟨rfl, fun _ hpair => (List.forall₂_iff_zip.mp hsame).2 hpair⟩

theorem accepts_iff {users : Users} {username password : String} :
    users.accepts username password ↔ Store.look username users = some password := by
  rw [accepts]
  cases Store.look username users with
  | none => simp
  | some expected => rw [sameSecret_iff, Option.some.injEq]

end Users

end MailIntake
