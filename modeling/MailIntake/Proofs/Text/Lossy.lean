import MailIntake.Proofs.Text.Utf8
import Mathlib.Data.List.Infix
/-!
What lossy decoding keeps of the bytes.  The scanner cuts bytes into stretches: each character it
finds is there as its own UTF-8 bytes, and each fault is a stretch that cannot be read
(`spells_scan`).  A piece of the decoded text therefore stands in one piece among the bytes, and
where it has no replacement character these are its own bytes (`Reads.piece`, `Reads.eq_encode`).
-/
namespace MailIntake.Text.Utf8

/-- Bytes and what they spell: characters written as their UTF-8 bytes, and faults. -/
inductive Spells : List UInt8 → List (Option Char) → Prop
  | nil : Spells [] []
  | char {bytes : List UInt8} {pieces : List (Option Char)} (c : Char)
      (hrest : Spells bytes pieces) : Spells (String.utf8EncodeChar c ++ bytes) (some c :: pieces)
  | fault {bytes : List UInt8} {pieces : List (Option Char)} (broken : List UInt8)
      (hbroken : scan broken = [none]) (hrest : Spells bytes pieces) :
      Spells (broken ++ bytes) (none :: pieces)

namespace Spells

variable {bytes : List UInt8} {front back : List (Option Char)}

/-- What spells one thing and then another can be cut between them. -/
theorem split (hspells : Spells bytes (front ++ back)) :
    ∃ before behind, bytes = before ++ behind ∧ Spells before front ∧ Spells behind back := by
  induction front generalizing bytes with
  | nil => exact ⟨[], bytes, rfl, .nil, hspells⟩
  | cons piece front ih =>
      rw [List.cons_append] at hspells
      cases hspells with
      | char c hrest =>
          obtain ⟨before, behind, rfl, hfront, hback⟩ := ih hrest
          exact ⟨_, behind, (List.append_assoc _ _ _).symm, .char c hfront, hback⟩
      | fault broken hbroken hrest =>
          obtain ⟨before, behind, rfl, hfront, hback⟩ := ih hrest
          exact ⟨_, behind, (List.append_assoc _ _ _).symm, .fault broken hbroken hfront, hback⟩

/-- Bytes that spell characters only are the bytes of these characters. -/
theorem eq_flatMap {chars : List Char} (hspells : Spells bytes (chars.map some)) :
    bytes = chars.flatMap String.utf8EncodeChar := by
  induction chars generalizing bytes with
  | nil =>
      cases hspells
      rfl
  | cons c chars ih =>
      cases hspells with
      | char _ hrest => rw [List.flatMap_cons, ← ih hrest]

end Spells

section Encode

theorem toNat_val_ofNat {n : Nat} (h : n.isValidChar) : (Char.ofNat n).val.toNat = n := by
  rw [Char.ofNat, dif_pos h]
  rfl

theorem utf8EncodeChar_one {a : Nat} (ha : a < 128) :
    String.utf8EncodeChar (Char.ofNat a) = [UInt8.ofNat a] := by
  have hvalue := toNat_val_ofNat (n := a) (.inl (by omega))
  simp only [String.utf8EncodeChar, hvalue]
  rw [if_pos (by omega)]

theorem utf8EncodeChar_two {a b : Nat} (hlow : 2 ≤ a) (ha : a < 32) (hb : b < 64) :
    String.utf8EncodeChar (Char.ofNat (a * 64 + b)) =
      [UInt8.ofNat (a + 192), UInt8.ofNat (b + 128)] := by
  have hvalue := toNat_val_ofNat (n := a * 64 + b) (.inl (by omega))
  have hfirst : (a * 64 + b) / 64 % 32 = a := by omega
  have hsecond : (a * 64 + b) % 64 = b := by omega
  simp only [String.utf8EncodeChar, hvalue]
  rw [if_neg (by omega), if_pos (by omega), hfirst, hsecond]

theorem utf8EncodeChar_three {a b c : Nat} (ha : a < 16) (hb : b < 64) (hc : c < 64)
    (hlow : a = 0 → 32 ≤ b) (hhigh : a = 13 → b < 32) :
    String.utf8EncodeChar (Char.ofNat ((a * 64 + b) * 64 + c)) =
      [UInt8.ofNat (a + 224), UInt8.ofNat (b + 128), UInt8.ofNat (c + 128)] := by
  have hvalid : ((a * 64 + b) * 64 + c).isValidChar := by
    by_cases hbelow : a < 14
    · left
      omega
    · right
      omega
  have hvalue := toNat_val_ofNat hvalid
  have hfirst : ((a * 64 + b) * 64 + c) / 4096 % 16 = a := by omega
  have hsecond : ((a * 64 + b) * 64 + c) / 64 % 64 = b := by omega
  have hthird : ((a * 64 + b) * 64 + c) % 64 = c := by omega
  simp only [String.utf8EncodeChar, hvalue]
  rw [if_neg (by omega), if_neg (by omega), if_pos (by omega), hfirst, hsecond, hthird]

theorem utf8EncodeChar_four {a b c d : Nat} (ha : a < 5) (hb : b < 64) (hc : c < 64) (hd : d < 64)
    (hlow : a = 0 → 16 ≤ b) (hhigh : a = 4 → b < 16) :
    String.utf8EncodeChar (Char.ofNat (((a * 64 + b) * 64 + c) * 64 + d)) =
      [UInt8.ofNat (a + 240), UInt8.ofNat (b + 128), UInt8.ofNat (c + 128),
        UInt8.ofNat (d + 128)] := by
  have hvalue := toNat_val_ofNat (n := ((a * 64 + b) * 64 + c) * 64 + d) (.inr (by omega))
  have hfirst : (((a * 64 + b) * 64 + c) * 64 + d) / 262144 % 8 = a := by omega
  have hsecond : (((a * 64 + b) * 64 + c) * 64 + d) / 4096 % 64 = b := by omega
  have hthird : (((a * 64 + b) * 64 + c) * 64 + d) / 64 % 64 = c := by omega
  have hfourth : (((a * 64 + b) * 64 + c) * 64 + d) % 64 = d := by omega
  simp only [String.utf8EncodeChar, hvalue]
  rw [if_neg (by omega), if_neg (by omega), if_neg (by omega), hfirst, hsecond, hthird, hfourth]

end Encode

/-- Bytes with which a character can begin, and what the scanner holds of it behind them. -/
inductive Opened : List UInt8 → Begun → Prop
  | two {a : Nat} (hlow : 2 ≤ a) (ha : a < 32) :
      Opened [UInt8.ofNat (a + 192)] ⟨a, 1, 0x80, 0xBF⟩
  | three {a : Nat} (ha : a < 16) :
      Opened [UInt8.ofNat (a + 224)]
        ⟨a, 2, if a = 0 then 0xA0 else 0x80, if a = 13 then 0x9F else 0xBF⟩
  | threeMore {a b : Nat} (ha : a < 16) (hb : b < 64) (hlow : a = 0 → 32 ≤ b)
      (hhigh : a = 13 → b < 32) :
      Opened [UInt8.ofNat (a + 224), UInt8.ofNat (b + 128)] ⟨a * 64 + b, 1, 0x80, 0xBF⟩
  | four {a : Nat} (ha : a < 5) :
      Opened [UInt8.ofNat (a + 240)]
        ⟨a, 3, if a = 0 then 0x90 else 0x80, if a = 4 then 0x8F else 0xBF⟩
  | fourMore {a b : Nat} (ha : a < 5) (hb : b < 64) (hlow : a = 0 → 16 ≤ b)
      (hhigh : a = 4 → b < 16) :
      Opened [UInt8.ofNat (a + 240), UInt8.ofNat (b + 128)] ⟨a * 64 + b, 2, 0x80, 0xBF⟩
  | fourMost {a b c : Nat} (ha : a < 5) (hb : b < 64) (hc : c < 64) (hlow : a = 0 → 16 ≤ b)
      (hhigh : a = 4 → b < 16) :
      Opened [UInt8.ofNat (a + 240), UInt8.ofNat (b + 128), UInt8.ofNat (c + 128)]
        ⟨(a * 64 + b) * 64 + c, 1, 0x80, 0xBF⟩

section Opened

variable {held : List UInt8} {begun : Begun}

/-- A byte that belongs to a character begun has six bits of it. -/
theorem exists_continuation {b low high : UInt8} (hlow : low ≤ b) (hhigh : b ≤ high)
    (hleast : 0x80 ≤ low) (hmost : high ≤ 0xBF) :
    ∃ k < 64, b = UInt8.ofNat (k + 128) ∧ low.toNat ≤ k + 128 ∧ k + 128 ≤ high.toNat := by
  rw [UInt8.le_iff_toNat_le] at hlow hhigh hleast hmost
  have hfrom : 128 ≤ low.toNat := hleast
  have hto : high.toNat ≤ 191 := hmost
  have hback : b.toNat - 128 + 128 = b.toNat := by omega
  refine ⟨b.toNat - 128, by omega, ?_, by omega, by omega⟩
  rw [hback, UInt8.ofNat_toNat]

theorem Opened.scanFrom_append (hopened : Opened held begun) (rest : List UInt8) :
    scanFrom none (held ++ rest) = scanFrom (some begun) rest := by
  cases hopened with
  | two hlow ha => exact scanFrom_opens (lead_two hlow ha) rest
  | three ha => exact scanFrom_opens (lead_three ha) rest
  | four ha => exact scanFrom_opens (lead_four ha) rest
  | @threeMore a b ha hb hlow hhigh =>
      rw [List.cons_append, List.singleton_append, scanFrom_opens (lead_three ha)]
      refine scanFrom_more hb ?_ ?_ rest
      · split
        · next hzero => exact Nat.add_le_add_right (hlow hzero) 128
        · exact Nat.le_add_left 128 b
      · split
        · next htop => exact Nat.add_le_add_right (Nat.le_of_lt_succ (hhigh htop)) 128
        · exact Nat.add_le_add_right (Nat.le_of_lt_succ hb) 128
  | @fourMore a b ha hb hlow hhigh =>
      rw [List.cons_append, List.singleton_append, scanFrom_opens (lead_four ha)]
      refine scanFrom_more hb ?_ ?_ rest
      · split
        · next hzero => exact Nat.add_le_add_right (hlow hzero) 128
        · exact Nat.le_add_left 128 b
      · split
        · next htop => exact Nat.add_le_add_right (Nat.le_of_lt_succ (hhigh htop)) 128
        · exact Nat.add_le_add_right (Nat.le_of_lt_succ hb) 128
  | @fourMost a b c ha hb hc hlow hhigh =>
      rw [List.cons_append, List.cons_append, List.singleton_append,
        scanFrom_opens (lead_four ha)]
      have hthird : scanFrom (some ⟨a * 64 + b, 2, 0x80, 0xBF⟩) (UInt8.ofNat (c + 128) :: rest) =
          scanFrom (some ⟨(a * 64 + b) * 64 + c, 1, 0x80, 0xBF⟩) rest :=
        scanFrom_more hc (show (0x80 : UInt8).toNat ≤ c + 128 from Nat.le_add_left 128 c)
          (show c + 128 ≤ (0xBF : UInt8).toNat from
            Nat.add_le_add_right (Nat.le_of_lt_succ hc) 128) rest
      refine (scanFrom_more hb ?_ ?_ _).trans hthird
      · split
        · next hzero => exact Nat.add_le_add_right (hlow hzero) 128
        · exact Nat.le_add_left 128 b
      · split
        · next htop => exact Nat.add_le_add_right (Nat.le_of_lt_succ (hhigh htop)) 128
        · exact Nat.add_le_add_right (Nat.le_of_lt_succ hb) 128

/-- A character that is not finished is a fault. -/
theorem Opened.scan_eq (hopened : Opened held begun) : scan held = [none] := by
  have hend := hopened.scanFrom_append []
  rwa [List.append_nil] at hend

theorem Opened.bounds (hopened : Opened held begun) : 0x80 ≤ begun.low ∧ begun.high ≤ 0xBF := by
  cases hopened with
  | two | threeMore | fourMore | fourMost => exact ⟨UInt8.le_refl 0x80, UInt8.le_refl 0xBF⟩
  | three | four =>
      constructor
      · show _ ≤ ite _ _ _
        split <;> decide
      · show ite _ _ _ ≤ _
        split <;> decide

/-- A byte within the bounds goes on with the character begun, or completes it. -/
theorem Opened.continues (hopened : Opened held begun) {k : Nat} (hk : k < 64)
    (hlow : begun.low.toNat ≤ k + 128) (hhigh : k + 128 ≤ begun.high.toNat) :
    (∃ c, step (some begun) (UInt8.ofNat (k + 128)) = ([some c], none) ∧
      String.utf8EncodeChar c = held ++ [UInt8.ofNat (k + 128)]) ∨
    ∃ more, step (some begun) (UInt8.ofNat (k + 128)) = ([], some more) ∧
      Opened (held ++ [UInt8.ofNat (k + 128)]) more := by
  rw [step_continue hk hlow hhigh]
  cases hopened with
  | two hleast ha => exact .inl ⟨_, rfl, utf8EncodeChar_two hleast ha hk⟩
  | threeMore ha hb hleast hmost => exact .inl ⟨_, rfl, utf8EncodeChar_three ha hb hk hleast hmost⟩
  | fourMost ha hb hc hleast hmost =>
      exact .inl ⟨_, rfl, utf8EncodeChar_four ha hb hc hk hleast hmost⟩
  | fourMore ha hb hleast hmost => exact .inr ⟨_, rfl, .fourMost ha hb hk hleast hmost⟩
  | three ha =>
      refine .inr ⟨_, rfl, .threeMore ha hk ?_ ?_⟩
      · intro hzero
        simp only [if_pos hzero] at hlow
        have hleast : 160 ≤ k + 128 := hlow
        omega
      · intro htop
        simp only [if_pos htop] at hhigh
        have hmost : k + 128 ≤ 159 := hhigh
        omega
  | four ha =>
      refine .inr ⟨_, rfl, .fourMore ha hk ?_ ?_⟩
      · intro hzero
        simp only [if_pos hzero] at hlow
        have hleast : 144 ≤ k + 128 := hlow
        omega
      · intro htop
        simp only [if_pos htop] at hhigh
        have hmost : k + 128 ≤ 143 := hhigh
        omega

/-- What a byte does to a character begun: it completes it, goes on with it, or breaks it off and is
read on its own. -/
theorem Opened.step_cases (hopened : Opened held begun) (b : UInt8) :
    (∃ c, step (some begun) b = ([some c], none) ∧ String.utf8EncodeChar c = held ++ [b]) ∨
    (∃ more, step (some begun) b = ([], some more) ∧ Opened (held ++ [b]) more) ∨
    step (some begun) b = (none :: (enter b).1, (enter b).2) := by
  by_cases hwithin : begun.low ≤ b ∧ b ≤ begun.high
  · obtain ⟨k, hk, rfl, hlow, hhigh⟩ :=
      exists_continuation hwithin.1 hwithin.2 hopened.bounds.1 hopened.bounds.2
    rcases hopened.continues hk hlow hhigh with hdone | hmore
    · exact .inl hdone
    · exact .inr (.inl hmore)
  · refine .inr (.inr ?_)
    rw [step, if_neg (by simpa using hwithin)]

/-- What a first byte can be. -/
theorem lead_cases (b : UInt8) :
    (∃ a < 128, b = UInt8.ofNat a) ∨ (∃ a < 32, 2 ≤ a ∧ b = UInt8.ofNat (a + 192)) ∨
    (∃ a < 16, b = UInt8.ofNat (a + 224)) ∨ (∃ a < 5, b = UInt8.ofNat (a + 240)) ∨
    lead b = .fault := by
  have hsame : ∀ {n : Nat}, n ≤ b.toNat → b = UInt8.ofNat (b.toNat - n + n) := by
    intro n hn
    rw [Nat.sub_add_cancel hn, UInt8.ofNat_toNat]
  have htop : b.toNat < 256 := b.toNat_lt
  by_cases hone : b.toNat < 128
  · exact .inl ⟨b.toNat, hone, UInt8.ofNat_toNat.symm⟩
  by_cases htwo : 194 ≤ b.toNat ∧ b.toNat < 224
  · exact .inr (.inl ⟨b.toNat - 192, by omega, by omega, hsame (by omega)⟩)
  by_cases hthree : 224 ≤ b.toNat ∧ b.toNat < 240
  · exact .inr (.inr (.inl ⟨b.toNat - 224, by omega, hsame hthree.1⟩))
  by_cases hfour : 240 ≤ b.toNat ∧ b.toNat < 245
  · exact .inr (.inr (.inr (.inl ⟨b.toNat - 240, by omega, hsame hfour.1⟩)))
  refine .inr (.inr (.inr (.inr ?_)))
  have hlt : ∀ limit : UInt8, b < limit ↔ b.toNat < limit.toNat := fun limit =>
    UInt8.lt_iff_toNat_lt
  have h1 : ¬ b < 0x80 := by
    rw [hlt]
    exact hone
  by_cases hlow : b.toNat < 194
  · have h2 : b < 0xC2 := by
      rw [hlt]
      exact hlow
    rw [lead, if_neg h1, if_pos h2]
  · have hrest : ∀ limit : UInt8, limit.toNat ≤ 245 → ¬ b < limit := by
      intro limit hlimit
      rw [hlt]
      omega
    rw [lead, if_neg h1, if_neg (hrest _ (by decide)), if_neg (hrest _ (by decide)),
      if_neg (hrest _ (by decide)), if_neg (hrest _ (by decide))]

/-- What a byte is where no character has begun. -/
theorem enter_cases (b : UInt8) :
    (∃ c, enter b = ([some c], none) ∧ String.utf8EncodeChar c = [b]) ∨
    (∃ begun, enter b = ([], some begun) ∧ Opened [b] begun) ∨
    (enter b = ([none], none) ∧ scan [b] = [none]) := by
  rcases lead_cases b with ⟨a, ha, rfl⟩ | ⟨a, ha, hlow, rfl⟩ | ⟨a, ha, rfl⟩ | ⟨a, ha, rfl⟩ | hlead
  · exact .inl ⟨_, by rw [enter, lead_one ha], utf8EncodeChar_one ha⟩
  · exact .inr (.inl ⟨_, by rw [enter, lead_two hlow ha], .two hlow ha⟩)
  · exact .inr (.inl ⟨_, by rw [enter, lead_three ha], .three ha⟩)
  · exact .inr (.inl ⟨_, by rw [enter, lead_four ha], .four ha⟩)
  · have henter : enter b = ([none], none) := by rw [enter, hlead]
    refine .inr (.inr ⟨henter, ?_⟩)
    rw [scan, scanFrom_cons, step, henter]
    rfl

end Opened

section Scan

variable {rest : List UInt8}

/-- What the scanner holds at some bytes is what they spell. -/
structure Faithful (rest : List UInt8) : Prop where
  fresh : Spells rest (scanFrom none rest)
  begun : ∀ {held : List UInt8} {begun : Begun}, Opened held begun →
    Spells (held ++ rest) (scanFrom (some begun) rest)

theorem Faithful.enter (hfaithful : Faithful rest) (b : UInt8) :
    Spells (b :: rest) ((enter b).1 ++ scanFrom (enter b).2 rest) := by
  rcases enter_cases b with ⟨c, henter, hc⟩ | ⟨begun, henter, hopened⟩ | ⟨henter, hbroken⟩
  · have hchar := Spells.char c hfaithful.fresh
    rw [hc] at hchar
    rw [henter]
    exact hchar
  · rw [henter]
    exact hfaithful.begun hopened
  · rw [henter]
    exact Spells.fault [b] hbroken hfaithful.fresh

theorem Faithful.cons (hfaithful : Faithful rest) (b : UInt8) : Faithful (b :: rest) where
  fresh := by
    rw [scanFrom_cons]
    exact hfaithful.enter b
  begun {held begun} hopened := by
    rw [scanFrom_cons, List.append_cons]
    rcases hopened.step_cases b with ⟨c, hstep, hc⟩ | ⟨more, hstep, hmore⟩ | hstep
    · rw [hstep, ← hc]
      exact .char c hfaithful.fresh
    · rw [hstep]
      exact hfaithful.begun hmore
    · rw [hstep, List.append_assoc]
      exact .fault held hopened.scan_eq (hfaithful.enter b)

theorem faithful (bytes : List UInt8) : Faithful bytes := by
  induction bytes with
  | nil =>
      refine ⟨.nil, fun {held begun} hopened => ?_⟩
      exact .fault held hopened.scan_eq .nil
  | cons b rest ih => exact ih.cons b

/-- The scanner says what bytes spell. -/
theorem spells_scan (bytes : List UInt8) : Spells bytes (scan bytes) :=
  (faithful bytes).fresh

/-- Bytes that decode are those of the text. -/
theorem eq_encode_of_decode? {bytes : List UInt8} {text : String}
    (hdecode : decode? bytes = some text) : bytes = encode text := by
  have hall : ∀ {pieces : List (Option Char)} {chars : List Char},
      pieces.mapM id = some chars → pieces = chars.map some := by
    intro pieces
    induction pieces with
    | nil =>
        intro chars hchars
        cases hchars
        rfl
    | cons piece pieces ih =>
        intro chars hchars
        cases piece with
        | none => simp at hchars
        | some c =>
            rw [List.mapM_cons] at hchars
            simp only [id, Option.pure_def, Option.bind_eq_bind, Option.bind_some,
              Option.bind_eq_some_iff] at hchars
            obtain ⟨more, hmore, hcons⟩ := hchars
            cases hcons
            rw [ih hmore, List.map_cons]
  obtain ⟨chars, hchars, rfl⟩ := Option.map_eq_some_iff.mp hdecode
  have hspells := spells_scan bytes
  rw [hall hchars] at hspells
  rw [encode, String.toList_ofList]
  exact hspells.eq_flatMap

end Scan

/-- Bytes that are read as a text, a replacement character standing for each fault. -/
def Reads (bytes : List UInt8) (text : List Char) : Prop :=
  ∃ pieces, Spells bytes pieces ∧ text = pieces.map fun piece => piece.getD '\uFFFD'

theorem reads_decodeLossy (bytes : List UInt8) : Reads bytes (decodeLossy bytes).toList :=
  ⟨scan bytes, spells_scan bytes, by rw [decodeLossy, String.toList_ofList]⟩

namespace Reads

variable {bytes : List UInt8} {text : List Char}

/-- A piece of a text that is read stands in one piece among the bytes. -/
theorem piece (hreads : Reads bytes text) {piece : List Char} (hpiece : piece <:+: text) :
    ∃ stretch, stretch <:+: bytes ∧ Reads stretch piece := by
  obtain ⟨pieces, hspells, rfl⟩ := hreads
  obtain ⟨before, behind, htext⟩ := hpiece
  rw [List.append_assoc] at htext
  obtain ⟨front, rest, rfl, rfl, hrest⟩ := List.map_eq_append_iff.mp htext.symm
  obtain ⟨mid, back, rfl, rfl, rfl⟩ := List.map_eq_append_iff.mp hrest
  obtain ⟨first, others, rfl, -, hothers⟩ := hspells.split
  obtain ⟨stretch, last, rfl, hstretch, -⟩ := hothers.split
  exact ⟨stretch, ⟨first, last, List.append_assoc _ _ _⟩, mid, hstretch, rfl⟩

/-- What is read without a replacement character is there as it is. -/
theorem eq_encode (hreads : Reads bytes text) (htext : '\uFFFD' ∉ text) :
    bytes = encode (String.ofList text) := by
  obtain ⟨pieces, hspells, rfl⟩ := hreads
  have hpieces : pieces = (pieces.map fun piece => piece.getD '\uFFFD').map some := by
    rw [List.map_map]
    refine (List.map_id pieces).symm.trans (List.map_congr_left fun piece hpiece => ?_)
    cases piece with
    | none => exact absurd (List.mem_map.mpr ⟨none, hpiece, rfl⟩) htext
    | some c => rfl
  rw [encode, String.toList_ofList]
  rw [hpieces] at hspells
  exact hspells.eq_flatMap

end Reads

/-- A piece of a text is encoded as a piece of its bytes. -/
theorem encode_piece {piece text : List Char} (hpiece : piece <:+: text) :
    encode (String.ofList piece) <:+: encode (String.ofList text) := by
  obtain ⟨before, behind, rfl⟩ := hpiece
  simp only [encode, String.toList_ofList, List.flatMap_append]
  exact ⟨_, _, rfl⟩

end MailIntake.Text.Utf8
