import Mathlib.Data.List.Forall2
import MailIntake.Text.Xtext
import MailIntake.Proofs.Text.Lossy
/-!
What xtexts stand for.  A byte is written as it is or escaped, so the bytes of an xtext are cut into
pieces that stand for one byte each, in one way only (`Splits.unique`).  A reader has cut the bytes
before its index like this (`after_holds`), and a step takes the next piece if there is one
(`step_stepSpec`); it comes to an end because every piece has a byte, and never asks for one behind
the last.  So the texts that are decoded are exactly those whose bytes stand for a text
(`decodes_pieces`).
-/
namespace MailIntake.Text.Xtext

/-- The hexadecimal digit of a value, a letter being in upper or in lower case. -/
def digit (upper : Bool) (value : Nat) : UInt8 :=
  UInt8.ofNat (if upper then value.digitChar.toUpper else value.digitChar).toNat

/-- A byte as an escape, with the cases of its two digits. -/
def escape (highUpper lowUpper : Bool) (b : UInt8) : List UInt8 :=
  [0x2B, digit highUpper (b.toNat / 16), digit lowUpper (b.toNat % 16)]

/-- A piece of an xtext and the byte that it stands for. -/
inductive Stands : List UInt8 → UInt8 → Prop
  | plain {b : UInt8} (hb : b ≠ 0x2B) : Stands [b] b
  | escape (highUpper lowUpper : Bool) (b : UInt8) : Stands (escape highUpper lowUpper b) b

/-- Bytes as pieces, each of which stands for a byte. -/
structure Splits (bytes : List UInt8) (pieces : List (List UInt8)) (decoded : List UInt8) :
    Prop where
  whole : bytes = pieces.flatten
  stands : List.Forall₂ Stands pieces decoded

/-- A byte as one may choose to write it: as it is, or with the cases of its digits.  A plus sign is
escaped whatever is chosen. -/
def writeByte (b : UInt8) : Option (Bool × Bool) → List UInt8
  | none => if b = 0x2B then escape true true b else [b]
  | some (highUpper, lowUpper) => escape highUpper lowUpper b

def write (choice : Nat → Option (Bool × Bool)) (bytes : List UInt8) : List UInt8 :=
  (bytes.mapIdx fun i b => writeByte b (choice i)).flatten

theorem digit?_digit (upper : Bool) {value : Nat} (hvalue : value < 16) :
    digit? (digit upper value) = some value := by
  revert upper
  decide +revert

/-- Only the digits of a value, in either case, are read as it. -/
theorem eq_digit_of_digit? {b : UInt8} {value : Nat} (hdigit : digit? b = some value) :
    value < 16 ∧ ∃ upper, b = digit upper value := by
  have hall : ∀ n < 256, ∀ value ∈ digit? (UInt8.ofNat n),
      value < 16 ∧ ∃ upper, UInt8.ofNat n = digit upper value := by decide +kernel
  have hb := hall b.toNat b.toNat_lt value
  rw [UInt8.ofNat_toNat] at hb
  exact hb hdigit

theorem digits_of_byte (b : UInt8) (highUpper lowUpper : Bool) :
    digit? (digit highUpper (b.toNat / 16)) = some (b.toNat / 16) ∧
      digit? (digit lowUpper (b.toNat % 16)) = some (b.toNat % 16) := by
  have hb := b.toNat_lt
  exact ⟨digit?_digit highUpper (by omega), digit?_digit lowUpper (by omega)⟩

section Splits

variable {bytes more piece other rest behind decoded others : List UInt8} {b c : UInt8}
  {pieces cut : List (List UInt8)}

theorem Stands.length_pos (hstands : Stands piece b) : 0 < piece.length := by
  cases hstands with
  | plain _ => exact Nat.zero_lt_one
  | escape _ _ _ => exact Nat.zero_lt_succ 2

/-- Where a piece begins, only that piece does. -/
theorem Stands.unique (hstands : Stands piece b) (hother : Stands other c)
    (heq : piece ++ rest = other ++ behind) : piece = other ∧ b = c ∧ rest = behind := by
  cases hstands with
  | @plain b hb =>
      cases hother with
      | plain _ =>
          obtain ⟨rfl, hrest⟩ := List.cons.inj heq
          exact ⟨rfl, rfl, hrest⟩
      | escape _ _ _ => exact absurd (List.cons.inj heq).1 hb
  | escape highUpper lowUpper b =>
      cases hother with
      | plain hc => exact absurd (List.cons.inj heq).1.symm hc
      | escape upperHigh upperLow c =>
          simp only [Xtext.escape, List.cons_append, List.nil_append, List.cons.injEq,
            true_and] at heq ⊢
          obtain ⟨hhigh, hlow, hrest⟩ := heq
          obtain ⟨hbHigh, hbLow⟩ := digits_of_byte b highUpper lowUpper
          obtain ⟨hcHigh, hcLow⟩ := digits_of_byte c upperHigh upperLow
          have hfirst : b.toNat / 16 = c.toNat / 16 := by
            apply Option.some.inj
            rw [← hbHigh, hhigh, hcHigh]
          have hsecond : b.toNat % 16 = c.toNat % 16 := by
            apply Option.some.inj
            rw [← hbLow, hlow, hcLow]
          have hsame : b = c := by
            apply UInt8.toNat_inj.mp
            omega
          exact ⟨⟨hhigh, hlow, trivial⟩, hsame, hrest⟩

theorem splits_nil : Splits [] [] [] :=
  ⟨rfl, .nil⟩

theorem Splits.cons (hpiece : Stands piece b) (hsplits : Splits bytes pieces decoded) :
    Splits (piece ++ bytes) (piece :: pieces) (b :: decoded) :=
  ⟨by rw [hsplits.whole, List.flatten_cons], .cons hpiece hsplits.stands⟩

theorem Splits.concat (hsplits : Splits bytes pieces decoded) (hpiece : Stands piece b) :
    Splits (bytes ++ piece) (pieces ++ [piece]) (decoded ++ [b]) :=
  ⟨by rw [hsplits.whole, List.flatten_concat],
    List.rel_append hsplits.stands (.cons hpiece .nil)⟩

theorem Splits.eq_nil (hsplits : Splits [] pieces decoded) : pieces = [] ∧ decoded = [] := by
  obtain ⟨hwhole, hstands⟩ := hsplits
  cases hstands with
  | nil => exact ⟨rfl, rfl⟩
  | cons hpiece _ =>
      have hlength := congrArg List.length hwhole
      have hpos := hpiece.length_pos
      simp only [List.length_nil, List.flatten_cons, List.length_append] at hlength
      omega

/-- Bytes that do not begin with a piece cannot be split. -/
theorem Splits.exists_piece (hsplits : Splits bytes pieces decoded) (hbytes : bytes ≠ []) :
    ∃ piece b behind tail more, Stands piece b ∧ bytes = piece ++ behind ∧ pieces = piece :: tail ∧
      decoded = b :: more ∧ Splits behind tail more := by
  obtain ⟨rfl, hstands⟩ := hsplits
  cases hstands with
  | nil => exact absurd rfl hbytes
  | cons hpiece hrest => exact ⟨_, _, _, _, _, hpiece, rfl, rfl, rfl, rfl, hrest⟩

/-- A split begins with the piece with which the bytes do. -/
theorem Splits.of_piece (hpiece : Stands piece b)
    (hsplits : Splits (piece ++ behind) pieces decoded) :
    ∃ tail more, pieces = piece :: tail ∧ decoded = b :: more ∧ Splits behind tail more := by
  have hne : piece ++ behind ≠ [] := by
    have hpos := hpiece.length_pos
    exact List.append_ne_nil_of_left_ne_nil (List.ne_nil_of_length_pos hpos) behind
  obtain ⟨other, c, rest, tail, more, hother, heq, rfl, rfl, hrest⟩ := hsplits.exists_piece hne
  obtain ⟨rfl, rfl, rfl⟩ := hpiece.unique hother heq
  exact ⟨tail, more, rfl, rfl, hrest⟩

theorem Splits.unique (hsplits : Splits bytes pieces decoded) (hcut : Splits bytes cut others) :
    pieces = cut ∧ decoded = others := by
  induction pieces generalizing bytes decoded cut others with
  | nil =>
      obtain ⟨rfl, hstands⟩ := hsplits
      obtain ⟨rfl, rfl⟩ := hcut.eq_nil
      exact ⟨rfl, List.forall₂_nil_left_iff.mp hstands⟩
  | cons first pieces ih =>
      have hbytes : bytes ≠ [] := by
        rintro rfl
        exact List.cons_ne_nil _ _ hsplits.eq_nil.1
      obtain ⟨piece, b, behind, tail, more, hpiece, rfl, htail, rfl, hrest⟩ :=
        hsplits.exists_piece hbytes
      obtain ⟨rfl, rfl⟩ := List.cons.inj htail
      obtain ⟨_, _, rfl, rfl, hbehind⟩ := hcut.of_piece hpiece
      obtain ⟨rfl, rfl⟩ := ih hrest hbehind
      exact ⟨rfl, rfl⟩

theorem stands_writeByte (b : UInt8) (choice : Option (Bool × Bool)) :
    Stands (writeByte b choice) b := by
  cases choice with
  | none =>
      by_cases hplus : b = 0x2B
      · rw [writeByte, if_pos hplus]
        exact .escape true true b
      · rw [writeByte, if_neg hplus]
        exact .plain hplus
  | some digits => exact .escape digits.1 digits.2 b

theorem exists_splits_write (choice : Nat → Option (Bool × Bool)) (bytes : List UInt8) :
    ∃ pieces, Splits (write choice bytes) pieces bytes := by
  induction bytes generalizing choice with
  | nil => exact ⟨[], splits_nil⟩
  | cons b rest ih =>
      obtain ⟨pieces, hsplits⟩ := ih fun i => choice (i + 1)
      refine ⟨writeByte b (choice 0) :: pieces, ?_⟩
      rw [write, List.mapIdx_cons, List.flatten_cons]
      exact hsplits.cons (stands_writeByte b (choice 0))

end Splits

namespace Reader

section Step

variable {front rest : List UInt8}

theorem getElem?_behind (front rest : List UInt8) (k : Nat) :
    (front ++ rest).toArray[front.length + k]? = rest[k]? := by
  rw [List.getElem?_toArray, List.getElem?_append_right (Nat.le_add_right _ _),
    Nat.add_sub_cancel_left]

/-- The digits of an escape are read as its byte, and nothing else is. -/
theorem escaped?_eq_some_iff {b : UInt8} :
    escaped? (front ++ rest).toArray front.length = some b ↔
      ∃ highUpper lowUpper behind,
        rest = digit highUpper (b.toNat / 16) :: digit lowUpper (b.toNat % 16) :: behind := by
  have hhigh := getElem?_behind front rest 0
  have hlow := getElem?_behind front rest 1
  rw [Nat.add_zero] at hhigh
  simp only [escaped?, hhigh, hlow, Option.bind_eq_bind, Option.pure_def]
  constructor
  · intro hread
    simp only [Option.bind_eq_some_iff, Option.some.injEq] at hread
    obtain ⟨high, hfirst, h, hh, low, hsecond, l, hl, rfl⟩ := hread
    obtain ⟨hhValue, highUpper, rfl⟩ := eq_digit_of_digit? hh
    obtain ⟨hlValue, lowUpper, rfl⟩ := eq_digit_of_digit? hl
    have hbyte : (UInt8.ofNat (h * 16 + l)).toNat = h * 16 + l := Utf8.toNat_ofNat (by omega)
    have hdiv : (h * 16 + l) / 16 = h := by omega
    have hmod : (h * 16 + l) % 16 = l := by omega
    rw [hbyte, hdiv, hmod]
    rcases rest with - | ⟨first, - | ⟨second, behind⟩⟩
    · simp at hfirst
    · simp at hsecond
    · simp only [List.getElem?_cons_zero, List.getElem?_cons_succ, Option.some.injEq]
        at hfirst hsecond
      exact ⟨highUpper, lowUpper, behind, by rw [hfirst, hsecond]⟩
  · rintro ⟨highUpper, lowUpper, behind, rfl⟩
    obtain ⟨hfirst, hsecond⟩ := digits_of_byte b highUpper lowUpper
    have hwhole : b.toNat / 16 * 16 + b.toNat % 16 = b.toNat := Nat.div_add_mod' b.toNat 16
    simp only [List.getElem?_cons_zero, List.getElem?_cons_succ, Option.bind_some, hfirst, hsecond,
      hwhole, UInt8.ofNat_toNat]

/-- What a reader comes to with the bytes from its index on. -/
inductive StepSpec (rest : List UInt8) (r : Reader) : Step → Prop
  | done (hrest : rest = []) : StepSpec rest r (.done r.decoded)
  | next {piece behind : List UInt8} {b : UInt8} (hpiece : Stands piece b)
      (hrest : rest = piece ++ behind) :
      StepSpec rest r (.next ⟨r.index + piece.length, r.decoded.push b⟩)
  | refused (hrest : rest ≠ [])
      (hnone : ∀ piece b behind, Stands piece b → rest ≠ piece ++ behind) :
      StepSpec rest r .refused

/-- A step takes the piece with which the bytes from the index on begin. -/
theorem step_stepSpec (front rest : List UInt8) (decoded : Array UInt8) :
    StepSpec rest ⟨front.length, decoded⟩
      (step (front ++ rest).toArray ⟨front.length, decoded⟩) := by
  have hread := getElem?_behind front rest 0
  rw [Nat.add_zero] at hread
  cases rest with
  | nil =>
      have hover : ¬ front.length < (front ++ []).toArray.size := by simp
      simp only [step, if_neg hover]
      exact .done rfl
  | cons b rest =>
      have hwithin : front.length < (front ++ b :: rest).toArray.size := by simp
      simp only [step, if_pos hwithin, hread, List.getElem?_cons_zero]
      by_cases hplus : b = 0x2B
      · have hbehind := @escaped?_eq_some_iff (front ++ [b]) rest
        rw [List.append_assoc, List.singleton_append, List.length_append,
          List.length_singleton] at hbehind
        rw [if_pos hplus]
        cases hescaped : escaped? (front ++ b :: rest).toArray (front.length + 1) with
        | some value =>
            obtain ⟨highUpper, lowUpper, behind, rfl⟩ := hbehind.mp hescaped
            rw [hplus]
            exact .next (.escape highUpper lowUpper value) rfl
        | none =>
            refine .refused (List.cons_ne_nil b rest) ?_
            intro piece value behind hpiece hsplit
            cases hpiece with
            | plain hvalue =>
                rw [← (List.cons.inj hsplit).1] at hvalue
                exact hvalue hplus
            | escape highUpper lowUpper value =>
                have hsome := hbehind.mpr ⟨highUpper, lowUpper, behind, (List.cons.inj hsplit).2⟩
                rw [hescaped] at hsome
                cases hsome
      · rw [if_neg hplus]
        exact .next (.plain hplus) rfl

end Step

/-- A reader ends with what the rest of the bytes stands for, if it can be split. -/
theorem run_eq_some_iff (front rest : List UInt8) (decoded out : Array UInt8) :
    run (front ++ rest).toArray ⟨front.length, decoded⟩ = some out ↔
      ∃ pieces more, Splits rest pieces more ∧ out.toList = decoded.toList ++ more := by
  -- A step leaves fewer bytes, because every piece has one.
  induction hlength : rest.length using Nat.strongRecOn generalizing front rest decoded with
  | ind length ih =>
      have hspec := step_stepSpec front rest decoded
      generalize hstep : step (front ++ rest).toArray ⟨front.length, decoded⟩ = outcome
        at hspec
      cases hspec with
      | done hrest =>
          subst hrest
          rw [run_eq, hstep, Option.some.injEq]
          constructor
          · rintro rfl
            exact ⟨[], [], splits_nil, (List.append_nil _).symm⟩
          · rintro ⟨pieces, more, hsplits, hout⟩
            rw [hsplits.eq_nil.2, List.append_nil] at hout
            exact (Array.toList_inj.mp hout).symm
      | @next piece behind b hpiece hrest =>
          subst hrest
          have hshorter : behind.length < length := by
            have hpos := hpiece.length_pos
            rw [← hlength, List.length_append]
            omega
          have hrun := ih behind.length hshorter (front ++ piece) behind (decoded.push b) rfl
          rw [List.append_assoc, List.length_append] at hrun
          rw [run_eq, hstep, hrun]
          constructor
          · rintro ⟨pieces, more, hsplits, hout⟩
            refine ⟨piece :: pieces, b :: more, hsplits.cons hpiece, ?_⟩
            rw [hout, Array.toList_push, List.append_assoc, List.singleton_append]
          · rintro ⟨pieces, more, hsplits, hout⟩
            obtain ⟨tail, after, rfl, rfl, hbehind⟩ := hsplits.of_piece hpiece
            refine ⟨tail, after, hbehind, ?_⟩
            rw [hout, Array.toList_push, List.append_assoc, List.singleton_append]
      | refused hrest hnone =>
          rw [run_eq, hstep]
          constructor
          · intro hsome
            cases hsome
          · rintro ⟨pieces, more, hsplits, -⟩
            obtain ⟨piece, b, behind, _, _, hpiece, heq, -, -, -⟩ := hsplits.exists_piece hrest
            exact absurd heq (hnone piece b behind hpiece)

/-- The reader behind a number of steps, if it is still reading then. -/
def after (bytes : Array UInt8) : Nat → Option Reader
  | 0 => some {}
  | n + 1 => (after bytes n).bind fun r =>
      match r.step bytes with
      | .next next => some next
      | .done _ | .refused | .overrun => none

/-- A reader that has decoded the bytes before its index. -/
structure Holds (bytes : List UInt8) (r : Reader) : Prop where
  within : r.index ≤ bytes.length
  split : ∃ pieces, Splits (bytes.take r.index) pieces r.decoded.toList

theorem Holds.stepSpec {bytes : List UInt8} {r : Reader} (hholds : Holds bytes r) :
    StepSpec (bytes.drop r.index) r (r.step bytes.toArray) := by
  have hspec := step_stepSpec (bytes.take r.index) (bytes.drop r.index) r.decoded
  rwa [List.take_append_drop, List.length_take_of_le hholds.within] at hspec

theorem Holds.step_ne_overrun {bytes : List UInt8} {r : Reader} (hholds : Holds bytes r) :
    r.step bytes.toArray ≠ .overrun := by
  intro hover
  have hspec := hholds.stepSpec
  rw [hover] at hspec
  cases hspec

theorem Holds.next {bytes : List UInt8} {r next : Reader} (hholds : Holds bytes r)
    (hstep : r.step bytes.toArray = .next next) : Holds bytes next := by
  have hspec := hholds.stepSpec
  rw [hstep] at hspec
  cases hspec with
  | @next piece behind b hpiece hrest =>
      obtain ⟨pieces, hsplits⟩ := hholds.split
      have hfront : bytes.take (r.index + piece.length) = bytes.take r.index ++ piece := by
        rw [List.take_add, hrest, List.take_left]
      have hlength := congrArg List.length hrest
      rw [List.length_drop, List.length_append] at hlength
      have hwithin := hholds.within
      refine ⟨?_, pieces ++ [piece], ?_⟩
      · show r.index + piece.length ≤ bytes.length
        omega
      · show Splits (bytes.take (r.index + piece.length)) _ (r.decoded.push b).toList
        rw [hfront, Array.toList_push]
        exact hsplits.concat hpiece

theorem after_succ_eq_some_iff {bytes : Array UInt8} {n : Nat} {next : Reader} :
    after bytes (n + 1) = some next ↔
      ∃ r, after bytes n = some r ∧ r.step bytes = .next next := by
  rw [after, Option.bind_eq_some_iff]
  apply exists_congr
  intro r
  cases r.step bytes <;> simp

theorem after_holds {bytes : List UInt8} {n : Nat} {r : Reader}
    (hafter : after bytes.toArray n = some r) : Holds bytes r ∧ n ≤ r.index := by
  induction n generalizing r with
  | zero =>
      cases hafter
      exact ⟨⟨Nat.zero_le _, [], splits_nil⟩, Nat.le_refl 0⟩
  | succ n ih =>
      obtain ⟨before, hbefore, hstep⟩ := after_succ_eq_some_iff.mp hafter
      obtain ⟨hholds, hindex⟩ := ih hbefore
      exact ⟨hholds.next hstep, Nat.lt_of_le_of_lt hindex (index_lt_of_step hstep).2⟩

theorem run_after {bytes : Array UInt8} {n : Nat} {r : Reader} (hafter : after bytes n = some r) :
    ({} : Reader).run bytes = r.run bytes := by
  induction n generalizing r with
  | zero =>
      cases hafter
      rfl
  | succ n ih =>
      obtain ⟨before, hbefore, hstep⟩ := after_succ_eq_some_iff.mp hafter
      rw [ih hbefore, run_eq, hstep]

/-- Where no reader is left, one has made its last step before. -/
theorem exists_last_step {bytes : List UInt8} {n : Nat} (hnone : after bytes.toArray n = none) :
    ∃ m < n, ∃ r, after bytes.toArray m = some r ∧
      ((∃ decoded, r.step bytes.toArray = .done decoded) ∨ r.step bytes.toArray = .refused) := by
  induction n with
  | zero => cases hnone
  | succ n ih =>
      cases hafter : after bytes.toArray n with
      | none =>
          obtain ⟨m, hm, hlast⟩ := ih hafter
          exact ⟨m, Nat.lt_succ_of_lt hm, hlast⟩
      | some r =>
          refine ⟨n, Nat.lt_succ_self n, r, hafter, ?_⟩
          cases hstep : r.step bytes.toArray with
          | next next =>
              have hmore := after_succ_eq_some_iff.mpr ⟨r, hafter, hstep⟩
              rw [hnone] at hmore
              cases hmore
          | done decoded => exact .inl ⟨decoded, rfl⟩
          | refused => exact .inr rfl
          | overrun => exact absurd hstep (after_holds hafter).1.step_ne_overrun

theorem after_length (bytes : List UInt8) : after bytes.toArray (bytes.length + 1) = none := by
  apply Option.eq_none_iff_forall_ne_some.mpr
  intro r hafter
  obtain ⟨hholds, hindex⟩ := after_holds hafter
  exact absurd (Nat.le_trans hindex hholds.within) (Nat.not_succ_le_self _)

end Reader

/-- A text is decoded if and only if its bytes stand for one. -/
theorem decode?_eq_some_iff {text value : String} :
    decode? text = some value ↔
      ∃ pieces, Splits (Utf8.encode text) pieces (Utf8.encode value) := by
  have hrun := Reader.run_eq_some_iff [] (Utf8.encode text) #[]
  simp only [List.nil_append, List.length_nil] at hrun
  rw [decode?, Option.bind_eq_some_iff]
  constructor
  · rintro ⟨decoded, hdecoded, hvalue⟩
    obtain ⟨pieces, more, hsplits, hmore⟩ := (hrun decoded).mp hdecoded
    rw [hmore] at hvalue
    rw [← Utf8.eq_encode_of_decode? hvalue]
    exact ⟨pieces, hsplits⟩
  · rintro ⟨pieces, hsplits⟩
    refine ⟨(Utf8.encode value).toArray, ?_, Utf8.decode?_encode value⟩
    exact (hrun _).mpr ⟨pieces, _, hsplits, rfl⟩

/-- A text is decoded exactly if its bytes are pieces that stand for the bytes of a text, and then
as that text; there is one way at most to cut them.  So every text is read back that is written with
some of its bytes escaped, all plus signs among them.  The reader has at every index cut the bytes
before it, asks for no byte behind the last, and comes to an end within as many steps as there are
bytes. -/
theorem decodes_pieces (text : String) :
    let bytes := Utf8.encode text
    (∀ value, decode? text = some value ↔ ∃ pieces, Splits bytes pieces (Utf8.encode value)) ∧
    (decode? text = none ↔ ∀ pieces value, ¬ Splits bytes pieces (Utf8.encode value)) ∧
    (∀ pieces decoded cut others, Splits bytes pieces decoded → Splits bytes cut others →
      pieces = cut ∧ decoded = others) ∧
    (∀ value choice, bytes = write choice (Utf8.encode value) → decode? text = some value) ∧
    (∀ n r, Reader.after bytes.toArray n = some r →
      r.index ≤ bytes.length ∧ (∃ pieces, Splits (bytes.take r.index) pieces r.decoded.toList) ∧
        r.step bytes.toArray ≠ .overrun) ∧
    ∃ n ≤ bytes.length, ∃ r, Reader.after bytes.toArray n = some r ∧
      ((∃ decoded, r.step bytes.toArray = .done decoded ∧
          decode? text = Utf8.decode? decoded.toList) ∨
        r.step bytes.toArray = .refused ∧ decode? text = none) := by
  intro bytes
  refine ⟨fun value => decode?_eq_some_iff, ?_, ?_, ?_, ?_, ?_⟩
  · rw [Option.eq_none_iff_forall_ne_some]
    constructor
    · intro hnone pieces value hsplits
      exact hnone value (decode?_eq_some_iff.mpr ⟨pieces, hsplits⟩)
    · intro hnone value hvalue
      obtain ⟨pieces, hsplits⟩ := decode?_eq_some_iff.mp hvalue
      exact hnone pieces value hsplits
  · intro pieces decoded cut others hsplits hcut
    exact hsplits.unique hcut
  · intro value choice hbytes
    obtain ⟨pieces, hsplits⟩ := exists_splits_write choice (Utf8.encode value)
    rw [← hbytes] at hsplits
    exact decode?_eq_some_iff.mpr ⟨pieces, hsplits⟩
  · intro n r hafter
    obtain ⟨hholds, -⟩ := Reader.after_holds hafter
    exact ⟨hholds.within, hholds.split, hholds.step_ne_overrun⟩
  · obtain ⟨n, hn, r, hafter, hlast⟩ := Reader.exists_last_step (Reader.after_length bytes)
    refine ⟨n, Nat.le_of_lt_succ hn, r, hafter, ?_⟩
    have hdecode : decode? text =
        (r.run bytes.toArray).bind fun decoded => Utf8.decode? decoded.toList := by
      rw [decode?, Reader.run_after hafter]
    rcases hlast with ⟨decoded, hstep⟩ | hstep
    · rw [Reader.run_eq, hstep] at hdecode
      exact .inl ⟨decoded, hstep, hdecode⟩
    · rw [Reader.run_eq, hstep] at hdecode
      exact .inr ⟨hstep, hdecode⟩

theorem decodes_pieces_accented :
    decode? "a+2bb+C3+a9" = some "a+bé" ∧ decode? "b+C3" = none := by
  constructor
  · obtain ⟨-, -, -, hwritten, -⟩ := decodes_pieces "a+2bb+C3+a9"
    let choice : Nat → Option (Bool × Bool)
      | 1 => some (false, false)
      | 3 => some (true, true)
      | 4 => some (false, false)
      | _ => none
    exact hwritten "a+bé" choice (by decide +kernel)
  · obtain ⟨-, hnone, hunique, -⟩ := decodes_pieces "b+C3"
    have hsplits : Splits (Utf8.encode "b+C3") [[0x62], [0x2B, 0x43, 0x33]] [0x62, 0xC3] :=
      ⟨by decide +kernel, .cons (.plain (by decide)) (.cons (.escape true true 0xC3) .nil)⟩
    apply hnone.mpr
    intro pieces value hcut
    obtain ⟨-, hbytes⟩ := hunique _ _ _ _ hsplits hcut
    have hbroken : Utf8.decode? [0x62, 0xC3] = none := by decide +kernel
    have hvalue := Utf8.decode?_encode value
    rw [← hbytes, hbroken] at hvalue
    cases hvalue

end MailIntake.Text.Xtext
