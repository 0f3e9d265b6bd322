import MailIntake.Address.Ip
import MailIntake.Proofs.Text.Numeral
import MailIntake.Proofs.Text.Split
import Mathlib.Data.List.TakeWhile
/-!
Written addresses.  What is written for an address is read as that address, in either family and in
each of the three forms of an IPv6 address: with all its groups, without its longest run of zero
groups, and with an IPv4 address at its end (`V4.parse?_render`, `V6.parse?_render`).  Nothing but
hexadecimal digits, points and colons is written (`Ip.isAddressChar_of_mem_render`).
-/
namespace MailIntake.Address

open Text

section Octets

/-- An octet is read up to where no digit follows. -/
theorem readOctet_toDigits (octet : UInt8) {rest : List Char}
    (hrest : ∀ c ∈ rest.head?, c.isDigit = false) :
    readOctet (Nat.toDigits 10 octet.toNat ++ rest) = some (octet, rest) := by
  have hlt : octet.toNat < 256 := octet.toNat_lt
  have hlength : (Nat.toDigits 10 octet.toNat).length ≤ 3 :=
    (Nat.length_toDigits_le_iff (by decide) (by decide)).mpr (by omega)
  have hrun : ∀ c ∈ Nat.toDigits 10 octet.toNat, c.isDigit := fun _ => Ascii.isDigit_of_mem_toDigits
  rw [readOctet, takeWhile_run hrun hrest, dropWhile_run hrun hrest]
  cases hdigits : Nat.toDigits 10 octet.toNat with
  | nil => exact absurd hdigits Nat.toDigits_ne_nil
  | cons c more =>
      rw [hdigits] at hlength
      have hnumber : Ascii.number? (c :: more) = some octet.toNat :=
        hdigits ▸ Ascii.number?_toDigits octet.toNat
      simp only [hlength, Ascii.head_of_toDigits hdigits, hnumber, and_self, if_true, hlt,
        UInt8.ofNat_toNat]

theorem V4.toList_render (a : V4) :
    a.render.toList = Nat.toDigits 10 a.first.toNat ++ '.' :: (Nat.toDigits 10 a.second.toNat ++
      '.' :: (Nat.toDigits 10 a.third.toNat ++ '.' :: Nat.toDigits 10 a.fourth.toNat)) := by
  simp [render, String.intercalate_cons_cons, Nat.toString_eq_repr]

theorem readV4_render (a : V4) : readV4 a.render.toList = some (a, []) := by
  have hpoint : ∀ rest : List Char, ∀ c ∈ ('.' :: rest).head?, c.isDigit = false := by
    rintro rest c ⟨⟩
    decide
  have hlast : readOctet (Nat.toDigits 10 a.fourth.toNat ++ []) = some (a.fourth, []) :=
    readOctet_toDigits a.fourth nofun
  rw [List.append_nil] at hlast
  rw [V4.toList_render, readV4]
  simp only [readOctet_toDigits _ (hpoint _), afterChar?, if_true, hlast, bind, Option.bind, pure]

theorem V4.parse?_render (a : V4) : V4.parse? a.render = some a := by
  rw [parse?, whole?, readV4_render]

end Octets

section Groups

theorem isHexDigit_of_mem_toDigits {value : Nat} {c : Char} (hc : c ∈ Nat.toDigits 16 value) :
    isHexDigit c := by
  obtain ⟨digit, hlt, rfl⟩ := exists_digit_of_mem_toDigits hc
  rw [isHexDigit, hexDigit?_digitChar hlt]
  rfl

/-- What may stand behind a written group: nothing, or a colon. -/
def EndsGroup (rest : List Char) : Prop :=
  ∀ c ∈ rest.head?, c = ':'

theorem endsGroup_colon (behind : List Char) : EndsGroup (':' :: behind) := by
  rintro c ⟨⟩
  rfl

theorem readGroup_toDigits (group : UInt16) {rest : List Char} (hrest : EndsGroup rest) :
    readGroup (Nat.toDigits 16 group.toNat ++ rest) = some (group, rest) := by
  have hlt : group.toNat < 65536 := group.toNat_lt
  have hlength : (Nat.toDigits 16 group.toNat).length ≤ 4 :=
    (Nat.length_toDigits_le_iff (by decide) (by decide)).mpr (by omega)
  have hpos : 0 < (Nat.toDigits 16 group.toNat).length := Nat.length_toDigits_pos
  have hrun : ∀ c ∈ Nat.toDigits 16 group.toNat, isHexDigit c := fun _ => isHexDigit_of_mem_toDigits
  have hend : ∀ c ∈ rest.head?, isHexDigit c = false := by
    intro c hc
    rw [hrest c hc]
    decide
  have hvalue : hexNumber (Nat.toDigits 16 group.toNat) = group.toNat :=
    foldl_hexDigit?_toDigits group.toNat
  rw [readGroup, takeWhile_run hrun hend, dropWhile_run hrun hend, if_neg (by omega), hvalue,
    UInt16.ofNat_toNat]

/-- Where no group can begin, none is read. -/
theorem readGroup_eq_none {rest : List Char} (hrest : EndsGroup rest) : readGroup rest = none := by
  cases rest with
  | nil => rfl
  | cons c rest =>
      rw [hrest c rfl]
      rfl

theorem behind_of_readOctet {text behind : List Char} {octet : UInt8}
    (hread : readOctet text = some (octet, behind)) : behind = text.dropWhile Char.isDigit := by
  rw [readOctet] at hread
  split at hread
  · cases hread
  split at hread
  · split at hread
    · split at hread
      · cases hread
        rfl
      · cases hread
    · cases hread
  · cases hread

/-- What stands behind the digits of a group does not begin with a point. -/
theorem head?_dropWhile_ne_point {run rest : List Char} (hrun : '.' ∉ run)
    (hrest : EndsGroup rest) :
    ((run ++ rest).dropWhile Char.isDigit).head? ≠ some '.' := by
  have hfirst : ((run ++ rest).dropWhile Char.isDigit).head? =
      (run ++ rest).find? fun c => !c.isDigit := by
    simp [List.find?_eq_head?_dropWhile_not]
  intro hpoint
  rw [hfirst, List.find?_append] at hpoint
  cases hfind : run.find? fun c => !c.isDigit with
  | some c =>
      rw [hfind, Option.some_or] at hpoint
      cases hpoint
      exact hrun (List.mem_of_find?_eq_some hfind)
  | none =>
      rw [hfind, Option.none_or] at hpoint
      cases rest with
      | nil => cases hpoint
      | cons c rest =>
          rw [hrest c rfl, List.find?_cons_of_pos (by decide)] at hpoint
          cases hpoint

/-- A group is not taken for an octet, since no point follows. -/
theorem readV4_eq_none {run rest : List Char} (hrun : '.' ∉ run) (hrest : EndsGroup rest) :
    readV4 (run ++ rest) = none := by
  have hafter : ∀ octet behind, readOctet (run ++ rest) = some (octet, behind) →
      afterChar? '.' behind = none := by
    intro octet behind hread
    have hhead := head?_dropWhile_ne_point hrun hrest
    rw [← behind_of_readOctet hread] at hhead
    cases behind with
    | nil => rfl
    | cons c behind => exact if_neg fun hpoint => hhead (congrArg some hpoint)
  rw [readV4]
  cases hread : readOctet (run ++ rest) with
  | none => rfl
  | some cut =>
      obtain ⟨octet, behind⟩ := cut
      simp only [bind, Option.bind, hafter octet behind hread]

theorem point_notMem_toDigits (value : Nat) : '.' ∉ Nat.toDigits 16 value := fun hpoint =>
  absurd (isHexDigit_of_mem_toDigits hpoint) (by decide)

/-- Groups as they are written behind others, a colon before each. -/
def behindColons (groups : List UInt16) : List Char :=
  groups.flatMap fun group => ':' :: Nat.toDigits 16 group.toNat

theorem behindColons_cons (group : UInt16) (groups : List UInt16) :
    behindColons (group :: groups) =
      ':' :: (Nat.toDigits 16 group.toNat ++ behindColons groups) := rfl

theorem toList_renderGroups_cons (group : UInt16) (groups : List UInt16) :
    (renderGroups (group :: groups)).toList =
      Nat.toDigits 16 group.toNat ++ behindColons groups := by
  induction groups generalizing group with
  | nil =>
      rw [renderGroups, List.map_cons, List.map_nil, String.intercalate_singleton, Ascii.hexText,
        String.toList_ofList]
      exact (List.append_nil _).symm
  | cons next rest ih =>
      have hcut : renderGroups (group :: next :: rest) =
          Ascii.hexText group.toNat ++ ":" ++ renderGroups (next :: rest) := by
        simp only [renderGroups, List.map_cons, String.intercalate_cons_cons]
      rw [hcut, String.toList_append, String.toList_append, ih, Ascii.hexText,
        String.toList_ofList, List.append_assoc]
      rfl

/-- What may stand behind the last group of a text: nothing, or the two colons that stand for zero
groups. -/
def EndsGroups (rest : List Char) : Prop :=
  rest = [] ∨ ∃ behind, rest = ':' :: ':' :: behind

theorem EndsGroups.endsGroup {rest : List Char} (hrest : EndsGroups rest) : EndsGroup rest := by
  rcases hrest with rfl | ⟨behind, rfl⟩
  · exact nofun
  · exact endsGroup_colon _

theorem endsGroup_behindColons (groups : List UInt16) {rest : List Char} (hrest : EndsGroup rest) :
    EndsGroup (behindColons groups ++ rest) := by
  cases groups with
  | nil => exact hrest
  | cons group groups => exact endsGroup_colon _

/-- A written group is read, and the groups behind it are read as they would be by themselves. -/
theorem readGroups_cons (first : Bool) (text : List Char) {room : Nat} (group : UInt16)
    {rest : List Char} (hrest : EndsGroup rest)
    (htext : (if first then some text else afterChar? ':' text) =
      some (Nat.toDigits 16 group.toNat ++ rest)) :
    readGroups (room + 1) first text =
      (group :: (readGroups room false rest).1, (readGroups room false rest).2) := by
  have hnone :
      (if 0 < room then readV4 (Nat.toDigits 16 group.toNat ++ rest) else none) = none := by
    rw [readV4_eq_none (point_notMem_toDigits _) hrest, ite_self]
  rw [readGroups, htext]
  simp only [hnone, readGroup_toDigits group hrest]

/-- Where no group begins, none is read. -/
theorem readGroups_nil (first : Bool) {text rest : List Char} {room : Nat} (hrest : EndsGroup rest)
    (htext : (if first then some text else afterChar? ':' text) = some rest) :
    readGroups room first text = ([], false, text) := by
  cases room with
  | zero => rfl
  | succ room =>
      have hnone : (if 0 < room then readV4 rest else none) = none := by
        have hread : readV4 ([] ++ rest) = none := readV4_eq_none List.not_mem_nil hrest
        rw [List.nil_append] at hread
        rw [hread, ite_self]
      rw [readGroups, htext]
      simp only [hnone, readGroup_eq_none hrest]

/-- Groups behind a colon each are read one after another. -/
theorem readGroups_behindColons {room : Nat} {groups : List UInt16} (hroom : groups.length ≤ room)
    {rest : List Char} (hrest : EndsGroups rest) :
    readGroups room false (behindColons groups ++ rest) = (groups, false, rest) := by
  induction groups generalizing room with
  | nil =>
      rw [behindColons, List.flatMap_nil, List.nil_append]
      rcases hrest with rfl | ⟨behind, rfl⟩
      · cases room with
        | zero => rfl
        | succ room => rfl
      · exact readGroups_nil false (endsGroup_colon behind) rfl
  | cons group groups ih =>
      cases room with
      | zero => cases hroom
      | succ room =>
          have hbehind := endsGroup_behindColons groups hrest.endsGroup
          have htext : afterChar? ':' (behindColons (group :: groups) ++ rest) =
              some (Nat.toDigits 16 group.toNat ++ (behindColons groups ++ rest)) := by
            rw [behindColons_cons, List.cons_append, List.append_assoc, afterChar?, if_pos rfl]
          rw [readGroups_cons false (behindColons (group :: groups) ++ rest) group hbehind htext,
            ih (Nat.le_of_succ_le_succ hroom)]

/-- Written groups are read. -/
theorem readGroups_renderGroups {room : Nat} {groups : List UInt16} (hroom : groups.length ≤ room)
    {rest : List Char} (hrest : EndsGroups rest) :
    readGroups room true ((renderGroups groups).toList ++ rest) = (groups, false, rest) := by
  cases groups with
  | nil => exact readGroups_nil true hrest.endsGroup rfl
  | cons group groups =>
      cases room with
      | zero => cases hroom
      | succ room =>
          have hbehind := endsGroup_behindColons groups hrest.endsGroup
          have htext : some ((renderGroups (group :: groups)).toList ++ rest) =
              some (Nat.toDigits 16 group.toNat ++ (behindColons groups ++ rest)) := by
            rw [toList_renderGroups_cons, List.append_assoc]
          rw [readGroups_cons true _ group hbehind htext,
            readGroups_behindColons (Nat.le_of_succ_le_succ hroom) hrest]

theorem V6.ofGroups?_groups (a : V6) : V6.ofGroups? a.groups = some a := by
  rw [ofGroups?, dif_pos a.length_groups]

/-- All eight groups. -/
theorem readV6_renderGroups (a : V6) : readV6 (renderGroups a.groups).toList = some (a, []) := by
  have hread := readGroups_renderGroups (Nat.le_of_eq a.length_groups) (.inl rfl)
  rw [List.append_nil] at hread
  simp only [readV6, hread, a.length_groups, V6.ofGroups?_groups, if_true, Option.map_some]

theorem take_eq_replicate_of_le_zerosAt {groups : List UInt16} {run : Nat}
    (hrun : run ≤ zerosAt groups) : groups.take run = List.replicate run 0 := by
  induction groups generalizing run with
  | nil =>
      rw [Nat.le_zero.mp hrun]
      rfl
  | cons group groups ih =>
      cases run with
      | zero => rfl
      | succ run =>
          rw [zerosAt, List.takeWhile_cons] at hrun
          by_cases hzero : group == 0
          · rw [if_pos hzero, List.length_cons] at hrun
            rw [List.take_succ_cons, ih (Nat.le_of_succ_le_succ hrun), List.replicate_succ,
              beq_iff_eq.mp hzero]
          · rw [if_neg hzero] at hrun
            cases hrun

/-- Where the longest run is said to be there are zeros. -/
theorem le_zerosAt_longestZeros (groups : List UInt16) :
    (longestZeros groups).2 ≤ zerosAt (groups.drop (longestZeros groups).1) := by
  rw [longestZeros]
  generalize List.range groups.length = starts
  have hstart : ((0, 0) : Nat × Nat).2 ≤ zerosAt (groups.drop ((0, 0) : Nat × Nat).1) :=
    Nat.zero_le _
  generalize ((0, 0) : Nat × Nat) = best at hstart ⊢
  induction starts generalizing best with
  | nil => exact hstart
  | cons start starts ih =>
      rw [List.foldl_cons]
      apply ih
      dsimp only
      split
      · exact Nat.le_refl _
      · exact hstart

/-- A list is what is left of it around its longest run of zeros, and the zeros. -/
theorem longestZeros_split (groups : List UInt16) :
    groups.take (longestZeros groups).1 ++ List.replicate (longestZeros groups).2 0 ++
      groups.drop ((longestZeros groups).1 + (longestZeros groups).2) = groups := by
  rw [← take_eq_replicate_of_le_zerosAt (le_zerosAt_longestZeros groups), ← List.drop_drop,
    List.append_assoc, List.take_append_drop, List.take_append_drop]

/-- Groups in front of two colons and behind them. -/
theorem readV6_colons {front back : List UInt16} {zeros : Nat} (hzeros : 0 < zeros) {a : V6}
    (hgroups : front ++ List.replicate zeros 0 ++ back = a.groups) :
    readV6 ((renderGroups front).toList ++ ':' :: ':' :: (renderGroups back).toList) =
      some (a, []) := by
  have hlength := congrArg List.length hgroups
  rw [a.length_groups, List.length_append, List.length_append, List.length_replicate] at hlength
  have hfront : readGroups 8 true
      ((renderGroups front).toList ++ ':' :: ':' :: (renderGroups back).toList) =
        (front, false, ':' :: ':' :: (renderGroups back).toList) :=
    readGroups_renderGroups (by omega) (.inr ⟨(renderGroups back).toList, rfl⟩)
  have hback : readGroups (7 - front.length) true ((renderGroups back).toList ++ []) =
      (back, false, []) := readGroups_renderGroups (by omega) (.inl rfl)
  rw [List.append_nil] at hback
  have hcount : 8 - front.length - back.length = zeros := by omega
  have hpartly : ¬ front.length = 8 := by omega
  simp only [readV6, hfront, hpartly, if_false, Bool.false_eq_true, afterChar?, if_true, bind,
    Option.bind, hback, hcount, hgroups, V6.ofGroups?_groups, pure]

/-- An IPv4 address is read in the place of two groups. -/
theorem readGroups_render (a : V4) (room : Nat) :
    readGroups (room + 2) false (':' :: a.render.toList) = (a.groups, true, []) := by
  simp only [readGroups, Bool.false_eq_true, if_false, afterChar?, if_true, Nat.zero_lt_succ,
    readV4_render]

/-- An IPv4 address behind the groups that say so. -/
theorem readV6_mapped {a : V4} {address : V6}
    (hgroups : [0, 0, 0, 0, 0, 0xffff] ++ a.groups = address.groups) :
    readV6 ("::ffff:".toList ++ a.render.toList) = some (address, []) := by
  have hfront : readGroups 8 true ("::ffff:".toList ++ a.render.toList) =
      ([], false, "::ffff:".toList ++ a.render.toList) :=
    readGroups_nil true (endsGroup_colon (":ffff:".toList ++ a.render.toList)) rfl
  have hback : readGroups 7 true ("ffff:".toList ++ a.render.toList) =
      (0xffff :: a.groups, true, []) := by
    calc
      readGroups 7 true ("ffff:".toList ++ a.render.toList)
          = (0xffff :: (readGroups 6 false (':' :: a.render.toList)).1,
              (readGroups 6 false (':' :: a.render.toList)).2) :=
            readGroups_cons true _ 0xffff (endsGroup_colon a.render.toList) rfl
      _ = (0xffff :: a.groups, true, []) := by rw [readGroups_render]
  have hlength : a.groups.length = 2 := rfl
  have hrest : "::ffff:".toList ++ a.render.toList =
      ':' :: ':' :: ("ffff:".toList ++ a.render.toList) := rfl
  have hwhole : [] ++ List.replicate 5 0 ++ 0xffff :: a.groups = address.groups := hgroups
  rw [readV6, hfront, hrest]
  simp only [List.length_nil, afterChar?, if_true, bind, Option.bind, Nat.sub_zero, hback,
    List.length_cons, hlength, hwhole, V6.ofGroups?_groups, pure]
  rfl

theorem groups_halves (high low : UInt16) :
    V4.groups ⟨(high >>> 8).toUInt8, high.toUInt8, (low >>> 8).toUInt8, low.toUInt8⟩ =
      [high, low] := by
  have hhalves : ∀ group : UInt16,
      (group >>> 8).toUInt8.toUInt16 * 256 + group.toUInt8.toUInt16 = group := by
    intro group
    have hlt : group.toNat < 65536 := group.toNat_lt
    apply UInt16.toNat_inj.mp
    simp [UInt16.toNat_add, UInt16.toNat_mul, Nat.shiftRight_eq_div_pow]
    omega
  simp only [V4.groups, hhalves]

theorem readV6_render (a : V6) : readV6 a.render.toList = some (a, []) := by
  rw [V6.render]
  split
  · next high low hgroups =>
      rw [String.toList_append]
      apply readV6_mapped
      rw [groups_halves, hgroups]
      rfl
  · simp only
    split
    · next hrun =>
        simp only [String.toList_append, List.append_assoc]
        exact readV6_colons (Nat.lt_of_succ_lt hrun) (longestZeros_split a.groups)
    · exact readV6_renderGroups a

theorem V6.parse?_render (a : V6) : V6.parse? a.render = some a := by
  rw [parse?, whole?, readV6_render]

end Groups

section Characters

/-- The characters in which addresses are written. -/
def IsAddressChar (c : Char) : Prop :=
  isHexDigit c ∨ c = '.' ∨ c = ':'

instance (c : Char) : Decidable (IsAddressChar c) :=
  inferInstanceAs (Decidable (_ ∨ _))

theorem IsAddressChar.isBlank {c : Char} (hc : IsAddressChar c) : Ascii.isBlank c = false := by
  by_contra hblank
  simp only [Ascii.isBlank, Bool.not_eq_false, Bool.or_eq_true, beq_iff_eq] at hblank
  rcases hblank with (((rfl | rfl) | rfl) | rfl) | rfl <;> exact absurd hc (by decide)

theorem isAddressChar_of_mem_octet {value : Nat} {c : Char} (hc : c ∈ Nat.toDigits 10 value) :
    IsAddressChar c := by
  obtain ⟨hchar, hlt⟩ := Ascii.digitChar_of_isDigit (Ascii.isDigit_of_mem_toDigits hc)
  left
  rw [← hchar, isHexDigit, hexDigit?_digitChar (by omega)]
  rfl

theorem V4.isAddressChar_of_mem_render {a : V4} {c : Char} (hc : c ∈ a.render.toList) :
    IsAddressChar c := by
  simp only [V4.toList_render, List.mem_append, List.mem_cons] at hc
  rcases hc with hc | rfl | hc | rfl | hc | rfl | hc
  · exact isAddressChar_of_mem_octet hc
  · exact .inr (.inl rfl)
  · exact isAddressChar_of_mem_octet hc
  · exact .inr (.inl rfl)
  · exact isAddressChar_of_mem_octet hc
  · exact .inr (.inl rfl)
  · exact isAddressChar_of_mem_octet hc

theorem isAddressChar_of_mem_renderGroups {groups : List UInt16} {c : Char}
    (hc : c ∈ (renderGroups groups).toList) : IsAddressChar c := by
  cases groups with
  | nil => cases hc
  | cons group groups =>
      rw [toList_renderGroups_cons, List.mem_append] at hc
      rcases hc with hc | hc
      · exact .inl (isHexDigit_of_mem_toDigits hc)
      · obtain ⟨next, -, hc⟩ := List.mem_flatMap.mp hc
        rcases List.mem_cons.mp hc with rfl | hc
        · exact .inr (.inr rfl)
        · exact .inl (isHexDigit_of_mem_toDigits hc)

theorem V6.isAddressChar_of_mem_render {a : V6} {c : Char} (hc : c ∈ a.render.toList) :
    IsAddressChar c := by
  have hcolon : IsAddressChar ':' := by decide
  have hf : IsAddressChar 'f' := by decide
  have hmark : ∀ c ∈ "::ffff:".toList, IsAddressChar c := by simp [hcolon, hf]
  have hcolons : ∀ c ∈ "::".toList, IsAddressChar c := by simp [hcolon]
  rw [V6.render] at hc
  split at hc
  · rw [String.toList_append, List.mem_append] at hc
    exact hc.elim (hmark c) V4.isAddressChar_of_mem_render
  · simp only at hc
    split at hc
    · simp only [String.toList_append, List.mem_append] at hc
      rcases hc with (hc | hc) | hc
      · exact isAddressChar_of_mem_renderGroups hc
      · exact hcolons c hc
      · exact isAddressChar_of_mem_renderGroups hc
    · exact isAddressChar_of_mem_renderGroups hc

/-- Nothing but hexadecimal digits, points and colons is written. -/
theorem Ip.isAddressChar_of_mem_render {ip : Ip} {c : Char} (hc : c ∈ ip.render.toList) :
    IsAddressChar c := by
  cases ip with
  | v4 a => exact V4.isAddressChar_of_mem_render hc
  | v6 a => exact V6.isAddressChar_of_mem_render hc

end Characters

end MailIntake.Address
