import MailIntake.Proofs.Path.Grammar
import Mathlib.Data.List.TakeWhile
/-!
The reader of paths against their grammar.  A rule *recognises* a language when it reads nothing but
texts of the language off the head of its input, and reads any of them off whenever what stands
behind could not continue it (`Recognises`).  Every rule gets one such lemma, built from those of
the rules it calls.
-/
namespace MailIntake.Path

open Text

/-- What stands behind a text does not continue it. -/
def Halts (goesOn : Char → Bool) (rest : List Char) : Prop :=
  ∀ c ∈ rest.head?, goesOn c = false

@[simp] theorem halts_nil (goesOn : Char → Bool) : Halts goesOn [] := by
  simp [Halts]

@[simp] theorem halts_cons {goesOn : Char → Bool} {c : Char} {rest : List Char} :
    Halts goesOn (c :: rest) ↔ goesOn c = false := by
  simp [Halts]

/-- The rule reads exactly the texts of the language, as far as they go: a text of it ends where the
next character is not one of `goesOn`. -/
structure Recognises {A : Type} (rule : Read A) (lang : List Char → A → Prop)
    (goesOn : Char → Bool) : Prop where
  sound : ∀ {text a rest}, rule text = some (a, rest) → ∃ piece, text = piece ++ rest ∧ lang piece a
  complete : ∀ {piece a rest}, lang piece a → Halts goesOn rest →
    rule (piece ++ rest) = some (a, rest)

theorem Recognises.eq_none {A : Type} {rule : Read A} {lang : List Char → A → Prop}
    {goesOn : Char → Bool} (h : Recognises rule lang goesOn) {text : List Char}
    (hnot : ∀ {piece a rest}, lang piece a → text ≠ piece ++ rest) : rule text = none := by
  cases hread : rule text with
  | none => rfl
  | some found =>
      obtain ⟨piece, htext, hlang⟩ := h.sound (hread : _ = some (found.1, found.2))
      exact absurd htext (hnot hlang)

theorem Recognises.eq_none_of_opens {A : Type} {rule : Read A} {lang : List Char → A → Prop}
    {goesOn accept : Char → Bool} (h : Recognises rule lang goesOn)
    (hopens : ∀ {piece a}, lang piece a → Opens accept piece) {text : List Char}
    (htext : ¬Opens accept text) : rule text = none := by
  refine h.eq_none fun {piece a rest} hlang heq => htext ?_
  rw [heq]
  exact (hopens hlang).append rest

/-- The language of the texts of a class, each read as it stands. -/
def Verbatim (lang : List Char → Prop) (piece found : List Char) : Prop :=
  found = piece ∧ lang piece

theorem Halts.mono {goesOn fewer : Char → Bool} {rest : List Char}
    (hfewer : ∀ {c}, fewer c → goesOn c) (h : Halts goesOn rest) : Halts fewer rest := by
  intro c hc
  have hstops := h c hc
  cases hgoes : fewer c with
  | false => rfl
  | true => rw [hfewer hgoes] at hstops; cases hstops

theorem Halts.take {goesOn : Char → Bool} {rest : List Char} (h : Halts goesOn rest) (n : Nat) :
    Halts goesOn (rest.take n) := by
  intro c hc
  rw [List.head?_take] at hc
  split at hc
  · cases hc
  · exact h c hc

theorem char_eq_some {c : Char} {text rest : List Char} :
    char c text = some rest ↔ text = c :: rest := by
  cases text with
  | nil => simp [char]
  | cons d tail => simp [char]

@[simp] theorem char_cons_self (c : Char) (rest : List Char) : char c (c :: rest) = some rest :=
  char_eq_some.mpr rfl

theorem char_eq_none {c : Char} {rest : List Char} (h : Halts (· == c) rest) :
    char c rest = none := by
  cases rest with
  | nil => rfl
  | cons d tail => simpa [char] using h

theorem run_append {accept : Char → Bool} {piece rest : List Char}
    (hpiece : ∀ c ∈ piece, accept c) (hrest : Halts accept rest) :
    run accept (piece ++ rest) = (piece, rest) := by
  have htake : rest.takeWhile accept = [] := by
    cases rest with
    | nil => rfl
    | cons c tail => exact List.takeWhile_cons_of_neg (by simpa using hrest)
  have hdrop : rest.dropWhile accept = rest := by
    cases rest with
    | nil => rfl
    | cons c tail => exact List.dropWhile_cons_of_neg (by simpa using hrest)
  rw [run, List.takeWhile_append_of_pos hpiece, List.dropWhile_append_of_pos hpiece, htake, hdrop,
    List.append_nil]

theorem Opens.exists_run {accept : Char → Bool} {text : List Char} (h : Opens accept text) :
    ∃ piece rest, text = piece ++ rest ∧ IsRun accept piece ∧ Halts accept rest := by
  refine ⟨text.takeWhile accept, text.dropWhile accept, List.takeWhile_append_dropWhile.symm,
    ⟨?_, fun c hc => List.mem_takeWhile_imp hc⟩, ?_⟩
  · cases text with
    | nil => obtain ⟨c, hc, -⟩ := h; cases hc
    | cons c rest => simp [List.takeWhile_cons_of_pos (opens_cons.mp h)]
  · intro c hc
    have hstops := List.head?_dropWhile_not accept text
    rw [Option.mem_def.mp hc] at hstops
    exact hstops

theorem recognises_run1 (accept : Char → Bool) :
    Recognises (run1 accept) (Verbatim (IsRun accept)) accept where
  sound := by
    intro text a rest h
    simp only [run1, run] at h
    split at h
    · cases h
    · next found hnonempty =>
        cases h
        have hfound : text.takeWhile accept ≠ [] := fun hnil => hnonempty _ (by rw [hnil])
        exact ⟨text.takeWhile accept, List.takeWhile_append_dropWhile.symm, rfl, hfound,
          fun c hc => (List.mem_takeWhile_imp hc)⟩
  complete := by
    rintro piece a rest ⟨rfl, hnonempty, haccept⟩ hrest
    rw [run1, run_append haccept hrest]
    cases a with
    | nil => exact absurd rfl hnonempty
    | cons c tail => rfl

theorem recognises_headed (start more : Char → Bool) :
    Recognises (headed start more) (Verbatim (IsHeaded start more)) more where
  sound := by
    intro text a rest h
    cases text with
    | nil => cases h
    | cons c tail =>
        simp only [headed, run] at h
        split at h
        · next hc =>
            cases h
            refine ⟨c :: tail.takeWhile more, ?_, rfl, c, _, rfl, hc, ?_⟩
            · rw [List.cons_append, List.takeWhile_append_dropWhile]
            · exact fun d hd => List.mem_takeWhile_imp hd
        · cases h
  complete := by
    rintro piece a rest ⟨rfl, c, tail, rfl, hc, htail⟩ hrest
    rw [List.cons_append, headed, if_pos hc, run_append htail hrest]

section Dotted

variable {item : Read (List Char)} {lang : List Char → Prop} {more : Char → Bool}

theorem dotted_sound (hitem : Recognises item (Verbatim lang) more) (bound : Nat)
    {text found rest : List Char} (h : dotted item bound text = some (found, rest)) :
    text = found ++ rest ∧ IsDotted lang found := by
  induction bound generalizing text found rest with
  | zero =>
      obtain ⟨piece, rfl, rfl, hlang⟩ := hitem.sound h
      exact ⟨rfl, [found], List.cons_ne_nil _ _, by simpa using hlang, rfl⟩
  | succ bound ih =>
      rw [dotted] at h
      split at h
      · cases h
      · next first behind hfirst =>
          obtain ⟨piece, rfl, rfl, hlang⟩ := hitem.sound hfirst
          have hsingle : IsDotted lang first :=
            ⟨[first], List.cons_ne_nil _ _, by simpa using hlang, rfl⟩
          split at h
          · cases h
            exact ⟨rfl, hsingle⟩
          · next tail hdot =>
              rw [char_eq_some] at hdot
              subst hdot
              split at h
              · cases h
                exact ⟨rfl, hsingle⟩
              · next later last hlater =>
                  cases h
                  obtain ⟨rfl, items, hitems, hall, rfl⟩ := ih hlater
                  refine ⟨by simp, first :: items, List.cons_ne_nil _ _, ?_, ?_⟩
                  · exact List.forall_mem_cons.mpr ⟨hlang, hall⟩
                  · rw [joinWith_cons_of_ne_nil _ _ hitems, List.append_assoc,
                      List.singleton_append]

theorem dotted_complete (hitem : Recognises item (Verbatim lang) more) (hdot : more '.' = false)
    {bound : Nat} {items : List (List Char)} {rest : List Char} (hitems : items ≠ [])
    (hall : ∀ i ∈ items, lang i) (hbound : items.length ≤ bound + 1)
    (hrest : Halts (fun c => more c || c == '.') rest) :
    dotted item bound (joinWith ['.'] items ++ rest) = some (joinWith ['.'] items, rest) := by
  induction items generalizing bound with
  | nil => exact absurd rfl hitems
  | cons first later ih =>
      have hfirst := hall first List.mem_cons_self
      have hmore : Halts more rest := hrest.mono fun hc => by simp [hc]
      have hend : Halts (· == '.') rest := hrest.mono fun hc => by simp [hc]
      cases later with
      | nil =>
          have hread : item (first ++ rest) = some (first, rest) :=
            hitem.complete ⟨rfl, hfirst⟩ hmore
          cases bound with
          | zero => exact hread
          | succ bound => simp only [joinWith, dotted, hread, char_eq_none hend]
      | cons second others =>
          cases bound with
          | zero => simp at hbound
          | succ bound =>
              have hlater : dotted item bound (joinWith ['.'] (second :: others) ++ rest) =
                  some (joinWith ['.'] (second :: others), rest) :=
                ih (List.cons_ne_nil _ _) (fun i hi => hall i (List.mem_cons_of_mem first hi))
                  (by simpa using hbound)
              have hread : ∀ behind, item (first ++ '.' :: behind) = some (first, '.' :: behind) :=
                fun behind => hitem.complete ⟨rfl, hfirst⟩ (by simpa using hdot)
              rw [joinWith_cons_of_ne_nil _ _ (List.cons_ne_nil second others)]
              simp only [dotted, List.append_assoc, List.cons_append, List.nil_append, hread,
                char_cons_self, hlater]

theorem recognises_dotted (hitem : Recognises item (Verbatim lang) more) (hdot : more '.' = false) :
    Recognises (fun text => dotted item text.length text) (Verbatim (IsDotted lang))
      (fun c => more c || c == '.') where
  sound := by
    intro text found rest h
    obtain ⟨htext, hlang⟩ := dotted_sound hitem text.length h
    exact ⟨found, htext, rfl, hlang⟩
  complete := by
    rintro piece found rest ⟨rfl, items, hitems, hall, rfl⟩ hrest
    have hlength := length_le_length_joinWith '.' items
    refine dotted_complete hitem hdot hitems hall ?_ hrest
    rw [List.length_append]
    omega

end Dotted

theorem recognises_dotString :
    Recognises dotString (Verbatim (IsDotted (IsRun isAtomChar)))
      (fun c => isAtomChar c || c == '.') :=
  recognises_dotted (recognises_run1 isAtomChar) (by decide)

theorem recognises_domainName :
    Recognises domainName (Verbatim IsDomainName) (fun c => isLabelChar c || c == '.') :=
  recognises_dotted (recognises_headed isLabelStart isLabelChar) (by decide)

theorem quotedBody_sound (text : List Char) :
    text = (quotedBody text).1 ++ (quotedBody text).2 ∧ IsQuotedBody (quotedBody text).1 := by
  induction text using quotedBody.induct with
  | case1 c rest hc body behind hbody ih =>
      rw [quotedBody, if_pos hc]
      exact ⟨congrArg ('\\' :: c :: ·) ih.1, .pair hc ih.2⟩
  | case2 c rest hc =>
      rw [quotedBody, if_neg hc]
      exact ⟨rfl, .nil⟩
  | case3 c rest hpair hc body behind hbody ih =>
      rw [quotedBody, if_pos hc]
      · exact ⟨congrArg (c :: ·) ih.1, .char hc ih.2⟩
      · exact hpair
  | case4 c rest hpair hc =>
      rw [quotedBody, if_neg hc]
      · exact ⟨rfl, .nil⟩
      · exact hpair
  | case5 => exact ⟨rfl, .nil⟩

theorem quotedBody_append {body : List Char} (hbody : IsQuotedBody body) (rest : List Char) :
    quotedBody (body ++ '"' :: rest) = (body, '"' :: rest) := by
  induction hbody with
  | nil => rfl
  | @char c more hc _ ih =>
      have hpair : ∀ (d : Char) (tail : List Char), c = '\\' →
          more ++ '"' :: rest = d :: tail → False := by
        rintro d tail rfl
        exact absurd hc (by decide)
      rw [List.cons_append, quotedBody, if_pos hc, ih]
      exact hpair
  | pair hc _ ih => rw [List.cons_append, List.cons_append, quotedBody, if_pos hc, ih]

theorem recognises_quotedString :
    Recognises quotedString (Verbatim IsQuoted) (fun _ => false) where
  sound := by
    intro text found rest h
    simp only [quotedString, Option.bind_eq_bind, Option.bind_eq_some_iff, char_eq_some] at h
    obtain ⟨text, rfl, behind, hend, hfound⟩ := h
    cases hfound
    obtain ⟨htext, hbody⟩ := quotedBody_sound text
    rw [hend] at htext
    exact ⟨_, by simpa using htext, rfl, _, hbody, rfl⟩
  complete := by
    rintro piece found rest ⟨rfl, body, hbody, rfl⟩ -
    simp [quotedString, quotedBody_append hbody]

/-- A quote opens no dot-atom, so the second form of a local part is reached. -/
theorem recognises_localPart :
    Recognises localPart (Verbatim IsLocalPart) (fun c => isAtomChar c || c == '.') where
  sound := by
    intro text found rest h
    rw [localPart] at h
    split at h
    · next result hdots =>
        cases h
        obtain ⟨piece, htext, hfound, hatoms⟩ := Recognises.sound recognises_dotString hdots
        exact ⟨piece, htext, hfound, .inl hatoms⟩
    · obtain ⟨piece, htext, hfound, hquoted⟩ := Recognises.sound recognises_quotedString h
      exact ⟨piece, htext, hfound, .inr hquoted⟩
  complete := by
    rintro piece found rest ⟨rfl, hatoms | hquoted⟩ hrest
    · rw [localPart, Recognises.complete recognises_dotString ⟨rfl, hatoms⟩ hrest]
    · have hread : quotedString (found ++ rest) = some (found, rest) :=
        Recognises.complete recognises_quotedString ⟨rfl, hquoted⟩ (by simp [Halts])
      obtain ⟨body, hbody, rfl⟩ := hquoted
      have hdots : dotString ('"' :: (body ++ ['"']) ++ rest) = none :=
        Recognises.eq_none_of_opens recognises_dotString (fun hatoms => hatoms.2.opens IsRun.opens)
          (by rw [List.cons_append, opens_cons]; decide)
      rw [localPart, hdots, hread]

theorem recognises_digits3 : Recognises digits3 (Verbatim IsDigits3) Char.isDigit where
  sound := by
    intro text found rest h
    simp only [digits3] at h
    split at h
    · cases h
    · next hnonempty =>
        cases h
        have htake : (text.take 3).takeWhile Char.isDigit <+: text :=
          (List.takeWhile_prefix _).trans (List.take_prefix _ _)
        refine ⟨(text.take 3).takeWhile Char.isDigit, ?_, rfl, ⟨?_, ?_⟩, ?_⟩
        · exact (List.prefix_iff_eq_append.mp htake).symm
        · exact fun hnil => hnonempty hnil
        · exact fun c hc => List.mem_takeWhile_imp hc
        · exact ((List.takeWhile_prefix _).length_le).trans (List.length_take_le _ _)
  complete := by
    rintro piece found rest ⟨rfl, ⟨hnonempty, hdigits⟩, hlength⟩ hrest
    have hhalts : Halts Char.isDigit (rest.take (3 - found.length)) := hrest.take _
    have htake : ((found ++ rest).take 3).takeWhile Char.isDigit = found := by
      rw [List.take_append, List.take_of_length_le hlength]
      exact congrArg Prod.fst (run_append hdigits hhalts)
    simp only [digits3, htake, List.drop_left]

theorem recognises_v4Literal :
    Recognises v4Literal (fun piece domain => IsV4 piece ∧ domain = .v4 (String.ofList piece))
      Char.isDigit where
  sound := by
    intro text domain rest h
    simp only [v4Literal, Option.bind_eq_bind, Option.bind_eq_some_iff, char_eq_some,
      Prod.exists] at h
    obtain ⟨a, _, hreadA, _, rfl, b, _, hreadB, _, rfl, c, _, hreadC, _, rfl, d, _, hreadD,
      hfound⟩ := h
    cases hfound
    obtain ⟨_, rfl, rfl, ha⟩ := Recognises.sound recognises_digits3 hreadA
    obtain ⟨_, rfl, rfl, hb⟩ := Recognises.sound recognises_digits3 hreadB
    obtain ⟨_, rfl, rfl, hc⟩ := Recognises.sound recognises_digits3 hreadC
    obtain ⟨_, rfl, rfl, hd⟩ := Recognises.sound recognises_digits3 hreadD
    exact ⟨joinWith ['.'] [a, b, c, d], by simp [joinWith], ⟨a, b, c, d, ha, hb, hc, hd, rfl⟩, rfl⟩
  complete := by
    rintro piece domain rest ⟨⟨a, b, c, d, ha, hb, hc, hd, rfl⟩, rfl⟩ hrest
    have hgroup : ∀ {group}, IsDigits3 group → ∀ behind,
        digits3 (group ++ '.' :: behind) = some (group, '.' :: behind) :=
      fun h behind => Recognises.complete recognises_digits3 ⟨rfl, h⟩ (by simp)
    have hlast : digits3 (d ++ rest) = some (d, rest) :=
      Recognises.complete recognises_digits3 ⟨rfl, hd⟩ hrest
    have hparts : joinWith ['.'] [a, b, c, d] ++ rest =
        a ++ '.' :: (b ++ '.' :: (c ++ '.' :: (d ++ rest))) := by
      simp [joinWith]
    rw [hparts]
    simp only [v4Literal, Option.bind_eq_bind, hgroup ha, hgroup hb, hgroup hc, hlast,
      char_cons_self, Option.bind_some]
    rfl

theorem anyCase_sound {want text rest : List Char} (h : anyCase want text = some rest) :
    ∃ piece, text = piece ++ rest ∧ piece.map Char.toUpper = want.map Char.toUpper := by
  induction want generalizing text with
  | nil =>
      cases h
      exact ⟨[], rfl, rfl⟩
  | cons c want ih =>
      cases text with
      | nil => cases h
      | cons d tail =>
          rw [anyCase] at h
          split at h
          · next hc =>
              obtain ⟨piece, rfl, hpiece⟩ := ih h
              exact ⟨d :: piece, rfl, by rw [List.map_cons, List.map_cons, hc, hpiece]⟩
          · cases h

theorem anyCase_append {want piece : List Char}
    (h : piece.map Char.toUpper = want.map Char.toUpper) (rest : List Char) :
    anyCase want (piece ++ rest) = some rest := by
  induction want generalizing piece with
  | nil =>
      rw [List.map_nil, List.map_eq_nil_iff] at h
      subst h
      rfl
  | cons c want ih =>
      cases piece with
      | nil => cases h
      | cons d tail =>
          rw [List.map_cons, List.map_cons, List.cons.injEq] at h
          rw [List.cons_append, anyCase, if_pos h.1, ih h.2]

theorem eq_of_toUpper_eq_colon {c : Char} (h : c.toUpper = ':') : c = ':' := by
  by_cases hlower : c.val ≥ 97 ∧ c.val ≤ 122
  · have hupper : c.toUpper = ⟨c.val + ('A'.val - 'a'.val), _⟩ := dif_pos hlower
    have hcode := congrArg (fun d : Char => d.val.toNat) (hupper.symm.trans h)
    simp only [UInt32.le_iff_toNat_le, UInt32.toNat_add] at hlower hcode
    simp at hlower hcode
    omega
  · have hsame : c.toUpper = c := dif_neg hlower
    exact hsame.symm.trans h

/-- The tag of IPv6 literals and its colon, as a rule that ignores case reads them. -/
theorem map_toUpper_eq_v6Prefix {text : List Char} :
    text.map Char.toUpper = "IPv6:".toList.map Char.toUpper ↔
      ∃ tag, IsV6Tag tag ∧ text = tag ++ [':'] := by
  constructor
  · intro h
    obtain ⟨tag, last, rfl, htag, hlast⟩ := List.map_eq_append_iff.mp
      (h.trans (rfl : _ = "IPV6".toList ++ [':']))
    obtain ⟨c, rfl, hc⟩ := List.map_eq_singleton_iff.mp hlast
    exact ⟨tag, htag, by rw [eq_of_toUpper_eq_colon hc]⟩
  · rintro ⟨tag, htag, rfl⟩
    rw [List.map_append, htag]
    rfl

theorem recognises_v6Literal :
    Recognises v6Literal
      (fun piece domain => ∃ address, IsV6 piece address ∧ domain = .v6 (String.ofList address))
      isV6Char where
  sound := by
    intro text domain rest h
    simp only [v6Literal, Option.bind_eq_bind, Option.bind_eq_some_iff, Prod.exists] at h
    obtain ⟨_, hprefix, address, _, hread, hfound⟩ := h
    cases hfound
    obtain ⟨_, rfl, rfl, haddress⟩ := (recognises_run1 isV6Char).sound hread
    obtain ⟨_, rfl, hupper⟩ := anyCase_sound hprefix
    obtain ⟨tag, htag, rfl⟩ := map_toUpper_eq_v6Prefix.mp hupper
    exact ⟨tag ++ ':' :: address, by simp, address, ⟨tag, htag, haddress, rfl⟩, rfl⟩
  complete := by
    rintro piece domain rest ⟨address, ⟨tag, htag, haddress, rfl⟩, rfl⟩ hrest
    have hprefix : anyCase "IPv6:".toList (tag ++ ':' :: address ++ rest) =
        some (address ++ rest) := by
      have hcut : tag ++ ':' :: address ++ rest = (tag ++ [':']) ++ (address ++ rest) := by simp
      rw [hcut, anyCase_append (map_toUpper_eq_v6Prefix.mpr ⟨tag, htag, rfl⟩)]
    have hread : run1 isV6Char (address ++ rest) = some (address, rest) :=
      (recognises_run1 isV6Char).complete ⟨rfl, haddress⟩ hrest
    simp only [v6Literal, hprefix, hread, Option.bind_eq_bind, Option.bind_some]
    rfl

/-- Without regard to the literals of the form before, whose tag is one as well. -/
theorem recognises_taggedLiteral :
    Recognises taggedLiteral
      (fun piece domain => ∃ tag content, IsHeaded isTagStart isTagChar tag ∧
        IsRun isContentChar content ∧ piece = tag ++ ':' :: content ∧
        domain = .tagged (String.ofList tag) (String.ofList content))
      isContentChar where
  sound := by
    intro text domain rest h
    simp only [taggedLiteral, Option.bind_eq_bind, Option.bind_eq_some_iff, char_eq_some,
      Prod.exists] at h
    obtain ⟨tag, _, htagRead, _, rfl, content, _, hcontentRead, hfound⟩ := h
    cases hfound
    obtain ⟨_, rfl, rfl, htag⟩ := (recognises_headed isTagStart isTagChar).sound htagRead
    obtain ⟨_, rfl, rfl, hcontent⟩ := (recognises_run1 isContentChar).sound hcontentRead
    exact ⟨tag ++ ':' :: content, by simp, tag, content, htag, hcontent, rfl, rfl⟩
  complete := by
    rintro piece domain rest ⟨tag, content, htag, hcontent, rfl, rfl⟩ hrest
    have htagRead : headed isTagStart isTagChar (tag ++ ':' :: (content ++ rest)) =
        some (tag, ':' :: (content ++ rest)) :=
      (recognises_headed isTagStart isTagChar).complete ⟨rfl, htag⟩ (by simp; decide)
    have hcontentRead : run1 isContentChar (content ++ rest) = some (content, rest) :=
      (recognises_run1 isContentChar).complete ⟨rfl, hcontent⟩ hrest
    simp [taggedLiteral, htagRead, hcontentRead]

/-- Characters of a text in front of its first colon or dot. -/
def isTagLike (c : Char) : Bool :=
  c != ':' && c != '.'

theorem isTagLike_of (accept : Char → Bool) (hcolon : accept ':' = false)
    (hdot : accept '.' = false) {c : Char} (hc : accept c) : isTagLike c := by
  by_contra hother
  have hmark : c = ':' ∨ c = '.' := by
    simpa [isTagLike, Classical.or_iff_not_imp_left] using hother
  rcases hmark with rfl | rfl
  · exact absurd hc (by simp [hcolon])
  · exact absurd hc (by simp [hdot])

theorem IsV6Tag.isTagLike {tag : List Char} (h : IsV6Tag tag) : ∀ c ∈ tag, isTagLike c := by
  intro c hc
  have hupper : c.toUpper ∈ "IPV6".toList := h ▸ List.mem_map_of_mem hc
  exact isTagLike_of (fun d => d.toUpper ∈ "IPV6".toList) (by decide) (by decide)
    (decide_eq_true hupper)

theorem IsHeaded.isTagLike {tag : List Char} (h : IsHeaded isTagStart isTagChar tag) :
    ∀ c ∈ tag, isTagLike c := by
  obtain ⟨c, rest, rfl, hc, hrest⟩ := h
  refine List.forall_mem_cons.mpr ⟨isTagLike_of isTagStart (by decide) (by decide) hc, ?_⟩
  exact fun d hd => isTagLike_of isTagChar (by decide) (by decide) (hrest d hd)

/-- What stands in front of the first colon or dot is determined, and so is what follows. -/
theorem cut_unique {front other behind rest : List Char} {c d : Char}
    (hfront : ∀ a ∈ front, isTagLike a) (hother : ∀ a ∈ other, isTagLike a)
    (hc : isTagLike c = false) (hd : isTagLike d = false)
    (heq : front ++ c :: behind = other ++ d :: rest) : front = other ∧ c = d ∧ behind = rest := by
  have hleft : run isTagLike (front ++ c :: behind) = (front, c :: behind) :=
    run_append hfront (halts_cons.mpr hc)
  have hright : run isTagLike (other ++ d :: rest) = (other, d :: rest) :=
    run_append hother (halts_cons.mpr hd)
  rw [heq, hright] at hleft
  cases hleft
  exact ⟨rfl, rfl, rfl⟩

/-- No four groups of digits begin like a tag with its colon. -/
theorem v4Literal_eq_none {tag behind : List Char} (htag : ∀ c ∈ tag, isTagLike c) :
    v4Literal (tag ++ ':' :: behind) = none := by
  refine Recognises.eq_none recognises_v4Literal fun {piece domain rest} hv4 heq => ?_
  obtain ⟨⟨a, b, c, d, ⟨⟨-, hdigits⟩, -⟩, -, -, -, rfl⟩, -⟩ := hv4
  have hgroup : ∀ e ∈ a, isTagLike e :=
    fun e he => isTagLike_of Char.isDigit (by decide) (by decide) (hdigits e he)
  have hcut : tag ++ ':' :: behind = a ++ '.' :: (b ++ '.' :: (c ++ '.' :: (d ++ rest))) := by
    simpa [joinWith] using heq
  obtain ⟨-, hmark, -⟩ := cut_unique htag hgroup (by decide) (by decide) hcut
  revert hmark
  decide

/-- Behind a tag with its colon an IPv6 literal can only be read if the tag and the character
behind it are those of one. -/
theorem v6Literal_eq_none {tag content behind : List Char} (htag : ∀ c ∈ tag, isTagLike c)
    (hcontent : content ≠ []) (hnot : ¬(IsV6Tag tag ∧ Opens isV6Char content)) :
    v6Literal (tag ++ ':' :: (content ++ behind)) = none := by
  refine Recognises.eq_none recognises_v6Literal fun {piece domain rest} hv6 heq => hnot ?_
  obtain ⟨address, ⟨other, hother, haddress, rfl⟩, -⟩ := hv6
  obtain ⟨rfl, -, hbehind⟩ := cut_unique htag hother.isTagLike (by decide) (by decide)
    (heq.trans (by simp : _ = other ++ ':' :: (address ++ rest)))
  refine ⟨hother, ?_⟩
  have hopens := haddress.opens.append rest
  rw [← hbehind] at hopens
  cases content with
  | nil => exact absurd rfl hcontent
  | cons c more => exact opens_cons.mpr (opens_cons.mp hopens)

/-- The forms of a literal are tried in their order; what one form reads, no earlier one can. -/
theorem recognises_literalBody :
    Recognises literalBody IsLiteral (fun c => c.isDigit || isV6Char c || isContentChar c) where
  sound := by
    intro text domain rest h
    rw [literalBody] at h
    split at h
    · next result hv4 =>
        cases h
        obtain ⟨piece, htext, hpiece, rfl⟩ := Recognises.sound recognises_v4Literal hv4
        exact ⟨piece, htext, .v4 hpiece⟩
    · split at h
      · next hnone result hv6 =>
          cases h
          obtain ⟨piece, htext, address, hpiece, rfl⟩ := Recognises.sound recognises_v6Literal hv6
          exact ⟨piece, htext, .v6 hpiece⟩
      · next hnone hv6 =>
          obtain ⟨piece, rfl, tag, content, htag, hcontent, rfl, rfl⟩ :=
            Recognises.sound recognises_taggedLiteral h
          refine ⟨_, rfl, .tagged ⟨htag, hcontent, ?_, rfl⟩⟩
          rintro ⟨hv6Tag, hopens⟩
          obtain ⟨address, behind, hcut, haddress, hbehind⟩ := (hopens.append rest).exists_run
          have hread := Recognises.complete recognises_v6Literal
            ⟨address, ⟨tag, hv6Tag, haddress, rfl⟩, rfl⟩ hbehind
          rw [List.append_assoc, List.cons_append, hcut, ← List.cons_append, ← List.append_assoc,
            hread] at hv6
          cases hv6
  complete := by
    intro piece domain rest hliteral hrest
    rw [literalBody]
    cases hliteral with
    | v4 hv4 =>
        rw [Recognises.complete recognises_v4Literal ⟨hv4, rfl⟩ (hrest.mono fun hc => by simp [hc])]
    | v6 hv6 =>
        rw [Recognises.complete recognises_v6Literal ⟨_, hv6, rfl⟩
          (hrest.mono fun hc => by simp [hc])]
        obtain ⟨tag, htag, -, rfl⟩ := hv6
        rw [List.append_assoc, List.cons_append, v4Literal_eq_none htag.isTagLike]
    | tagged htagged =>
        obtain ⟨htag, hcontent, hnot, rfl⟩ := htagged
        rw [Recognises.complete recognises_taggedLiteral ⟨_, _, htag, hcontent, rfl, rfl⟩
            (hrest.mono fun hc => by simp [hc]),
          List.append_assoc, List.cons_append, v4Literal_eq_none htag.isTagLike,
          v6Literal_eq_none htag.isTagLike hcontent.1 hnot]

theorem recognises_literal :
    Recognises literal
      (fun piece domain => ∃ inner, IsLiteral inner domain ∧ piece = '[' :: (inner ++ [']']))
      (fun _ => false) where
  sound := by
    intro text domain rest h
    simp only [literal, Option.bind_eq_bind, Option.bind_eq_some_iff, char_eq_some,
      Prod.exists] at h
    obtain ⟨_, rfl, _, _, hbody, _, rfl, hfound⟩ := h
    cases hfound
    obtain ⟨inner, rfl, hinner⟩ := Recognises.sound recognises_literalBody hbody
    exact ⟨'[' :: (inner ++ [']']), by simp, inner, hinner, rfl⟩
  complete := by
    rintro piece domain rest ⟨inner, hinner, rfl⟩ -
    have hbody : literalBody (inner ++ ']' :: rest) = some (domain, ']' :: rest) :=
      Recognises.complete recognises_literalBody hinner (halts_cons.mpr (by decide))
    simp [literal, hbody]

theorem recognises_domain :
    Recognises domain IsDomain (fun c => isLabelChar c || c == '.') where
  sound := by
    intro text found rest h
    rw [domain] at h
    split at h
    · next name behind hname =>
        cases h
        obtain ⟨_, rfl, rfl, hlabels⟩ := Recognises.sound recognises_domainName hname
        exact ⟨name, rfl, .name hlabels⟩
    · obtain ⟨_, rfl, inner, hinner, rfl⟩ := Recognises.sound recognises_literal h
      exact ⟨_, rfl, .literal hinner⟩
  complete := by
    intro piece found rest hdomain hrest
    rw [domain]
    cases hdomain with
    | name hname => rw [Recognises.complete recognises_domainName ⟨rfl, hname⟩ hrest]
    | @literal inner _ hliteral =>
        have hnone : domainName ('[' :: (inner ++ [']']) ++ rest) = none :=
          Recognises.eq_none_of_opens recognises_domainName (fun hname => hname.2.opens)
            (by rw [List.cons_append, opens_cons]; decide)
        rw [hnone, Recognises.complete recognises_literal ⟨inner, hliteral, rfl⟩ (by simp [Halts])]

/-- A local part and a domain with an `@` between them. -/
def IsMailbox (text : List Char) (mailbox : Mailbox) : Prop :=
  ∃ front back, IsLocalPart front ∧ IsDomain back mailbox.domain ∧
    mailbox.localPart = String.ofList front ∧ text = front ++ '@' :: back

theorem recognises_mailbox :
    Recognises mailbox IsMailbox (fun c => isLabelChar c || c == '.') where
  sound := by
    intro text found rest h
    simp only [mailbox, Option.bind_eq_bind, Option.bind_eq_some_iff, char_eq_some,
      Prod.exists] at h
    obtain ⟨front, _, hfront, _, rfl, dom, _, hdomain, hfound⟩ := h
    cases hfound
    obtain ⟨_, rfl, rfl, hlocal⟩ := Recognises.sound recognises_localPart hfront
    obtain ⟨back, rfl, hback⟩ := Recognises.sound recognises_domain hdomain
    exact ⟨front ++ '@' :: back, by simp, front, back, hlocal, hback, rfl, rfl⟩
  complete := by
    rintro piece ⟨found, dom⟩ rest ⟨front, back, hfront, hback, rfl, rfl⟩ hrest
    have hlocalRead : localPart (front ++ '@' :: (back ++ rest)) =
        some (front, '@' :: (back ++ rest)) :=
      Recognises.complete recognises_localPart ⟨rfl, hfront⟩ (halts_cons.mpr (by decide))
    have hdomainRead := Recognises.complete recognises_domain hback hrest
    simp [mailbox, hlocalRead, hdomainRead]

theorem recognises_atDomain :
    Recognises atDomain
      (fun piece hop => ∃ name, IsDomainName name ∧ hop = String.ofList name ∧ piece = '@' :: name)
      (fun c => isLabelChar c || c == '.') where
  sound := by
    intro text hop rest h
    simp only [atDomain, Option.bind_eq_bind, Option.bind_eq_some_iff, char_eq_some,
      Prod.exists] at h
    obtain ⟨_, rfl, name, _, hname, hfound⟩ := h
    cases hfound
    obtain ⟨_, rfl, rfl, hlabels⟩ := Recognises.sound recognises_domainName hname
    exact ⟨'@' :: name, rfl, name, hlabels, rfl, rfl⟩
  complete := by
    rintro piece hop rest ⟨name, hname, rfl, rfl⟩ hrest
    have hread := Recognises.complete recognises_domainName ⟨rfl, hname⟩ hrest
    simp [atDomain, hread]

theorem hops_sound (bound : Nat) {text rest : List Char} {found : List String}
    (h : hops bound text = some (found, rest)) :
    ∃ names, names ≠ [] ∧ (∀ name ∈ names, IsDomainName name) ∧
      found = names.map String.ofList ∧ text = hopsText names ++ rest := by
  induction bound generalizing text found rest with
  | zero =>
      rw [hops, Option.map_eq_some_iff] at h
      obtain ⟨⟨hop, behind⟩, hread, hfound⟩ := h
      cases hfound
      obtain ⟨_, rfl, name, hname, rfl, rfl⟩ := Recognises.sound recognises_atDomain hread
      exact ⟨[name], List.cons_ne_nil _ _, by simpa using hname, rfl, rfl⟩
  | succ bound ih =>
      rw [hops] at h
      split at h
      · cases h
      · next hop behind hread =>
          obtain ⟨_, rfl, name, hname, rfl, rfl⟩ := Recognises.sound recognises_atDomain hread
          split at h
          · cases h
            exact ⟨[name], List.cons_ne_nil _ _, by simpa using hname, rfl, rfl⟩
          · next tail hcomma =>
              rw [char_eq_some] at hcomma
              subst hcomma
              split at h
              · cases h
                exact ⟨[name], List.cons_ne_nil _ _, by simpa using hname, rfl, rfl⟩
              · next later last hlater =>
                  cases h
                  obtain ⟨names, hnames, hall, rfl, rfl⟩ := ih hlater
                  refine ⟨name :: names, List.cons_ne_nil _ _, ?_, rfl, ?_⟩
                  · exact List.forall_mem_cons.mpr ⟨hname, hall⟩
                  · rw [hopsText_cons_of_ne_nil name hnames]
                    simp

theorem hops_complete {bound : Nat} {names : List (List Char)} {rest : List Char}
    (hnames : names ≠ []) (hall : ∀ name ∈ names, IsDomainName name)
    (hbound : names.length ≤ bound + 1)
    (hrest : Halts (fun c => isLabelChar c || c == '.' || c == ',') rest) :
    hops bound (hopsText names ++ rest) = some (names.map String.ofList, rest) := by
  induction names generalizing bound with
  | nil => exact absurd rfl hnames
  | cons first later ih =>
      have hfirst := hall first List.mem_cons_self
      have hread : ∀ behind, Halts (fun c => isLabelChar c || c == '.') behind →
          atDomain ('@' :: (first ++ behind)) = some (String.ofList first, behind) :=
        fun behind => Recognises.complete recognises_atDomain ⟨first, hfirst, rfl, rfl⟩
      have hlabel : Halts (fun c => isLabelChar c || c == '.') rest :=
        hrest.mono fun hc => by simp [hc]
      have hend : Halts (· == ',') rest := hrest.mono fun hc => by simp [hc]
      cases later with
      | nil =>
          cases bound with
          | zero => simp [hops, hopsText, joinWith, hread rest hlabel]
          | succ bound => simp [hops, hopsText, joinWith, hread rest hlabel, char_eq_none hend]
      | cons second others =>
          cases bound with
          | zero => simp at hbound
          | succ bound =>
              have hlater : hops bound (hopsText (second :: others) ++ rest) =
                  some ((second :: others).map String.ofList, rest) :=
                ih (List.cons_ne_nil _ _)
                  (fun name hname => hall name (List.mem_cons_of_mem _ hname))
                  (by simpa using hbound)
              have hcomma := hread (',' :: (hopsText (second :: others) ++ rest))
                (halts_cons.mpr (by decide))
              rw [hopsText_cons_of_ne_nil first (List.cons_ne_nil second others)]
              simp only [hops, List.cons_append, List.append_assoc, hcomma, char_cons_self, hlater,
                List.map_cons]

theorem recognises_route :
    Recognises route
      (fun piece found => ∃ names, names ≠ [] ∧ (∀ name ∈ names, IsDomainName name) ∧
        found = names.map String.ofList ∧ piece = routeText names)
      (fun _ => false) where
  sound := by
    intro text found rest h
    simp only [route, Option.bind_eq_bind, Option.bind_eq_some_iff, char_eq_some,
      Prod.exists] at h
    obtain ⟨_, _, hread, _, rfl, hfound⟩ := h
    cases hfound
    obtain ⟨names, hnames, hall, rfl, rfl⟩ := hops_sound _ hread
    exact ⟨routeText names, by simp [routeText_of_ne_nil hnames], names, hnames, hall, rfl, rfl⟩
  complete := by
    rintro piece found rest ⟨names, hnames, hall, rfl, rfl⟩ -
    have hlength : names.length ≤ (hopsText names ++ ':' :: rest).length + 1 := by
      have hjoin := length_le_length_joinWith ',' (names.map ('@' :: ·))
      rw [List.length_map] at hjoin
      rw [List.length_append]
      exact hjoin.trans (by simp [hopsText])
    have hread : hops (hopsText names ++ ':' :: rest).length (hopsText names ++ ':' :: rest) =
        some (names.map String.ofList, ':' :: rest) :=
      hops_complete hnames hall hlength (halts_cons.mpr (by decide))
    rw [routeText_of_ne_nil hnames, List.append_assoc, List.singleton_append, route, hread]
    simp

theorem recognises_bare :
    Recognises bare (fun piece path => ∃ w : Written, w.Denotes path ∧ piece = w.inner)
      (fun c => isLabelChar c || c == '.') where
  sound := by
    intro text path rest h
    rw [bare, Option.map_eq_some_iff] at h
    obtain ⟨⟨found, behind⟩, hread, hpath⟩ := h
    cases hpath
    obtain ⟨piece, hcut, front, back, hfront, hback, hlocal, rfl⟩ :=
      Recognises.sound recognises_mailbox hread
    cases hroute : route text with
    | none =>
        rw [hroute] at hcut
        exact ⟨_, hcut, ⟨false, [], front, back⟩, ⟨by simp, hfront, hback, by simp, hlocal⟩, rfl⟩
    | some result =>
        obtain ⟨hops, behind⟩ := result
        rw [hroute] at hcut
        obtain ⟨_, rfl, names, hnames, hall, rfl, rfl⟩ := Recognises.sound recognises_route hroute
        refine ⟨_, ?_, ⟨false, names, front, back⟩, ⟨hall, hfront, hback, ?_, hlocal⟩, rfl⟩
        · simpa [Written.inner] using hcut
        · simp
  complete := by
    rintro piece ⟨hops, found⟩ rest ⟨w, hw, rfl⟩ hrest
    obtain ⟨hhops, hlocal, hdomain, hroute, hname⟩ := hw
    obtain rfl : hops = w.hops.map String.ofList := hroute
    have hmailbox : mailbox (w.localPart ++ '@' :: w.domain ++ rest) = some (found, rest) :=
      Recognises.complete recognises_mailbox ⟨_, _, hlocal, hdomain, hname, rfl⟩ hrest
    rw [bare, Written.inner, List.append_assoc]
    by_cases hnil : w.hops = []
    · have hnone : route (w.localPart ++ '@' :: w.domain ++ rest) = none :=
        Recognises.eq_none_of_opens recognises_route
          (by rintro piece found ⟨names, hnames, -, -, rfl⟩; exact opens_routeText hnames)
          (((hlocal.opens.append _).append _).not_opens_eq (by decide))
      rw [hnil, routeText, List.nil_append, hnone]
      simp only [Option.getD_none, hmailbox, Option.map_some, List.map_nil]
    · rw [Recognises.complete recognises_route ⟨w.hops, hnil, hhops, rfl, rfl⟩ (by simp [Halts])]
      simp only [Option.getD_some, hmailbox, Option.map_some]

theorem recognises_bracketed :
    Recognises bracketed
      (fun piece path => ∃ w : Written, w.Denotes path ∧ piece = '<' :: (w.inner ++ ['>']))
      (fun _ => false) where
  sound := by
    intro text path rest h
    simp only [bracketed, Option.bind_eq_bind, Option.bind_eq_some_iff, char_eq_some,
      Prod.exists] at h
    obtain ⟨_, rfl, _, _, hread, _, rfl, hfound⟩ := h
    cases hfound
    obtain ⟨_, rfl, w, hw, rfl⟩ := Recognises.sound recognises_bare hread
    exact ⟨_, by simp, w, hw, rfl⟩
  complete := by
    rintro piece path rest ⟨w, hw, rfl⟩ -
    have hread : bare (w.inner ++ '>' :: rest) = some (path, '>' :: rest) :=
      Recognises.complete recognises_bare ⟨w, hw, rfl⟩ (halts_cons.mpr (by decide))
    simp [bracketed, hread]

/-- No path in angle brackets is one without them, so the order of the two does not matter. -/
theorem recognises_either :
    Recognises either (fun piece path => ∃ w : Written, w.Denotes path ∧ piece = w.text)
      (fun c => isLabelChar c || c == '.') where
  sound := by
    intro text path rest h
    rw [either] at h
    split at h
    · next found hread =>
        cases h
        obtain ⟨_, rfl, w, hw, rfl⟩ := Recognises.sound recognises_bracketed hread
        exact ⟨_, rfl, { w with angled := true }, ⟨hw.1, hw.2, hw.3, hw.4, hw.5⟩, rfl⟩
    · obtain ⟨_, rfl, w, hw, rfl⟩ := Recognises.sound recognises_bare h
      exact ⟨_, rfl, { w with angled := false }, ⟨hw.1, hw.2, hw.3, hw.4, hw.5⟩, rfl⟩
  complete := by
    rintro piece path rest ⟨w, hw, rfl⟩ hrest
    rw [either]
    cases hangled : w.angled with
    | false =>
        have htext : w.text = w.inner := by rw [Written.text, hangled]; rfl
        have hnone : bracketed (w.inner ++ rest) = none :=
          Recognises.eq_none_of_opens recognises_bracketed
            (by rintro piece path ⟨w, -, rfl⟩; exact opens_cons.mpr (beq_self_eq_true '<'))
            ((hw.opens.append rest).not_opens_eq (by decide))
        rw [htext, hnone, Recognises.complete recognises_bare ⟨w, hw, rfl⟩ hrest]
    | true =>
        have htext : w.text = '<' :: (w.inner ++ ['>']) := by rw [Written.text, hangled]; rfl
        rw [htext, Recognises.complete recognises_bracketed ⟨w, hw, rfl⟩ (by simp [Halts])]

end MailIntake.Path
