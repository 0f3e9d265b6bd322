import MailIntake.Proofs.Path.Reading
/-!
Which texts are senders and recipients, and what they say.  Main statement: the readers of both
accept exactly the texts put together from pieces of their classes, and give back these pieces
(`path_language`).
-/
namespace MailIntake

open Text MailIntake.Path

namespace Path

theorem either_eq_some_iff {text : List Char} {path : MailPath} :
    either text = some (path, []) ↔ ∃ w : Written, w.Denotes path ∧ w.text = text := by
  constructor
  · intro h
    obtain ⟨piece, rfl, w, hw, rfl⟩ := Recognises.sound recognises_either h
    exact ⟨w, hw, (List.append_nil _).symm⟩
  · rintro ⟨w, hw, rfl⟩
    have hread := Recognises.complete recognises_either ⟨w, hw, rfl⟩ (halts_nil _)
    rwa [List.append_nil] at hread

theorem nullSender_eq_some {text rest : List Char} :
    nullSender text = some rest ↔ text = '<' :: '>' :: rest := by
  simp only [nullSender, Option.bind_eq_bind, Option.bind_eq_some_iff, char_eq_some]
  constructor
  · rintro ⟨_, rfl, rfl⟩
    rfl
  · rintro rfl
    exact ⟨_, rfl, rfl⟩

/-- What stands in angle brackets does not begin with the closing one. -/
theorem nullSender_text {w : Written} {path : MailPath} (h : w.Denotes path) :
    nullSender w.text = none := by
  cases hread : nullSender w.text with
  | none => rfl
  | some rest =>
      rw [nullSender_eq_some, Written.text] at hread
      have hopens := h.opens
      split at hread
      · have hclose := hopens.append ['>']
        rw [(List.cons.inj hread).2, opens_cons] at hclose
        exact absurd hclose (by decide)
      · rw [hread, opens_cons] at hopens
        exact absurd hopens (by decide)

theorem Written.Denotes.opens_text {w : Written} {path : MailPath} (h : w.Denotes path) :
    Opens (· == '<') w.text ↔ w.angled = true := by
  rw [Written.text]
  cases w.angled with
  | false => simpa using h.opens.not_opens_eq (by decide)
  | true => simp

/-- A path has one set of pieces, and its pieces say one thing. -/
theorem Written.Denotes.unique {w other : Written} {path found : MailPath} (hw : w.Denotes path)
    (hother : other.Denotes found) (htext : w.text = other.text) : w = other ∧ path = found := by
  have hread := either_eq_some_iff.mpr ⟨w, hw, rfl⟩
  rw [htext, either_eq_some_iff.mpr ⟨other, hother, rfl⟩] at hread
  cases hread
  have hhops : w.hops = other.hops :=
    List.map_injective_iff.mpr (fun _ _ => String.ofList_injective)
      (hw.route_eq.symm.trans hother.route_eq)
  have hlocal : w.localPart = other.localPart :=
    String.ofList_injective (hw.localPart_eq.symm.trans hother.localPart_eq)
  have hangled : w.angled = other.angled := by
    rw [Bool.eq_iff_iff, ← hw.opens_text, ← hother.opens_text, htext]
  have hinner : w.inner = other.inner := by
    rw [Written.text, Written.text, hangled] at htext
    split at htext <;> simpa using htext
  have hdomain : w.domain = other.domain := by
    simpa [Written.inner, hhops, hlocal] using hinner
  refine ⟨?_, rfl⟩
  cases w
  cases other
  simp_all

theorem anyCase_eq_some_nil {want text : List Char} :
    anyCase want text = some [] ↔ text.map Char.toUpper = want.map Char.toUpper := by
  constructor
  · intro h
    obtain ⟨piece, rfl, hpiece⟩ := anyCase_sound h
    rwa [List.append_nil]
  · intro h
    have hread := anyCase_append h []
    rwa [List.append_nil] at hread

theorem postmaster_eq_some_nil {text : List Char} :
    postmaster text = some [] ↔ text.map Char.toUpper = "POSTMASTER".toList ∨
      text.map Char.toUpper = "<POSTMASTER>".toList := by
  rw [postmaster]
  cases hangled : anyCase "<postmaster>".toList text with
  | none =>
      have hnot : ¬text.map Char.toUpper = "<POSTMASTER>".toList := by
        intro h
        rw [anyCase_eq_some_nil.mpr h] at hangled
        cases hangled
      rw [anyCase_eq_some_nil, or_iff_left hnot]
      rfl
  | some rest =>
      obtain ⟨piece, rfl, hpiece⟩ := anyCase_sound hangled
      have hnot : ¬(piece ++ rest).map Char.toUpper = "POSTMASTER".toList := by
        rw [List.map_append, hpiece]
        intro h
        exact absurd (List.cons.inj h).1 (by decide)
      rw [or_iff_right hnot]
      simp only
      rw [← hangled, anyCase_eq_some_nil]
      rfl

/-- Every path has an `@` in it, and no spelling of the postmaster's name has. -/
theorem either_eq_none_of_postmaster {text : List Char} (h : postmaster text = some []) :
    either text = none := by
  refine Recognises.eq_none recognises_either fun {piece path rest} hpath heq => ?_
  obtain ⟨w, -, rfl⟩ := hpath
  have hat : '@' ∈ text := by
    rw [heq, Written.text]
    split <;> simp [Written.inner]
  have hupper : '@' ∈ text.map Char.toUpper := List.mem_map_of_mem hat
  rcases postmaster_eq_some_nil.mp h with hname | hname <;> rw [hname] at hupper <;>
    exact absurd hupper (by decide)

end Path

theorem ReversePath.ofChars?_eq_null {text : List Char} :
    ofChars? text = some .null ↔ text = ['<', '>'] := by
  rw [ofChars?, ← nullSender_eq_some]
  split <;> try split
  all_goals simp_all

theorem ReversePath.ofChars?_eq_path {text : List Char} {path : MailPath} :
    ofChars? text = some (.path path) ↔ ∃ w : Written, w.Denotes path ∧ w.text = text := by
  rw [← either_eq_some_iff]
  constructor
  · intro h
    rw [ofChars?] at h
    split at h
    · cases h
    · cases h
    · split at h
      · next found hread =>
          cases h
          exact hread
      · cases h
  · intro h
    obtain ⟨w, hw, rfl⟩ := either_eq_some_iff.mp h
    rw [ofChars?, nullSender_text hw]
    simp only [h]

theorem ForwardPath.ofChars?_eq_path {text : List Char} {path : MailPath} :
    ofChars? text = some (.path path) ↔ ∃ w : Written, w.Denotes path ∧ w.text = text := by
  rw [← either_eq_some_iff]
  constructor
  · intro h
    rw [ofChars?] at h
    split at h
    · next found hread =>
        cases h
        exact hread
    · cases h
    · split at h <;> cases h
  · intro h
    simp only [ofChars?, h]

theorem ForwardPath.ofChars?_eq_postmaster {text : List Char} :
    ofChars? text = some .postmaster ↔ Path.postmaster text = some [] := by
  constructor
  · intro h
    rw [ofChars?] at h
    split at h
    · cases h
    · cases h
    · split at h
      · assumption
      · cases h
  · intro h
    simp only [ofChars?, either_eq_none_of_postmaster h, h]

theorem sameIgnoringCase_iff {a b : String} :
    Ascii.sameIgnoringCase a b ↔ a.toList.map Char.toUpper = b.toList.map Char.toUpper := by
  rw [Ascii.sameIgnoringCase, beq_iff_eq, Ascii.upper, Ascii.upper, String.ofList_inj]

theorem ReversePath.parse?_isPlain {t : String} {path : ReversePath} (h : parse? t = some path) :
    IsPlain t.toList := by
  cases path with
  | null =>
      rw [ofChars?_eq_null.mp h]
      decide
  | path found =>
      obtain ⟨w, hw, htext⟩ := ofChars?_eq_path.mp h
      exact htext ▸ hw.isPlain

theorem ForwardPath.parse?_isPlain {t : String} {path : ForwardPath} (h : parse? t = some path) :
    IsPlain t.toList := by
  cases path with
  | postmaster =>
      apply isPlain_of_map_toUpper
      rcases postmaster_eq_some_nil.mp (ofChars?_eq_postmaster.mp h) with hname | hname <;>
        rw [hname] <;> decide
  | path found =>
      obtain ⟨w, hw, htext⟩ := ofChars?_eq_path.mp h
      exact htext ▸ hw.isPlain

/-- A sender is read from a text exactly if the text is `<>` or a path put together from pieces of
their classes; the text determines the pieces and what they say, and that is what is read.  The
same paths are read as recipients, but `<>` is none, and the bare name of the postmaster is one in
any case, with angle brackets or without.  No text that is read has an ASCII control character. -/
theorem path_language (t : String) :
    (ReversePath.parse? t = some .null ↔ t = "<>") ∧
    (∀ path, ReversePath.parse? t = some (.path path) ↔
      ∃ w : Written, w.Denotes path ∧ w.text = t.toList) ∧
    (∀ (w other : Written) (path found : MailPath), w.Denotes path ∧ w.text = t.toList →
      other.Denotes found ∧ other.text = t.toList → w = other ∧ path = found) ∧
    (∀ path, ForwardPath.parse? t = some (.path path) ↔ ReversePath.parse? t = some (.path path)) ∧
    (ForwardPath.parse? t = some .postmaster ↔
      Ascii.sameIgnoringCase t "postmaster" ∨ Ascii.sameIgnoringCase t "<postmaster>") ∧
    ForwardPath.parse? "<>" = none ∧
    ((ReversePath.parse? t).isSome ∨ (ForwardPath.parse? t).isSome →
      ∀ c ∈ t.toList, isControl c = false) := by
  refine ⟨?_, fun path => ReversePath.ofChars?_eq_path, ?_, fun path => ?_, ?_, by decide, ?_⟩
  · rw [ReversePath.parse?, ReversePath.ofChars?_eq_null]
    exact (String.toList_inj : t.toList = "<>".toList ↔ t = "<>")
  · rintro w other path found ⟨hw, htext⟩ ⟨hother, hsame⟩
    exact hw.unique hother (htext.trans hsame.symm)
  · exact ForwardPath.ofChars?_eq_path.trans ReversePath.ofChars?_eq_path.symm
  · rw [ForwardPath.parse?, ForwardPath.ofChars?_eq_postmaster, postmaster_eq_some_nil,
      sameIgnoringCase_iff, sameIgnoringCase_iff]
    rfl
  · rintro (h | h)
    · obtain ⟨path, hpath⟩ := Option.isSome_iff_exists.mp h
      exact ReversePath.parse?_isPlain hpath
    · obtain ⟨path, hpath⟩ := Option.isSome_iff_exists.mp h
      exact ForwardPath.parse?_isPlain hpath

/-- Behind `IPv6:` a letter that is no hexadecimal digit makes the literal one of another tag. -/
example : ReversePath.parse? "<@a.b,@c:\"x y\"@[ipv6:xyz]>" =
    some (.path ⟨["a.b", "c"], "\"x y\"", .tagged "ipv6" "xyz"⟩) := by decide +kernel

end MailIntake
