import MailIntake.Proofs.Path.Language
/-!
What is printed of a path reads as the path again, without its source route.  The printed domain is
of the class of the one that was read (`IsDomain.render`): a literal keeps its brackets, and the tag
of IPv6 literals is one of its own spellings.  So the printed form is put together from the pieces
of a path whatever the spelling was that it was read from (`Written.Denotes.printed`).  All spellings
of a path have a space or none has (`ReversePath.space_mem_iff`).
-/
namespace MailIntake

open Text MailIntake.Path

def MailPath.withoutRoute (path : MailPath) : MailPath :=
  { path with route := [] }

def ReversePath.withoutRoute : ReversePath → ReversePath
  | .null => .null
  | .path found => .path found.withoutRoute

def ForwardPath.withoutRoute : ForwardPath → ForwardPath
  | .postmaster => .postmaster
  | .path found => .path found.withoutRoute

/-- A sender is read back as `found`: from what is printed of it in angle brackets and, unless it is
the null sender, from this alone. -/
structure ReversePath.ReadsAs (path found : ReversePath) : Prop where
  angled : parse? ("<" ++ path.render ++ ">") = some found
  bare : path ≠ .null → parse? path.render = some found

/-- A recipient is read back as `found`, with angle brackets and without. -/
structure ForwardPath.ReadsAs (path found : ForwardPath) : Prop where
  angled : parse? ("<" ++ path.render ++ ">") = some found
  bare : parse? path.render = some found

namespace Path

/-- The printed form of a domain is of the same class, with the same classification. -/
theorem IsDomain.render {text : List Char} {domain : Domain} (h : IsDomain text domain) :
    IsDomain domain.render.toList domain := by
  cases h with
  | name hname =>
      rw [Domain.render, String.toList_ofList]
      exact .name hname
  | @literal inside domain hliteral =>
      cases hliteral with
      | v4 hv4 =>
          simpa [Domain.render] using IsDomain.literal (.v4 hv4)
      | @v6 address hv6 =>
          -- The tag is printed in one spelling, which need not be the one that was read.
          obtain ⟨tag, -, haddress, rfl⟩ := hv6
          have hprinted : IsV6 ("IPv6".toList ++ ':' :: address) address :=
            ⟨_, by rw [IsV6Tag]; decide, haddress, rfl⟩
          simpa [Domain.render] using IsDomain.literal (.v6 hprinted)
      | @tagged tag content htagged =>
          have hinside := htagged.2.2.2
          have hprinted := IsDomain.literal (.tagged htagged)
          rw [hinside] at hprinted
          simpa [Domain.render] using hprinted

/-- The pieces of what is printed of a mailbox, with angle brackets or without. -/
def Written.printed (angled : Bool) (mailbox : Mailbox) : Written :=
  ⟨angled, [], mailbox.localPart.toList, mailbox.domain.render.toList⟩

theorem Written.printed_true (mailbox : Mailbox) :
    (printed true mailbox).text = ("<" ++ mailbox.render ++ ">").toList := by
  simp [Written.text, Written.inner, routeText, printed, Mailbox.render]

theorem Written.printed_false (mailbox : Mailbox) :
    (printed false mailbox).text = mailbox.render.toList := by
  simp [Written.text, Written.inner, routeText, printed, Mailbox.render]

theorem Written.Denotes.printed {w : Written} {path : MailPath} (h : w.Denotes path)
    (angled : Bool) : (Written.printed angled path.mailbox).Denotes path.withoutRoute where
  hops := List.forall_mem_nil _
  localPart := by
    rw [Written.printed, h.localPart_eq, String.toList_ofList]
    exact h.localPart
  domain := h.domain.render
  route_eq := rfl
  localPart_eq := String.ofList_toList.symm

/-- Where a domain is written with a space, it is printed with one; the tag of IPv6 literals has
none in any spelling. -/
theorem IsDomain.space_mem_iff {text : List Char} {domain : Domain} (h : IsDomain text domain) :
    ' ' ∈ text ↔ ' ' ∈ domain.render.toList := by
  cases h with
  | name hname => rw [Domain.render, String.toList_ofList]
  | literal hliteral =>
      cases hliteral with
      | v4 hv4 => simp [Domain.render]
      | v6 hv6 =>
          obtain ⟨tag, htag, -, rfl⟩ := hv6
          have hnone : ' ' ∉ tag := by
            intro hmem
            have hupper : ' '.toUpper ∈ "IPV6".toList := htag ▸ List.mem_map_of_mem hmem
            exact absurd hupper (by decide)
          simp [Domain.render, hnone]
      | tagged htagged =>
          rw [htagged.2.2.2]
          simp [Domain.render]

/-- All spellings of a path have spaces or none has. -/
theorem Written.Denotes.space_mem_iff {w : Written} {path : MailPath} (h : w.Denotes path) :
    ' ' ∈ w.text ↔ ' ' ∈ routeText (path.route.map String.toList) ∨
      ' ' ∈ path.mailbox.render.toList := by
  have hroute : path.route.map String.toList = w.hops := by
    rw [h.route_eq, List.map_map]
    simp
  have hinner : ' ' ∈ w.text ↔ ' ' ∈ w.inner := by
    rw [Written.text]
    split <;> simp
  rw [hinner, Written.inner, hroute, Mailbox.render, h.localPart_eq]
  simp [h.domain.space_mem_iff]

end Path

namespace ReversePath

@[simp] theorem withoutRoute_mailbox? (path : ReversePath) :
    path.withoutRoute.mailbox? = path.mailbox? := by
  cases path <;> rfl

@[simp] theorem withoutRoute_render (path : ReversePath) :
    path.withoutRoute.render = path.render := by
  cases path <;> rfl

@[simp] theorem withoutRoute_withoutRoute (path : ReversePath) :
    path.withoutRoute.withoutRoute = path.withoutRoute := by
  cases path <;> rfl

theorem readsAs_of_parse? {t : String} {path : ReversePath} (h : parse? t = some path) :
    path.ReadsAs path.withoutRoute := by
  cases path with
  | null => exact ⟨by decide, fun hnull => absurd rfl hnull⟩
  | path found =>
      obtain ⟨w, hw, -⟩ := ofChars?_eq_path.mp h
      exact ⟨ofChars?_eq_path.mpr ⟨_, hw.printed true, Written.printed_true found.mailbox⟩,
        fun _ => ofChars?_eq_path.mpr ⟨_, hw.printed false, Written.printed_false found.mailbox⟩⟩

/-- No control character is printed of a sender that was read. -/
theorem render_isPlain {t : String} {path : ReversePath} (h : parse? t = some path) :
    IsPlain path.render.toList := by
  have hplain := parse?_isPlain (readsAs_of_parse? h).angled
  exact fun c hc => hplain c (by simp [hc])

theorem space_mem_iff {t other : String} {path : ReversePath} (h : parse? t = some path)
    (hother : parse? other = some path) : ' ' ∈ t.toList ↔ ' ' ∈ other.toList := by
  cases path with
  | null => rw [ofChars?_eq_null.mp h, ofChars?_eq_null.mp hother]
  | path found =>
      obtain ⟨w, hw, htext⟩ := ofChars?_eq_path.mp h
      obtain ⟨v, hv, hvtext⟩ := ofChars?_eq_path.mp hother
      rw [← htext, ← hvtext, hw.space_mem_iff, hv.space_mem_iff]

end ReversePath

namespace ForwardPath

@[simp] theorem withoutRoute_mailbox? (path : ForwardPath) :
    path.withoutRoute.mailbox? = path.mailbox? := by
  cases path <;> rfl

@[simp] theorem withoutRoute_render (path : ForwardPath) :
    path.withoutRoute.render = path.render := by
  cases path <;> rfl

@[simp] theorem withoutRoute_withoutRoute (path : ForwardPath) :
    path.withoutRoute.withoutRoute = path.withoutRoute := by
  cases path <;> rfl

theorem readsAs_of_parse? {t : String} {path : ForwardPath} (h : parse? t = some path) :
    path.ReadsAs path.withoutRoute := by
  cases path with
  | postmaster => exact ⟨by decide +kernel, by decide +kernel⟩
  | path found =>
      obtain ⟨w, hw, -⟩ := ofChars?_eq_path.mp h
      exact ⟨ofChars?_eq_path.mpr ⟨_, hw.printed true, Written.printed_true found.mailbox⟩,
        ofChars?_eq_path.mpr ⟨_, hw.printed false, Written.printed_false found.mailbox⟩⟩

/-- No control character is printed of a recipient that was read. -/
theorem render_isPlain {t : String} {path : ForwardPath} (h : parse? t = some path) :
    IsPlain path.render.toList :=
  parse?_isPlain (readsAs_of_parse? h).bare

theorem space_mem_iff {t other : String} {path : ForwardPath} (h : parse? t = some path)
    (hother : parse? other = some path) : ' ' ∈ t.toList ↔ ' ' ∈ other.toList := by
  cases path with
  | postmaster =>
      have hnone : ∀ {spelling : String}, parse? spelling = some .postmaster →
          ' ' ∉ spelling.toList := by
        intro spelling hspelling hmem
        have hupper : ' '.toUpper ∈ spelling.toList.map Char.toUpper := List.mem_map_of_mem hmem
        have hname := postmaster_eq_some_nil.mp (ofChars?_eq_postmaster.mp hspelling)
        rcases hname with hname | hname <;> rw [hname] at hupper <;>
          exact absurd hupper (by decide)
      exact iff_of_false (hnone h) (hnone hother)
  | path found =>
      obtain ⟨w, hw, htext⟩ := ofChars?_eq_path.mp h
      obtain ⟨v, hv, hvtext⟩ := ofChars?_eq_path.mp hother
      rw [← htext, ← hvtext, hw.space_mem_iff, hv.space_mem_iff]

end ForwardPath

/-- What is printed of a sender or a recipient that was read reads as the same without its source
route, in angle brackets and, the null sender aside, without them.  The mailbox, and so the kind and
the text of a domain literal, is the one that was read, and another round gives nothing else. -/
theorem printed_path_reads_back (t : String) :
    (∀ path, ReversePath.parse? t = some path →
      path.ReadsAs path.withoutRoute ∧ path.withoutRoute.mailbox? = path.mailbox? ∧
        path.withoutRoute.render = path.render ∧ path.withoutRoute.ReadsAs path.withoutRoute) ∧
    (∀ path, ForwardPath.parse? t = some path →
      path.ReadsAs path.withoutRoute ∧ path.withoutRoute.mailbox? = path.mailbox? ∧
        path.withoutRoute.render = path.render ∧ path.withoutRoute.ReadsAs path.withoutRoute) := by
  refine ⟨fun path h => ?_, fun path h => ?_⟩
  · have hfirst := ReversePath.readsAs_of_parse? h
    have hsecond := ReversePath.readsAs_of_parse? hfirst.angled
    rw [path.withoutRoute_withoutRoute] at hsecond
    exact ⟨hfirst, path.withoutRoute_mailbox?, path.withoutRoute_render, hsecond⟩
  · have hfirst := ForwardPath.readsAs_of_parse? h
    have hsecond := ForwardPath.readsAs_of_parse? hfirst.angled
    rw [path.withoutRoute_withoutRoute] at hsecond
    exact ⟨hfirst, path.withoutRoute_mailbox?, path.withoutRoute_render, hsecond⟩

/-- A quoted local part behind a source route, at a literal whose tag is not written as it is
printed. -/
theorem printed_path_reads_back_routed :
    ReversePath.ReadsAs (.path ⟨["relay.example"], "\"a \\\" b\"", .v6 "::1"⟩)
      (.path ⟨[], "\"a \\\" b\"", .v6 "::1"⟩) ∧
    ForwardPath.ReadsAs (.path ⟨["relay.example"], "\"a \\\" b\"", .v6 "::1"⟩)
      (.path ⟨[], "\"a \\\" b\"", .v6 "::1"⟩) := by
  have hprinted := printed_path_reads_back "<@relay.example:\"a \\\" b\"@[ipv6:::1]>"
  exact ⟨(hprinted.1 (.path ⟨_, _, .v6 "::1"⟩) (by decide +kernel)).1,
    (hprinted.2 (.path ⟨_, _, .v6 "::1"⟩) (by decide +kernel)).1⟩

end MailIntake
