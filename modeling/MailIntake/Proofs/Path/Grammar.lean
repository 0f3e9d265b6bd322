import MailIntake.Path
import MailIntake.Proofs.Text.Split
/-!
The language of sender and recipient paths, apart from any reader: which texts are local parts,
domains and literals, and how a path is put together from its pieces (`Written`).  The pieces of a
path hold no ASCII control character, and therefore neither does the path
(`Written.Denotes.isPlain`).
-/
namespace MailIntake.Path

open Text

def isControl (c : Char) : Bool :=
  c.toNat < 0x20 || c.toNat == 0x7F

def Opens (accept : Char → Bool) (text : List Char) : Prop :=
  ∃ c ∈ text.head?, accept c

/-- Non-empty texts of accepted characters. -/
def IsRun (accept : Char → Bool) (text : List Char) : Prop :=
  text ≠ [] ∧ ∀ c ∈ text, accept c

/-- Texts with one character of `start` in front and characters of `more` behind it. -/
def IsHeaded (start more : Char → Bool) (text : List Char) : Prop :=
  ∃ c rest, text = c :: rest ∧ start c ∧ ∀ d ∈ rest, more d

/-- At least one item, with dots between neighbours. -/
def IsDotted (item : List Char → Prop) (text : List Char) : Prop :=
  ∃ items, items ≠ [] ∧ (∀ i ∈ items, item i) ∧ text = joinWith ['.'] items

/-- The inside of a quoted local part: characters that stand for themselves, and a backslash in
front of any printable one. -/
inductive IsQuotedBody : List Char → Prop
  | nil : IsQuotedBody []
  | char {c rest} : isQuotedChar c → IsQuotedBody rest → IsQuotedBody (c :: rest)
  | pair {c rest} : isEscapable c → IsQuotedBody rest → IsQuotedBody ('\\' :: c :: rest)

def IsQuoted (text : List Char) : Prop :=
  ∃ body, IsQuotedBody body ∧ text = '"' :: (body ++ ['"'])

/-- A dot-atom or a quoted text. -/
def IsLocalPart (text : List Char) : Prop :=
  IsDotted (IsRun isAtomChar) text ∨ IsQuoted text

/-- Labels with dots between them. -/
def IsDomainName : List Char → Prop :=
  IsDotted (IsHeaded isLabelStart isLabelChar)

def IsDigits3 (text : List Char) : Prop :=
  IsRun Char.isDigit text ∧ text.length ≤ 3

/-- Whether a text is the tag of IPv6 literals, in any case. -/
def IsV6Tag (text : List Char) : Prop :=
  text.map Char.toUpper = "IPV6".toList

/-- Four groups of one to three digits with dots between them. -/
def IsV4 (text : List Char) : Prop :=
  ∃ a b c d, IsDigits3 a ∧ IsDigits3 b ∧ IsDigits3 c ∧ IsDigits3 d ∧
    text = joinWith ['.'] [a, b, c, d]

/-- The tag of IPv6 literals, a colon and an address. -/
def IsV6 (text address : List Char) : Prop :=
  ∃ tag, IsV6Tag tag ∧ IsRun isV6Char address ∧ text = tag ++ ':' :: address

/-- A tag, a colon and a content.  Behind the tag of IPv6 literals the content starts with a
character that no such address has. -/
def IsTagged (text tag content : List Char) : Prop :=
  IsHeaded isTagStart isTagChar tag ∧ IsRun isContentChar content ∧
    ¬(IsV6Tag tag ∧ Opens isV6Char content) ∧ text = tag ++ ':' :: content

/-- The inside of a bracketed literal and how it is classified. -/
inductive IsLiteral : List Char → Domain → Prop
  | v4 {text} : IsV4 text → IsLiteral text (.v4 (String.ofList text))
  | v6 {text address} : IsV6 text address → IsLiteral text (.v6 (String.ofList address))
  | tagged {text tag content} : IsTagged text tag content →
      IsLiteral text (.tagged (String.ofList tag) (String.ofList content))

inductive IsDomain : List Char → Domain → Prop
  | name {text} : IsDomainName text → IsDomain text (.name (String.ofList text))
  | literal {text domain} : IsLiteral text domain → IsDomain ('[' :: (text ++ [']'])) domain

/-- The hops of a source route, each behind an `@`, with commas between them. -/
def hopsText (hops : List (List Char)) : List Char :=
  joinWith [','] (hops.map ('@' :: ·))

/-- A source route as it is written, with the colon that ends it; nothing is written for an empty
one. -/
def routeText : List (List Char) → List Char
  | [] => []
  | hops => hopsText hops ++ [':']

theorem routeText_of_ne_nil {hops : List (List Char)} (h : hops ≠ []) :
    routeText hops = hopsText hops ++ [':'] := by
  cases hops with
  | nil => exact absurd rfl h
  | cons => rfl

theorem hopsText_cons_of_ne_nil (first : List Char) {more : List (List Char)} (h : more ≠ []) :
    hopsText (first :: more) = '@' :: (first ++ ',' :: hopsText more) := by
  rw [hopsText, hopsText, List.map_cons, joinWith_cons_of_ne_nil _ _ (by simpa using h)]
  simp

/-- A path cut into its pieces, each of them as it is written. -/
structure Written where
  /-- Whether the path stands in angle brackets. -/
  angled : Bool
  hops : List (List Char)
  localPart : List Char
  domain : List Char

namespace Written

def inner (w : Written) : List Char :=
  routeText w.hops ++ (w.localPart ++ '@' :: w.domain)

def text (w : Written) : List Char :=
  if w.angled then '<' :: (w.inner ++ ['>']) else w.inner

/-- Each piece is of its class, and the pieces are those of `path`. -/
structure Denotes (w : Written) (path : MailPath) : Prop where
  hops : ∀ hop ∈ w.hops, IsDomainName hop
  localPart : IsLocalPart w.localPart
  domain : IsDomain w.domain path.mailbox.domain
  route_eq : path.route = w.hops.map String.ofList
  localPart_eq : path.mailbox.localPart = String.ofList w.localPart

end Written

section Opening

@[simp] theorem opens_cons {accept : Char → Bool} {c : Char} {rest : List Char} :
    Opens accept (c :: rest) ↔ accept c := by
  simp [Opens]

theorem Opens.append {accept : Char → Bool} {text : List Char} (h : Opens accept text)
    (rest : List Char) : Opens accept (text ++ rest) := by
  cases text with
  | nil => obtain ⟨c, hc, -⟩ := h; cases hc
  | cons d tail => exact opens_cons.mpr (opens_cons.mp h)

theorem Opens.mono {accept wider : Char → Bool} {text : List Char}
    (hwider : ∀ {c}, accept c → wider c) (h : Opens accept text) : Opens wider text := by
  obtain ⟨c, hc, haccept⟩ := h
  exact ⟨c, hc, hwider haccept⟩

theorem Opens.not_opens_eq {accept : Char → Bool} {text : List Char} (h : Opens accept text)
    {d : Char} (hd : accept d = false) : ¬Opens (· == d) text := by
  obtain ⟨c, hc, haccept⟩ := h
  rintro ⟨e, he, hed⟩
  cases Option.some.inj (hc.symm.trans he)
  rw [beq_iff_eq.mp hed, hd] at haccept
  cases haccept

theorem IsRun.opens {accept : Char → Bool} {text : List Char} (h : IsRun accept text) :
    Opens accept text := by
  cases text with
  | nil => exact absurd rfl h.1
  | cons c rest => exact opens_cons.mpr (h.2 c List.mem_cons_self)

theorem IsHeaded.opens {start more : Char → Bool} {text : List Char}
    (h : IsHeaded start more text) : Opens start text := by
  obtain ⟨c, rest, rfl, hc, -⟩ := h
  exact opens_cons.mpr hc

theorem IsDotted.opens {item : List Char → Prop} {accept : Char → Bool} {text : List Char}
    (h : IsDotted item text) (hitem : ∀ {i}, item i → Opens accept i) : Opens accept text := by
  obtain ⟨items, hitems, hall, rfl⟩ := h
  cases items with
  | nil => exact absurd rfl hitems
  | cons first more =>
      have hfirst := hitem (hall first List.mem_cons_self)
      cases more with
      | nil => exact hfirst
      | cons next rest =>
          rw [joinWith_cons_of_ne_nil _ _ (List.cons_ne_nil next rest), List.append_assoc]
          exact hfirst.append _

theorem IsDomainName.opens {text : List Char} (h : IsDomainName text) : Opens isLabelStart text :=
  IsDotted.opens h IsHeaded.opens

theorem IsLocalPart.opens {text : List Char} (h : IsLocalPart text) :
    Opens (fun c => isAtomChar c || c == '"') text := by
  rcases h with hatoms | ⟨body, -, rfl⟩
  · exact (hatoms.opens IsRun.opens).mono fun hc => by simp [hc]
  · simp

theorem opens_routeText {hops : List (List Char)} (h : hops ≠ []) :
    Opens (· == '@') (routeText hops) := by
  rw [routeText_of_ne_nil h]
  cases hops with
  | nil => exact absurd rfl h
  | cons first more =>
      cases more with
      | nil => simp [hopsText, joinWith]
      | cons second others => simp [hopsText_cons_of_ne_nil first (List.cons_ne_nil second others)]

theorem Written.Denotes.opens {w : Written} {path : MailPath} (h : w.Denotes path) :
    Opens (fun c => isAtomChar c || c == '"' || c == '@') w.inner := by
  have hlocal : Opens (fun c => isAtomChar c || c == '"' || c == '@') w.localPart :=
    h.localPart.opens.mono fun hc => by simp [hc]
  rw [Written.inner]
  by_cases hhops : w.hops = []
  · rw [hhops]
    exact hlocal.append _
  · exact ((opens_routeText hhops).mono fun hc => by simp [hc]).append _

end Opening

section Control

/-- The classes of characters that texts are put together from. -/
def classes : List (Char → Bool) :=
  [isAtomChar, isQuotedChar, isEscapable, isLabelStart, isLabelChar, Char.isDigit, isV6Char,
    isTagStart, isTagChar, isContentChar]

/-- Below code 128 the classes can be looked through one character at a time. -/
theorem classes_plain : (classes.all fun accept => (List.range 128).all fun n =>
    !isControl (Char.ofNat n) || !accept (Char.ofNat n)) = true := by
  decide +kernel

/-- No class has a control character; above code 127 there are none. -/
theorem isControl_eq_false_of {accept : Char → Bool} (hclass : accept ∈ classes) {c : Char}
    (hc : accept c) : isControl c = false := by
  by_contra hcontrol
  rw [Bool.not_eq_false] at hcontrol
  have hbound : c.toNat < 128 := by
    simp only [isControl, Bool.or_eq_true, decide_eq_true_eq, beq_iff_eq] at hcontrol
    omega
  have hrefused := List.all_eq_true.mp (List.all_eq_true.mp classes_plain accept hclass) c.toNat
    (List.mem_range.mpr hbound)
  rw [Char.ofNat_toNat, hcontrol, hc] at hrefused
  cases hrefused

/-- Texts without control characters. -/
def IsPlain (text : List Char) : Prop :=
  ∀ c ∈ text, isControl c = false

instance (text : List Char) : Decidable (IsPlain text) :=
  List.decidableBAll _ text

theorem IsPlain.cons {c : Char} {text : List Char} (hc : isControl c = false)
    (htext : IsPlain text) : IsPlain (c :: text) :=
  List.forall_mem_cons.mpr ⟨hc, htext⟩

theorem IsPlain.append {front back : List Char} (hfront : IsPlain front) (hback : IsPlain back) :
    IsPlain (front ++ back) :=
  List.forall_mem_append.mpr ⟨hfront, hback⟩

theorem IsPlain.joinWith {glue : List Char} {pieces : List (List Char)} (hglue : IsPlain glue)
    (hpieces : ∀ piece ∈ pieces, IsPlain piece) : IsPlain (joinWith glue pieces) := by
  intro c hc
  rcases mem_joinWith hc with hc | ⟨piece, hpiece, hc⟩
  · exact hglue c hc
  · exact hpieces piece hpiece c hc

theorem IsRun.isPlain {accept : Char → Bool} {text : List Char} (h : IsRun accept text)
    (haccept : ∀ {c}, accept c → isControl c = false) : IsPlain text :=
  fun c hc => haccept (h.2 c hc)

theorem IsHeaded.isPlain {start more : Char → Bool} {text : List Char}
    (h : IsHeaded start more text)
    (hstart : ∀ {c}, start c → isControl c = false)
    (hmore : ∀ {c}, more c → isControl c = false) : IsPlain text := by
  obtain ⟨c, rest, rfl, hc, hrest⟩ := h
  exact IsPlain.cons (hstart hc) fun d hd => hmore (hrest d hd)

theorem IsDotted.isPlain {item : List Char → Prop} {text : List Char} (h : IsDotted item text)
    (hitem : ∀ {i}, item i → IsPlain i) : IsPlain text := by
  obtain ⟨items, -, hitems, rfl⟩ := h
  exact IsPlain.joinWith (by decide) fun i hi => hitem (hitems i hi)

theorem IsQuotedBody.isPlain {text : List Char} (h : IsQuotedBody text) : IsPlain text := by
  induction h with
  | nil => exact List.forall_mem_nil _
  | char hc _ ih => exact ih.cons (isControl_eq_false_of (by simp [classes]) hc)
  | pair hc _ ih =>
      exact (ih.cons (isControl_eq_false_of (by simp [classes]) hc)).cons (by decide)

theorem IsLocalPart.isPlain {text : List Char} (h : IsLocalPart text) : IsPlain text := by
  rcases h with hatoms | ⟨body, hbody, rfl⟩
  · exact hatoms.isPlain fun hatom => hatom.isPlain (isControl_eq_false_of (by simp [classes]))
  · exact (hbody.isPlain.append (by decide)).cons (by decide)

theorem IsDomainName.isPlain {text : List Char} (h : IsDomainName text) : IsPlain text :=
  IsDotted.isPlain h fun hlabel => hlabel.isPlain (isControl_eq_false_of (by simp [classes]))
    (isControl_eq_false_of (by simp [classes]))

/-- Letter case does not matter for control characters. -/
theorem isPlain_of_map_toUpper {text : List Char} (h : IsPlain (text.map Char.toUpper)) :
    IsPlain text := by
  intro c hc
  have hupper : isControl c.toUpper = false := h _ (List.mem_map_of_mem hc)
  by_cases hletter : c.val ≥ 97 ∧ c.val ≤ 122
  · -- A small letter is no control character.
    have hlow : 97 ≤ c.toNat := by simpa [UInt32.le_iff_toNat_le] using hletter.1
    have hhigh : c.toNat ≤ 122 := by simpa [UInt32.le_iff_toNat_le] using hletter.2
    simp only [isControl, Bool.or_eq_false_iff, decide_eq_false_iff_not, beq_eq_false_iff_ne]
    omega
  · have hsame : c.toUpper = c := dif_neg hletter
    rwa [hsame] at hupper

theorem IsV6Tag.isPlain {text : List Char} (h : IsV6Tag text) : IsPlain text :=
  isPlain_of_map_toUpper (by rw [h]; decide)

theorem IsDigits3.isPlain {text : List Char} (h : IsDigits3 text) : IsPlain text :=
  h.1.isPlain (isControl_eq_false_of (by simp [classes]))

theorem IsLiteral.isPlain {text : List Char} {domain : Domain} (h : IsLiteral text domain) :
    IsPlain text := by
  cases h with
  | v4 hv4 =>
      obtain ⟨a, b, c, d, ha, hb, hc, hd, rfl⟩ := hv4
      apply IsPlain.joinWith (by decide)
      simp [ha.isPlain, hb.isPlain, hc.isPlain, hd.isPlain]
  | v6 hv6 =>
      obtain ⟨tag, htag, haddress, rfl⟩ := hv6
      exact htag.isPlain.append
        ((haddress.isPlain (isControl_eq_false_of (by simp [classes]))).cons (by decide))
  | tagged htagged =>
      obtain ⟨htag, hcontent, -, rfl⟩ := htagged
      have htagPlain := htag.isPlain (isControl_eq_false_of (by simp [classes]))
        (isControl_eq_false_of (by simp [classes]))
      exact htagPlain.append
        ((hcontent.isPlain (isControl_eq_false_of (by simp [classes]))).cons (by decide))

theorem IsDomain.isPlain {text : List Char} {domain : Domain} (h : IsDomain text domain) :
    IsPlain text := by
  cases h with
  | name hname => exact hname.isPlain
  | literal hliteral => exact (hliteral.isPlain.append (by decide)).cons (by decide)

theorem isPlain_routeText {hops : List (List Char)} (h : ∀ hop ∈ hops, IsDomainName hop) :
    IsPlain (routeText hops) := by
  cases hops with
  | nil => exact List.forall_mem_nil _
  | cons first more =>
      refine IsPlain.append (IsPlain.joinWith (by decide) fun piece hpiece => ?_) (by decide)
      obtain ⟨hop, hhop, rfl⟩ := List.mem_map.mp hpiece
      exact (h hop hhop).isPlain.cons (by decide)

theorem Written.Denotes.isPlain {w : Written} {path : MailPath} (h : w.Denotes path) :
    IsPlain w.text := by
  have hinner : IsPlain w.inner :=
    (isPlain_routeText h.hops).append
      (h.localPart.isPlain.append (h.domain.isPlain.cons (by decide)))
  rw [Written.text]
  split
  · exact (hinner.append (by decide)).cons (by decide)
  · exact hinner

end Control

end MailIntake.Path
