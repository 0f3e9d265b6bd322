import MailIntake.Proofs.Path.Grammar
import MailIntake.Proofs.Session.Body
import MailIntake.Proofs.Text.Split
import MailIntake.Proofs.Text.Utf8
/-!
Lines as a client sends them.  However its bytes arrive, a line that has no line break of its own
and fits is read as it was sent (`run_lineBytes`), its words are those between its blanks, and its
command is carried out (`run_command`).
-/
namespace MailIntake

open Text

universe u

def lineBytes (line : String) : List UInt8 :=
  Utf8.encode line ++ [0x0D, 0x0A]

/-- Texts without a line feed and without a carriage return. -/
def IsUnbroken (text : String) : Prop :=
  ∀ c ∈ text.toList, c ≠ '\n' ∧ c ≠ '\r'

instance (text : String) : Decidable (IsUnbroken text) :=
  List.decidableBAll _ text.toList

/-- Texts that hold together in a command line. -/
def IsWord (text : String) : Prop :=
  text ≠ "" ∧ ∀ c ∈ text.toList, Ascii.isBlank c = false

instance (text : String) : Decidable (IsWord text) :=
  @instDecidableAnd _ _ inferInstance (List.decidableBAll _ text.toList)

def spaced (words : List String) : String :=
  String.ofList (joinWith [' '] (words.map String.toList))

theorem isUnbroken_append {front back : String} :
    IsUnbroken (front ++ back) ↔ IsUnbroken front ∧ IsUnbroken back := by
  rw [IsUnbroken, String.toList_append]
  exact List.forall_mem_append

/-- Line breaks are blanks. -/
theorem isUnbroken_of_not_blank {text : String}
    (h : ∀ c ∈ text.toList, Ascii.isBlank c = false) : IsUnbroken text := by
  intro c hc
  constructor
  · rintro rfl
    exact absurd (h _ hc) (by decide)
  · rintro rfl
    exact absurd (h _ hc) (by decide)

/-- Line breaks are control characters. -/
theorem isUnbroken_of_isPlain {text : String} (h : Path.IsPlain text.toList) : IsUnbroken text := by
  intro c hc
  constructor
  · rintro rfl
    exact absurd (h _ hc) (by decide)
  · rintro rfl
    exact absurd (h _ hc) (by decide)

/-- No byte of a text without line breaks ends a line. -/
theorem IsUnbroken.isEnd_eq_false {text : String} (h : IsUnbroken text) :
    ∀ b ∈ Utf8.encode text, LineReader.isEnd b = false := by
  intro b hb
  obtain ⟨c, hc, hbyte⟩ := List.mem_flatMap.mp hb
  obtain ⟨hfeed, hreturn⟩ := h c hc
  have hsame : b.toNat < 128 → b.toNat = c.toNat := Utf8.toNat_of_mem_utf8EncodeChar hbyte
  have hchar : ∀ d : Char, c ≠ d → b.toNat = d.toNat → d.toNat < 128 → False := by
    intro d hne heq hlow
    exact hne (Char.toNat_inj.mp ((hsame (heq ▸ hlow)).symm.trans heq))
  rw [LineReader.isEnd, Bool.or_eq_false_iff, beq_eq_false_iff_ne, beq_eq_false_iff_ne]
  constructor
  · rintro rfl
    exact hchar '\n' hfeed rfl (by decide)
  · rintro rfl
    exact hchar '\r' hreturn rfl (by decide)

namespace LineReader

theorem cutAtFeed_of_notMem {front : List UInt8} (h : byteFeed ∉ front) (behind : List UInt8) :
    cutAtFeed (front ++ byteFeed :: behind) = some (front ++ [byteFeed], behind) := by
  induction front with
  | nil => rfl
  | cons b rest ih =>
      have hb : b ≠ byteFeed := fun heq => h (heq ▸ List.mem_cons_self)
      have hrest : byteFeed ∉ rest := fun hmem => h (List.mem_cons_of_mem b hmem)
      rw [List.cons_append, cutAtFeed, if_neg hb, ih hrest]
      rfl

theorem cutAtFeed_eq_none {chunk : List UInt8} (hchunk : byteFeed ∉ chunk) :
    cutAtFeed chunk = none := by
  induction chunk with
  | nil => rfl
  | cons b rest ih =>
      rw [List.mem_cons, not_or] at hchunk
      rw [cutAtFeed, if_neg (Ne.symm hchunk.1), ih hchunk.2]
      rfl

/-- A line that fits is read as it was sent. -/
theorem feed_lineBytes {line : String} (hline : IsUnbroken line)
    (hfits : (lineBytes line).length ≤ maxLineLength) :
    ({} : LineReader).feed (lineBytes line) = .line (.text line) [] := by
  have hends := hline.isEnd_eq_false
  have hcut : cutAtFeed (lineBytes line) = some (lineBytes line, []) := by
    have hfeed : byteFeed ∉ Utf8.encode line ++ [0x0D] := by
      intro hmem
      rcases List.mem_append.mp hmem with hmem | hmem
      · exact absurd (hends _ hmem) (by decide)
      · exact absurd (List.mem_singleton.mp hmem) (by decide)
    have hparts : lineBytes line = (Utf8.encode line ++ [0x0D]) ++ byteFeed :: [] := by
      simp [lineBytes, byteFeed]
    rw [hparts]
    exact cutAtFeed_of_notMem hfeed []
  have hadd : ({} : LineReader).add (lineBytes line) = { held := lineBytes line } := by
    have hroom : ¬maxLineLength < ([] : List UInt8).length + (lineBytes line).length := by
      simpa using hfits
    rw [add, if_neg (by simp), if_neg hroom]
    rfl
  have hdrop : dropTailWhile isEnd (lineBytes line) = Utf8.encode line := by
    have hparts : lineBytes line = (Utf8.encode line ++ [0x0D]) ++ [0x0A] := by simp [lineBytes]
    rw [hparts, dropTailWhile_concat _ (by rfl), dropTailWhile_concat _ (by rfl),
      dropTailWhile_of_forall hends]
  rw [feed, hcut]
  simp only [hadd, finish, hdrop, Utf8.decodeLossy_encode, Bool.false_eq_true, if_false]

end LineReader

namespace CommandLine

theorem isBlank_eq_false_of_mem_words {line word : String} (hword : word ∈ Ascii.words line) :
    ∀ c ∈ word.toList, Ascii.isBlank c = false := by
  obtain ⟨piece, hpiece, rfl⟩ := List.mem_map.mp hword
  intro c hc
  rw [String.toList_ofList] at hc
  exact (of_mem_words hpiece).2 c hc

/-- The first word of a line with a blank behind it. -/
theorem words_append_cons {word : String} (hword : IsWord word) {blank : Char}
    (hblank : Ascii.isBlank blank) (rest : List Char) :
    Ascii.words (String.ofList (word.toList ++ blank :: rest)) =
      word :: Ascii.words (String.ofList rest) := by
  have hne : word.toList ≠ [] := by simpa using hword.1
  have hbehind : Text.words Ascii.isBlank ([blank] ++ rest) = Text.words Ascii.isBlank rest :=
    words_append_of_forall (by simpa using hblank) rest
  rw [List.singleton_append] at hbehind
  simp only [Ascii.words, String.toList_ofList]
  rw [words_append_of_head? hne hword.2 (by simpa using hblank), hbehind, List.map_cons,
    String.ofList_toList]

/-- A line that is one word. -/
theorem words_of_isWord {word : String} (hword : IsWord word) : Ascii.words word = [word] := by
  have hne : word.toList ≠ [] := by simpa using hword.1
  have hwords : Text.words Ascii.isBlank (word.toList ++ []) = word.toList :: [] :=
    words_append_of_head? hne hword.2 nofun
  rw [List.append_nil] at hwords
  rw [Ascii.words, hwords, List.map_cons, String.ofList_toList]
  rfl

/-- The words of a line with single spaces between them. -/
theorem words_eq {text : String} {words : List String} (hne : words ≠ [])
    (hwords : ∀ word ∈ words, IsWord word)
    (htext : text.toList = joinWith [' '] (words.map String.toList)) :
    Ascii.words text = words := by
  induction words generalizing text with
  | nil => exact absurd rfl hne
  | cons word more ih =>
      obtain ⟨hword, hmore⟩ := List.forall_mem_cons.mp hwords
      by_cases hlast : more = []
      · subst hlast
        rw [String.toList_inj.mp htext]
        exact words_of_isWord hword
      · rw [List.map_cons, joinWith_cons_of_ne_nil _ _ (by simpa using hlast), List.append_assoc,
          List.singleton_append] at htext
        rw [← String.ofList_toList (s := text), htext, words_append_cons hword (by decide),
          ih hlast hmore String.toList_ofList]

theorem words_spaced {words : List String} (hne : words ≠ [])
    (hwords : ∀ word ∈ words, IsWord word) :
    Ascii.words (spaced words) = words :=
  words_eq hne hwords String.toList_ofList

end CommandLine

namespace Turn

variable {W : Type u} {service : Service W} {t : Turn W}

theorem run_bytes (service : Service W) (t : Turn W) (chunks : List (List UInt8)) :
    t.run service (chunks.map .bytes) = t.receive service chunks.flatten := by
  rw [run_eq_heedAll, List.flatMap_map, ← heedAll_bytes, List.map_flatten]
  rfl

/-- However the bytes of a line arrive, it is taken up once it is complete. -/
theorem run_lineBytes (service : Service W) (hphase : t.phase = .command {}) {line : String}
    (hline : IsUnbroken line) (hfits : (lineBytes line).length ≤ maxLineLength)
    {chunks : List (List UInt8)} (hchunks : chunks.flatten = lineBytes line) :
    t.run service (chunks.map .bytes) =
      (t.countRead (lineBytes line).length).takeLine service (.text line) := by
  rw [run_bytes, hchunks]
  exact receive_line service hphase (LineReader.feed_lineBytes hline hfits)

/-- However the bytes of a line arrive, its command is carried out. -/
theorem run_command (hphase : t.phase = .command {}) {content : String}
    (hline : IsUnbroken content) (hfits : (lineBytes content).length ≤ maxLineLength)
    {chunks : List (List UInt8)} (hchunks : chunks.flatten = lineBytes content)
    {verb : CommandLine.Verb} (hverb : (CommandLine.parse content).verb? = some verb) :
    t.run service (chunks.map .bytes) =
      ((t.countRead (lineBytes content).length).note (.command (CommandLine.parse content))).execute
        service verb (CommandLine.parse content) := by
  rw [run_lineBytes service hphase hline hfits hchunks]
  simp only [takeLine, dispatch, hverb]

end Turn
end MailIntake
