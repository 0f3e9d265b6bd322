import MailIntake.LineReader
import MailIntake.Proofs.Path.Language
import MailIntake.Proofs.Text.Lossy
import MailIntake.Session.Envelope
/-!
Where the texts of a path stand on its command line.  The local part and the text of the domain are
pieces of the path (`Written.Denotes.texts`), the path is what stands behind a colon of the second
word, and the words are pieces of the line; only where the second word ends in a colon of the path
itself are the blanks behind it left out (`onLine_of_pathBehind`).  The line is the client's bytes
as they are read, so that a text without a replacement character is there byte for byte
(`spelled_of_pathBehind`).
-/
namespace MailIntake

open Text MailIntake.Path

/-- A domain as it is recorded: a name, an address, or a tag with its content. -/
def Domain.text : Domain → String
  | .name labels => labels
  | .v4 address => address
  | .v6 address => address
  | .tagged tag content => tag ++ ":" ++ content

def MailPath.texts (path : MailPath) : List String :=
  [path.mailbox.localPart, path.mailbox.domain.text]

namespace Path

theorem IsLiteral.text_piece {text : List Char} {domain : Domain} (h : IsLiteral text domain) :
    domain.text.toList <:+: text := by
  cases h with
  | v4 hv4 => rw [Domain.text, String.toList_ofList]
  | v6 hv6 =>
      obtain ⟨tag, -, -, rfl⟩ := hv6
      rw [Domain.text, String.toList_ofList, List.append_cons]
      exact (List.suffix_append _ _).isInfix
  | tagged htagged =>
      obtain ⟨-, -, -, rfl⟩ := htagged
      simp only [Domain.text, String.toList_append, String.toList_ofList, List.append_assoc]
      exact List.infix_rfl

theorem IsDomain.text_piece {text : List Char} {domain : Domain} (h : IsDomain text domain) :
    domain.text.toList <:+: text := by
  cases h with
  | name hname => rw [Domain.text, String.toList_ofList]
  | @literal inside domain hliteral =>
      exact hliteral.text_piece.trans ⟨['['], [']'], rfl⟩

/-- What is recorded of a path are pieces of it. -/
theorem Written.Denotes.texts {w : Written} {path : MailPath} (h : w.Denotes path) {s : String}
    (hs : s ∈ path.texts) : s.toList <:+: w.text := by
  have hinner : w.inner <:+: w.text := by
    rw [Written.text]
    split
    · exact ⟨['<'], ['>'], rfl⟩
    · exact List.infix_rfl
  have hpiece : s.toList <:+: w.inner := by
    rcases List.mem_cons.mp hs with rfl | hs
    · rw [h.localPart_eq, String.toList_ofList]
      exact List.infix_append' _ _ _
    · rw [List.mem_singleton.mp hs]
      refine h.domain.text_piece.trans ?_
      rw [Written.inner, List.append_cons, ← List.append_assoc]
      exact (List.suffix_append _ _).isInfix
  exact hpiece.trans hinner

end Path

/-- A line on which the blanks behind the second word are left out inside a path: the word ends in a
colon that is not its first, and a third word follows. -/
def Glues (line : String) : Prop :=
  ∃ verb key value rest front, Ascii.words line = verb :: key :: value :: rest ∧
    key.toList = front ++ [':'] ∧ ':' ∈ front

/-- A text as it is read from a line, and as it stands there. -/
inductive OnLine (line : String) : List Char → List Char → Prop
  /-- In one piece. -/
  | whole (text : List Char) : OnLine line text text
  /-- With the blanks between the second word and the third, which is where a colon of the path ends
  the second word. -/
  | glued {verb key value : String} {rest : List String} {front before gap behind : List Char}
      (hwords : Ascii.words line = verb :: key :: value :: rest)
      (hkey : key.toList = front ++ (before ++ [':'])) (hfront : ':' ∈ front)
      (hgap : ∀ c ∈ gap, Ascii.isBlank c) (hbehind : behind <+: value.toList) :
      OnLine line (before ++ [':'] ++ behind) (before ++ [':'] ++ gap ++ behind)

theorem OnLine.eq_of_not_glues {line : String} {text stands : List Char}
    (h : OnLine line text stands) (hglues : ¬ Glues line) : stands = text := by
  cases h with
  | whole => rfl
  | @glued verb key value rest front before gap behind hwords hkey hfront hgap hbehind =>
      refine absurd ⟨verb, key, value, rest, front ++ before, hwords, ?_, ?_⟩ hglues
      · rw [hkey, List.append_assoc]
      · exact List.mem_append_left before hfront

namespace CommandLine

theorem words_eq_cons {line word : String} {more : List String}
    (hwords : Ascii.words line = word :: more) : ∃ gap behind : List Char,
      line.toList = gap ++ (word.toList ++ behind) ∧ (∀ c ∈ gap, Ascii.isBlank c) ∧
        Ascii.words (String.ofList behind) = more := by
  rw [Ascii.words] at hwords
  obtain ⟨first, others, hcut, rfl, rfl⟩ := List.map_eq_cons_iff.mp hwords
  obtain ⟨gap, behind, hline, hgap, -, hbehind⟩ := Text.words_eq_cons hcut
  refine ⟨gap, behind, by rw [hline, String.toList_ofList], hgap, ?_⟩
  rw [Ascii.words, String.toList_ofList, hbehind]

/-- The second word is a piece of the line, and so are the second and the third with blanks between
them. -/
theorem second_piece {line verb key : String} {more : List String}
    (hwords : Ascii.words line = verb :: key :: more) :
    key.toList <:+: line.toList ∧ ∀ value rest, more = value :: rest →
      ∃ gap : List Char, (∀ c ∈ gap, Ascii.isBlank c) ∧
        key.toList ++ (gap ++ value.toList) <:+: line.toList := by
  obtain ⟨start, behind, hline, -, hbehind⟩ := words_eq_cons hwords
  obtain ⟨between, last, hkey, -, hlast⟩ := words_eq_cons hbehind
  rw [String.toList_ofList] at hkey
  have hfront : ∀ {piece : List Char}, piece <+: key.toList ++ last → piece <:+: line.toList := by
    intro piece hpiece
    rw [hline, hkey, ← List.append_assoc, ← List.append_assoc]
    exact hpiece.isInfix.trans (List.suffix_append _ _).isInfix
  refine ⟨hfront (List.prefix_append _ _), fun value rest hmore => ?_⟩
  rw [hmore] at hlast
  obtain ⟨gap, after, hvalue, hgap, -⟩ := words_eq_cons hlast
  rw [String.toList_ofList] at hvalue
  refine ⟨gap, hgap, hfront ⟨after, ?_⟩⟩
  rw [hvalue]
  simp

theorem withColons_map_ofList (pieces : List (List Char)) :
    withColons (pieces.map String.ofList) = String.ofList (joinWith [':'] pieces) := by
  have hsame : String.toList ∘ String.ofList = id := funext fun _ => String.toList_ofList
  rw [withColons, List.map_map, hsame, List.map_id]

/-- Pieces of a text between its colons make the text again. -/
theorem withColons_atColons (text : String) : withColons (atColons text) = text := by
  have hjoined : joinWith [':'] (splitOn (· == ':') text.toList) = text.toList :=
    joinWith_splitOn ':' text.toList
  rw [atColons, withColons_map_ofList, hjoined, String.ofList_toList]

/-- A path stands behind the first colon of the second field. -/
theorem pathArgument?_eq_some {words : List String} {path : String}
    (hpath : (ofWords words).pathArgument? = some path) :
    ∃ verb second rest key, glueValue words = verb :: second :: rest ∧
      second.toList = key ++ ':' :: path.toList ∧ ':' ∉ key := by
  rw [pathArgument?, ofWords] at hpath
  simp only at hpath
  cases hfields : glueValue words with
  | nil => simp [hfields] at hpath
  | cons verb fields =>
      cases fields with
      | nil => simp [hfields] at hpath
      | cons second rest =>
          have hjoined : joinWith [':'] (splitOn (· == ':') second.toList) = second.toList :=
            joinWith_splitOn ':' second.toList
          simp only [hfields, atColons] at hpath
          cases hcut : splitOn (· == ':') second.toList with
          | nil => exact absurd hcut (splitOn_ne_nil _ _)
          | cons key pieces =>
              cases pieces with
              | nil => simp [hcut] at hpath
              | cons piece more =>
                  simp only [hcut, List.map_cons, Option.some.injEq] at hpath
                  rw [← List.map_cons, withColons_map_ofList] at hpath
                  refine ⟨verb, second, rest, key, rfl, ?_, ?_⟩
                  · rw [← hpath, String.toList_ofList, ← hjoined, hcut,
                      joinWith_cons_of_ne_nil _ _ (List.cons_ne_nil piece more)]
                    simp
                  · intro hcolon
                    have hsep := sep_eq_false_of_mem_splitOn
                      (hcut ▸ List.mem_cons_self : key ∈ splitOn (· == ':') second.toList) hcolon
                    exact absurd hsep (by decide)

/-- A path whose field ends a word with a colon begins behind the first colon of the word. -/
theorem path_of_glued {key front path value : List Char} (hends : key.getLast? = some ':')
    (hpath : key ++ value = front ++ ':' :: path) (hfront : ':' ∉ front) :
    ∃ tail, key = front ++ ':' :: tail ∧ path = tail ++ value := by
  rw [List.append_cons] at hpath
  rcases List.append_eq_append_iff.mp hpath with ⟨more, hkey, hvalue⟩ | ⟨tail, hkey, htail⟩
  · obtain ⟨early, rfl⟩ := List.getLast?_eq_some_iff.mp hends
    rcases List.eq_nil_or_concat' more with rfl | ⟨more, c, rfl⟩
    · rw [List.append_nil] at hkey
      exact ⟨[], hkey.symm, hvalue.symm⟩
    · -- Then the colon that ends the word would stand before the first colon.
      rw [← List.append_assoc] at hkey
      have hearly := (List.append_inj' hkey rfl).1
      exact absurd (by rw [hearly]; simp) hfront
  · exact ⟨tail, by rw [hkey, ← List.append_cons], htail⟩

/-- A piece of what is glued is a piece of the second word or of the third, or it has the colon
between them. -/
theorem onLine_of_glued {line verb key value : String} {rest : List String}
    {front tail gap text : List Char} (hwords : Ascii.words line = verb :: key :: value :: rest)
    (hends : key.toList.getLast? = some ':') (hkey : key.toList = front ++ ':' :: tail)
    (hgap : ∀ c ∈ gap, Ascii.isBlank c)
    (hboth : key.toList ++ (gap ++ value.toList) <:+: line.toList)
    (htext : text <:+: tail ++ value.toList) :
    ∃ stands, OnLine line text stands ∧ stands <:+: line.toList := by
  have hwhole : ∀ {word : List Char}, text <:+: word →
      word <:+: key.toList ++ (gap ++ value.toList) →
        ∃ stands, OnLine line text stands ∧ stands <:+: line.toList := fun hpiece hword =>
    ⟨text, .whole text, hpiece.trans (hword.trans hboth)⟩
  have hlast : value.toList <:+: key.toList ++ (gap ++ value.toList) := by
    rw [← List.append_assoc]
    exact (List.suffix_append _ _).isInfix
  rcases List.infix_append_iff.mp htext with
    htail | hvalue | ⟨before, behind, rfl, hbefore, hbehind⟩
  · refine hwhole htail ?_
    rw [hkey, List.append_cons, List.append_assoc]
    exact List.infix_append' _ _ _
  · exact hwhole hvalue hlast
  · rcases List.eq_nil_or_concat' before with rfl | ⟨before, c, rfl⟩
    · exact hwhole hbehind.isInfix hlast
    · obtain ⟨start, rfl⟩ := hbefore
      have hstands : key.toList = front ++ ':' :: start ++ (before ++ [c]) := by
        rw [hkey, List.append_assoc, List.cons_append]
      have hc : c = ':' := by
        rw [hstands, ← List.append_assoc, List.getLast?_concat] at hends
        exact Option.some.inj hends
      rw [hc] at hstands ⊢
      refine ⟨_, .glued hwords hstands (by simp) hgap hbehind, ?_⟩
      obtain ⟨after, hafter⟩ := hbehind
      refine List.IsInfix.trans ⟨front ++ ':' :: start, after, ?_⟩ hboth
      rw [hstands, ← hafter]
      simp

/-- A piece of a path is on the line, as it is or without the blanks at a colon. -/
theorem onLine_of_pathArgument {line path : String}
    (hpath : (parse line).pathArgument? = some path) {text : List Char}
    (htext : text <:+: path.toList) :
    ∃ stands, OnLine line text stands ∧ stands <:+: line.toList := by
  obtain ⟨verb, second, others, front, hfields, hsecond, hfront⟩ := pathArgument?_eq_some hpath
  have hwhole : ∀ {word : List Char}, word <:+: line.toList → text <:+: word →
      ∃ stands, OnLine line text stands ∧ stands <:+: line.toList := fun hword hpiece =>
    ⟨text, .whole text, hpiece.trans hword⟩
  have hinside : text <:+: second.toList := by
    rw [hsecond, List.append_cons]
    exact htext.trans (List.suffix_append _ _).isInfix
  cases hwords : Ascii.words line with
  | nil => simp [hwords, glueValue] at hfields
  | cons first more =>
      cases more with
      | nil => simp [hwords, glueValue] at hfields
      | cons key more =>
          obtain ⟨hkey, hvalue⟩ := second_piece hwords
          rw [hwords] at hfields
          cases more with
          | nil =>
              cases hfields
              exact hwhole hkey hinside
          | cons value rest =>
              rw [glueValue] at hfields
              split at hfields
              · next hends =>
                  cases hfields
                  obtain ⟨gap, hgap, hboth⟩ := hvalue _ _ rfl
                  rw [String.toList_append] at hsecond
                  obtain ⟨tail, htail, hglued⟩ := path_of_glued hends hsecond hfront
                  rw [hglued] at htext
                  exact onLine_of_glued hwords hends htail hgap hboth htext
              · cases hfields
                exact hwhole hkey hinside

end CommandLine

/-- A line without its line end. -/
def lineBody (bytes : List UInt8) : List UInt8 :=
  dropTailWhile LineReader.isEnd bytes

/-- A line as it is read: bytes that are not UTF-8 are replaced. -/
def lineText (bytes : List UInt8) : String :=
  Utf8.decodeLossy (lineBody bytes)

/-- A text is spelled on a line of bytes.  It stands there in one piece, where a replacement
character is the place of a fault and blanks may stand behind one of its colons; without either, it
is there byte for byte. -/
structure Spelled (bytes : List UInt8) (text : String) : Prop where
  stands : ∃ stands stretch, OnLine (lineText bytes) text.toList stands ∧ stretch <:+: bytes ∧
    Utf8.Reads stretch stands
  verbatim : '\uFFFD' ∉ text.toList ∨ (Utf8.decode? (lineBody bytes)).isSome →
    ¬ Glues (lineText bytes) → Utf8.encode text <:+: bytes

theorem lineBody_piece (bytes : List UInt8) : lineBody bytes <:+: bytes := by
  have hreverse := (List.dropWhile_suffix LineReader.isEnd (l := bytes.reverse)).reverse
  rw [List.reverse_reverse] at hreverse
  exact hreverse.isInfix

/-- What is on a line stands among its bytes. -/
theorem spelled_of_onLine {bytes : List UInt8} {text : String}
    (honLine : ∃ stands, OnLine (lineText bytes) text.toList stands ∧
      stands <:+: (lineText bytes).toList) : Spelled bytes text := by
  obtain ⟨stands, hon, hstands⟩ := honLine
  obtain ⟨stretch, hstretch, hreads⟩ :=
    (Utf8.reads_decodeLossy (lineBody bytes)).piece hstands
  have hbytes := hstretch.trans (lineBody_piece bytes)
  refine ⟨⟨stands, stretch, hon, hbytes, hreads⟩, fun hexact hglues => ?_⟩
  rw [hon.eq_of_not_glues hglues] at hreads hstands
  rcases hexact with hnone | hvalid
  · have hencode := hreads.eq_encode hnone
    rw [String.ofList_toList] at hencode
    rw [← hencode]
    exact hbytes
  · obtain ⟨whole, hdecode⟩ := Option.isSome_iff_exists.mp hvalid
    have hbody := Utf8.eq_encode_of_decode? hdecode
    have hwhole : lineText bytes = whole := by
      rw [lineText, hbody, Utf8.decodeLossy_encode]
    have hpiece := Utf8.encode_piece hstands
    rw [String.ofList_toList, String.ofList_toList, hwhole, ← hbody] at hpiece
    exact hpiece.trans (lineBody_piece bytes)

/-- The texts of a path that a sender or a recipient is read from are spelled on its line. -/
theorem spelled_of_pathBehind {bytes : List UInt8} {keyword argument : String} {path : MailPath}
    (hbehind : Turn.pathBehind keyword (CommandLine.parse (lineText bytes)) = some argument)
    (hparse : ReversePath.parse? argument = some (.path path)) {text : String}
    (htext : text ∈ path.texts) : Spelled bytes text := by
  rw [Turn.pathBehind] at hbehind
  split at hbehind
  · obtain ⟨w, hw, hwritten⟩ := ReversePath.ofChars?_eq_path.mp hparse
    have hpiece := hw.texts htext
    rw [hwritten] at hpiece
    exact spelled_of_onLine (CommandLine.onLine_of_pathArgument hbehind hpiece)
  · cases hbehind

end MailIntake
