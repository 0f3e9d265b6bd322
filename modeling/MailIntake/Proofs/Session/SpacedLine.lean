import MailIntake.Proofs.Session.PathLine
/-!
A space behind a colon.  Clients write `MAIL FROM: <a@b>` where `MAIL FROM:<a@b>` is meant, and the
tokenizer puts the value back behind its key.  It looks at nothing but the end of the second word,
so a value that ends in a colon itself makes a difference: written with the space it is put back,
and written without it takes the next word as well (`parse_value_apart`).
-/
namespace MailIntake

open Text

/-- Texts written with these words: blanks stand between neighbours, and may stand before the first
word and behind the last one. -/
inductive WrittenWith : List String → List Char → Prop
  | blanks {gap : List Char} (hgap : ∀ c ∈ gap, Ascii.isBlank c) : WrittenWith [] gap
  | word {gap behind : List Char} {word : String} {more : List String}
      (hgap : ∀ c ∈ gap, Ascii.isBlank c) (hword : IsWord word)
      (hapart : ∀ c ∈ behind.head?, Ascii.isBlank c) (hmore : WrittenWith more behind) :
      WrittenWith (word :: more) (gap ++ (word.toList ++ behind))

theorem WrittenWith.isWord {words : List String} {text : List Char}
    (hwritten : WrittenWith words text) : ∀ word ∈ words, IsWord word := by
  induction hwritten with
  | blanks _ => exact List.forall_mem_nil _
  | word _ hword _ _ ih => exact List.forall_mem_cons.mpr ⟨hword, ih⟩

theorem WrittenWith.words_eq {words : List String} {text : List Char}
    (hwritten : WrittenWith words text) :
    (Text.words Ascii.isBlank text).map String.ofList = words := by
  induction hwritten with
  | @blanks gap hgap =>
      have hnone := words_append_of_forall hgap []
      rw [List.append_nil] at hnone
      rw [hnone]
      rfl
  | @word gap behind word more hgap hword hapart _ ih =>
      have hne : word.toList ≠ [] := by simpa using hword.1
      rw [words_append_of_forall hgap, words_append_of_head? hne hword.2 hapart, List.map_cons, ih,
        String.ofList_toList]

/-- Every text is written with its words. -/
theorem writtenWith_words (text : List Char) :
    WrittenWith ((Text.words Ascii.isBlank text).map String.ofList) text := by
  generalize hwords : Text.words Ascii.isBlank text = pieces
  induction pieces generalizing text with
  | nil => exact .blanks (forall_of_words_eq_nil hwords)
  | cons piece more ih =>
      obtain ⟨gap, behind, rfl, hgap, hapart, hbehind⟩ := words_eq_cons hwords
      have hword : IsWord (String.ofList piece) := by
        have hmem : piece ∈ words Ascii.isBlank (gap ++ (piece ++ behind)) :=
          hwords ▸ List.mem_cons_self
        obtain ⟨hne, hplain⟩ := of_mem_words hmem
        exact ⟨by simpa using hne, by simpa using hplain⟩
      have hmore := WrittenWith.word hgap hword hapart (ih behind hbehind)
      rwa [String.toList_ofList] at hmore

/-- The words that a text is written with are those that the tokenizer finds. -/
theorem writtenWith_iff {words : List String} {text : String} :
    WrittenWith words text.toList ↔ Ascii.words text = words := by
  constructor
  · exact WrittenWith.words_eq
  · rintro rfl
    exact writtenWith_words text.toList

namespace CommandLine

theorem parse_of_writtenWith {words : List String} {text : String}
    (hwritten : WrittenWith words text.toList) : parse text = ofWords words :=
  congrArg ofWords (writtenWith_iff.mp hwritten)

/-- What stands before and behind the first colon of a text that ends in one. -/
theorem exists_keyword {key : String} (hcolon : key.toList.getLast? = some ':') :
    ∃ keyword tail, key = keyword ++ ":" ++ tail ∧ ':' ∉ keyword.toList := by
  obtain ⟨front, back, hkey, hfront⟩ := List.eq_append_cons_of_mem (List.mem_of_getLast? hcolon)
  refine ⟨String.ofList front, String.ofList back, ?_, by simpa using hfront⟩
  simp [← String.toList_inj, hkey]

theorem getLast?_append {key value : String} (hvalue : value ≠ "") :
    (key ++ value).toList.getLast? = value.toList.getLast? := by
  have hne : value.toList ≠ [] := by simpa using hvalue
  rw [String.toList_append, List.getLast?_append_of_ne_nil _ hne]

/-- A second word that ends in a colon takes the word behind it. -/
theorem glueValue_of_colon {key : String} (hcolon : key.toList.getLast? = some ':')
    (verb value : String) (rest : List String) :
    glueValue (verb :: key :: value :: rest) = verb :: (key ++ value) :: rest := by
  rw [glueValue, if_pos hcolon]

/-- A second word that does not end in a colon, or is the last one, stays as it is. -/
theorem glueValue_of_settled {second : String} {rest : List String}
    (hsettled : rest = [] ∨ second.toList.getLast? ≠ some ':') (verb : String) :
    glueValue (verb :: second :: rest) = verb :: second :: rest := by
  cases rest with
  | nil => rfl
  | cons next more =>
      have hends : second.toList.getLast? ≠ some ':' := by simpa using hsettled
      rw [glueValue, if_neg hends]

/-- Lines with one verb and the same words behind it are the same. -/
theorem ofWords_congr {verb : String} {words others : List String}
    (hsame : glueValue (verb :: words) = glueValue (verb :: others)) :
    ofWords (verb :: words) = ofWords (verb :: others) := by
  simp only [ofWords, hsame, List.headD_cons]

/-- A space behind a colon makes no difference if the value that follows does not end in a colon
itself, or is the last word.  With the space the value is put back behind its key in any case;
without it a value that ends in a colon takes the next word as well, which is then missing from the
parameters.  The action is the verb in upper case, and the keyword is the same in both lines. -/
theorem parse_value_apart {verb key value : String} {rest : List String} {apart joined : String}
    (hkey : key.toList.getLast? = some ':')
    (hapart : WrittenWith (verb :: key :: value :: rest) apart.toList)
    (hjoined : WrittenWith (verb :: (key ++ value) :: rest) joined.toList) :
    let line := parse apart
    let other := parse joined
    line.action = Ascii.upper verb ∧ other.action = Ascii.upper verb ∧
      line.fields = verb :: (key ++ value) :: rest ∧ line.keyword? = other.keyword? ∧
      (line = other ↔ rest = [] ∨ value.toList.getLast? ≠ some ':') ∧
      ∀ next more, rest = next :: more → value.toList.getLast? = some ':' →
        other.fields = verb :: (key ++ value ++ next) :: more ∧
        other.pathArgument? = line.pathArgument?.map (· ++ next) ∧
        other.esmtpParameters = more := by
  intro line other
  have hline : line = ofWords (verb :: key :: value :: rest) := parse_of_writtenWith hapart
  have hother : other = ofWords (verb :: (key ++ value) :: rest) := parse_of_writtenWith hjoined
  have hvalue : value ≠ "" := (hapart.isWord value (by simp)).1
  have hglued := glueValue_of_colon hkey verb value rest
  have hends : (key ++ value).toList.getLast? = value.toList.getLast? := getLast?_append hvalue
  obtain ⟨keyword, tail, hkeyed, hcolon⟩ := exists_keyword hkey
  have hsecond : key ++ value = keyword ++ ":" ++ (tail ++ value) := by
    rw [hkeyed, String.append_assoc]
  obtain ⟨hkeyword, hpath, -⟩ := parts_of_fields (hsecond ▸ hglued) hcolon
  -- What a value that ends in a colon makes of the line without the space.
  have htakes : ∀ next more, rest = next :: more → value.toList.getLast? = some ':' →
      other.fields = verb :: (key ++ value ++ next) :: more ∧
      other.keyword? = some (Ascii.upper keyword) ∧
      other.pathArgument? = some (tail ++ value ++ next) ∧ other.esmtpParameters = more := by
    rintro next more rfl hlast
    have htaken := glueValue_of_colon (hends.trans hlast) verb next more
    have hlonger : key ++ value ++ next = keyword ++ ":" ++ (tail ++ value ++ next) := by
      rw [hsecond, String.append_assoc]
    rw [hother]
    exact ⟨htaken, parts_of_fields (hlonger ▸ htaken) hcolon⟩
  have hsame : line = other ↔ rest = [] ∨ value.toList.getLast? ≠ some ':' := by
    constructor
    · intro heq
      by_contra hneither
      obtain ⟨hrest, hlast⟩ := not_or.mp hneither
      obtain ⟨next, more, hcons⟩ := List.exists_cons_of_ne_nil hrest
      obtain ⟨hfields, -⟩ := htakes next more hcons (not_not.mp hlast)
      have hglues : line.fields = verb :: (key ++ value) :: rest := hline ▸ hglued
      rw [heq, hfields, hcons] at hglues
      have hlength := congrArg List.length hglues
      simp at hlength
    · intro hsettled
      rw [hline, hother]
      exact ofWords_congr (hglued.trans (glueValue_of_settled (hends ▸ hsettled) verb).symm)
  refine ⟨hline ▸ rfl, hother ▸ rfl, hline ▸ hglued, ?_, hsame, ?_⟩
  · by_cases hsettled : rest = [] ∨ value.toList.getLast? ≠ some ':'
    · exact congrArg keyword? (hsame.mpr hsettled)
    · obtain ⟨hrest, hlast⟩ := not_or.mp hsettled
      obtain ⟨next, more, hcons⟩ := List.exists_cons_of_ne_nil hrest
      obtain ⟨-, hother, -⟩ := htakes next more hcons (not_not.mp hlast)
      rw [hline, hkeyword, hother]
  · intro next more hcons hlast
    obtain ⟨hfields, -, hlonger, hparameters⟩ := htakes next more hcons hlast
    refine ⟨hfields, ?_, hparameters⟩
    rw [hline, hpath, hlonger]
    rfl

theorem parse_value_apart_path :
    let line := parse " Mail FROM: \t<a@b>  SIZE=1 "
    let other := parse "Mail\tFROM:<a@b> SIZE=1"
    line = other ∧ line.action = "MAIL" ∧ line.fields = ["Mail", "FROM:<a@b>", "SIZE=1"] := by
  have hapart : WrittenWith ("Mail" :: "FROM:" :: "<a@b>" :: ["SIZE=1"])
      " Mail FROM: \t<a@b>  SIZE=1 ".toList := writtenWith_iff.mpr (by decide +kernel)
  have hjoined : WrittenWith ("Mail" :: ("FROM:" ++ "<a@b>") :: ["SIZE=1"])
      "Mail\tFROM:<a@b> SIZE=1".toList := writtenWith_iff.mpr (by decide +kernel)
  obtain ⟨haction, -, hfields, -, hsame, -⟩ := parse_value_apart (by decide) hapart hjoined
  exact ⟨hsame.mpr (.inr (by decide)), haction, hfields⟩

/-- A value that ends in a colon, in front of a parameter. -/
theorem value_takes_parameter :
    WrittenWith ["MAIL", "FROM:", "a:", "SIZE=1"] "MAIL FROM: a: SIZE=1".toList ∧
      WrittenWith ["MAIL", "FROM:" ++ "a:", "SIZE=1"] "MAIL FROM:a: SIZE=1".toList ∧
      (parse "MAIL FROM: a: SIZE=1").fields = ["MAIL", "FROM:a:", "SIZE=1"] ∧
      (parse "MAIL FROM:a: SIZE=1").fields = ["MAIL", "FROM:a:SIZE=1"] ∧
      (parse "MAIL FROM: a: SIZE=1").esmtpParameters = ["SIZE=1"] ∧
      (parse "MAIL FROM:a: SIZE=1").esmtpParameters = [] ∧
      parse "MAIL FROM: a: SIZE=1" ≠ parse "MAIL FROM:a: SIZE=1" :=
  ⟨writtenWith_iff.mpr (by decide +kernel), writtenWith_iff.mpr (by decide +kernel),
    by decide +kernel, by decide +kernel, by decide +kernel, by decide +kernel, by decide +kernel⟩

end CommandLine
end MailIntake
