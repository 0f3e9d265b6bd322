import MailIntake.Text.Split
import Mathlib.Data.List.Basic
/-!
What is inside the pieces of a text and the text joined from pieces, where a run of characters ends,
and what is left of a text when its tail is dropped.
-/
namespace MailIntake.Text

universe u

variable {A : Type u}

theorem sep_eq_false_of_mem_splitOn {sep : A → Bool} {text piece : List A}
    (hpiece : piece ∈ splitOn sep text) {a : A} (ha : a ∈ piece) : sep a = false := by
  induction text generalizing piece with
  | nil =>
      rw [splitOn, List.mem_singleton] at hpiece
      rw [hpiece] at ha
      cases ha
  | cons b rest ih =>
      rw [splitOn] at hpiece
      split at hpiece
      · rcases List.mem_cons.mp hpiece with rfl | hrest
        · cases ha
        · exact ih hrest ha
      · next hb =>
          split at hpiece
          · next hnil => exact absurd hnil (splitOn_ne_nil sep rest)
          · next first more hcut =>
              rw [hcut] at ih
              rcases List.mem_cons.mp hpiece with rfl | hmore
              · rcases List.mem_cons.mp ha with rfl | hfirst
                · simpa using hb
                · exact ih List.mem_cons_self hfirst
              · exact ih (List.mem_cons_of_mem first hmore) ha

theorem splitOn_of_forall {sep : A → Bool} {piece : List A} (hpiece : ∀ a ∈ piece, sep a = false) :
    splitOn sep piece = [piece] := by
  induction piece with
  | nil => rfl
  | cons a rest ih =>
      have hrest := ih fun b hb => hpiece b (List.mem_cons_of_mem a hb)
      simp [splitOn, hpiece a List.mem_cons_self, hrest]

theorem splitOn_append_cons {sep : A → Bool} {piece : List A} (hpiece : ∀ a ∈ piece, sep a = false)
    {mark : A} (hmark : sep mark) (rest : List A) :
    splitOn sep (piece ++ mark :: rest) = piece :: splitOn sep rest := by
  induction piece with
  | nil => simp [splitOn, hmark]
  | cons a more ih =>
      have hmore := ih fun b hb => hpiece b (List.mem_cons_of_mem a hb)
      simp [splitOn, hpiece a List.mem_cons_self, hmore]

/-- A cut at the separators between pieces that have none of their own gives the pieces back. -/
theorem splitOn_joinWith {sep : A → Bool} {mark : A} (hmark : sep mark) {pieces : List (List A)}
    (hne : pieces ≠ []) (hpieces : ∀ piece ∈ pieces, ∀ a ∈ piece, sep a = false) :
    splitOn sep (joinWith [mark] pieces) = pieces := by
  induction pieces with
  | nil => exact absurd rfl hne
  | cons piece more ih =>
      have hpiece := hpieces piece List.mem_cons_self
      by_cases hmore : more = []
      · rw [hmore]
        exact splitOn_of_forall hpiece
      · have hrest := ih hmore fun other hother => hpieces other (List.mem_cons_of_mem piece hother)
        rw [joinWith_cons_of_ne_nil _ _ hmore, List.append_assoc, List.singleton_append,
          splitOn_append_cons hpiece hmark, hrest]

/-- There is one piece more than there are separators. -/
theorem length_splitOn (sep : A → Bool) (text : List A) :
    (splitOn sep text).length = text.countP sep + 1 := by
  induction text with
  | nil => rfl
  | cons a rest ih =>
      rw [splitOn, List.countP_cons]
      by_cases ha : sep a
      · rw [if_pos ha, List.length_cons, ih, if_pos ha]
      · rw [if_neg ha, if_neg ha, Nat.add_zero, ← ih]
        cases hcut : splitOn sep rest with
        | nil => exact absurd hcut (splitOn_ne_nil sep rest)
        | cons piece more => rfl

/-- The first piece of a cut is the text up to the first separator. -/
theorem splitOn_eq_cons {sep : A → Bool} {text piece : List A} {more : List (List A)}
    (hcut : splitOn sep text = piece :: more) :
    (more = [] ∧ text = piece) ∨
      ∃ mark behind, sep mark ∧ text = piece ++ mark :: behind ∧ splitOn sep behind = more := by
  induction text generalizing piece more with
  | nil =>
      cases hcut
      exact .inl ⟨rfl, rfl⟩
  | cons a rest ih =>
      rw [splitOn] at hcut
      split at hcut
      · next ha =>
          cases hcut
          exact .inr ⟨a, rest, ha, rfl, rfl⟩
      · split at hcut
        · next hnil => exact absurd hnil (splitOn_ne_nil sep rest)
        · next first others hrest =>
            cases hcut
            rcases ih hrest with ⟨rfl, rfl⟩ | ⟨mark, behind, hmark, rfl, hbehind⟩
            · exact .inl ⟨rfl, rfl⟩
            · exact .inr ⟨mark, behind, hmark, rfl, hbehind⟩

/-- The first word stands between separators, and the other words are those of what is behind it. -/
theorem words_eq_cons {sep : A → Bool} {text word : List A} {more : List (List A)}
    (hwords : words sep text = word :: more) :
    ∃ gap behind, text = gap ++ (word ++ behind) ∧ (∀ a ∈ gap, sep a) ∧
      (∀ a ∈ behind.head?, sep a) ∧ words sep behind = more := by
  induction text with
  | nil => cases hwords
  | cons a rest ih =>
      cases hcut : splitOn sep (a :: rest) with
      | nil => exact absurd hcut (splitOn_ne_nil sep _)
      | cons piece others =>
          rw [words, hcut] at hwords
          rcases splitOn_eq_cons hcut with ⟨rfl, rfl⟩ | ⟨mark, behind, hmark, htext, hothers⟩
          · cases hwords
            exact ⟨[], [], by simp, List.forall_mem_nil _, nofun, rfl⟩
          · cases piece with
            | nil =>
                obtain ⟨rfl, rfl⟩ := List.cons.inj htext
                rw [List.filter_cons_of_neg (by simp), ← hothers] at hwords
                obtain ⟨gap, last, rfl, hgap, hlast⟩ := ih hwords
                exact ⟨a :: gap, last, rfl, List.forall_mem_cons.mpr ⟨hmark, hgap⟩, hlast⟩
            | cons b piece =>
                rw [List.filter_cons_of_pos (by simp)] at hwords
                obtain ⟨rfl, rfl⟩ := List.cons.inj hwords
                refine ⟨[], mark :: behind, htext, List.forall_mem_nil _, ?_, ?_⟩
                · intro b hb
                  cases hb
                  exact hmark
                · rw [words, splitOn, if_pos hmark, hothers, List.filter_cons_of_neg (by simp)]

/-- A word has something in it, and no separators. -/
theorem of_mem_words {sep : A → Bool} {text word : List A} (hword : word ∈ words sep text) :
    word ≠ [] ∧ ∀ a ∈ word, sep a = false := by
  obtain ⟨hpiece, hne⟩ := List.mem_filter.mp hword
  exact ⟨by simpa using hne, fun a ha => sep_eq_false_of_mem_splitOn hpiece ha⟩

/-- Separators in front of a text make no words. -/
theorem words_append_of_forall {sep : A → Bool} {gap : List A} (hgap : ∀ a ∈ gap, sep a) (behind : List A) :
    words sep (gap ++ behind) = words sep behind := by
  induction gap with
  | nil => rfl
  | cons a gap ih =>
      obtain ⟨ha, hmore⟩ := List.forall_mem_cons.mp hgap
      rw [List.cons_append, words, splitOn, if_pos ha, List.filter_cons_of_neg (by simp)]
      exact ih hmore

/-- A text without words is all separators. -/
theorem forall_of_words_eq_nil {sep : A → Bool} {text : List A} (hwords : words sep text = []) :
    ∀ a ∈ text, sep a := by
  induction text with
  | nil => exact List.forall_mem_nil _
  | cons a rest ih =>
      rw [words, splitOn] at hwords
      split at hwords
      · next ha =>
          rw [List.filter_cons_of_neg (by simp)] at hwords
          exact List.forall_mem_cons.mpr ⟨ha, ih hwords⟩
      · split at hwords
        · cases hwords
        · cases hwords

/-- A word is over where a separator stands behind it, or nothing at all. -/
theorem words_append_of_head? {sep : A → Bool} {word behind : List A} (hne : word ≠ [])
    (hword : ∀ a ∈ word, sep a = false) (hapart : ∀ a ∈ behind.head?, sep a) :
    words sep (word ++ behind) = word :: words sep behind := by
  cases behind with
  | nil =>
      rw [List.append_nil, words, splitOn_of_forall hword, List.filter_cons_of_pos (by simp [hne])]
      rfl
  | cons mark rest =>
      have hmark : sep mark := hapart mark rfl
      have hrest : words sep ([mark] ++ rest) = words sep rest :=
        words_append_of_forall (by simpa using hmark) rest
      rw [List.singleton_append] at hrest
      rw [hrest, words, splitOn_append_cons hword hmark, List.filter_cons_of_pos (by simp [hne])]
      rfl

theorem cutOnce_append_cons {sep : A → Bool} {front : List A} (hfront : ∀ a ∈ front, sep a = false)
    {mark : A} (hmark : sep mark) (behind : List A) :
    cutOnce sep (front ++ mark :: behind) = some (front, behind) := by
  induction front with
  | nil => rw [List.nil_append, cutOnce, if_pos hmark]
  | cons a rest ih =>
      obtain ⟨ha, hrest⟩ := List.forall_mem_cons.mp hfront
      rw [List.cons_append, cutOnce, if_neg (by simp [ha]), ih hrest]
      rfl

/-- A cut is at the first separator, which is gone. -/
theorem cutOnce_eq_some {sep : A → Bool} {text front behind : List A}
    (hcut : cutOnce sep text = some (front, behind)) :
    ∃ mark, sep mark ∧ text = front ++ mark :: behind := by
  induction text generalizing front with
  | nil => cases hcut
  | cons a rest ih =>
      rw [cutOnce] at hcut
      split at hcut
      · next ha =>
          cases hcut
          exact ⟨a, ha, rfl⟩
      · obtain ⟨⟨before, after⟩, hrest, heq⟩ := Option.map_eq_some_iff.mp hcut
        cases heq
        obtain ⟨mark, hmark, rfl⟩ := ih hrest
        exact ⟨mark, hmark, rfl⟩

section Runs

variable {p : A → Bool} {run rest : List A}

theorem takeWhile_run (hrun : ∀ a ∈ run, p a) (hrest : ∀ a ∈ rest.head?, p a = false) :
    (run ++ rest).takeWhile p = run := by
  rw [List.takeWhile_append_of_pos hrun]
  cases rest with
  | nil => rw [List.takeWhile_nil, List.append_nil]
  | cons a rest =>
      rw [List.takeWhile_cons_of_neg (by simp [hrest a rfl]), List.append_nil]

theorem dropWhile_run (hrun : ∀ a ∈ run, p a) (hrest : ∀ a ∈ rest.head?, p a = false) :
    (run ++ rest).dropWhile p = rest := by
  rw [List.dropWhile_append_of_pos hrun]
  cases rest with
  | nil => rfl
  | cons a rest => exact List.dropWhile_cons_of_neg (by simp [hrest a rfl])

end Runs

theorem mem_joinWith {glue : List A} {pieces : List (List A)} {a : A}
    (ha : a ∈ joinWith glue pieces) : a ∈ glue ∨ ∃ piece ∈ pieces, a ∈ piece := by
  induction pieces with
  | nil => cases ha
  | cons piece more ih =>
      cases more with
      | nil => exact .inr ⟨piece, List.mem_singleton_self piece, ha⟩
      | cons next rest =>
          rw [joinWith_cons_of_ne_nil _ _ (List.cons_ne_nil next rest)] at ha
          rcases List.mem_append.mp ha with ha | ha
          · rcases List.mem_append.mp ha with ha | ha
            · exact .inr ⟨piece, List.mem_cons_self, ha⟩
            · exact .inl ha
          · rcases ih ha with ha | ⟨other, hother, ha⟩
            · exact .inl ha
            · exact .inr ⟨other, List.mem_cons_of_mem piece hother, ha⟩

/-- Every piece but the last one is followed by an element of its own. -/
theorem length_le_length_joinWith (a : A) (pieces : List (List A)) :
    pieces.length ≤ (joinWith [a] pieces).length + 1 := by
  induction pieces with
  | nil => exact Nat.zero_le _
  | cons piece more ih =>
      cases more with
      | nil => exact Nat.le_add_left _ _
      | cons next rest =>
          rw [joinWith_cons_of_ne_nil _ _ (List.cons_ne_nil next rest)]
          simp only [List.length_cons, List.length_append, List.length_nil] at ih ⊢
          omega

/-- What does not end a list stays when its tail is dropped. -/
theorem dropTailWhile_append_of_neg {drop : A → Bool} (front : List A) {a : A}
    (ha : drop a = false) (back : List A) :
    dropTailWhile drop (front ++ a :: back) = front ++ a :: dropTailWhile drop back := by
  have hreverse : (front ++ a :: back).reverse = back.reverse ++ (a :: front.reverse) := by simp
  rw [dropTailWhile, dropTailWhile, hreverse, List.dropWhile_append]
  by_cases hback : (back.reverse.dropWhile drop).isEmpty
  · rw [if_pos hback, List.isEmpty_iff.mp hback, List.dropWhile_cons_of_neg (by simp [ha])]
    simp
  · rw [if_neg hback]
    simp

theorem dropTailWhile_concat {drop : A → Bool} (front : List A) {a : A}
    (ha : drop a = true) : dropTailWhile drop (front ++ [a]) = dropTailWhile drop front := by
  rw [dropTailWhile, dropTailWhile, List.reverse_append, List.reverse_singleton,
    List.singleton_append, List.dropWhile_cons_of_pos ha]

/-- A tail that is dropped as a whole makes no difference. -/
theorem dropTailWhile_append_of_forall {drop : A → Bool} (front : List A) {back : List A}
    (hback : ∀ a ∈ back, drop a) : dropTailWhile drop (front ++ back) = dropTailWhile drop front := by
  rw [dropTailWhile, dropTailWhile, List.reverse_append,
    List.dropWhile_append_of_pos fun a ha => hback a (List.mem_reverse.mp ha)]

theorem dropTailWhile_of_forall {drop : A → Bool} {text : List A}
    (h : ∀ a ∈ text, drop a = false) : dropTailWhile drop text = text := by
  induction text with
  | nil => rfl
  | cons a rest ih =>
      have hrest := ih fun b hb => h b (List.mem_cons_of_mem a hb)
      have hcons := dropTailWhile_append_of_neg [] (h a List.mem_cons_self) rest
      rwa [List.nil_append, List.nil_append, hrest] at hcons

theorem dropTailWhile_congr {drop other : A → Bool} {text : List A}
    (hsame : ∀ a ∈ text, drop a = other a) :
    dropTailWhile drop text = dropTailWhile other text := by
  have hreverse : ∀ l : List A, (∀ a ∈ l, drop a = other a) →
      l.dropWhile drop = l.dropWhile other := by
    intro l hl
    induction l with
    | nil => rfl
    | cons a l ih =>
        have hrest := ih fun b hb => hl b (List.mem_cons_of_mem a hb)
        rw [List.dropWhile_cons, List.dropWhile_cons, hl a List.mem_cons_self, hrest]
  rw [dropTailWhile, dropTailWhile,
    hreverse text.reverse fun a ha => hsame a (List.mem_reverse.mp ha)]

end MailIntake.Text
