/-!
Cutting a list at separators and joining the pieces again.  The list may hold characters or bytes;
a separator is whatever a predicate accepts.  Main statement: joining what a cut at one element
gave restores the list (`joinWith_splitOn`).
-/
namespace MailIntake.Text

universe u

variable {A : Type u}

/-- The pieces between the elements that `sep` accepts, empty pieces included: there is always one
piece more than there are separators. -/
def splitOn (sep : A → Bool) : List A → List (List A)
  | [] => [[]]
  | a :: rest =>
      if sep a then [] :: splitOn sep rest
      else
        match splitOn sep rest with
        | [] => [[a]]
        | piece :: more => (a :: piece) :: more

/-- The non-empty pieces between separators. -/
def words (sep : A → Bool) (text : List A) : List (List A) :=
  (splitOn sep text).filter (fun piece => !piece.isEmpty)

/-- The pieces in order with `glue` between neighbours. -/
def joinWith (glue : List A) : List (List A) → List A
  | [] => []
  | [piece] => piece
  | piece :: more => piece ++ glue ++ joinWith glue more

/-- What stands before and after the first element that `sep` accepts, if there is one. -/
def cutOnce (sep : A → Bool) : List A → Option (List A × List A)
  | [] => none
  | a :: rest =>
      if sep a then some ([], rest)
      else (cutOnce sep rest).map fun (before, after) => (a :: before, after)

/-- The list without the longest tail whose elements `drop` accepts. -/
def dropTailWhile (drop : A → Bool) (text : List A) : List A :=
  (text.reverse.dropWhile drop).reverse

def afterHead? [BEq A] : List A → List A → Option (List A)
  | [], text => some text
  | _ :: _, [] => none
  | a :: head, b :: text => if a == b then afterHead? head text else none

theorem splitOn_ne_nil (sep : A → Bool) (text : List A) : splitOn sep text ≠ [] := by
  induction text with
  | nil => simp [splitOn]
  | cons a rest ih =>
      rw [splitOn]
      split
      · simp
      · split <;> simp

theorem joinWith_cons_of_ne_nil (glue piece : List A) {more : List (List A)} (hmore : more ≠ []) :
    joinWith glue (piece :: more) = piece ++ glue ++ joinWith glue more := by
  cases more with
  | nil => exact absurd rfl hmore
  | cons => rfl

/-- A cut at one element loses nothing: joining the pieces with it gives the list back. -/
theorem joinWith_splitOn [DecidableEq A] (a : A) (text : List A) :
    joinWith [a] (splitOn (fun b => decide (b = a)) text) = text := by
  induction text with
  | nil => rfl
  | cons b rest ih =>
      rw [splitOn]
      by_cases hb : b = a
      · simp only [hb, decide_true, ↓reduceIte]
        rw [joinWith_cons_of_ne_nil _ _ (splitOn_ne_nil _ _), ih]
        rfl
      · simp only [hb, decide_false, Bool.false_eq_true, ↓reduceIte]
        split
        · next hnil => exact absurd hnil (splitOn_ne_nil _ _)
        · next piece more hcut =>
            rw [hcut] at ih
            cases more with
            | nil => simp_all [joinWith]
            | cons => simp_all [joinWith]

end MailIntake.Text
