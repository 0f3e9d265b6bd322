/-!
Tables of characters by number.  A place that holds a space has no character.
-/
namespace MailIntake.Charset

/-- What stands for bytes that denote no character. -/
def unknown : Char := '\ufffd'

structure Table where
  cells : Array Char

namespace Table

/-- The table with these pieces: each is a text in several strings that begins at the given place.
What lies between pieces is empty. -/
def ofPieces (pieces : List (Nat × List String)) : Table :=
  ⟨pieces.foldl
    (fun cells (start, texts) =>
      texts.foldl (fun cells text => text.toList.foldl Array.push cells)
        (cells ++ Array.replicate (start - cells.size) ' '))
    #[]⟩

def get? (table : Table) (place : Nat) : Option Char :=
  match table.cells[place]? with
  | some c => if c = ' ' then none else some c
  | none => none

/-- The characters of a run of code points that a table does not hold, in their order. -/
def leftOut (table : Table) (first count : Nat) : Array Char :=
  let held := table.cells.foldl
    (fun held c => if first ≤ c.toNat then held.setIfInBounds (c.toNat - first) true else held)
    (Array.replicate count false)
  (Array.range count).filterMap fun n =>
    if held.getD n true then none else some (Char.ofNat (first + n))

end Table

example : (Table.ofPieces [(1, ["ab"]), (5, ["c"])]).get? 5 = some 'c' := by decide +kernel
example : (Table.ofPieces [(1, ["ab"]), (5, ["c"])]).get? 4 = none := by decide +kernel
example : (Table.ofPieces [(0, ["ac"])]).leftOut 97 4 = #['b', 'd'] := by decide +kernel

end MailIntake.Charset
