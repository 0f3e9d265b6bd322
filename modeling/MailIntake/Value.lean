/-!
Values as configuration texts hold them, before anyone asks what they mean.
-/
namespace MailIntake

/-- A value.  A table lists its entries in the order of the text; of two entries with one key the
last one counts. -/
inductive Value
  | null
  | bool (b : Bool)
  | integer (n : Int)
  | float (x : Float)
  | text (s : String)
  /-- A date, a time or both, in normal form. -/
  | moment (s : String)
  | array (items : List Value)
  | table (entries : List (String × Value))

def Value.lookup (entries : List (String × Value)) (key : String) : Option Value :=
  (entries.reverse.find? fun entry => entry.1 == key).map Prod.snd

/-- The value of a key, if the value is a table that has it. -/
def Value.field? (v : Value) (key : String) : Option Value :=
  match v with
  | .table entries => lookup entries key
  | _ => none

end MailIntake
