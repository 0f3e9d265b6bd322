/-!
Refusals: what a checker reports when it does not let a command pass.  A rejection names its reply;
any other trouble is reported under one code with the story of how it came about.
-/
namespace MailIntake

/-- A refusal with the reply it wants. -/
structure Rejection where
  code : UInt16
  message : String
deriving DecidableEq, Repr

def Rejection.render (r : Rejection) : String :=
  toString r.code.toNat ++ " " ++ r.message

/-- What lies at the bottom of some trouble. -/
inductive Cause
  | rejection (rejection : Rejection)
  | message (text : String)
deriving DecidableEq, Repr

def Cause.render : Cause → String
  | .rejection r => r.render
  | .message text => text

/-- A cause and what was being done when it came up, the innermost first. -/
structure Trouble where
  cause : Cause
  contexts : List String := []
deriving DecidableEq, Repr

/-- The whole story, the outermost context first. -/
def Trouble.render (t : Trouble) : String :=
  ": ".intercalate (t.contexts.reverse ++ [t.cause.render])

def Trouble.rejection? (t : Trouble) : Option Rejection :=
  match t.cause with
  | .rejection r => some r
  | .message _ => none

/-- Why a checker did not pass. -/
inductive Refusal
  | reject (rejection : Rejection)
  | other (trouble : Trouble)
deriving DecidableEq, Repr

namespace Refusal

/-- The refusal that some trouble amounts to: a rejection inside it speaks for it. -/
def ofTrouble (t : Trouble) : Refusal :=
  match t.rejection? with
  | some r => .reject r
  | none => .other t

def code : Refusal → UInt16
  | .reject r => r.code
  | .other _ => 502

def message : Refusal → String
  | .reject r => r.message
  | .other t => t.render

def render : Refusal → String
  | .reject r => r.render
  | .other t => t.render

end Refusal
end MailIntake
