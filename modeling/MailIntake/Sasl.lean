import MailIntake.Text.Ascii
import MailIntake.Text.Utf8
import MailIntake.Text.Blank
import MailIntake.Text.Base64
/-!
The two mechanisms of `AUTH`: their names, the texts in which credentials travel, and what is
wrong with a text that holds none.
-/
namespace MailIntake.Sasl

open Text

inductive Mechanism
  /-- All credentials in one response. -/
  | plain
  /-- User name and password in two responses. -/
  | login
deriving DecidableEq, Repr

/-- Why no credentials came out of an exchange. -/
inductive Error
  | unsupportedMechanism (name : String)
  | invalidBase64
  | invalidUtf8
  | malformed
deriving DecidableEq, Repr

/-- The text of the error; how credentials fail to decode is not told to the client. -/
def Error.message : Error → String
  | .unsupportedMechanism name => "Unsupported authentication mechanism " ++ name
  | .invalidBase64 | .invalidUtf8 | .malformed => "Couldn't decode your credentials."

/-- The mechanisms as the greeting lists them. -/
def advertised : String := "PLAIN LOGIN"

/-- The mechanism of a name in any case. -/
def Mechanism.parse (name : String) : Except Error Mechanism :=
  if Ascii.sameIgnoringCase name "PLAIN" then .ok .plain
  else if Ascii.sameIgnoringCase name "LOGIN" then .ok .login
  else .error (.unsupportedMechanism name)

def encodeText (text : String) : String :=
  String.ofList (Base64.encode (Utf8.encode text))

/-- The text behind base64, blanks at either end aside. -/
def decodeText (response : String) : Except Error String :=
  match Base64.decode? (trim response).toList with
  | none => .error .invalidBase64
  | some bytes =>
      match Utf8.decode? bytes with
      | none => .error .invalidUtf8
      | some text => .ok text

structure PlainCredentials where
  authzid : String
  username : String
  password : String
deriving DecidableEq, Repr

/-- The character between the parts of a PLAIN response. -/
def isNul (c : Char) : Bool :=
  c == '\x00'

def encodePlain (c : PlainCredentials) : String :=
  encodeText (c.authzid ++ "\x00" ++ c.username ++ "\x00" ++ c.password)

/-- The credentials in a PLAIN response: three parts, of which the user name is not empty. -/
def decodePlain (response : String) : Except Error PlainCredentials := do
  let text ← decodeText response
  match splitOn isNul text.toList with
  | [authzid, username, password] =>
      if username.isEmpty then .error .malformed
      else .ok ⟨String.ofList authzid, String.ofList username, String.ofList password⟩
  | _ => .error .malformed

/-- A user name or a password as a LOGIN response. -/
def encodeLogin (text : String) : String :=
  encodeText text

/-- The user name or password in a LOGIN response. -/
def decodeLogin (response : String) : Except Error String :=
  decodeText response

/-- The challenge that asks for a user name: base64 of `Username:`. -/
def usernameChallenge : String := "VXNlcm5hbWU6"

/-- The challenge that asks for a password: base64 of `Password:`. -/
def passwordChallenge : String := "UGFzc3dvcmQ6"

example : encodeLogin "Username:" = usernameChallenge := by decide +kernel
example : encodeLogin "Password:" = passwordChallenge := by decide +kernel

end MailIntake.Sasl
