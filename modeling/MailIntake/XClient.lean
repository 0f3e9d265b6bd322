import MailIntake.Address.Ip
import MailIntake.Text.Xtext
/-!
The attributes by which a trusted client of the server speaks for another one: `NAME=value` pairs
whose values are xtext.
-/
namespace MailIntake

open Text Address

inductive XClientProto
  | smtp
  | esmtp
deriving DecidableEq, Repr

structure XClientAttributes where
  addr : Option Ip := none
  port : Option UInt16 := none
  proto : Option XClientProto := none
  helo : Option String := none
  login : Option String := none
deriving DecidableEq, Repr

/-- What is wrong with an attribute list, by its first attribute that does not fit. -/
inductive XClientError
  | empty
  | malformed (argument : String)
  | unknownAttribute (name : String)
  | invalidAddress (value : String)
  | invalidPort (value : String)
  | invalidProto (value : String)
deriving DecidableEq, Repr

def XClientError.message : XClientError → String
  | .empty => "Couldn't decode the command."
  | .malformed argument => "Couldn't decode attribute " ++ argument
  | .unknownAttribute name => "Unsupported attribute " ++ name
  | .invalidAddress value => "Couldn't parse address " ++ value
  | .invalidPort value => "Couldn't parse port " ++ value
  | .invalidProto value => "Unsupported protocol " ++ value

namespace XClientAttributes

/-- The attribute names in the order in which the greeting lists them. -/
def advertised : String := "NAME ADDR PORT PROTO HELO LOGIN"

/-- Values that say that there is none. -/
def isUnavailable (value : String) : Bool :=
  value == "[UNAVAILABLE]" || value == "[TEMPUNAVAIL]"

/-- The text of an address without the tag of IPv6, which is in upper or lower case. -/
def withoutTag (value : String) : String :=
  match afterHead? "IPV6:".toList value.toList with
  | some rest => String.ofList rest
  | none =>
      match afterHead? "ipv6:".toList value.toList with
      | some rest => String.ofList rest
      | none => value

/-- The protocol of a name in any case. -/
def protoOf (value : String) : Except XClientError XClientProto :=
  if Ascii.sameIgnoringCase value "SMTP" then .ok .smtp
  else if Ascii.sameIgnoringCase value "ESMTP" then .ok .esmtp
  else .error (.invalidProto value)

/-- Name and value of an argument. -/
def pair (argument : String) : Except XClientError (String × String) :=
  match cutOnce (· == '=') argument.toList with
  | none => .error (.malformed argument)
  | some (name, value) =>
      match Xtext.decode? (String.ofList value) with
      | none => .error (.malformed argument)
      | some value => .ok (Ascii.upper (String.ofList name), value)

/-- The attributes after one more, whose value is available. -/
def assign (attrs : XClientAttributes) (name value : String) :
    Except XClientError XClientAttributes :=
  if name = "NAME" then .ok attrs
  else if name = "ADDR" then
    match Ip.parse? (withoutTag value) with
    | some ip => .ok { attrs with addr := some ip }
    | none => .error (.invalidAddress value)
  else if name = "PORT" then
    match Ascii.boundedNumber? 65536 value.toList with
    | some port => .ok { attrs with port := some (UInt16.ofNat port) }
    | none => .error (.invalidPort value)
  else if name = "PROTO" then
    (protoOf value).map fun p => { attrs with proto := some p }
  else if name = "HELO" then .ok { attrs with helo := some value }
  else if name = "LOGIN" then .ok { attrs with login := some value }
  else .error (.unknownAttribute name)

def names : List String := ["NAME", "ADDR", "PORT", "PROTO", "HELO", "LOGIN"]

/-- The attributes after one more argument.  An unavailable value of a known attribute sets
nothing. -/
def add (attrs : XClientAttributes) (argument : String) :
    Except XClientError XClientAttributes := do
  let (name, value) ← pair argument
  if names.contains name && isUnavailable value then return attrs
  assign attrs name value

/-- The attributes of a list, read from left to right; a later value replaces an earlier one. -/
def parse (arguments : List String) : Except XClientError XClientAttributes :=
  if arguments.isEmpty then .error .empty else arguments.foldlM add {}

end XClientAttributes
end MailIntake
