import MailIntake.Address.Ip
/-!
The text form of the PROXY header: `PROXY`, a family, the addresses of source and destination, and
their ports.
-/
namespace MailIntake

open Text Address

/-- The family of both addresses of a header. -/
inductive ProxyFamily
  | tcp4
  | tcp6
deriving DecidableEq, Repr

/-- What a PROXY line says about the connection behind the proxy. -/
structure ProxyHeader where
  family : ProxyFamily
  source : Endpoint
  destination : Endpoint
deriving DecidableEq, Repr

/-- What is wrong with a PROXY line, by the first field that does not fit. -/
inductive ProxyError
  | malformed
  | protocol (text : String)
  | sourceAddress (text : String)
  | destinationAddress (text : String)
  | sourcePort (text : String)
  | destinationPort (text : String)
deriving DecidableEq, Repr

def ProxyError.message : ProxyError → String
  | .malformed => "Couldn't decode the command."
  | .protocol text => "Invalid protocol " ++ text
  | .sourceAddress text => "Couldn't parse source address " ++ text
  | .destinationAddress text => "Couldn't parse destination address " ++ text
  | .sourcePort text => "Couldn't parse source port " ++ text
  | .destinationPort text => "Couldn't parse destination port " ++ text

namespace ProxyHeader

/-- The family of a name; its case matters. -/
def family? (text : String) : Option ProxyFamily :=
  if text = "TCP4" then some .tcp4 else if text = "TCP6" then some .tcp6 else none

def address? : ProxyFamily → String → Option Ip
  | .tcp4, text => (V4.parse? text).map .v4
  | .tcp6, text => (V6.parse? text).map .v6

/-- A port: one to five digits without a sign or a leading zero. -/
def port? (text : String) : Option UInt16 :=
  match text.toList with
  | [] => none
  | d :: more =>
      if 4 < more.length ∨ (d = '0' ∧ more ≠ []) then none else readPort (d :: more)

/-- A value, or the error that its absence is. -/
def orError {A : Type} (error : ProxyError) : Option A → Except ProxyError A
  | some a => .ok a
  | none => .error error

/-- The header in the words of a line. -/
def ofFields : List String → Except ProxyError ProxyHeader
  | [verb, family, source, destination, sourcePort, destinationPort] => do
      if ¬ Ascii.sameIgnoringCase verb "PROXY" then throw .malformed
      let f ← orError (.protocol family) (family? family)
      let src ← orError (.sourceAddress source) (address? f source)
      let dst ← orError (.destinationAddress destination) (address? f destination)
      let srcPort ← orError (.sourcePort sourcePort) (port? sourcePort)
      let dstPort ← orError (.destinationPort destinationPort) (port? destinationPort)
      return ⟨f, ⟨src, srcPort⟩, ⟨dst, dstPort⟩⟩
  | _ => .error .malformed

def parse (line : String) : Except ProxyError ProxyHeader :=
  ofFields (Ascii.words line)

end ProxyHeader
end MailIntake
