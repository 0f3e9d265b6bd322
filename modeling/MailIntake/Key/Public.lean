import MailIntake.Key.Curve
/-!
Public keys and how certificates describe them: the algorithm of the key, and the key as a row of
bits.  Two keys are the same if their descriptions are.
-/
namespace MailIntake.Key

open Der

inductive PublicKey
  | rsa (modulus exponent : Nat)
  | curve (curve : Curve) (point : Point)
  | edwards (bytes : List UInt8)
deriving DecidableEq, Repr

namespace PublicKey

def rsaId : List UInt8 := [0x2A, 0x86, 0x48, 0x86, 0xF7, 0x0D, 0x01, 0x01, 0x01]

def curveId : List UInt8 := [0x2A, 0x86, 0x48, 0xCE, 0x3D, 0x02, 0x01]

def edwardsId : List UInt8 := [0x2B, 0x65, 0x70]

def algorithm : PublicKey → List UInt8
  | rsa _ _ => write Tag.objectId rsaId ++ write Tag.null []
  | curve c _ => write Tag.objectId curveId ++ write Tag.objectId c.id
  | edwards _ => write Tag.objectId edwardsId

def bits : PublicKey → List UInt8
  | rsa modulus exponent => write Tag.sequence (writeNatural modulus ++ writeNatural exponent)
  | curve c point => c.longForm point
  | edwards bytes => bytes

def info (key : PublicKey) : List UInt8 :=
  write Tag.sequence key.algorithm ++ writeBits key.bits

example : (edwards [1, 2]).info =
    [0x30, 0x05, 0x06, 0x03, 0x2B, 0x65, 0x70, 0x03, 0x03, 0x00, 0x01, 0x02] := by decide +kernel

end PublicKey

end MailIntake.Key
