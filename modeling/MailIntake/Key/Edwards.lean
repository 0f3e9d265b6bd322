import MailIntake.Der
import MailIntake.Key.Residue
import MailIntake.Key.Sha512
/-!
The curve `y² - x² = 1 + d x² y²` of Ed25519.  A key is drawn from 32 bytes: their digest gives a
number, and that many times the base point, written as 32 bytes, is the public key.
-/
namespace MailIntake.Key.Edwards

open Residue

def prime : Nat := 0x7FFFFFFFFFFFFFFFFFFFFFFFFFFFFFFFFFFFFFFFFFFFFFFFFFFFFFFFFFFFFFED

/-- The number `d` of the curve. -/
def coefficient : Nat := div prime (prime - 121665) 121666

structure Point where
  x : Nat
  y : Nat
deriving DecidableEq, Repr

def zero : Point := ⟨0, 1⟩

def base : Point where
  x := 0x216936D3CD6E53FEC0A4E231FDD6DC5C692CC7609525A7B2C9562D608F25D51A
  y := 0x6666666666666666666666666666666666666666666666666666666666666658

def add (p q : Point) : Point :=
  let skew := coefficient * (p.x * q.x % prime) % prime * (p.y * q.y % prime) % prime
  { x := div prime (p.x * q.y + p.y * q.x) (1 + skew)
    y := div prime (p.y * q.y + p.x * q.x) (sub prime 1 skew) }

/-- A point as 32 bytes: the lowest byte of `y` comes first, and the highest bit says whether `x` is
odd. -/
def Point.bytes (p : Point) : List UInt8 :=
  (Der.toBytes 32 (p.y + p.x % 2 * (prime + 19))).reverse

/-- The number drawn from 32 bytes: bits at either end of the digest are fixed. -/
def secret (seed : List UInt8) : Nat :=
  let n := Der.ofBytes ((Sha512.digest seed).take 32).reverse
  let half := (prime + 19) / 2
  half + n % half / 8 * 8

def publicKey (seed : List UInt8) : List UInt8 :=
  (times add zero (secret seed) base).bytes

example : add base zero = base := by decide +kernel

end MailIntake.Key.Edwards
