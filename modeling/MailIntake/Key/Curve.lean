import MailIntake.Der
import MailIntake.Key.Residue
/-!
The curves `y² = x³ - 3x + b` over the fields of three primes, which keys may be of.  The private
part of a key is a number, and the public one is that many times the base point.
-/
namespace MailIntake.Key

open Residue

structure Curve where
  /-- The object identifier of the curve. -/
  id : List UInt8
  /-- How many bytes a number of the field takes. -/
  width : Nat
  prime : Nat
  /-- The number `b`. -/
  constant : Nat
  baseX : Nat
  baseY : Nat
  /-- How often the base point has to be added up to get to infinity. -/
  order : Nat
deriving DecidableEq, Repr

inductive Point
  | infinity
  | affine (x y : Nat)
deriving DecidableEq, Repr

namespace Curve

/-- The number that words of 64 bits stand for, the highest first. -/
def ofWords (words : List Nat) : Nat :=
  words.foldl (fun n word => n * 0x10000000000000000 + word) 0

def p256 : Curve where
  id := [0x2A, 0x86, 0x48, 0xCE, 0x3D, 0x03, 0x01, 0x07]
  width := 32
  prime := ofWords
    [0xFFFFFFFF00000001, 0x0000000000000000, 0x00000000FFFFFFFF, 0xFFFFFFFFFFFFFFFF]
  constant := ofWords
    [0x5AC635D8AA3A93E7, 0xB3EBBD55769886BC, 0x651D06B0CC53B0F6, 0x3BCE3C3E27D2604B]
  baseX := ofWords
    [0x6B17D1F2E12C4247, 0xF8BCE6E563A440F2, 0x77037D812DEB33A0, 0xF4A13945D898C296]
  baseY := ofWords
    [0x4FE342E2FE1A7F9B, 0x8EE7EB4A7C0F9E16, 0x2BCE33576B315ECE, 0xCBB6406837BF51F5]
  order := ofWords
    [0xFFFFFFFF00000000, 0xFFFFFFFFFFFFFFFF, 0xBCE6FAADA7179E84, 0xF3B9CAC2FC632551]

def p384 : Curve where
  id := [0x2B, 0x81, 0x04, 0x00, 0x22]
  width := 48
  prime := ofWords
    [0xFFFFFFFFFFFFFFFF, 0xFFFFFFFFFFFFFFFF, 0xFFFFFFFFFFFFFFFF, 0xFFFFFFFFFFFFFFFE,
     0xFFFFFFFF00000000, 0x00000000FFFFFFFF]
  constant := ofWords
    [0xB3312FA7E23EE7E4, 0x988E056BE3F82D19, 0x181D9C6EFE814112, 0x0314088F5013875A,
     0xC656398D8A2ED19D, 0x2A85C8EDD3EC2AEF]
  baseX := ofWords
    [0xAA87CA22BE8B0537, 0x8EB1C71EF320AD74, 0x6E1D3B628BA79B98, 0x59F741E082542A38,
     0x5502F25DBF55296C, 0x3A545E3872760AB7]
  baseY := ofWords
    [0x3617DE4A96262C6F, 0x5D9E98BF9292DC29, 0xF8F41DBD289A147C, 0xE9DA3113B5F0B8C0,
     0x0A60B1CE1D7E819D, 0x7A431D7C90EA0E5F]
  order := ofWords
    [0xFFFFFFFFFFFFFFFF, 0xFFFFFFFFFFFFFFFF, 0xFFFFFFFFFFFFFFFF, 0xC7634D81F4372DDF,
     0x581A0DB248B0A77A, 0xECEC196ACCC52973]

def p521 : Curve where
  id := [0x2B, 0x81, 0x04, 0x00, 0x23]
  width := 66
  prime := ofWords
    [0x00000000000001FF, 0xFFFFFFFFFFFFFFFF, 0xFFFFFFFFFFFFFFFF, 0xFFFFFFFFFFFFFFFF,
     0xFFFFFFFFFFFFFFFF, 0xFFFFFFFFFFFFFFFF, 0xFFFFFFFFFFFFFFFF, 0xFFFFFFFFFFFFFFFF,
     0xFFFFFFFFFFFFFFFF]
  constant := ofWords
    [0x0000000000000051, 0x953EB9618E1C9A1F, 0x929A21A0B68540EE, 0xA2DA725B99B315F3,
     0xB8B489918EF109E1, 0x56193951EC7E937B, 0x1652C0BD3BB1BF07, 0x3573DF883D2C34F1,
     0xEF451FD46B503F00]
  baseX := ofWords
    [0x00000000000000C6, 0x858E06B70404E9CD, 0x9E3ECB662395B442, 0x9C648139053FB521,
     0xF828AF606B4D3DBA, 0xA14B5E77EFE75928, 0xFE1DC127A2FFA8DE, 0x3348B3C1856A429B,
     0xF97E7E31C2E5BD66]
  baseY := ofWords
    [0x0000000000000118, 0x39296A789A3BC004, 0x5C8A5FB42C7D1BD9, 0x98F54449579B4468,
     0x17AFBD17273E662C, 0x97EE72995EF42640, 0xC550B9013FAD0761, 0x353C7086A272C240,
     0x88BE94769FD16650]
  order := ofWords
    [0x00000000000001FF, 0xFFFFFFFFFFFFFFFF, 0xFFFFFFFFFFFFFFFF, 0xFFFFFFFFFFFFFFFF,
     0xFFFFFFFFFFFFFFFA, 0x51868783BF2F966B, 0x7FCC0148F709A5D0, 0x3BB5C9B8899C47AE,
     0xBB6FB71E91386409]

/-- The curves in the order in which they are tried. -/
def all : List Curve := [p256, p384, p521]

/-- The factor of `x` in the equation. -/
def factor (c : Curve) : Nat := c.prime - 3

/-- The third point on the line with a slope through two points, mirrored. -/
def third (c : Curve) (slope x₁ y₁ x₂ : Nat) : Point :=
  let x := sub c.prime (sub c.prime (slope * slope) x₁) x₂
  .affine x (sub c.prime (slope * sub c.prime x₁ x) y₁)

def add (c : Curve) : Point → Point → Point
  | .infinity, q => q
  | p, .infinity => p
  | .affine x₁ y₁, .affine x₂ y₂ =>
      if x₁ ≠ x₂ then
        c.third (div c.prime (sub c.prime y₂ y₁) (sub c.prime x₂ x₁)) x₁ y₁ x₂
      else if (y₁ + y₂) % c.prime = 0 then .infinity
      else c.third (div c.prime (3 * x₁ * x₁ + c.factor) (2 * y₁)) x₁ y₁ x₂

/-- The public point of a private number, which has to be below the order and above zero. -/
def publicPoint? (c : Curve) (secret : Nat) : Option Point :=
  if 0 < secret ∧ secret < c.order then
    some (times c.add .infinity secret (.affine c.baseX c.baseY))
  else none

/-- A point with both its numbers as bytes. -/
def longForm (c : Curve) : Point → List UInt8
  | .infinity => [0]
  | .affine x y => 4 :: Der.toBytes c.width x ++ Der.toBytes c.width y

/-- A point with its first number as bytes, and whether the other one is odd. -/
def shortForm (c : Curve) : Point → List UInt8
  | .infinity => [0]
  | .affine x y => UInt8.ofNat (2 + y % 2) :: Der.toBytes c.width x

example : all.map (fun c => c.publicPoint? 1) =
    all.map fun c => some (.affine c.baseX c.baseY) := by decide +kernel
example : all.map (fun c => (c.baseY * c.baseY + 3 * c.baseX) % c.prime) =
    all.map fun c => (c.baseX * c.baseX * c.baseX + c.constant) % c.prime := by decide +kernel

end Curve

end MailIntake.Key
