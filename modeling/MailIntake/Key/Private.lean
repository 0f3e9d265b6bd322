import MailIntake.Key.Edwards
import MailIntake.Key.Public
/-!
Private keys.  A key is taken if its numbers belong together, and then its public key is known: RSA
keys of 2048 to 8192 bits, keys of the three curves and Ed25519 keys.
-/
namespace MailIntake.Key

open Der

/-- How a private key is written: as the numbers of an RSA key, as a number of a curve, or as one of
these under the name of its algorithm. -/
inductive Form
  | rsa
  | curve
  | named
deriving DecidableEq, Repr

/-! ## RSA -/

structure RsaNumbers where
  modulus : Nat
  publicExponent : Nat
  privateExponent : Nat
  prime₁ : Nat
  prime₂ : Nat
  exponent₁ : Nat
  exponent₂ : Nat
  coefficient : Nat
deriving DecidableEq, Repr

namespace RsaNumbers

def read : Reader RsaNumbers := row do
  guard ((← natural) = 0)
  return {
    modulus := ← natural
    publicExponent := ← natural
    privateExponent := ← natural
    prime₁ := ← natural
    prime₂ := ← natural
    exponent₁ := ← natural
    exponent₂ := ← natural
    coefficient := ← natural }

def bitCount (n : Nat) : Nat :=
  if n = 0 then 0 else n.log2 + 1

/-- Whether `b` is below `m` and gives one when multiplied with `a` modulo `m`. -/
def areInverse (m a b : Nat) : Bool :=
  b < m && a * b % m == 1

/-- Whether the sizes are those of keys in use. -/
def hasUsualSize (k : RsaNumbers) : Bool :=
  2048 ≤ bitCount k.modulus && bitCount k.modulus ≤ 8192
    && 2 ≤ bitCount k.publicExponent && bitCount k.publicExponent ≤ 33

def belongTogether (k : RsaNumbers) : Bool :=
  k.modulus % 2 == 1 && k.publicExponent % 2 == 1
    && k.prime₁ < k.modulus && k.prime₂ < k.modulus && k.prime₁ * k.prime₂ == k.modulus
    && k.privateExponent < k.modulus
    && k.privateExponent * k.publicExponent % (k.prime₁ - 1) == 1
    && k.privateExponent * k.publicExponent % (k.prime₂ - 1) == 1
    && areInverse (k.prime₁ - 1) k.publicExponent k.exponent₁
    && areInverse (k.prime₂ - 1) k.publicExponent k.exponent₂
    && areInverse k.prime₁ k.prime₂ k.coefficient

def publicKey? (k : RsaNumbers) : Option PublicKey :=
  if k.hasUsualSize && k.belongTogether then some (.rsa k.modulus k.publicExponent) else none

end RsaNumbers

/-! ## Curves -/

namespace Curve

def primeFieldId : List UInt8 := [0x2A, 0x86, 0x48, 0xCE, 0x3D, 0x01, 0x01]

def field : Reader Nat := row do
  guard ((← value Tag.objectId) = primeFieldId)
  natural

/-- The two numbers of an equation; numbers that these were drawn from may follow. -/
def equation : Reader (Nat × Nat) := row do
  let factor ← value Tag.octetString
  let constant ← value Tag.octetString
  let _ ← value? Tag.bitString
  return (ofBytes factor, ofBytes constant)

/-- The two numbers of a point in its long form. -/
def coordinates? : List UInt8 → Option (Nat × Nat)
  | 4 :: bytes =>
      let half := bytes.length / 2
      if bytes.length = half * 2 then some (ofBytes (bytes.take half), ofBytes (bytes.drop half))
      else none
  | _ => none

def described : Reader Curve := row do
  guard ((← natural) = 1)
  let prime ← field
  let (factor, constant) ← equation
  let (baseX, baseY) ← coordinates? (← value Tag.octetString)
  let order ← natural
  let cofactor ← value? Tag.integer
  guard (cofactor.all (· = [1]))
  all.find? fun c => c.prime = prime ∧ c.factor = factor ∧ c.constant = constant ∧ c.baseX = baseX
    ∧ c.baseY = baseY ∧ c.order = order

/-- One of the known curves, by its identifier or by its numbers. -/
def read : Reader Curve := do
  match ← value? Tag.objectId with
  | some id => all.find? (·.id = id)
  | none => described

/-- Reads a private number of the curve and gives its public point.  The curve and the point may be
given beside it, and then have to be the right ones. -/
def secret (c : Curve) : Reader Point := row do
  guard ((← natural) = 1)
  let point ← c.publicPoint? (ofBytes (← value Tag.octetString))
  if let some curve ← value? (Tag.part 0) then
    guard (whole read curve = some c)
  if let some content ← value? (Tag.part 1) then
    let bits ← whole (value Tag.bitString) content
    guard (bits = 0 :: c.longForm point ∨ bits = 0 :: c.shortForm point)
  return point

end Curve

/-! ## Keys under the name of their algorithm -/

structure NamedKey where
  algorithm : List UInt8
  parameters : List UInt8
  content : List UInt8
  /-- The public key, where it is given too. -/
  publicBits : Option (List UInt8)
deriving DecidableEq, Repr

namespace NamedKey

/-- Reads the parts of a key.  Anything may follow them. -/
def read : Reader NamedKey := do
  let version ← natural
  guard (version ≤ 1)
  let (algorithm, parameters) ← value Tag.objectId (← value Tag.sequence)
  let content ← value Tag.octetString
  let _attributes ← value? (Tag.part 0)
  let publicBits ← if version = 1 then value? (Tag.plainPart 1) else pure none
  return { algorithm, parameters, content, publicBits }

/-- The public key of an Ed25519 key; if it is given it has to be the right one. -/
def edwardsKey? (k : NamedKey) : Option PublicKey := do
  let seed ← whole (value Tag.octetString) k.content
  guard (k.parameters = [] ∧ seed.length = 32)
  let bytes := Edwards.publicKey seed
  guard (k.publicBits.all (· = 0 :: bytes))
  return .edwards bytes

def publicKey? (k : NamedKey) : Option PublicKey := do
  if k.algorithm = PublicKey.edwardsId then k.edwardsKey?
  else if k.publicBits.isSome then none
  else if k.algorithm = PublicKey.rsaId then
    guard (k.parameters = write Tag.null [])
    (← whole RsaNumbers.read k.content).publicKey?
  else if k.algorithm = PublicKey.curveId then
    let c ← whole Curve.read k.parameters
    return .curve c (← whole c.secret k.content)
  else none

end NamedKey

/-! ## All forms -/

/-- The public key of a private key that is written in a form, if it can be used.  Anything may
follow the key. -/
def publicKey? (data : List UInt8) : Form → Option PublicKey
  | .rsa => do (← head RsaNumbers.read data).publicKey?
  | .curve => Curve.all.findSome? fun c => (head c.secret data).map (.curve c)
  | .named => do (← head NamedKey.read (← head (value Tag.sequence) data)).publicKey?

end MailIntake.Key
