import MailIntake.Der
/-!
Certificates: what a certificate has to look like before its key can be compared with another one,
and before it can stand for an authority.  Signatures and dates are not looked at.
-/
namespace MailIntake

open Der

structure Certificate where
  /-- The description of its key: the content of that row of values. -/
  keyInfo : List UInt8
deriving DecidableEq, Repr

namespace Certificate

inductive Purpose
  /-- To tell the key of its holder. -/
  | holder
  /-- To stand for an authority that is trusted anyway. -/
  | authority
deriving DecidableEq, Repr

/-- What is wrong with a certificate. -/
inductive Error
  | malformed
  | unsupportedVersion
  /-- The algorithm inside is not the one of the signature. -/
  | algorithmMismatch
  | repeatedExtension
  /-- An extension of a holder's certificate has to be understood and is not. -/
  | unsupportedExtension
deriving DecidableEq, Repr

def Error.message : Error → String
  | .malformed => "BadEncoding"
  | .unsupportedVersion => "Other(OtherError(UnsupportedCertVersion))"
  | .algorithmMismatch => "Other(OtherError(SignatureAlgorithmMismatch))"
  | .repeatedExtension => "Other(OtherError(ExtensionValueInvalid))"
  | .unsupportedExtension => "Other(OtherError(UnsupportedCriticalExtension))"

def require {A : Type} : Option A → Except Error A
  | some a => .ok a
  | none => .error .malformed

def maxSize : Nat := 65538

/-- Bits that fill whole bytes. -/
def wholeBytes : Reader Unit := do
  guard ((← value Tag.bitString).head? = some 0)

def signed : Reader (List UInt8 × List UInt8) := do
  let body ← value Tag.sequence
  let algorithm ← value Tag.sequence
  wholeBytes
  return (body, algorithm)

/-- What follows the version, which is written as the number before it. -/
def behindVersion (body : List UInt8) : Except Error (List UInt8) :=
  match value (Tag.part 0) body with
  | none => .error .unsupportedVersion
  | some (content, rest) => do
      let (version, more) ← require (natural content)
      if 0xFF < version then throw .malformed
      else if version ≠ 2 ∨ more ≠ [] then throw .unsupportedVersion
      else return rest

/-- The serial number, which may be any, and the algorithm of the signature. -/
def opening : Reader (List UInt8) := do
  let _ ← value Tag.integer
  value Tag.sequence

/-- Issuer, span of validity and subject, and the description of the key. -/
def middle : Reader (List UInt8) := do
  let _issuer ← value Tag.sequence
  let _validity ← value Tag.sequence
  let _subject ← value Tag.sequence
  value Tag.sequence

/-! ## Extensions -/

structure Extension where
  id : List UInt8
  /-- Whether it has to be understood. -/
  critical : Bool
  content : List UInt8
deriving DecidableEq, Repr

/-- A truth value that is false if left out. -/
def flag : Reader Bool := do
  match ← value? Tag.boolean with
  | none | some [0x00] => return false
  | some [0xFF] => return true
  | some _ => failure

def Extension.read : Reader Extension := do
  let id ← value Tag.objectId
  let critical ← flag
  let content ← value Tag.octetString
  return { id, critical, content }

/-- The number of the extension that says what the key is for. -/
def keyUsage : UInt8 := 15

/-- The numbers of the extensions that are understood: use of the key, other names, basic
constraints, constraints on names, places of revocation lists, further uses. -/
def understood : List UInt8 := [keyUsage, 17, 19, 30, 31, 37]

/-- The number of an extension that is understood. -/
def Extension.number? (e : Extension) : Option UInt8 :=
  match e.id with
  | [0x55, 0x1D, n] => if n ∈ understood then some n else none
  | _ => none

/-- Takes an extension beside those that have been seen.  The use of the key may have any content;
all others hold one row of values. -/
def Extension.take (e : Extension) (purpose : Purpose) (seen : List UInt8) :
    Except Error (List UInt8) :=
  match e.number? with
  | none =>
      if e.critical ∧ purpose = .holder then .error .unsupportedExtension else .ok seen
  | some n =>
      if n ∈ seen then .error .repeatedExtension
      else if n ≠ keyUsage ∧ (whole (value Tag.sequence) e.content).isNone then .error .malformed
      else .ok (n :: seen)

/-- Takes a row of extensions.  The count bounds how many there are. -/
def takeExtensions (purpose : Purpose) : Nat → List UInt8 → List UInt8 → Except Error Unit
  | _, _, [] => .ok ()
  | 0, _, _ :: _ => .error .malformed
  | more + 1, seen, data => do
      let (content, rest) ← require (value Tag.sequence data)
      let (extension, excess) ← require (Extension.read content)
      let seen ← extension.take purpose seen
      if excess ≠ [] then throw .malformed
      takeExtensions purpose more seen rest

/-- Looks at what follows the description of the key: extensions or nothing. -/
def checkExtensions (purpose : Purpose) (data : List UInt8) : Except Error Unit := do
  if data ≠ [] then
    let (part, excess) ← require (value (Tag.part 3) data)
    let (extensions, behind) ← require (value Tag.sequence part)
    takeExtensions purpose extensions.length [] extensions
    if behind ≠ [] ∨ excess ≠ [] then throw .malformed

/-! ## Certificates -/

/-- Reads a certificate of the third version. -/
def read (purpose : Purpose) (data : List UInt8) : Except Error Certificate := do
  if maxSize < data.length then throw .malformed
  let (body, algorithm) ← require (whole (row signed) data)
  let rest ← behindVersion body
  let (inner, rest) ← require (opening rest)
  if inner ≠ algorithm then throw .algorithmMismatch
  let (keyInfo, rest) ← require (middle rest)
  checkExtensions purpose rest
  return { keyInfo }

/-- The form of a certificate of the first version, which has neither version nor extensions. -/
def firstVersion : Reader Unit := row do
  row do
    let _ ← opening
    let _ ← middle
  let _ ← value Tag.sequence
  let _ ← value Tag.bitString

/-- Checks that a certificate can stand for an authority: it may also be of the first version. -/
def checkAuthority (data : List UInt8) : Except Error Unit :=
  match read .authority data with
  | .ok _ => .ok ()
  | .error .unsupportedVersion => require (whole firstVersion data)
  | .error e => .error e

example : (read .holder [0x30, 0x00]).toOption = none := by decide +kernel
example : ((⟨[0x55, 0x1D, 17], false, [0x30, 0x00]⟩ : Extension).take .holder [17]).toOption =
    none := by decide +kernel
example : ((⟨[0x55, 0x1D, 18], true, []⟩ : Extension).take .authority []).toOption = some [] := by
  decide +kernel

end Certificate

end MailIntake
