/-!
The digest SHA-512 of a row of bytes.  The message is filled up to whole blocks of 128 bytes with a
mark, zeros and its length; each block is mixed into a state of eight words.
-/
namespace MailIntake.Key.Sha512

/-- The first bits behind the point of the cube roots of the first eighty primes. -/
def roundConstants : List UInt64 :=
  [0x428A2F98D728AE22, 0x7137449123EF65CD, 0xB5C0FBCFEC4D3B2F, 0xE9B5DBA58189DBBC,
    0x3956C25BF348B538, 0x59F111F1B605D019, 0x923F82A4AF194F9B, 0xAB1C5ED5DA6D8118,
    0xD807AA98A3030242, 0x12835B0145706FBE, 0x243185BE4EE4B28C, 0x550C7DC3D5FFB4E2,
    0x72BE5D74F27B896F, 0x80DEB1FE3B1696B1, 0x9BDC06A725C71235, 0xC19BF174CF692694,
    0xE49B69C19EF14AD2, 0xEFBE4786384F25E3, 0x0FC19DC68B8CD5B5, 0x240CA1CC77AC9C65,
    0x2DE92C6F592B0275, 0x4A7484AA6EA6E483, 0x5CB0A9DCBD41FBD4, 0x76F988DA831153B5,
    0x983E5152EE66DFAB, 0xA831C66D2DB43210, 0xB00327C898FB213F, 0xBF597FC7BEEF0EE4,
    0xC6E00BF33DA88FC2, 0xD5A79147930AA725, 0x06CA6351E003826F, 0x142929670A0E6E70,
    0x27B70A8546D22FFC, 0x2E1B21385C26C926, 0x4D2C6DFC5AC42AED, 0x53380D139D95B3DF,
    0x650A73548BAF63DE, 0x766A0ABB3C77B2A8, 0x81C2C92E47EDAEE6, 0x92722C851482353B,
    0xA2BFE8A14CF10364, 0xA81A664BBC423001, 0xC24B8B70D0F89791, 0xC76C51A30654BE30,
    0xD192E819D6EF5218, 0xD69906245565A910, 0xF40E35855771202A, 0x106AA07032BBD1B8,
    0x19A4C116B8D2D0C8, 0x1E376C085141AB53, 0x2748774CDF8EEB99, 0x34B0BCB5E19B48A8,
    0x391C0CB3C5C95A63, 0x4ED8AA4AE3418ACB, 0x5B9CCA4F7763E373, 0x682E6FF3D6B2B8A3,
    0x748F82EE5DEFB2FC, 0x78A5636F43172F60, 0x84C87814A1F0AB72, 0x8CC702081A6439EC,
    0x90BEFFFA23631E28, 0xA4506CEBDE82BDE9, 0xBEF9A3F7B2C67915, 0xC67178F2E372532B,
    0xCA273ECEEA26619C, 0xD186B8C721C0C207, 0xEADA7DD6CDE0EB1E, 0xF57D4F7FEE6ED178,
    0x06F067AA72176FBA, 0x0A637DC5A2C898A6, 0x113F9804BEF90DAE, 0x1B710B35131C471B,
    0x28DB77F523047D84, 0x32CAAB7B40C72493, 0x3C9EBE0A15C9BEBC, 0x431D67C49C100D4C,
    0x4CC5D4BECB3E42B6, 0x597F299CFC657E2A, 0x5FCB6FAB3AD6FAEC, 0x6C44198C4A475817]

/-- Eight words. -/
structure State where
  a : UInt64
  b : UInt64
  c : UInt64
  d : UInt64
  e : UInt64
  f : UInt64
  g : UInt64
  h : UInt64
deriving DecidableEq, Repr

namespace State

/-- The first bits behind the point of the square roots of the first eight primes. -/
def initial : State where
  a := 0x6A09E667F3BCC908
  b := 0xBB67AE8584CAA73B
  c := 0x3C6EF372FE94F82B
  d := 0xA54FF53A5F1D36F1
  e := 0x510E527FADE682D1
  f := 0x9B05688C2B3E6C1F
  g := 0x1F83D9ABFB41BD6B
  h := 0x5BE0CD19137E2179

/-- The sums of words at the same place. -/
def add (s t : State) : State where
  a := s.a + t.a
  b := s.b + t.b
  c := s.c + t.c
  d := s.d + t.d
  e := s.e + t.e
  f := s.f + t.f
  g := s.g + t.g
  h := s.h + t.h

def words (s : State) : List UInt64 :=
  [s.a, s.b, s.c, s.d, s.e, s.f, s.g, s.h]

end State

def rotate (word count : UInt64) : UInt64 :=
  (word >>> count) ||| (word <<< (64 - count))

def round (s : State) (word constant : UInt64) : State :=
  let chosen := (s.e &&& s.f) ^^^ (~~~s.e &&& s.g)
  let majority := (s.a &&& s.b) ^^^ (s.a &&& s.c) ^^^ (s.b &&& s.c)
  let first := s.h + (rotate s.e 14 ^^^ rotate s.e 18 ^^^ rotate s.e 41) + chosen + constant + word
  let second := (rotate s.a 28 ^^^ rotate s.a 34 ^^^ rotate s.a 39) + majority
  { a := first + second, b := s.a, c := s.b, d := s.c
    e := s.d + first, f := s.e, g := s.f, h := s.g }

def nextWord : List UInt64 → UInt64
  | [w, x, _, _, _, _, _, _, _, y, _, _, _, _, z, _] =>
      w + (rotate x 1 ^^^ rotate x 8 ^^^ (x >>> 7)) + y
        + (rotate z 19 ^^^ rotate z 61 ^^^ (z >>> 6))
  | _ => 0

/-- Rounds with these constants; the next sixteen words of the schedule are at hand. -/
def rounds : List UInt64 → List UInt64 → State → State
  | constant :: constants, word :: window, s =>
      rounds constants (window ++ [nextWord (word :: window)]) (round s word constant)
  | _, _, s => s

def wordOf (bytes : List UInt8) : UInt64 :=
  bytes.foldl (fun word b => (word <<< 8) ||| b.toUInt64) 0

/-- The bytes in pieces of a length.  The count bounds how many pieces there are. -/
def piecesFrom (length : Nat) : Nat → List UInt8 → List (List UInt8)
  | _, [] => []
  | 0, _ :: _ => []
  | more + 1, bytes => bytes.take length :: piecesFrom length more (bytes.drop length)

def pieces (length : Nat) (bytes : List UInt8) : List (List UInt8) :=
  piecesFrom length bytes.length bytes

def mix (s : State) (block : List UInt8) : State :=
  s.add (rounds roundConstants ((pieces 8 block).map wordOf) s)

def bytesOf (word : UInt64) : List UInt8 :=
  [56, 48, 40, 32, 24, 16, 8, 0].map fun shift : UInt64 => (word >>> shift).toUInt8

def padded (message : List UInt8) : List UInt8 :=
  let zeros := 239 - message.length % 128
  message ++ 0x80 :: List.replicate (zeros % 128 + 8) 0
    ++ bytesOf (UInt64.ofNat (message.length * 8))

def digest (message : List UInt8) : List UInt8 :=
  ((pieces 128 (padded message)).foldl mix State.initial).words.flatMap bytesOf

example : (padded []).length = 128 ∧ (padded (List.replicate 112 0)).length = 256 := by
  decide +kernel
example : (digest []).take 4 = [0xCF, 0x83, 0xE1, 0x35] := by decide +kernel

end MailIntake.Key.Sha512
