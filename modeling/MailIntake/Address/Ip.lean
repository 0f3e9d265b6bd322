import MailIntake.Text.Ascii
/-!
Internet addresses of both families: their values, the texts that denote them and the one text in
which each is written.  An IPv6 address is written with the first of its longest runs of zero
groups left out, and in the mixed form when it maps an IPv4 address.
-/
namespace MailIntake.Address

open Text

/-- An IPv4 address, its octets from left to right. -/
structure V4 where
  first : UInt8
  second : UInt8
  third : UInt8
  fourth : UInt8
deriving DecidableEq, Repr

/-- An IPv6 address: eight groups of sixteen bits. -/
structure V6 where
  groups : List UInt16
  length_groups : groups.length = 8
deriving DecidableEq, Repr

/-- An internet address of either family. -/
inductive Ip
  | v4 (address : V4)
  | v6 (address : V6)
deriving DecidableEq, Repr

/-- The two groups that hold an IPv4 address at the end of an IPv6 text. -/
def V4.groups (a : V4) : List UInt16 :=
  [a.first.toUInt16 * 256 + a.second.toUInt16, a.third.toUInt16 * 256 + a.fourth.toUInt16]

/-- The rest of a text after one given character. -/
def afterChar? (c : Char) : List Char → Option (List Char)
  | [] => none
  | d :: rest => if d = c then some rest else none

/-- The number at the head of a text: one to three decimal digits in one run, no leading zero,
below 256. -/
def readOctet (text : List Char) : Option (UInt8 × List Char) :=
  let digits := text.takeWhile Char.isDigit
  match digits with
  | [] => none
  | d :: more =>
      if digits.length ≤ 3 ∧ (d ≠ '0' ∨ more = []) then
        match Ascii.number? digits with
        | some value =>
            if value < 256 then some (UInt8.ofNat value, text.dropWhile Char.isDigit) else none
        | none => none
      else none

/-- The IPv4 address at the head of a text, and what follows it. -/
def readV4 (text : List Char) : Option (V4 × List Char) := do
  let (a, text) ← readOctet text
  let (b, text) ← readOctet (← afterChar? '.' text)
  let (c, text) ← readOctet (← afterChar? '.' text)
  let (d, text) ← readOctet (← afterChar? '.' text)
  return (⟨a, b, c, d⟩, text)

def isHexDigit (c : Char) : Bool :=
  (Ascii.hexDigit? c).isSome

/-- The number that hexadecimal digits write. -/
def hexNumber (digits : List Char) : Nat :=
  digits.foldl (fun value c => value * 16 + (Ascii.hexDigit? c).getD 0) 0

/-- The group at the head of a text: one to four hexadecimal digits in one run. -/
def readGroup (text : List Char) : Option (UInt16 × List Char) :=
  let digits := text.takeWhile isHexDigit
  if digits.length = 0 ∨ 4 < digits.length then none
  else some (UInt16.ofNat (hexNumber digits), text.dropWhile isHexDigit)

/-- Groups with colons between them from the head of a text, at most `room` of them; `first` says
that no colon stands before the next one.  An IPv4 address may end the groups where two of them
have room, which the second component reports. -/
def readGroups : Nat → Bool → List Char → List UInt16 × Bool × List Char
  | 0, _, text => ([], false, text)
  | room + 1, first, text =>
      match if first then some text else afterChar? ':' text with
      | none => ([], false, text)
      | some here =>
          match if 0 < room then readV4 here else none with
          | some (a, rest) => (a.groups, true, rest)
          | none =>
              match readGroup here with
              | none => ([], false, text)
              | some (group, rest) =>
                  let (groups, mixed, rest) := readGroups room false rest
                  (group :: groups, mixed, rest)

/-- The IPv6 address of eight groups, if there are eight. -/
def V6.ofGroups? (groups : List UInt16) : Option V6 :=
  if h : groups.length = 8 then some ⟨groups, h⟩ else none

/-- The IPv6 address at the head of a text, and what follows it.  Two colons stand for one zero
group or more; the groups before them do not end in an IPv4 address. -/
def readV6 (text : List Char) : Option (V6 × List Char) :=
  let (front, mixed, rest) := readGroups 8 true text
  if front.length = 8 then (V6.ofGroups? front).map fun a => (a, rest)
  else if mixed then none
  else do
    let rest ← afterChar? ':' (← afterChar? ':' rest)
    let (back, _, rest) := readGroups (7 - front.length) true rest
    let zeros := List.replicate (8 - front.length - back.length) 0
    let a ← V6.ofGroups? (front ++ zeros ++ back)
    return (a, rest)

def whole? {A : Type} (read : List Char → Option (A × List Char)) (text : String) : Option A :=
  match read text.toList with
  | some (a, []) => some a
  | _ => none

def V4.parse? (text : String) : Option V4 :=
  whole? readV4 text

def V6.parse? (text : String) : Option V6 :=
  whole? readV6 text

/-- The address at the head of a text, of the first family that has one there. -/
def readIp (text : List Char) : Option (Ip × List Char) :=
  match readV4 text with
  | some (a, rest) => some (.v4 a, rest)
  | none => (readV6 text).map fun (a, rest) => (.v6 a, rest)

def Ip.parse? (text : String) : Option Ip :=
  match V4.parse? text with
  | some a => some (.v4 a)
  | none => (V6.parse? text).map .v6

/-- An IPv4 address in dotted decimal form. -/
def V4.render (a : V4) : String :=
  ".".intercalate [toString a.first.toNat, toString a.second.toNat, toString a.third.toNat,
    toString a.fourth.toNat]

/-- Groups in lower case hexadecimal with colons between them. -/
def renderGroups (groups : List UInt16) : String :=
  ":".intercalate (groups.map fun g => Ascii.hexText g.toNat)

/-- How many zero groups stand at the head. -/
def zerosAt (groups : List UInt16) : Nat :=
  (groups.takeWhile (· == 0)).length

/-- Start and length of the first of the longest runs of zero groups. -/
def longestZeros (groups : List UInt16) : Nat × Nat :=
  (List.range groups.length).foldl
    (fun best start =>
      let run := zerosAt (groups.drop start)
      if best.2 < run then (start, run) else best)
    (0, 0)

/-- An IPv6 address as it is written.  A run of zeros is left out only if it is longer than one
group. -/
def V6.render (a : V6) : String :=
  match a.groups with
  | [0, 0, 0, 0, 0, 0xffff, high, low] =>
      "::ffff:" ++ V4.render ⟨(high >>> 8).toUInt8, high.toUInt8, (low >>> 8).toUInt8, low.toUInt8⟩
  | groups =>
      let (start, run) := longestZeros groups
      if 1 < run then
        renderGroups (groups.take start) ++ "::" ++ renderGroups (groups.drop (start + run))
      else renderGroups groups

def Ip.render : Ip → String
  | .v4 a => a.render
  | .v6 a => a.render

structure Endpoint where
  ip : Ip
  port : UInt16
deriving DecidableEq, Repr

/-- An endpoint as it is written: an IPv6 address stands in brackets. -/
def Endpoint.render (e : Endpoint) : String :=
  match e.ip with
  | .v4 a => a.render ++ ":" ++ toString e.port.toNat
  | .v6 a => "[" ++ a.render ++ "]:" ++ toString e.port.toNat

/-- The port at the end of an endpoint's text: decimal digits, leading zeros allowed. -/
def readPort (text : List Char) : Option UInt16 :=
  match Ascii.number? text with
  | some value => if value < 65536 then some (UInt16.ofNat value) else none
  | none => none

/-- The text behind a scope, if one stands at its head: a percent sign and a number of 32 bits in
decimal digits.  It does not change the address. -/
def afterScope? (text : List Char) : Option (List Char) :=
  match text with
  | '%' :: rest =>
      let digits := rest.takeWhile Char.isDigit
      match Ascii.number? digits with
      | some scope => if scope < UInt32.size then some (rest.drop digits.length) else none
      | none => none
  | _ => some text

def Endpoint.parse? (text : String) : Option Endpoint :=
  match text.toList with
  | '[' :: rest => do
      let (a, rest) ← readV6 rest
      let port ← readPort (← afterChar? ':' (← afterChar? ']' (← afterScope? rest)))
      return ⟨.v6 a, port⟩
  | chars => do
      let (a, rest) ← readV4 chars
      let port ← readPort (← afterChar? ':' rest)
      return ⟨.v4 a, port⟩

example : (V6.parse? "1:0:0:2::").map V6.render = some "1:0:0:2::" := by decide +kernel
example : (V6.parse? "::ffff:1.2.3.4").map V6.render = some "::ffff:1.2.3.4" := by decide +kernel
example : (V6.parse? "2001:DB8:0:0:1:0:0:1").map V6.render = some "2001:db8::1:0:0:1" := by
  decide +kernel
example : V4.parse? "1.2.3.04" = none := by decide +kernel
example : (Endpoint.parse? "[::1]:25").map Endpoint.render = some "[::1]:25" := by decide +kernel
example : (Endpoint.parse? "[::1%0]:25").map Endpoint.render = some "[::1]:25" := by decide +kernel

end MailIntake.Address
