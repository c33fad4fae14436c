import OctoHubs.Library.Coercions
import OctoHubs.Library.Decimals

/-! Internet addresses of both versions and networks of them, as they are written. -/

namespace OctoHubs.Library

/-- An address of version six may name its zone. -/
inductive IpAddress
  | v4 (ip : BitVec 32)
  | v6 (ip : BitVec 128) (scopeId : Option String)
deriving DecidableEq

/-- A network is the address that it starts at and the bits that its addresses share. -/
inductive IpNetwork
  | v4 (networkAddress netmask : BitVec 32)
  | v6 (networkAddress netmask : BitVec 128)

def IpNetwork.contains : IpNetwork → IpAddress → Bool
  | .v4 networkAddress netmask, .v4 ip => ip &&& netmask = networkAddress
  | .v6 networkAddress netmask, .v6 ip _ => ip &&& netmask = networkAddress
  | _, _ => false

section Reading

def isDecimal (text : String) : Bool := text ≠ "" && text.toList.all Char.isDigit

def parseOctet (octet : String) : Option Nat :=
  if isDecimal octet && octet.length ≤ 3 && (octet = "0" || octet.toList.head? ≠ some '0') then
    let value := DecimalDigits.ascii.number 0 octet.toList
    if value ≤ 255 then some value else none
  else none

def ipv4FromString (text : String) : Option (BitVec 32) :=
  match (splitAt '.' text).mapM parseOctet with
  | some [first, second, third, fourth] =>
      some (.ofNat 32 (((first * 256 + second) * 256 + third) * 256 + fourth))
  | _ => none

def hexDigit? (c : Char) : Option Nat :=
  if c.isDigit then some (c.toNat - '0'.toNat)
  else if 'a' ≤ c ∧ c ≤ 'f' then some (c.toNat - 'a'.toNat + 10)
  else if 'A' ≤ c ∧ c ≤ 'F' then some (c.toNat - 'A'.toNat + 10)
  else none

def parseHextet (hextet : String) : Option Nat :=
  if hextet = "" ∨ 4 < hextet.length then none
  else (hextet.toList.mapM hexDigit?).map (·.foldl (fun sofar digit => sofar * 16 + digit) 0)

def hexText (number : Nat) : String := String.ofList (Nat.toDigits 16 number)

/-- The parts, with an address of version four at their end as two of them. -/
def expandSuffix (parts : List String) : Option (List String) :=
  match parts.getLast? with
  | some last =>
      if '.' ∈ last.toList then
        (ipv4FromString last).map (fun ip =>
          parts.dropLast ++ [hexText (ip.toNat / 65536), hexText (ip.toNat % 65536)])
      else some parts
  | none => some parts

/-- The places between the ends where nothing stands. -/
def skipIndexes (parts : List String) : List Nat :=
  (List.range' 1 (parts.length - 2)).filter (fun i => parts[i]? = some "")

/-- The parts before the zeros that were left out; a colon at the start is one of two. -/
def partsHigh (parts : List String) (skip : Nat) : Option (List String) :=
  if parts.head? = some "" then if skip = 1 then some [] else none
  else some (parts.take skip)

def partsLow (parts : List String) (skip : Nat) : Option (List String) :=
  if parts.getLast? = some "" then if parts.length - skip - 1 = 1 then some [] else none
  else some (parts.drop (skip + 1))

def ofHextets (hextets : List Nat) : BitVec 128 :=
  .ofNat 128 (hextets.foldl (fun sofar hextet => sofar * 65536 + hextet) 0)

def ipv6FromString (text : String) : Option (BitVec 128) :=
  let pieces := splitAt ':' text
  if pieces.length < 3 then none
  else do
    let parts ← expandSuffix pieces
    if 9 < parts.length then none
    else
      match skipIndexes parts with
      | [] => if parts.length = 8 then (parts.mapM parseHextet).map ofHextets else none
      | [skip] => do
          let high ← partsHigh parts skip
          let low ← partsLow parts skip
          if 7 < high.length + low.length then none
          else
            let first ← high.mapM parseHextet
            let last ← low.mapM parseHextet
            some (ofHextets
              (first ++ List.replicate (8 - (high.length + low.length)) 0 ++ last))
      | _ => none

def splitScopeId (text : String) : Option (String × Option String) :=
  match splitAt '%' text with
  | [address] => some (address, none)
  | [address, scopeId] => if scopeId = "" then none else some (address, some scopeId)
  | _ => none

def ipv6Address (text : String) : Option (BitVec 128 × Option String) :=
  if '/' ∈ text.toList then none
  else do
    let (address, scopeId) ← splitScopeId text
    let ip ← ipv6FromString address
    some (ip, scopeId)

def ipAddress (text : String) : Option IpAddress :=
  match ipv4FromString text with
  | some ip => some (.v4 ip)
  | none => (ipv6Address text).map (fun address => .v6 address.1 address.2)

def netmaskOfPrefix (width prefixlen : Nat) : BitVec width :=
  BitVec.allOnes width ^^^ (BitVec.allOnes width >>> prefixlen)

/-- A number of more than 4300 digits is not read. -/
def prefixFromPrefixString (maxPrefixlen : Nat) (text : String) : Option Nat :=
  if isDecimal text && text.length ≤ 4300 then
    let prefixlen := DecimalDigits.ascii.number 0 text.toList
    if prefixlen ≤ maxPrefixlen then some prefixlen else none
  else none

def countRighthandZeroBits (number bits : Nat) : Nat :=
  ((List.range bits).find? (fun i => number.testBit i)).getD bits

def prefixFromIpInt (ip : BitVec 32) : Option Nat :=
  let trailingZeroes := countRighthandZeroBits ip.toNat 32
  let prefixlen := 32 - trailingZeroes
  if ip.toNat >>> trailingZeroes = 2 ^ prefixlen - 1 then some prefixlen else none

/-- A netmask, or else a hostmask. -/
def prefixFromIpString (text : String) : Option Nat := do
  let ip ← ipv4FromString text
  (prefixFromIpInt ip).or (prefixFromIpInt (~~~ip))

/-- The address and the mask of a network, where the mask may be left out. -/
def splitOptionalNetmask (text : String) : Option (String × Option String) :=
  match splitAt '/' text with
  | [address] => some (address, none)
  | [address, mask] => some (address, some mask)
  | _ => none

def ipv4Network (text : String) : Option IpNetwork := do
  let (address, mask) ← splitOptionalNetmask text
  let ip ← ipv4FromString address
  let prefixlen ←
    match mask with
    | none => some 32
    | some mask => (prefixFromPrefixString 32 mask).or (prefixFromIpString mask)
  let netmask := netmaskOfPrefix 32 prefixlen
  some (.v4 (ip &&& netmask) netmask)

def ipv6Network (text : String) : Option IpNetwork := do
  let (address, mask) ← splitOptionalNetmask text
  let (ip, _) ← ipv6Address address
  let prefixlen ←
    match mask with
    | none => some 128
    | some mask => prefixFromPrefixString 128 mask
  let netmask := netmaskOfPrefix 128 prefixlen
  some (.v6 (ip &&& netmask) netmask)

/-- The network that a text names; the bits of the address past the mask are dropped. -/
def ipNetwork (text : String) : Option IpNetwork := (ipv4Network text).or (ipv6Network text)

end Reading

section Showing

/-- The longest run of zeros so far and the one at hand: where they start, how long they are. -/
structure ZeroRuns where
  bestStart : Nat
  bestLen : Nat
  start : Nat
  len : Nat

def ZeroRuns.step (runs : ZeroRuns) (hextet : String × Nat) : ZeroRuns :=
  if hextet.1 = "0" then
    let start := if runs.len = 0 then hextet.2 else runs.start
    let len := runs.len + 1
    if runs.bestLen < len then ⟨start, len, start, len⟩
    else ⟨runs.bestStart, runs.bestLen, start, len⟩
  else ⟨runs.bestStart, runs.bestLen, 0, 0⟩

/-- The longest run of zeros is left out, and an empty part stands for it. -/
def compressHextets (hextets : List String) : List String :=
  let runs := hextets.zipIdx.foldl ZeroRuns.step ⟨0, 0, 0, 0⟩
  if 1 < runs.bestLen then
    let finish := runs.bestStart + runs.bestLen
    (if runs.bestStart = 0 then [""] else [])
      ++ hextets.take runs.bestStart ++ [""] ++ hextets.drop finish
      ++ (if finish = hextets.length then [""] else [])
  else hextets

def ipv6Text (ip : BitVec 128) : String :=
  ":".intercalate
    (compressHextets
      ((List.range 8).map (fun i => hexText (ip.toNat / 65536 ^ (7 - i) % 65536))))

def ipv4Text (ip : BitVec 32) : String :=
  ".".intercalate
    ((List.range 4).map (fun i =>
      String.ofList (Nat.toDigits 10 (ip.toNat / 256 ^ (3 - i) % 256))))

def IpAddress.compressed : IpAddress → String
  | .v4 ip => ipv4Text ip
  | .v6 ip none => ipv6Text ip
  | .v6 ip (some scopeId) => ipv6Text ip ++ "%" ++ scopeId

end Showing

end OctoHubs.Library
