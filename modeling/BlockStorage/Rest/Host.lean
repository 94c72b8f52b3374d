import BlockStorage.Rest.Domain.Label
import BlockStorage.Text.Percent

/-!
Hosts of URLs: domains and addresses.

A host in brackets is an address of eight groups. A host whose last label is a number is an address of
four bytes, and must be a good one. Every other host is a domain, which is kept in lower case and in
ASCII.
-/

namespace BlockStorage.Rest

open Text

/-- Why a text is no URL. -/
inductive UrlError where
  | emptyHost | invalidDomain | invalidPort | invalidIpv4 | invalidIpv6
deriving DecidableEq, Repr

/-- The wording shown to the user. -/
def UrlError.message : UrlError → String
  | .emptyHost => "empty host"
  | .invalidDomain => "invalid international domain name"
  | .invalidPort => "invalid port number"
  | .invalidIpv4 => "invalid IPv4 address"
  | .invalidIpv6 => "invalid IPv6 address"

/-- The host of a URL, read and checked. -/
inductive Host where
  | domain (name : String)
  /-- Four bytes as one number. -/
  | ipv4 (address : Nat)
  /-- Eight groups of 16 bits. -/
  | ipv6 (groups : List Nat)
deriving DecidableEq, Repr

namespace Host

/-! ### Addresses of four bytes -/

/-- The value of a digit of a numeral with a base of at most sixteen. -/
def digitValue? (base : Nat) (c : Char) : Option Nat :=
  (hexValue? c).bind fun d => if d < base then some d else none

/-- The number that digits denote, if all are digits. -/
def numberOf? (base acc : Nat) : List Char → Option Nat
  | [] => some acc
  | c :: s => (digitValue? base c).bind fun d => numberOf? base (base * acc + d) s

/-- A part of an address: decimal, octal behind a zero, or hexadecimal behind `0x`. -/
def partOf? : List Char → Option Nat
  | [] => none
  | '0' :: 'x' :: s => numberOf? 16 0 s
  | '0' :: 'X' :: s => numberOf? 16 0 s
  | '0' :: c :: s => numberOf? 8 0 (c :: s)
  | s => numberOf? 10 0 s

/-- The parts of a domain without an empty one at the end. -/
def withoutLastEmpty (parts : List (List Char)) : List (List Char) :=
  if parts.getLast? = some [] then parts.dropLast else parts

/-- Whether the last part of a domain is a number. -/
def endsInNumber (parts : List (List Char)) : Bool :=
  match (withoutLastEmpty parts).getLast? with
  | none => false
  | some last => (!last.isEmpty && last.all isDigit) || (partOf? last).isSome

/-- The parts of an address as numbers. -/
def partsOf? : List (List Char) → Option (List Nat)
  | [] => some []
  | part :: parts => do
    let n ← partOf? part
    let rest ← partsOf? parts
    return n :: rest

/-- The address that bytes and a last part for all bytes that are left make up. -/
def addressOf? (left : Nat) : List Nat → Option Nat
  | [] => none
  | [last] => if last < Nat.pow 256 left then some last else none
  | n :: rest =>
    if n < 256 then (addressOf? (left - 1) rest).map (n * Nat.pow 256 (left - 1) + ·) else none

/-- Reads an address of four bytes. -/
def ipv4Of? (parts : List (List Char)) : Option Nat :=
  let parts := withoutLastEmpty parts
  if 4 < parts.length then none else (partsOf? parts).bind (addressOf? 4)

/-! ### Addresses of eight groups -/

/-- A group: one to four hexadecimal digits. -/
def groupOf? (s : List Char) : Option Nat :=
  if s.isEmpty || 4 < s.length then none else numberOf? 16 0 s

/-- A byte in decimal without needless zeros. -/
def byteOf? (s : List Char) : Option Nat := do
  let n ← natOfDigits? s
  if n < 256 && (s.length = 1 || s.head? ≠ some '0') then some n else none

/-- The groups of parts; the last part may be four bytes and then makes two groups. -/
def groupsOf? (bytesAllowed : Bool) : List (List Char) → Option (List Nat)
  | [] => some []
  | [last] =>
    match groupOf? last with
    | some group => some [group]
    | none =>
      match bytesAllowed, (splitAt '.' last).map byteOf? with
      | true, [some a, some b, some c, some d] => some [256 * a + b, 256 * c + d]
      | _, _ => none
  | part :: parts => do
    let group ← groupOf? part
    let groups ← groupsOf? bytesAllowed parts
    return group :: groups

/-- The parts between colons; an empty text has none. -/
def colonParts (s : List Char) : List (List Char) := if s.isEmpty then [] else splitAt ':' s

/-- Reads an address of eight groups, of which one run of zeros may be left out. -/
def ipv6Of? (s : List Char) : Option (List Nat) :=
  match cut? "::".toList s with
  | none => do
    let groups ← groupsOf? true (colonParts s)
    if groups.length = 8 then some groups else none
  | some (before, after) => do
    let first ← groupsOf? false (colonParts before)
    let last ← groupsOf? true (colonParts after)
    let count := first.length + last.length
    if count ≤ 7 then some (first ++ List.replicate (8 - count) 0 ++ last) else none

/-! ### Reading -/

/-- Reads a host. -/
def parse (s : List Char) : Except UrlError Host :=
  match s with
  | '[' :: inner =>
    if inner.getLast? = some ']' then
      match ipv6Of? inner.dropLast with
      | some groups => .ok (.ipv6 groups)
      | none => .error .invalidIpv6
    else .error .invalidIpv6
  | s =>
    match String.fromUTF8? ⟨(Percent.decode s).toArray⟩ with
    | none => .error .invalidDomain
    | some name =>
      match Domain.labels? name.toList with
      | none => .error .invalidDomain
      | some [[]] => .error .emptyHost
      | some labels =>
        if endsInNumber labels then
          match ipv4Of? labels with
          | some address => .ok (.ipv4 address)
          | none => .error .invalidIpv4
        else .ok (.domain (String.ofList (joinWith ['.'] labels)))

/-! ### Writing -/

/-- How many groups at the start of a list are zero. -/
def zeroRun (groups : List Nat) : Nat := (groups.takeWhile (· = 0)).length

/-- The longest run of zeros at a place of the list or later: its length and its place. -/
def longestRun (place : Nat) : List Nat → Nat × Nat
  | [] => (0, place)
  | g :: groups =>
    let here := zeroRun (g :: groups)
    let (later, at_) := longestRun (place + 1) groups
    if later ≤ here then (here, place) else (later, at_)

/-- The groups in hexadecimal, with colons between them. -/
def groupTexts (groups : List Nat) : List Char :=
  joinWith [':'] (groups.map (Nat.toDigits 16))

/-- An address of eight groups, in which the longest run of at least two zeros is left out. -/
def ipv6Text (groups : List Nat) : List Char :=
  let (length, place) := longestRun 0 groups
  if length < 2 then groupTexts groups
  else groupTexts (groups.take place) ++ [':', ':'] ++ groupTexts (groups.drop (place + length))

/-- The host as a URL writes it. -/
def text : Host → String
  | .domain name => name
  | .ipv4 address =>
    ".".intercalate
      ([address / 16777216, address / 65536 % 256, address / 256 % 256, address % 256].map toString)
  | .ipv6 groups => String.ofList (['['] ++ ipv6Text groups ++ [']'])

end Host

end BlockStorage.Rest
