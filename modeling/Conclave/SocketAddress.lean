import Conclave.Text.Digits

namespace Conclave

namespace Text

def hexDigit? (c : Char) : Option Nat :=
  if 'a' ≤ c ∧ c ≤ 'f' then some (c.toNat - 87)
  else if 'A' ≤ c ∧ c ≤ 'F' then some (c.toNat - 55)
  else digit? c

def after? (c : Char) : List Char → Option (List Char)
  | d :: rest => if d = c then some rest else none
  | [] => none

structure NumberForm where
  digit? : Char → Option Nat
  radix : Nat
  bound : Nat
  width : Option Nat
  zeros : Bool

namespace NumberForm

def octet : NumberForm := ⟨Text.digit?, 10, 256, some 3, false⟩

def group : NumberForm := ⟨hexDigit?, 16, 65536, some 4, true⟩

def port : NumberForm := ⟨Text.digit?, 10, 65536, none, true⟩

def scope : NumberForm := ⟨Text.digit?, 10, UInt32.size, none, true⟩

def admits (f : NumberForm) (digits : List Nat) : Bool :=
  !digits.isEmpty && f.width.all (digits.length ≤ ·) &&
    (f.zeros || digits.length = 1 || digits.head? ≠ some 0)

def read? (f : NumberForm) (cs : List Char) : Option (Nat × List Char) :=
  let digits := (cs.takeWhile fun c => (f.digit? c).isSome).filterMap f.digit?
  let n := digits.foldl (fun n d => n * f.radix + d) 0
  if f.admits digits ∧ n < f.bound then some (n, cs.drop digits.length) else none

end NumberForm

end Text

open Text

structure IPv4 where
  octets : Vector UInt8 4
  deriving DecidableEq, Repr

structure IPv6 where
  groups : Vector UInt16 8
  deriving DecidableEq, Repr

namespace IPv4

def read? (cs : List Char) : Option (IPv4 × List Char) := do
  let (a, cs) ← NumberForm.octet.read? cs
  let (b, cs) ← NumberForm.octet.read? (← after? '.' cs)
  let (c, cs) ← NumberForm.octet.read? (← after? '.' cs)
  let (d, cs) ← NumberForm.octet.read? (← after? '.' cs)
  return (⟨#v[a, b, c, d].map UInt8.ofNat⟩, cs)

def groups (a : IPv4) : List UInt16 :=
  let word (high low : UInt8) := high.toUInt16 * 256 + low.toUInt16
  [word a.octets[0] a.octets[1], word a.octets[2] a.octets[3]]

def text (a : IPv4) : String := ".".intercalate (a.octets.toList.map toString)

end IPv4

namespace IPv6

/-- Reads up to `n` groups with colons between them. An IPv4 address may stand for the last two; whether
one did is the second result. -/
def readGroups : Nat → Bool → List Char → List UInt16 × Bool × List Char
  | 0, _, cs => ([], false, cs)
  | n + 1, first, cs =>
      match if first then some cs else after? ':' cs with
      | none => ([], false, cs)
      | some start =>
          match if n = 0 then none else IPv4.read? start with
          | some (a, rest) => (a.groups, true, rest)
          | none =>
              match NumberForm.group.read? start with
              | none => ([], false, cs)
              | some (g, rest) =>
                  let (groups, embedded, rest) := readGroups n false rest
                  (UInt16.ofNat g :: groups, embedded, rest)

def ofParts (front back : List UInt16) : IPv6 :=
  ⟨.ofFn fun i => if i + back.length < 8 then front.getD i 0 else back.getD (i + back.length - 8) 0⟩

def read? (cs : List Char) : Option (IPv6 × List Char) := do
  let (front, embedded, cs) := readGroups 8 true cs
  if front.length = 8 then return (ofParts front [], cs)
  if embedded then none
  let cs ← after? ':' (← after? ':' cs)
  let (back, _, cs) := readGroups (7 - front.length) true cs
  return (ofParts front back, cs)

def longestZeros (groups : List UInt16) : Nat × Nat :=
  (groups.zipIdx.foldl (fun (longest, run) (g, i) =>
    if g = 0 then
      let run := if run.2 = 0 then (i, 1) else (run.1, run.2 + 1)
      (if longest.2 < run.2 then run else longest, run)
    else (longest, (0, 0))) ((0, 0), (0, 0))).1

def joined (groups : List UInt16) : String :=
  ":".intercalate (groups.map fun g => String.ofList (Nat.toDigits 16 g.toNat))

def text (a : IPv6) : String :=
  match a.groups.toList with
  | [0, 0, 0, 0, 0, 0xffff, high, low] =>
      let octets := #v[high / 256, high % 256, low / 256, low % 256].map UInt16.toUInt8
      "::ffff:" ++ (IPv4.mk octets).text
  | groups =>
      let (start, length) := longestZeros groups
      if 1 < length then joined (groups.take start) ++ "::" ++ joined (groups.drop (start + length))
      else joined groups

end IPv6

inductive SocketAddress where
  | v4 (host : IPv4) (port : UInt16)
  | v6 (host : IPv6) (scope : UInt32) (port : UInt16)
  deriving DecidableEq, Repr

namespace SocketAddress

def readPort? (cs : List Char) : Option (UInt16 × List Char) := do
  let (n, cs) ← NumberForm.port.read? (← after? ':' cs)
  return (.ofNat n, cs)

def readScope (cs : List Char) : UInt32 × List Char :=
  match after? '%' cs >>= NumberForm.scope.read? with
  | some (n, rest) => (.ofNat n, rest)
  | none => (0, cs)

def readV4? (cs : List Char) : Option (SocketAddress × List Char) := do
  let (host, cs) ← IPv4.read? cs
  let (port, cs) ← readPort? cs
  return (.v4 host port, cs)

def readV6? (cs : List Char) : Option (SocketAddress × List Char) := do
  let (host, cs) ← IPv6.read? (← after? '[' cs)
  let (scope, cs) := readScope cs
  let (port, cs) ← readPort? (← after? ']' cs)
  return (.v6 host scope port, cs)

def ofText? (s : String) : Option SocketAddress :=
  match readV4? s.toList <|> readV6? s.toList with
  | some (a, []) => some a
  | _ => none

def text : SocketAddress → String
  | .v4 host port => s!"{host.text}:{port}"
  | .v6 host scope port =>
      let zone := if scope = 0 then "" else s!"%{scope}"
      s!"[{host.text}{zone}]:{port}"

end SocketAddress

end Conclave
