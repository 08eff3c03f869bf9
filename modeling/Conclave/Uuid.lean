import Conclave.Text.Quoted
import Conclave.Json.Reader

namespace Conclave

structure Uuid where
  value : BitVec 128
  deriving DecidableEq, Repr

namespace Uuid

def digits (n : Nat) (value : Nat) : List Char :=
  (List.range n).reverse.map fun i => Text.hexDigit (value >>> (4 * i) % 16)

def hyphenate (ds : List Char) : List Char :=
  ds.take 8 ++ '-' :: (ds.drop 8).take 4 ++ '-' :: (ds.drop 12).take 4 ++ '-'
    :: (ds.drop 16).take 4 ++ '-' :: ds.drop 20

def text (u : Uuid) : String := String.ofList (hyphenate (digits 32 u.value.toNat))

def readDigits? (ds : List Char) : Option Uuid :=
  if ds.length = 32 then
    (ds.mapM Json.hexValue?).map fun ns =>
      ⟨BitVec.ofNat 128 (ns.foldl (fun n d => n * 16 + d) 0)⟩
  else none

def readHyphenated? (cs : List Char) : Option Uuid :=
  let ds := cs.filter (· ≠ '-')
  if cs = hyphenate ds then readDigits? ds else none

def ofText? (s : String) : Option Uuid :=
  let cs := s.toList
  let urn := "urn:uuid:".toList
  if cs.length = 32 then readDigits? cs
  else if cs.length = 36 then readHyphenated? cs
  else if cs.length = 38 then
    if cs.head? = some '\x7b' ∧ cs.getLast? = some '\x7d' then
      readHyphenated? (cs.drop 1).dropLast
    else none
  else if cs.length = 45 ∧ urn.isPrefixOf cs then readHyphenated? (cs.drop urn.length)
  else none

end Uuid

end Conclave
