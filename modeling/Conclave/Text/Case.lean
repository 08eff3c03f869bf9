import Conclave.Text.Blank
import Conclave.Text.Case.Table

namespace Conclave.Text

def CaseRun.holds (r : CaseRun) (c : Nat) : Bool :=
  decide (r.first ≤ c) && decide (c ≤ r.last) && (c - r.first) % r.stride == 0

def lowerChar (c : Char) : List Char :=
  if c = 'İ' then ['i', '\u0307']
  else match lowerRuns.find? (·.holds c.toNat) with
    | some r => [Char.ofNat (c.toNat + r.shift).toNat]
    | none => [c]

def isCased (c : Char) : Bool := inRanges casedRanges c

def isCaseIgnorable (c : Char) : Bool := inRanges caseIgnorableRanges c

def meetsCased (cs : List Char) : Bool :=
  match cs.dropWhile isCaseIgnorable with
  | [] => false
  | c :: _ => isCased c

def lowerList (before : List Char) : List Char → List Char
  | [] => []
  | c :: rest =>
      (if c = 'Σ' then [if meetsCased before && !meetsCased rest then 'ς' else 'σ']
        else lowerChar c) ++ lowerList (c :: before) rest

def lower (s : String) : String := String.ofList (lowerList [] s.toList)

end Conclave.Text
