namespace Conclave.Text

def blankRanges : List (Nat × Nat) :=
  [(0x09, 0x0d), (0x20, 0x20), (0x85, 0x85), (0xa0, 0xa0), (0x1680, 0x1680), (0x2000, 0x200a),
    (0x2028, 0x2029), (0x202f, 0x202f), (0x205f, 0x205f), (0x3000, 0x3000)]

def inRanges (table : List (Nat × Nat)) (c : Char) : Bool :=
  table.any fun r => decide (r.1 ≤ c.toNat) && decide (c.toNat ≤ r.2)

def isBlank (c : Char) : Bool := inRanges blankRanges c

def dropEnd (p : Char → Bool) (cs : List Char) : List Char :=
  (cs.reverse.dropWhile p).reverse

def trimList (cs : List Char) : List Char := dropEnd isBlank (cs.dropWhile isBlank)

def trim (s : String) : String := String.ofList (trimList s.toList)

def dropSlashes (s : String) : String := String.ofList (dropEnd (· = '/') s.toList)

def splitList (sep : Char) : List Char → List (List Char)
  | [] => [[]]
  | c :: rest =>
      if c = sep then [] :: splitList sep rest
      else match splitList sep rest with
        | [] => [[c]]
        | piece :: pieces => (c :: piece) :: pieces

def split (sep : Char) (s : String) : List String := (splitList sep s.toList).map String.ofList

def cut? (sep : Char) (s : String) : Option (String × String) :=
  let cs := s.toList
  match cs.dropWhile (· ≠ sep) with
  | [] => none
  | _ :: rest => some (String.ofList (cs.takeWhile (· ≠ sep)), String.ofList rest)

def startsWith (start s : String) : Bool := start.toList.isPrefixOf s.toList

end Conclave.Text
