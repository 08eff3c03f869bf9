import Conclave.Http

namespace Conclave.Http

def isTokenChar (c : Char) : Bool :=
  c.isAlphanum || "!#$%&'*+-.^_|~".toList.contains c || c.toNat = 96

def isQuotedChar (c : Char) : Bool := decide (32 ≤ c.toNat) && c.toNat ≠ 127

def readParameters : Nat → List Char → Bool
  | _, [] => true
  | 0, _ => false
  | fuel + 1, cs =>
      let cs := cs.dropWhile (· = ' ')
      match cs.takeWhile isTokenChar, cs.dropWhile isTokenChar with
      | _ :: _, '=' :: '"' :: rest =>
          match rest.takeWhile fun c => isQuotedChar c && c ≠ '"',
            rest.dropWhile fun c => isQuotedChar c && c ≠ '"' with
          | _ :: _, '"' :: rest =>
              match rest.dropWhile (· = ' ') with
              | [] => true
              | ';' :: rest => readParameters fuel rest
              | _ => false
          | _, _ => false
      | _ :: _, '=' :: rest =>
          match rest.takeWhile isTokenChar, rest.dropWhile isTokenChar with
          | _, [] => true
          | _ :: _, ';' :: rest => readParameters fuel rest
          | _, _ => false
      | _, _ => false

structure MediaType where
  kind : String
  subtype : String
  suffix : Option String
  deriving DecidableEq, Repr

def splitSuffix (subtype : List Char) : List Char × Option (List Char) :=
  let back := subtype.reverse
  match (back.dropWhile (· ≠ '+')).drop 1 with
  | [] => (subtype, none)
  | stem => (stem.reverse, some (back.takeWhile (· ≠ '+')).reverse)

def MediaType.ofText? (s : String) : Option MediaType :=
  let cs := s.toList.map asciiLower
  let kind := cs.takeWhile isTokenChar
  match kind, cs.dropWhile isTokenChar with
  | _ :: _, '/' :: rest =>
      let whole := rest.takeWhile isTokenChar
      let (subtype, suffix) := splitSuffix whole
      let type : MediaType :=
        ⟨String.ofList kind, String.ofList subtype, suffix.map String.ofList⟩
      match whole, rest.dropWhile isTokenChar with
      | _, [] => some type
      | _ :: _, ';' :: rest => if readParameters rest.length rest then some type else none
      | _, _ => none
  | _, _ => none

def MediaType.isJson (t : MediaType) : Bool :=
  t.kind = "application" && (t.subtype = "json" || t.suffix = some "json")

def hasJsonBody (r : Request) : Bool :=
  match (headerText? r.headers "content-type").bind MediaType.ofText? with
  | some t => t.isJson
  | none => false

end Conclave.Http
