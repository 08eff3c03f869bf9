import Conclave.Text.Blank

namespace Conclave.Http

structure Header where
  name : String
  value : List UInt8
  deriving DecidableEq, Repr

structure Request where
  method : String
  target : String
  headers : List Header
  body : String
  deriving DecidableEq, Repr

def asciiLower (c : Char) : Char := if 'A' ≤ c ∧ c ≤ 'Z' then Char.ofNat (c.toNat + 32) else c

def sameName (a b : String) : Bool := a.map asciiLower = b.map asciiLower

def isVisible (b : UInt8) : Bool := b = 9 || (decide (32 ≤ b) && decide (b ≤ 126))

def headerText? (headers : List Header) (name : String) : Option String :=
  match headers.find? fun h => sameName h.name name with
  | none => none
  | some h =>
      if h.value.all isVisible then
        some (String.ofList (h.value.map fun b => Char.ofNat b.toNat))
      else none

def isSuccess (status : Nat) : Bool := decide (200 ≤ status) && decide (status < 300)

def reasonPhrases : List (Nat × String) :=
  [(100, "Continue"), (101, "Switching Protocols"), (102, "Processing"), (200, "OK"),
    (201, "Created"), (202, "Accepted"), (203, "Non Authoritative Information"),
    (204, "No Content"), (205, "Reset Content"), (206, "Partial Content"), (207, "Multi-Status"),
    (208, "Already Reported"), (226, "IM Used"), (300, "Multiple Choices"),
    (301, "Moved Permanently"), (302, "Found"), (303, "See Other"), (304, "Not Modified"),
    (305, "Use Proxy"), (307, "Temporary Redirect"), (308, "Permanent Redirect"),
    (400, "Bad Request"), (401, "Unauthorized"), (402, "Payment Required"), (403, "Forbidden"),
    (404, "Not Found"), (405, "Method Not Allowed"), (406, "Not Acceptable"),
    (407, "Proxy Authentication Required"), (408, "Request Timeout"), (409, "Conflict"),
    (410, "Gone"), (411, "Length Required"), (412, "Precondition Failed"),
    (413, "Payload Too Large"), (414, "URI Too Long"), (415, "Unsupported Media Type"),
    (416, "Range Not Satisfiable"), (417, "Expectation Failed"), (418, "I'm a teapot"),
    (421, "Misdirected Request"), (422, "Unprocessable Entity"), (423, "Locked"),
    (424, "Failed Dependency"), (425, "Too Early"), (426, "Upgrade Required"),
    (428, "Precondition Required"), (429, "Too Many Requests"),
    (431, "Request Header Fields Too Large"), (451, "Unavailable For Legal Reasons"),
    (500, "Internal Server Error"), (501, "Not Implemented"), (502, "Bad Gateway"),
    (503, "Service Unavailable"), (504, "Gateway Timeout"), (505, "HTTP Version Not Supported"),
    (506, "Variant Also Negotiates"), (507, "Insufficient Storage"), (508, "Loop Detected"),
    (510, "Not Extended"), (511, "Network Authentication Required")]

def statusText (status : Nat) : String :=
  let phrase := ((reasonPhrases.find? (·.1 = status)).map Prod.snd).getD "<unknown status code>"
  s!"{status} {phrase}"

inductive Delivery where
  | answered (status : Nat) (body : Option String)
  | unreachable (reason : String)
  deriving DecidableEq, Repr

end Conclave.Http
