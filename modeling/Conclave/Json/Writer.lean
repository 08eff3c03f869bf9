import Conclave.Json
import Conclave.Binary64.Shortest
import Conclave.Text.Quoted

namespace Conclave

def Numeral.text : Numeral → String
  | .natural n => toString n.toNat
  | .negative n => "-" ++ toString n.toNat
  | .real x => x.text

namespace Json

def writeChar (c : Char) : List Char :=
  if c = '"' then ['\\', '"']
  else if c = '\\' then ['\\', '\\']
  else if c = '\x08' then ['\\', 'b']
  else if c = '\x0c' then ['\\', 'f']
  else if c = '\n' then ['\\', 'n']
  else if c = '\r' then ['\\', 'r']
  else if c = '\t' then ['\\', 't']
  else if c.toNat < 0x20 then
    ['\\', 'u', '0', '0', Text.hexDigit (c.toNat / 16), Text.hexDigit (c.toNat % 16)]
  else [c]

def writeString (s : String) : String :=
  String.ofList ('"' :: s.toList.flatMap writeChar ++ ['"'])

mutual

def write : Json → String
  | .null => "null"
  | .bool b => if b then "true" else "false"
  | .number n => n.text
  | .string s => writeString s
  | .array items => "[" ++ ",".intercalate (writeAll items) ++ "]"
  | .object members => "\x7b" ++ ",".intercalate (writeMembers members) ++ "\x7d"
  | .stop _ => "null"

def writeAll : List Json → List String
  | [] => []
  | item :: rest => write item :: writeAll rest

def writeMembers : List (String × Json) → List String
  | [] => []
  | (key, value) :: rest => (writeString key ++ ":" ++ write value) :: writeMembers rest

end

end Json

end Conclave
