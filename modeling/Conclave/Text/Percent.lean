import Conclave.Text.Hex

namespace Conclave.Text

def percentBytes : List UInt8 → List UInt8
  | b :: high :: low :: rest =>
      match if b = 37 then nibble? high else none, nibble? low with
      | some h, some l => (h * 16 + l) :: percentBytes rest
      | _, _ => b :: percentBytes (high :: low :: rest)
  | bytes => bytes

def percentDecode? (s : String) : Option String :=
  String.fromUTF8? ⟨(percentBytes s.toUTF8.toList).toArray⟩

end Conclave.Text
