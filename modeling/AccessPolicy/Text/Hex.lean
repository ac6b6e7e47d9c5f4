import AccessPolicy.Text.CharClass
/-!
# Hexadecimal text

Bytes are written as two lower-case hexadecimal digits each. Reading takes digits of either case
in pairs, and refuses a text of odd length or with a character that is no digit.
-/

namespace AccessPolicy.Hex
def encode (bs : List UInt8) : String :=
  let digit (d : Nat) : Char := "0123456789abcdef".toList.getD d '0'
  String.ofList (bs.flatMap fun b => [digit (b.toNat / 16), digit (b.toNat % 16)])

def pairs : List Nat → List UInt8
  | a :: b :: rest => UInt8.ofNat (a * 16 + b) :: pairs rest
  | _ => []

def decode? (s : String) : Option (List UInt8) := do
  let ds ← s.toList.mapM CharClass.hexValue?
  if ds.length % 2 = 1 then none else some (pairs ds)

end AccessPolicy.Hex
