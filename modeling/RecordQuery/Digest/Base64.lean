import RecordQuery.Digest.Sha256

/-!
Bytes as text of 64 characters that are safe in addresses, without padding.
-/

namespace RecordQuery

namespace Base64

abbrev Bytes := Sha256.Bytes

def alphabet : List Char :=
  "ABCDEFGHIJKLMNOPQRSTUVWXYZabcdefghijklmnopqrstuvwxyz0123456789-_".toList

def encodeSextet (n : Nat) : Char := alphabet.getD n 'A'

def decodeSextet? (c : Char) : Option Nat := alphabet.findIdx? (· = c)

/-- Three bytes make four characters; one or two bytes left over make two or three. -/
def encode : Bytes → List Char
  | a :: b :: c :: rest =>
    let n := a.toNat * 65536 + b.toNat * 256 + c.toNat
    encodeSextet (n / 262144) :: encodeSextet (n / 4096 % 64) :: encodeSextet (n / 64 % 64)
      :: encodeSextet (n % 64) :: encode rest
  | [a, b] =>
    let n := a.toNat * 65536 + b.toNat * 256
    [encodeSextet (n / 262144), encodeSextet (n / 4096 % 64), encodeSextet (n / 64 % 64)]
  | [a] => [encodeSextet (a.toNat / 4), encodeSextet (a.toNat % 4 * 16)]
  | [] => []

def byte (n : Nat) : UInt8 := UInt8.ofNat (n % 256)

/-- Bits that belong to no byte have to be zero. -/
def decodeSextets? : List Nat → Option Bytes
  | a :: b :: c :: d :: rest =>
    let n := a * 262144 + b * 4096 + c * 64 + d
    (decodeSextets? rest).map fun bytes => byte (n / 65536) :: byte (n / 256) :: byte n :: bytes
  | [a, b, c] =>
    if c % 4 = 0 then
      let n := a * 4096 + b * 64 + c
      some [byte (n / 1024), byte (n / 4)]
    else none
  | [a, b] => if b % 16 = 0 then some [byte (a * 4 + b / 16)] else none
  | [_] => none
  | [] => some []

def decode? (cs : List Char) : Option Bytes := (cs.mapM decodeSextet?).bind decodeSextets?

def encodeText (s : String) : String := String.ofList (encode s.toUTF8.toList)

def decodeText? (s : String) : Option String :=
  (decode? s.toList).bind fun bytes => String.fromUTF8? (ByteArray.mk bytes.toArray)

end Base64

end RecordQuery
