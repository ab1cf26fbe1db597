import RecordQuery.Text.Utf8

/-!
Bytes behind percent signs. A percent sign without two hex digits behind it stands for itself.
-/

namespace RecordQuery

namespace Percent

def sign : UInt8 := 0x25

def hexDigit? (b : UInt8) : Option UInt8 :=
  if 0x30 ≤ b ∧ b ≤ 0x39 then some (b - 0x30)
  else if 0x41 ≤ b ∧ b ≤ 0x46 then some (b - 0x41 + 10)
  else if 0x61 ≤ b ∧ b ≤ 0x66 then some (b - 0x61 + 10)
  else none

def decode : List UInt8 → List UInt8
  | [] => []
  | [b] => [b]
  | [b, c] => [b, c]
  | b :: high :: low :: rest =>
    if b = sign then
      match hexDigit? high, hexDigit? low with
      | some h, some l => (h * 16 + l) :: decode rest
      | _, _ => b :: decode (high :: low :: rest)
    else b :: decode (high :: low :: rest)

def hexDigit (n : UInt8) : UInt8 := if n < 10 then 0x30 + n else 0x41 + (n - 10)

/-- Letters, digits and a few marks stand for themselves. -/
def isPlain (b : UInt8) : Bool :=
  (0x30 ≤ b && b ≤ 0x39) || (0x41 ≤ b && b ≤ 0x5A) || (0x61 ≤ b && b ≤ 0x7A)
    || b = 0x2D || b = 0x2E || b = 0x5F

def encode (bytes : List UInt8) : List UInt8 :=
  bytes.flatMap fun b => if isPlain b then [b] else [sign, hexDigit (b / 16), hexDigit (b % 16)]

/-- The text that a piece of a path stands for; its bytes have to be text. -/
def readText? (s : String) : Option String := (Utf8.decode (decode s.toUTF8.toList)).toOption

end Percent

end RecordQuery
