/-!
Text from bytes. Every character has one encoding of one to four bytes; anything else is a fault at
the first byte that does not continue a character.
-/

namespace RecordQuery

namespace Utf8

/-- Why bytes are no text. -/
inductive Fault
  /-- Bytes from an index on that begin no character. -/
  | invalid (length index : Nat)
  /-- The bytes end within a character. -/
  | incomplete (index : Nat)
  deriving DecidableEq, Repr

def Fault.message : Fault → String
  | invalid length index =>
    "invalid utf-8 sequence of " ++ toString length ++ " bytes from index " ++ toString index
  | incomplete index => "incomplete utf-8 byte sequence from index " ++ toString index

/-- What bytes begin with. -/
inductive Lead
  | char (c : Char) (length : Nat)
  | invalid (length : Nat)
  | incomplete
  deriving DecidableEq, Repr

def isBetween (low high b : UInt8) : Bool := low ≤ b && b ≤ high

/-- Bytes within a character. -/
def isInner (b : UInt8) : Bool := isBetween 0x80 0xBF b

/-- Bytes that may follow a first byte: they exclude longer encodings than needed, halves of pairs
and numbers past the last character. -/
def followsFirst (first b : UInt8) : Bool :=
  if first = 0xE0 then isBetween 0xA0 0xBF b
  else if first = 0xED then isBetween 0x80 0x9F b
  else if first = 0xF0 then isBetween 0x90 0xBF b
  else if first = 0xF4 then isBetween 0x80 0x8F b
  else isInner b

/-- Length of a character that begins with a byte; zero if none does. -/
def widthOf (first : UInt8) : Nat :=
  if first < 0x80 then 1
  else if isBetween 0xC2 0xDF first then 2
  else if isBetween 0xE0 0xEF first then 3
  else if isBetween 0xF0 0xF4 first then 4
  else 0

/-- The number of a character whose first byte holds some bits, from the bytes behind it. -/
def charOf (bits : Nat) (inner : List UInt8) : Char :=
  Char.ofNat (inner.foldl (fun n b => n * 64 + b.toNat % 64) bits)

def lead (first : UInt8) (rest : List UInt8) : Lead :=
  match widthOf first, rest with
  | 0, _ => .invalid 1
  | 1, _ => .char (Char.ofNat first.toNat) 1
  | _, [] => .incomplete
  | width, second :: rest =>
    if !followsFirst first second then .invalid 1
    else if width = 2 then .char (charOf (first.toNat % 32) [second]) 2
    else match rest with
      | [] => .incomplete
      | third :: rest =>
        if !isInner third then .invalid 2
        else if width = 3 then .char (charOf (first.toNat % 16) [second, third]) 3
        else match rest with
          | [] => .incomplete
          | fourth :: _ =>
            if !isInner fourth then .invalid 3
            else .char (charOf (first.toNat % 8) [second, third, fourth]) 4

/-- Characters from an index on, after a number of bytes that are already accounted for. -/
def decodeFrom (index : Nat) : Nat → List UInt8 → Except Fault (List Char)
  | _, [] => .ok []
  | skip + 1, _ :: rest => decodeFrom (index + 1) skip rest
  | 0, first :: rest =>
    match lead first rest with
    | .char c length => (decodeFrom (index + 1) (length - 1) rest).map (c :: ·)
    | .invalid length => .error (.invalid length index)
    | .incomplete => .error (.incomplete index)

def decode (bytes : List UInt8) : Except Fault String :=
  (decodeFrom 0 0 bytes).map String.ofList

/-- Characters, with one mark in place of each run of bytes that is none. -/
def replacing : Nat → List UInt8 → List Char
  | _, [] => []
  | skip + 1, _ :: rest => replacing skip rest
  | 0, first :: rest =>
    match lead first rest with
    | .char c length => c :: replacing (length - 1) rest
    | .invalid length => '\uFFFD' :: replacing (length - 1) rest
    | .incomplete => ['\uFFFD']

def decodeReplacing (bytes : List UInt8) : String := String.ofList (replacing 0 bytes)

end Utf8

end RecordQuery
