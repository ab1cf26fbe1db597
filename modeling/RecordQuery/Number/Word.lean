/-!
Bounds of whole numbers that are kept in words of some bits.
-/

namespace RecordQuery

namespace Word

/-- Words of 16 bits hold the numbers below it. -/
def bound16 : Nat := 65536

/-- Words of 32 bits hold the numbers below it. -/
def bound32 : Nat := 4294967296

/-- Signed words of 64 bits hold the numbers below it, and its negation. -/
def bound63 : Nat := 9223372036854775808

/-- Words of 64 bits hold the numbers below it. -/
def bound64 : Nat := 18446744073709551616

end Word

end RecordQuery
