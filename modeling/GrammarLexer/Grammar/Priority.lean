/-!
# Priorities

The priority of a grammar is a number in the binary floating-point format of 32
bits, kept as its bits. Two priorities are compared as that format lays down: the
two zeros are equal, and what is no number is comparable to nothing.

A priority of zero has not been set, and counts as one.
-/

namespace GrammarLexer

/-- The bits of a number in binary32. -/
structure Priority where
  bits : UInt32
deriving DecidableEq, Repr

namespace Priority

/-- The number zero. -/
def zero : Priority := ⟨0⟩

/-- The number one. -/
def one : Priority := ⟨0x3F800000⟩

/-- The bits but for the sign. -/
def magnitude (priority : Priority) : Nat := priority.bits.toNat % 0x80000000

/-- True of the bits that stand for no number. -/
def isNaN (priority : Priority) : Bool := 0x7F800000 < priority.magnitude

/-- Numbers compare as these integers. -/
def key (priority : Priority) : Int :=
  if priority.bits.toNat < 0x80000000 then priority.magnitude else -priority.magnitude

/-- True if both are numbers and the first is at least the second. -/
def atLeast (left right : Priority) : Bool :=
  !left.isNaN && !right.isNaN && right.key ≤ left.key

/-- The priority that counts: one, if none has been set. -/
def effective (priority : Priority) : Priority :=
  if priority.magnitude = 0 then one else priority

end Priority

end GrammarLexer
