import GrammarLexer.Text.Utf8

/-!
# Line endings

Grammars are written against line feeds, so a text is scanned with every
carriage return, alone or before a line feed, folded into one line feed.

Only a folded pair shortens the text, each by one byte. `OffsetMap` therefore
keeps nothing but the places of the pairs, and shifts an offset by the number
of pairs before it: an offset in the folded text goes to the source, the text as
it was given, by `toSource` and comes back by `toFolded`.
-/

namespace GrammarLexer.Text

/-- Write each carriage return, and each pair of carriage return and line feed,
as one line feed. -/
def foldLineEndings : List Char → List Char
  | '\r' :: '\n' :: cs => '\n' :: foldLineEndings cs
  | '\r' :: cs => '\n' :: foldLineEndings cs
  | c :: cs => c :: foldLineEndings cs
  | [] => []

/-- A text without carriage returns is its own folded form. -/
def isFolded (cs : List Char) : Bool := !cs.contains '\r'

/-- The places, in the folded text, just after each line feed that stands for a
pair, in ascending order. -/
structure OffsetMap where
  joins : List Nat
deriving DecidableEq, Repr

namespace OffsetMap

/-- The places of the pairs in a text whose folded form starts at `offset`. -/
def joinsFrom (offset : Nat) : List Char → List Nat
  | '\r' :: '\n' :: cs => (offset + 1) :: joinsFrom (offset + 1) cs
  | c :: cs => joinsFrom (offset + c.utf8Size) cs
  | [] => []

/-- The offset map of a text. -/
def ofText (cs : List Char) : OffsetMap := ⟨joinsFrom 0 cs⟩

/-- True if both texts have the same offsets. -/
def isIdentity (m : OffsetMap) : Bool := m.joins.isEmpty

/-- The offset in the source of an offset in the folded text: one byte more for
every pair that ends at or before it. -/
def toSource (m : OffsetMap) (folded : Nat) : Nat :=
  folded + m.joins.countP (· ≤ folded)

/-- The places of the pairs in the source: the end of the `k`-th pair lies `k + 1`
bytes further than in the folded text. -/
def sourceJoins (m : OffsetMap) : List Nat := m.joins.mapIdx fun k join => join + (k + 1)

/-- The offset in the folded text of an offset in the source: one byte less for
every pair that ends at or before it. -/
def toFolded (m : OffsetMap) (offset : Nat) : Nat :=
  offset - m.sourceJoins.countP (· ≤ offset)

end OffsetMap

end GrammarLexer.Text
