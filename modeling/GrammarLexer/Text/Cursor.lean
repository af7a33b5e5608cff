import GrammarLexer.Text.Utf8

/-!
# Cursors

A cursor is a place in a text together with how far a reader may go: the
characters up to the end of a span. It also knows the characters next to them,
since a condition such as "at the start of a line" looks beyond the span.
-/

namespace GrammarLexer.Text

/-- The rest of a span, with the character before it and the one after it. -/
structure Cursor where
  before : Option Char
  rest : List Char
  after : Option Char
deriving DecidableEq, Repr

namespace Cursor

/-- The last of some characters, or else an earlier one. -/
def lastOr (earlier : Option Char) (cs : List Char) : Option Char :=
  cs.getLast? <|> earlier

/-- How many bytes the next characters take. -/
def bytesTo (cursor : Cursor) (count : Nat) : Nat := byteLength (cursor.rest.take count)

/-- Move forward by some characters. -/
def advance (cursor : Cursor) (count : Nat) : Cursor :=
  { cursor with
    before := lastOr cursor.before (cursor.rest.take count)
    rest := cursor.rest.drop count }

/-- End the span after some characters. -/
def take (cursor : Cursor) (count : Nat) : Cursor :=
  { cursor with
    rest := cursor.rest.take count
    after := (cursor.rest.drop count).head? <|> cursor.after }

/-- The part of the span between two places, counted in characters. -/
def slice (cursor : Cursor) (start stop : Nat) : Cursor :=
  (cursor.advance start).take (stop - start)

end Cursor

end GrammarLexer.Text
