import GrammarLexer.Unicode.AdditionTable
import GrammarLexer.Unicode.Property

/-!
# Characters of the next edition

Patterns speak of the characters of Unicode 16. What a pattern calls its groups,
how a text is shown in quotes and what its lower case is goes by Unicode 17, which
adds some characters to each property, and takes one from those with case.
-/

namespace GrammarLexer.Unicode.Current

open Text

/-- Alphabetic characters. -/
def alphabetic : CharSet :=
  Property.alphabetic.union (.ofBounds AdditionTable.alphabetic)

/-- Alphabetic characters and all numbers. -/
def alphanumeric : CharSet :=
  .unionAll [alphabetic, Category.charsOf Category.numbers, .ofBounds AdditionTable.number]

/-- Code points without a character. -/
def unassigned : CharSet :=
  Category.unassigned.chars.diff (.ofBounds AdditionTable.assigned)

/-- Characters that belong to the grapheme of the character before them. -/
def graphemeExtend : CharSet :=
  Property.graphemeExtend.union (.ofBounds AdditionTable.graphemeExtend)

/-- Characters that have case. One letter without an upper form is no longer among
them. -/
def cased : CharSet :=
  (Property.cased.union (.ofBounds AdditionTable.cased)).diff (.single 'ʕ')

/-- Characters that the rules of case look through. -/
def caseIgnorable : CharSet :=
  Property.caseIgnorable.union (.ofBounds AdditionTable.caseIgnorable)

/-- Each character whose lower case is one other character, with that character. -/
def lower : List CaseRun := CaseTable.lower ++ AdditionTable.lower

end GrammarLexer.Unicode.Current
