import GrammarLexer.Text.CharSet
import GrammarLexer.Unicode.AgeTable

/-!
# Ages of characters

The age of a character is the first edition of Unicode that assigned it. A class
named by an age holds all characters up to that age.
-/

namespace GrammarLexer.Unicode

open Text

namespace Age

/-- The characters of all editions up to the one of a name. -/
def upTo? (name : String) : List AgeEntry → Option CharSet
  | [] => none
  | entry :: later =>
    let new := CharSet.ofBounds entry.bounds
    if entry.names.contains name then some new else (upTo? name later).map new.union

/-- The characters that are no younger than the edition of a name. -/
def ofName? (name : String) : Option CharSet := upTo? name AgeTable.all

end Age

end GrammarLexer.Unicode
