import GrammarLexer.Text.CharSet
import GrammarLexer.Unicode.ScriptTable
import GrammarLexer.Unicode.SharedScriptTable

/-!
# Scripts

Each character belongs to one script, or to the common or inherited ones. What a
text in a script is written with is a little different: some characters of other
scripts are used in it too, and some of its own are shared, which
`SharedScriptTable` lists.
-/

namespace GrammarLexer.Unicode

open Text

namespace Script

/-- The script of a name, given in lower case and without separators. -/
def find? (name : String) : Option ScriptEntry :=
  ScriptTable.all.find? fun script => script.names.contains name

/-- The characters that belong to the script of a name. -/
def ofName? (name : String) : Option CharSet :=
  (find? name).map fun script => .ofBounds script.bounds

/-- The characters that some scripts share. -/
def shared : CharSet := ⟨SharedScriptTable.all.map fun range => ⟨range.first, range.last⟩⟩

/-- The characters that a script shares with others, given by its shortest name. -/
def sharedBy (name : String) : CharSet :=
  ⟨(SharedScriptTable.all.filter fun range => range.scripts.contains name).map fun range =>
    ⟨range.first, range.last⟩⟩

/-- The characters that the script of a name is written with. -/
def usedByName? (name : String) : Option CharSet :=
  (find? name).map fun script =>
    ((CharSet.ofBounds script.bounds).diff shared).union (.unionAll (script.names.map sharedBy))

end Script

end GrammarLexer.Unicode
