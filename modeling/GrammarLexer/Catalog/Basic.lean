import GrammarLexer.Catalog.FileName
import GrammarLexer.Catalog.Glob
import GrammarLexer.Lexer.Basic
import GrammarLexer.Unicode.Lowercase

/-!
# Catalogs of lexers

A catalog holds lexers in the order in which they were registered, and finds one by
name, alias, file name or media type. Where several lexers are for the same file or
media type, the one of the highest priority wins, and among equals the one that was
registered first. A name or alias stands for the lexer registered last under it.
-/

namespace GrammarLexer

/-- A registered lexer with the globs of its file names. -/
structure Entry where
  lexer : Lexer
  globs : List Glob
deriving DecidableEq, Repr

/-- The lexers in the order of registration, and the names and aliases under which
each is known, the latest first. -/
structure Catalog where
  entries : List Entry
  names : List (String × Nat)
  aliases : List (String × Nat)
deriving DecidableEq, Repr

namespace Catalog

/-- A catalog without lexers. -/
def empty : Catalog := ⟨[], [], []⟩

/-- How many lexers there are. -/
def size (catalog : Catalog) : Nat := catalog.entries.length

/-- True of a catalog without lexers. -/
def isEmpty (catalog : Catalog) : Bool := catalog.entries.isEmpty

/-- The lexers in the order of registration. -/
def lexers (catalog : Catalog) : List Lexer := catalog.entries.map (·.lexer)

/-- Know an entry under a name, as it is and in lower case. -/
def index (table : List (String × Nat)) (name : String) (entry : Nat) : List (String × Nat) :=
  (Unicode.lowercase name, entry) :: (name, entry) :: table

/-- Add a lexer. What is no glob among its file names matches nothing. -/
def register (catalog : Catalog) (lexer : Lexer) : Catalog where
  entries := catalog.entries ++ [⟨lexer, lexer.config.filenames.filterMap Glob.parse?⟩]
  names := index catalog.names lexer.config.name catalog.size
  aliases := lexer.config.aliases.foldl
    (fun table name => index table name catalog.size) catalog.aliases

/-- The names of all lexers, and their aliases if wanted, in ascending order. -/
def sortedNames (catalog : Catalog) (withAliases : Bool) : List String :=
  let named (lexer : Lexer) : List String :=
    lexer.config.name :: if withAliases then lexer.config.aliases else []
  (catalog.lexers.flatMap named).mergeSort fun a b => !decide (b < a)

/-- The priority of an entry. -/
def priorityOf (catalog : Catalog) (entry : Nat) : Priority :=
  match catalog.entries[entry]? with
  | some found => found.lexer.priority
  | none => .one

/-- The better of two candidates: the first, unless it is not at least the second. -/
def better (catalog : Catalog) (best : Option Nat) (entry : Nat) : Option Nat :=
  match best with
  | none => some entry
  | some held =>
    if (catalog.priorityOf held).atLeast (catalog.priorityOf entry) then some held
    else some entry

/-- The best of some candidates. -/
def best (catalog : Catalog) (candidates : List Nat) : Option Nat :=
  candidates.foldl catalog.better none

/-- The entries with a property, in the order of registration. -/
def entriesWith (catalog : Catalog) (wanted : Entry → Bool) : List Nat :=
  (List.range catalog.size).filter fun entry => catalog.entries[entry]?.any wanted

/-- The best of the entries with a glob that matches a name. -/
def byGlob (catalog : Catalog) (name : String) : Option Nat :=
  catalog.best (catalog.entriesWith fun entry => entry.globs.any (·.isMatch name))

/-- The entry for the file at a path: by its name, or else by its name without the
suffix of a copy. -/
def byFileName (catalog : Catalog) (path : String) : Option Nat :=
  let name := FileName.base path
  match catalog.byGlob name with
  | some entry => some entry
  | none => (FileName.stem? name).bind catalog.byGlob

/-- The entry for a media type. -/
def byMimeType (catalog : Catalog) (mimeType : String) : Option Nat :=
  catalog.best (catalog.entriesWith fun entry => entry.lexer.config.mimeTypes.contains mimeType)

/-- The entry known under a name: as a name, as an alias, then both in lower case. -/
def byName (catalog : Catalog) (name : String) : Option Nat :=
  let lower := Unicode.lowercase name
  catalog.names.lookup name <|> catalog.aliases.lookup name <|> catalog.names.lookup lower <|>
    catalog.aliases.lookup lower

/-- The entry for a name, or else the better of those for a file with the name as its
extension and for a file of that name. -/
def find (catalog : Catalog) (name : String) : Option Nat :=
  match catalog.byName name with
  | some entry => some entry
  | none =>
    catalog.best
      ((catalog.byFileName ("filename." ++ name)).toList ++ (catalog.byFileName name).toList)

end Catalog

end GrammarLexer
