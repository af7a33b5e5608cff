import GrammarLexer.Text.Utf8

/-!
# File names

The name of a file is the last component of its path. Copies that tools leave
behind have a suffix of their own after the name, which can be taken off.
-/

namespace GrammarLexer.FileName

/-- The components of a path, empty ones included. -/
def components : List Char → List (List Char)
  | [] => [[]]
  | '/' :: cs => [] :: components cs
  | c :: cs =>
    match components cs with
    | [] => [[c]]
    | first :: rest => (c :: first) :: rest

/-- The name of the file at a path. Trailing separators do not count, nor does a
component for the directory itself. A path to a parent directory or to the root has
none. -/
def ofPath? (path : String) : Option String :=
  let trailing (component : List Char) : Bool := component.isEmpty || component == ['.']
  match (components path.toList).reverse.dropWhile trailing with
  | [] => none
  | last :: _ => if last = ['.', '.'] then none else some (String.ofList last)

/-- The name of the file at a path, or else the path itself. -/
def base (path : String) : String := (ofPath? path).getD path

/-- The suffixes of copies: those of editors, of package managers, and of templates. -/
def copySuffixes : List String :=
  ["~", ".bak", ".old", ".orig", ".dpkg-dist", ".dpkg-old", ".ucf-dist", ".ucf-new", ".ucf-old",
   ".rpmnew", ".rpmorig", ".rpmsave", ".in"]

/-- The name without the suffix of a copy, if it has one and is more than that. -/
def stem? (name : String) : Option String :=
  match copySuffixes.findSome? (Text.dropTail? · name) with
  | some stem => if stem = "" then none else some stem
  | none => none

end GrammarLexer.FileName
