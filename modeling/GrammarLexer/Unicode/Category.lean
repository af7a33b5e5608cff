import GrammarLexer.Text.CharSet
import GrammarLexer.Unicode.CategoryTable

/-!
# General categories

Every character lies in exactly one general category, and the categories fall
into groups such as the letters. `Category.ofName?` finds a category or a group
by its short or long name.
-/

namespace GrammarLexer.Unicode

open Text

/-- A general category of characters. -/
inductive Category where
  | uppercaseLetter
  | lowercaseLetter
  | titlecaseLetter
  | modifierLetter
  | otherLetter
  | nonspacingMark
  | spacingMark
  | enclosingMark
  | decimalNumber
  | letterNumber
  | otherNumber
  | connectorPunctuation
  | dashPunctuation
  | openPunctuation
  | closePunctuation
  | initialPunctuation
  | finalPunctuation
  | otherPunctuation
  | mathSymbol
  | currencySymbol
  | modifierSymbol
  | otherSymbol
  | spaceSeparator
  | lineSeparator
  | paragraphSeparator
  | control
  | format
  | privateUse
  | unassigned
deriving DecidableEq, Repr

namespace Category

/-- The categories of assigned characters. -/
def assigned : List Category :=
  [.uppercaseLetter, .lowercaseLetter, .titlecaseLetter, .modifierLetter, .otherLetter,
   .nonspacingMark, .spacingMark, .enclosingMark, .decimalNumber, .letterNumber, .otherNumber,
   .connectorPunctuation, .dashPunctuation, .openPunctuation, .closePunctuation,
   .initialPunctuation, .finalPunctuation, .otherPunctuation, .mathSymbol, .currencySymbol,
   .modifierSymbol, .otherSymbol, .spaceSeparator, .lineSeparator, .paragraphSeparator,
   .control, .format, .privateUse]

/-- The characters of an assigned category; none for `unassigned`. -/
def assignedChars : Category → CharSet
  | .uppercaseLetter => .ofBounds CategoryTable.uppercaseLetter
  | .lowercaseLetter => .ofBounds CategoryTable.lowercaseLetter
  | .titlecaseLetter => .ofBounds CategoryTable.titlecaseLetter
  | .modifierLetter => .ofBounds CategoryTable.modifierLetter
  | .otherLetter => .ofBounds CategoryTable.otherLetter
  | .nonspacingMark => .ofBounds CategoryTable.nonspacingMark
  | .spacingMark => .ofBounds CategoryTable.spacingMark
  | .enclosingMark => .ofBounds CategoryTable.enclosingMark
  | .decimalNumber => .ofBounds CategoryTable.decimalNumber
  | .letterNumber => .ofBounds CategoryTable.letterNumber
  | .otherNumber => .ofBounds CategoryTable.otherNumber
  | .connectorPunctuation => .ofBounds CategoryTable.connectorPunctuation
  | .dashPunctuation => .ofBounds CategoryTable.dashPunctuation
  | .openPunctuation => .ofBounds CategoryTable.openPunctuation
  | .closePunctuation => .ofBounds CategoryTable.closePunctuation
  | .initialPunctuation => .ofBounds CategoryTable.initialPunctuation
  | .finalPunctuation => .ofBounds CategoryTable.finalPunctuation
  | .otherPunctuation => .ofBounds CategoryTable.otherPunctuation
  | .mathSymbol => .ofBounds CategoryTable.mathSymbol
  | .currencySymbol => .ofBounds CategoryTable.currencySymbol
  | .modifierSymbol => .ofBounds CategoryTable.modifierSymbol
  | .otherSymbol => .ofBounds CategoryTable.otherSymbol
  | .spaceSeparator => .ofBounds CategoryTable.spaceSeparator
  | .lineSeparator => .ofBounds CategoryTable.lineSeparator
  | .paragraphSeparator => .ofBounds CategoryTable.paragraphSeparator
  | .control => .ofBounds CategoryTable.control
  | .format => .ofBounds CategoryTable.format
  | .privateUse => .ofBounds CategoryTable.privateUse
  | .unassigned => .empty

/-- All characters that have an assigned category. -/
def anyAssigned : CharSet := .unionAll (assigned.map assignedChars)

/-- The characters of a category. -/
def chars : Category → CharSet
  | .unassigned => anyAssigned.complement
  | category => category.assignedChars

/-- The characters of any of several categories. -/
def charsOf (categories : List Category) : CharSet := .unionAll (categories.map chars)

/-- The short and long names of a category, in lower case and without separators. -/
def names : Category → List String
  | .uppercaseLetter => ["lu", "uppercaseletter"]
  | .lowercaseLetter => ["ll", "lowercaseletter"]
  | .titlecaseLetter => ["lt", "titlecaseletter"]
  | .modifierLetter => ["lm", "modifierletter"]
  | .otherLetter => ["lo", "otherletter"]
  | .nonspacingMark => ["mn", "nonspacingmark"]
  | .spacingMark => ["mc", "spacingmark"]
  | .enclosingMark => ["me", "enclosingmark"]
  | .decimalNumber => ["nd", "decimalnumber", "digit"]
  | .letterNumber => ["nl", "letternumber"]
  | .otherNumber => ["no", "othernumber"]
  | .connectorPunctuation => ["pc", "connectorpunctuation"]
  | .dashPunctuation => ["pd", "dashpunctuation"]
  | .openPunctuation => ["ps", "openpunctuation"]
  | .closePunctuation => ["pe", "closepunctuation"]
  | .initialPunctuation => ["pi", "initialpunctuation"]
  | .finalPunctuation => ["pf", "finalpunctuation"]
  | .otherPunctuation => ["po", "otherpunctuation"]
  | .mathSymbol => ["sm", "mathsymbol"]
  | .currencySymbol => ["sc", "currencysymbol"]
  | .modifierSymbol => ["sk", "modifiersymbol"]
  | .otherSymbol => ["so", "othersymbol"]
  | .spaceSeparator => ["zs", "spaceseparator"]
  | .lineSeparator => ["zl", "lineseparator"]
  | .paragraphSeparator => ["zp", "paragraphseparator"]
  | .control => ["cc", "control", "cntrl"]
  | .format => ["cf", "format"]
  | .privateUse => ["co", "privateuse"]
  | .unassigned => ["cn", "unassigned"]

/-- Letters that have case. -/
def casedLetters : List Category := [.uppercaseLetter, .lowercaseLetter, .titlecaseLetter]

/-- All letters. -/
def letters : List Category := casedLetters ++ [.modifierLetter, .otherLetter]

/-- All combining marks. -/
def marks : List Category := [.nonspacingMark, .spacingMark, .enclosingMark]

/-- All numbers. -/
def numbers : List Category := [.decimalNumber, .letterNumber, .otherNumber]

/-- All punctuation. -/
def punctuation : List Category :=
  [.connectorPunctuation, .dashPunctuation, .openPunctuation, .closePunctuation,
   .initialPunctuation, .finalPunctuation, .otherPunctuation]

/-- All symbols. -/
def symbols : List Category := [.mathSymbol, .currencySymbol, .modifierSymbol, .otherSymbol]

/-- All separators. -/
def separators : List Category := [.spaceSeparator, .lineSeparator, .paragraphSeparator]

/-- Controls, format characters, and characters without a meaning of their own. -/
def others : List Category := [.control, .format, .unassigned, .privateUse]

/-- The groups of categories with their names. -/
def groups : List (List String × List Category) :=
  [(["lc", "casedletter"], casedLetters), (["l", "letter"], letters),
   (["m", "mark", "combiningmark"], marks), (["n", "number"], numbers),
   (["p", "punctuation", "punct"], punctuation), (["s", "symbol"], symbols),
   (["z", "separator"], separators), (["c", "other"], others)]

/-- Every category. -/
def all : List Category := assigned ++ [.unassigned]

/-- The categories that a name stands for. -/
def named? (name : String) : Option (List Category) :=
  match all.find? (fun category => category.names.contains name) with
  | some category => some [category]
  | none => (groups.find? (fun group => group.1.contains name)).map (·.2)

/-- The characters that a name of a category or of a group stands for. The surrogates
lie between the unassigned and the private characters of the last group, so they are
one range with them. -/
def ofName? (name : String) : Option CharSet :=
  match name with
  | "any" => some .all
  | "assigned" => some anyAssigned
  | "ascii" => some (.ofBounds [0, 0x7F])
  | "c" | "other" => some ((charsOf others).union (.ofBounds [0xD800, 0xDFFF]))
  | _ => (named? name).map charsOf

end Category

end GrammarLexer.Unicode
