import GrammarLexer.Unicode.CaseFolding
import GrammarLexer.Unicode.Property

/-!
# What a change of case changes

Which characters a mapping to lower, upper or title case, or the folding of case,
turns into something else. The tables of mappings hold those from one character to
one; `PropertyTable` has the rest.
-/

namespace GrammarLexer.Unicode

open Text

namespace CaseRun

/-- Code points in equal steps. -/
def stepped (step first last : Nat) : CharSet :=
  if step = 1 then ⟨[⟨first, last⟩]⟩
  else ⟨(List.range ((last - first) / step + 1)).map fun k =>
    ⟨first + k * step, first + k * step⟩⟩

/-- The characters that the run moves. -/
def sources (run : CaseRun) : CharSet := stepped run.step run.first run.last

/-- The characters that the run moves something to. -/
def targets (run : CaseRun) : CharSet := stepped run.step run.target run.lastTarget

end CaseRun

namespace Property

/-- Characters that lower case changes: those with one character as their lower case,
and the capital i with a dot. -/
def changesWhenLowercased : CharSet :=
  (CharSet.single 'İ').union (.unionAll (CaseTable.lower.map CaseRun.sources))

/-- Characters that some change of case changes. -/
def changesWhenCasemapped : CharSet :=
  (CharSet.ofBounds PropertyTable.specialCased).union
    (.unionAll (CaseTable.folded.map fun run => run.sources.union run.targets))

/-- Characters that upper case changes: all that have another case and are no
uppercase letters. -/
def changesWhenUppercased : CharSet :=
  (changesWhenCasemapped.diff changesWhenLowercased).union Category.titlecaseLetter.chars

/-- Characters that title case changes. Titlecase letters stay, and so do the small
Georgian letters; four uppercase digraphs have a titlecase form. -/
def changesWhenTitlecased : CharSet :=
  (changesWhenUppercased.diff
    (Category.titlecaseLetter.chars.union (.ofBounds [0x10D0, 0x10FA, 0x10FD, 0x10FF]))).union
    (.ofBounds [0x1C4, 0x1C4, 0x1C7, 0x1C7, 0x1CA, 0x1CA, 0x1F1, 0x1F1])

/-- Characters that folding changes. The capital Cherokee letters stay, since the
small ones fold to them. -/
def changesWhenCasefolded : CharSet :=
  (changesWhenLowercased.diff (.ofBounds [0x13A0, 0x13F5])).union
    (.ofBounds PropertyTable.specialFolded)

end Property

end GrammarLexer.Unicode
