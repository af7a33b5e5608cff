import GrammarLexer.Text.CharSet
import GrammarLexer.Unicode.CaseTable

/-!
# Simple case folding

Characters that differ only by case fold to the same code point, the lowest of
them. A set is closed under case by folding its members and then adding every
character that folds to one of the results.
-/

namespace GrammarLexer.Unicode

open Text

namespace CaseRun

/-- True if a code point is one of those that the run moves. -/
def moves (run : CaseRun) (code : Nat) : Bool :=
  run.first ≤ code && code ≤ run.last && (code - run.first) % run.step == 0

/-- Where the run moves a code point. -/
def image (run : CaseRun) (code : Nat) : Nat := run.target + (code - run.first)

/-- The last code point that the run moves something to. -/
def lastTarget (run : CaseRun) : Nat := run.target + (run.last - run.first)

/-- The part of a range that lies in steps of a run, moved from one place to
another: ranges that start at `source` go to `destination`. -/
def shift (step source sourceLast destination : Nat) (range : CharRange) : List CharRange :=
  let first := max range.first source
  let last := min range.last sourceLast
  if last < first then []
  else if step = 1 then
    [⟨destination + (first - source), destination + (last - source)⟩]
  else
    let skipped := (first - source + (step - 1)) / step
    let steps := (last - source) / step + 1 - skipped
    (List.range steps).map fun k =>
      let code := destination + (skipped + k) * step
      ⟨code, code⟩

/-- The results of folding the members of a range that the run moves. -/
def folded (run : CaseRun) (range : CharRange) : List CharRange :=
  shift run.step run.first run.last run.target range

/-- The code points that the run moves into a range. -/
def unfolded (run : CaseRun) (range : CharRange) : List CharRange :=
  shift run.step run.target run.lastTarget run.first range

end CaseRun

/-- Apply every run to every range of a set, and add the results to the set. -/
def withImages (image : CaseRun → CharRange → List CharRange) (set : CharSet) : CharSet :=
  CaseTable.folded.foldl
    (fun result run => set.ranges.foldl
      (fun result range => (image run range).foldl
        (fun result moved => result.union ⟨[moved]⟩) result) result) set

/-- The set together with all characters that differ from a member only by case. -/
def closeUnderCase (set : CharSet) : CharSet :=
  withImages CaseRun.unfolded (withImages CaseRun.folded set)

/-- The same, where only the letters of ASCII have case. -/
def closeUnderAsciiCase (set : CharSet) : CharSet :=
  let lower := set.inter (.range 'a' 'z')
  let upper := set.inter (.range 'A' 'Z')
  let moved (offset : Nat → Nat) (part : CharSet) : CharSet :=
    ⟨part.ranges.map fun range => ⟨offset range.first, offset range.last⟩⟩
  (set.union (moved (· - 32) lower)).union (moved (· + 32) upper)

end GrammarLexer.Unicode
