import GrammarLexer.Pattern.Parser
import GrammarLexer.Pattern.Program

/-!
# Compiling patterns

A pattern is read, its switches are applied, and the result becomes a program. It
fails if the text is no pattern, or if the program would be too great.
-/

namespace GrammarLexer.Pattern

/-- Why a pattern could not be compiled. -/
inductive PatternError where
  | malformed
  | tooLarge
deriving DecidableEq, Repr

/-- The text of an error. -/
def PatternError.message : PatternError → String
  | .malformed => "error parsing pattern 0"
  | .tooLarge => "error building NFA"

/-- Compile a pattern under some switches. -/
def compile (flags : Flags) (text : String) : Except PatternError Program :=
  match (Expr.parse? text.toList).bind (meaning? flags) with
  | none => .error .malformed
  | some (regex, _) =>
    match Program.ofRegex? regex with
    | none => .error .tooLarge
    | some program => .ok program

end GrammarLexer.Pattern
