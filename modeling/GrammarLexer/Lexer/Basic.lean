import GrammarLexer.Machine.Build
import GrammarLexer.Machine.Display

/-!
# Lexers

A lexer is a grammar that has been built: what it says of itself, and its machine.
-/

namespace GrammarLexer

/-- A lexer. -/
structure Lexer where
  config : Config
  machine : Machine
deriving DecidableEq, Repr

namespace Lexer

/-- Build a grammar. -/
def ofGrammar (grammar : Grammar) : Except GrammarError Lexer :=
  grammar.build.map fun machine => ⟨grammar.config, machine⟩

/-- The priority that counts. -/
def priority (lexer : Lexer) : Priority := lexer.config.priority.effective

/-- The listing of a lexer: its name, then its machine. -/
def listing (lexer : Lexer) : String :=
  "lexer " ++ lexer.config.name ++ "\n" ++ lexer.machine.listing

end Lexer

end GrammarLexer
