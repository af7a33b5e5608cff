import GrammarLexer.Grammar.Priority

/-!
# Grammars

A grammar as its author declares it: what the lexer is called and which files it
is for, and an ordered list of named states, each with an ordered list of rules.
A rule refers to states and token kinds by name; whether they exist, and whether
the directives of a rule go together, is checked when the grammar is built.
-/

namespace GrammarLexer

/-- The state in which scanning starts. -/
def rootState : String := "root"

/-- The target of a push that stands for the state on top of the stack. -/
def pushCurrent : String := "#push"

/-- How the patterns of a grammar are read. -/
structure PatternOptions where
  caseInsensitive : Bool
  dotAll : Bool
  notMultiline : Bool
deriving DecidableEq, Repr

/-- What a grammar says of itself: names to find it by, globs of file names, media
types, and the priority among grammars for the same file. -/
structure Config where
  name : String
  aliases : List String
  filenames : List String
  mimeTypes : List String
  priority : Priority
  options : PatternOptions
deriving DecidableEq, Repr

/-- Hand a span to a state: one that is named, or the one on top of the stack. -/
structure Delegate where
  state : Option String
deriving DecidableEq, Repr

/-- What to do with the span of one group of a pattern. -/
inductive GroupDecl where
  | token (kind : String)
  | delegate (delegate : Delegate)
deriving DecidableEq, Repr

/-- A rule as it is declared. All but the pattern may be left out: the kind of the
token, the state to push, how many states to pop, the state whose rules to put in
the rule's place, the states to push as one, what to do with each group, and the
state to hand the match to. -/
structure RuleDecl where
  pattern : String
  token : Option String
  push : Option String
  pop : Option Nat
  splice : Option String
  combined : Option (List String)
  groups : Option (List GroupDecl)
  delegate : Option Delegate
deriving DecidableEq, Repr

/-- A named state with its rules. -/
structure StateDecl where
  name : String
  rules : List RuleDecl
deriving DecidableEq, Repr

/-- A grammar. -/
structure Grammar where
  config : Config
  states : List StateDecl
deriving DecidableEq, Repr

/-- The names of the declared states. -/
def Grammar.stateNames (grammar : Grammar) : List String := grammar.states.map (·.name)

end GrammarLexer
