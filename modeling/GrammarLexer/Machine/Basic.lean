import GrammarLexer.Grammar.Basic
import GrammarLexer.Pattern.Search
import GrammarLexer.Token.Kind

/-!
# Machines

What a grammar is built into: states whose rules have compiled patterns and refer
only to states of the machine. Rules put in place of an include are there like any
other, and each list of states to be pushed as one has a state of its own.
-/

namespace GrammarLexer

/-- A state that a rule refers to: the one on top of the stack, or one by name. -/
inductive Target where
  | current
  | named (state : String)
deriving DecidableEq, Repr

/-- The state meant, where another is on top of the stack. -/
def Target.resolve (target : Target) (current : String) : String :=
  match target with
  | .current => current
  | .named state => state

/-- What to emit for the span of a group. -/
inductive GroupAction where
  | token (kind : Kind)
  | delegate (target : Target)
deriving DecidableEq, Repr

/-- What to emit for a match. A rule that says nothing emits plain text. -/
inductive Action where
  | nothing
  | token (kind : Kind)
  | groups (actions : List GroupAction)
  | delegate (target : Target)
deriving DecidableEq, Repr

/-- What to do to the stack of states after a match. -/
inductive Move where
  | stay
  | push (target : Target)
  | pop (depth : Nat)
deriving DecidableEq, Repr

/-- A rule that can be matched. -/
structure Rule where
  pattern : String
  program : Pattern.Program
  action : Action
  move : Move
deriving DecidableEq, Repr

/-- A state with its rules, in the order in which they are tried. -/
structure State where
  name : String
  rules : List Rule
deriving DecidableEq, Repr

/-- The states of a machine: those declared, then those made for combined lists. -/
structure Machine where
  states : List State
deriving DecidableEq, Repr

namespace Machine

/-- The names of the states. -/
def stateNames (machine : Machine) : List String := machine.states.map (·.name)

/-- True if a state has this name. -/
def knows (machine : Machine) (name : String) : Bool := machine.stateNames.contains name

/-- The position of a state. -/
def indexOf (machine : Machine) (name : String) : Nat := machine.stateNames.idxOf name

/-- The rules of a state. -/
def rulesOf (machine : Machine) (name : String) : List Rule :=
  match machine.states.find? (·.name = name) with
  | some state => state.rules
  | none => []

end Machine

end GrammarLexer
