import GrammarLexer.Machine.Basic
import GrammarLexer.Text.Quoted

/-!
# Listing a machine

A machine is listed state by state, with one line for each rule: its pattern
between quotes, what it emits, and what it does to the stack. What it emits names
a state by its position.
-/

namespace GrammarLexer

namespace Machine

/-- A target by the position of its state. -/
def showTarget (machine : Machine) : Target → String
  | .current => "Current"
  | .named state => "Named(StateId(" ++ Nat.repr (machine.indexOf state) ++ "))"

/-- What a group emits. -/
def showGroupAction (machine : Machine) : GroupAction → String
  | .token kind => "Token(" ++ kind.canonicalName ++ ")"
  | .delegate target => "UsingSelf(" ++ machine.showTarget target ++ ")"

/-- What a rule emits. -/
def showAction (machine : Machine) : Action → String
  | .nothing => "Nothing"
  | .token kind => "Token(" ++ kind.canonicalName ++ ")"
  | .groups actions =>
    "ByGroups([" ++ String.intercalate ", " (actions.map machine.showGroupAction) ++ "])"
  | .delegate target => "UsingSelf(" ++ machine.showTarget target ++ ")"

/-- What a rule does to the stack. -/
def showMove : Move → String
  | .stay => ""
  | .push .current => " push #push"
  | .push (.named state) => " push " ++ state
  | .pop depth => " pop " ++ Nat.repr depth

/-- The line of a rule. -/
def showRule (machine : Machine) (rule : Rule) : String :=
  "  " ++ Text.quoted rule.pattern ++ " -> " ++ machine.showAction rule.action ++
    showMove rule.move ++ "\n"

/-- The lines of a state. -/
def showState (machine : Machine) (state : State) : String :=
  state.name ++ ":\n" ++ String.join (state.rules.map machine.showRule)

/-- The listing. -/
def listing (machine : Machine) : String := String.join (machine.states.map machine.showState)

end Machine

end GrammarLexer
