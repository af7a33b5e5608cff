import GrammarLexer.Machine.Basic

/-!
# Stacks of states

The states that a scan has entered and not left, by name. The state it started in
is the floor, which stays: a pop takes away no more than what stands on it. So a
stack is never empty.
-/

namespace GrammarLexer

/-- A stack: the state on top, and those below it, the floor last. -/
structure Stack where
  top : String
  below : List String
deriving DecidableEq, Repr

namespace Stack

/-- The stack with nothing but its floor. -/
def floor (state : String) : Stack := ⟨state, []⟩

/-- All states, the floor first. -/
def entries (stack : Stack) : List String := (stack.top :: stack.below).reverse

/-- The stack with some states, the floor first; if there are none, the one with a
given floor. -/
def ofEntries (floor : String) (entries : List String) : Stack :=
  match entries.reverse with
  | [] => .floor floor
  | top :: below => ⟨top, below⟩

/-- Put a state on top. -/
def push (stack : Stack) (state : String) : Stack := ⟨state, stack.top :: stack.below⟩

/-- Take away states from the top, but never the floor. -/
def popFrom (top : String) : List String → Nat → Stack
  | next :: below, depth + 1 => popFrom next below depth
  | below, _ => ⟨top, below⟩

/-- Take away states from the top, but never the floor. -/
def pop (stack : Stack) (depth : Nat) : Stack := popFrom stack.top stack.below depth

/-- Make a move, and tell whether it changed the stack. -/
def move (stack : Stack) : Move → Bool × Stack
  | .stay => (false, stack)
  | .push target => (true, stack.push (target.resolve stack.top))
  | .pop depth => (depth != 0 && !stack.below.isEmpty, stack.pop depth)

end Stack

end GrammarLexer
