import GrammarLexer.Scan.Stack
import GrammarLexer.Text.Cursor
import GrammarLexer.Token.Basic

/-!
# Scanning

A scan walks over a span of text. At each step the rules of the state on top of
the stack are tried in order, and the first one with a match where the scan stands
decides:

* a match of some text is emitted as tokens, the rule's move is made, and the scan
  goes on after it;
* a match of nothing makes the rule's move only, provided that this changes the
  stack and that no more than `maxIdle` such steps follow each other at one place;
* in any other case one character becomes an error token.

A rule may hand its match, or the span of a group, to a nested scan that starts in
a state of its own. Nested scans are opened up to a depth of `maxNesting`.

Every step brings the scan closer to its end, by `Scan.step_budget_lt`: it either
takes a character or uses up one of the idle steps allowed at its place.
-/

namespace GrammarLexer

open Text

/-- How many steps in a row may make a move without taking text. -/
def maxIdle : Nat := 32

/-- How deeply scans may be nested. -/
def maxNesting : Nat := 16

/-- A scan: the stack, the byte offset reached, the text from there to the end of
the span, and how many steps have been made there without taking text. -/
structure Scan where
  stack : Stack
  position : Nat
  cursor : Cursor
  idle : Nat
deriving DecidableEq, Repr

/-- What to do with a span that is handed to a state: its tokens, given the state,
the byte offset of the span, and its text. -/
abbrev Delegated := String → Nat → Cursor → List Token

/-! ## Emitting -/

/-- A match at a place: the state on top of the stack, the byte offset, and the
text it was found in. -/
structure Place where
  current : String
  position : Nat
  cursor : Cursor

namespace Place

/-- The byte offset of a character of the match. -/
def offset (place : Place) (count : Nat) : Nat := place.position + place.cursor.bytesTo count

/-- The token for the part of the match between two characters, if there is any. -/
def span (place : Place) (kind : Kind) (start stop : Nat) : List Token :=
  Token.spanning kind (place.offset start) (place.offset stop)

/-- The tokens for a part of the match that is handed to a state. -/
def delegate (place : Place) (nested : Delegated) (target : Target) (start stop : Nat) :
    List Token :=
  nested (target.resolve place.current) (place.offset start) (place.cursor.slice start stop)

/-- The tokens for the span of a group. -/
def group (place : Place) (nested : Delegated) (start stop : Nat) : GroupAction → List Token
  | .token kind => place.span kind start stop
  | .delegate target => place.delegate nested target start stop

/-- The tokens for the groups of a match in the order of their numbers, from the
number `index` and the character `done` on. What is passed over on the way to a group is
plain text, and nothing before `done` is looked at again. -/
def groups (place : Place) (nested : Delegated) (found : Pattern.Match) :
    Nat → Nat → List GroupAction → List Token
  | _, done, [] => place.span .text done found.length
  | index, done, action :: rest =>
    match found.span? index with
    | none => place.groups nested found (index + 1) done rest
    | some span =>
      let start := max span.start done
      if span.stop ≤ start then place.groups nested found (index + 1) done rest
      else
        place.span .text done start ++ place.group nested start span.stop action ++
          place.groups nested found (index + 1) span.stop rest

/-- The tokens for a match. -/
def emit (place : Place) (nested : Delegated) (found : Pattern.Match) : Action → List Token
  | .nothing => place.span .text 0 found.length
  | .token kind => place.span kind 0 found.length
  | .groups actions => place.groups nested found 1 0 actions
  | .delegate target => place.delegate nested target 0 found.length

end Place

/-! ## Steps -/

/-- The first rule that matches where a cursor stands, with its match. -/
def firstMatch? (cursor : Cursor) : List Rule → Option (Rule × Pattern.Match)
  | [] => none
  | rule :: rest =>
    match rule.program.match? cursor with
    | some found => some (rule, found)
    | none => firstMatch? cursor rest

namespace Scan

/-- A scan of a span that starts in a state. -/
def start (state : String) (position : Nat) (cursor : Cursor) : Scan :=
  ⟨.floor state, position, cursor, 0⟩

/-- True at the end of the span. -/
def finished (scan : Scan) : Bool := scan.cursor.rest.isEmpty

/-- Go on after some characters, with a new stack. -/
def goOn (scan : Scan) (count : Nat) (stack : Stack) : Scan where
  stack := stack
  position := scan.position + scan.cursor.bytesTo count
  cursor := scan.cursor.advance count
  idle := 0

/-- Take one character as an error. -/
def refuse (scan : Scan) : List Token × Scan :=
  (Token.spanning .error scan.position (scan.position + scan.cursor.bytesTo 1),
    scan.goOn 1 scan.stack)

/-- Make one step. -/
def step (nested : Delegated) (machine : Machine) (scan : Scan) : List Token × Scan :=
  match firstMatch? scan.cursor (machine.rulesOf scan.stack.top) with
  | none => scan.refuse
  | some (rule, found) =>
    let moved := scan.stack.move rule.move
    if found.length = 0 then
      if scan.idle < maxIdle ∧ moved.1 then
        ([], { scan with stack := moved.2, idle := scan.idle + 1 })
      else scan.refuse
    else
      (Place.emit ⟨scan.stack.top, scan.position, scan.cursor⟩ nested found rule.action,
        scan.goOn found.length moved.2)

/-- An upper bound on the steps that a scan can still make. -/
def budget (scan : Scan) : Nat :=
  (maxIdle + 1) * scan.cursor.rest.length + (maxIdle - scan.idle)

/-- Going on after at least one character lowers the budget. -/
theorem goOn_budget_lt (scan : Scan) (count : Nat) (stack : Stack) (taken : 0 < count)
    (unfinished : scan.finished = false) : (scan.goOn count stack).budget < scan.budget := by
  have nonempty : scan.cursor.rest ≠ [] := by simpa [finished] using unfinished
  have positive : 0 < scan.cursor.rest.length := List.length_pos_iff.2 nonempty
  simp only [budget, goOn, Cursor.advance, List.length_drop, maxIdle]
  omega

/-- Every step of a scan that is not finished lowers the budget. -/
theorem step_budget_lt (nested : Delegated) (machine : Machine) (scan : Scan)
    (unfinished : scan.finished = false) :
    (scan.step nested machine).2.budget < scan.budget := by
  have refused : scan.refuse.2.budget < scan.budget :=
    scan.goOn_budget_lt 1 scan.stack Nat.one_pos unfinished
  unfold step
  split
  · exact refused
  · rename_i rule found _
    dsimp only
    split
    · split
      · rename_i idle
        simp only [budget]
        omega
      · exact refused
    · rename_i taken
      exact scan.goOn_budget_lt _ _ (Nat.pos_of_ne_zero taken) unfinished

/-- All tokens of a scan. -/
def drain (nested : Delegated) (machine : Machine) (scan : Scan) : List Token :=
  if _unfinished : scan.finished = false then
    let result := scan.step nested machine
    result.1 ++ drain nested machine result.2
  else []
termination_by scan.budget
decreasing_by exact step_budget_lt nested machine scan _unfinished

end Scan

/-- The tokens of a nested scan, where scans may be nested by a number of further
levels. Beyond the last level a span is one error. -/
def delegated (machine : Machine) : Nat → Delegated
  | 0, _, position, cursor =>
    Token.spanning .error position (position + cursor.bytesTo cursor.rest.length)
  | levels + 1, state, position, cursor =>
    (Scan.start state position cursor).drain (delegated machine levels) machine

/-- Make one step of a scan that is not nested. -/
def Scan.advance (machine : Machine) (scan : Scan) : List Token × Scan :=
  scan.step (delegated machine maxNesting) machine

end GrammarLexer
