import GrammarLexer.Pattern.Footprint

/-!
# Programs

A regular expression is compiled into a list of instructions that name each other
by their place. Compiling goes backwards: each part is given the place where
matching goes on after it, and yields the place where it begins.

Repetitions are written out, so a program can be far longer than its pattern.
`Regex.fits` tells whether it may be that long before it is built.
-/

namespace GrammarLexer.Pattern

open Text

/-- One step of matching: succeed, take a character, try one way and then another,
check a condition, or note the start or the end of a group. -/
inductive Instr where
  | accept
  | consume (members : CharSet) (next : Nat)
  | fork (first second : Nat)
  | check (condition : Look) (next : Nat)
  | openGroup (index next : Nat)
  | closeGroup (index next : Nat)
deriving DecidableEq, Repr

/-- Instructions, with the place to begin. -/
structure Program where
  code : Array Instr
  start : Nat
deriving DecidableEq, Repr

/-- Part of a program: the instructions so far, and the place where matching goes
on. -/
abbrev Fragment := Array Instr × Nat

namespace Fragment

/-- Put an instruction in front. -/
def emit (fragment : Fragment) (instr : Nat → Instr) : Fragment :=
  let place := fragment.1.size
  (fragment.1.push (instr fragment.2), place)

/-- Two ways to go on: into a part or past it. -/
def choose (greedy : Bool) (into past : Nat) : Instr :=
  if greedy then .fork into past else .fork past into

/-- Put a part in front that is followed by a fork, which leads into the part again or
past it. Yields the place of the fork, too. -/
def loop (fragment : Fragment) (greedy : Bool) (pass : Fragment → Fragment) : Fragment × Nat :=
  let fork := fragment.1.size
  let body := pass (fragment.1.push .accept, fork)
  ((body.1.setIfInBounds fork (choose greedy body.2 fragment.2), body.2), fork)

/-- Put a part in front that repeats at least once, given how to put one pass of it in
front. -/
def atLeastOnce (greedy : Bool) (pass : Fragment → Fragment) (fragment : Fragment) : Fragment :=
  (fragment.loop greedy pass).1

/-- Put a part in front that may be passed over, going on at a given place. -/
def optional (past : Nat) (greedy : Bool) (pass : Fragment → Fragment) (fragment : Fragment) :
    Fragment :=
  (pass fragment).emit fun into => choose greedy into past

/-- Put a part in front a number of times. -/
def times (count : Nat) (pass : Fragment → Fragment) (fragment : Fragment) : Fragment :=
  Nat.repeat pass count fragment

/-- Put a part in front that repeats any number of times. If each pass takes a character
this is a loop entered at its fork. Otherwise it is one that repeats at least once and
may be passed over as a whole, which keeps the order of preference where a pass matches
nothing. -/
def anyTimes (taking greedy : Bool) (pass : Fragment → Fragment) (fragment : Fragment) :
    Fragment :=
  if taking then
    let looped := fragment.loop greedy pass
    (looped.1.1, looped.2)
  else optional fragment.2 greedy (atLeastOnce greedy pass) fragment

/-- Put a repetition in front, given whether each pass takes a character. -/
def repeated (min : Nat) (max : Option Nat) (taking greedy : Bool) (pass : Fragment → Fragment)
    (fragment : Fragment) : Fragment :=
  match max, min with
  | none, 0 => anyTimes taking greedy pass fragment
  | none, n + 1 => times n pass (atLeastOnce greedy pass fragment)
  | some max, min => times min pass (times (max - min) (optional fragment.2 greedy pass) fragment)

end Fragment

mutual

/-- Put a regular expression in front of a fragment. -/
def Regex.compile : Regex → Fragment → Fragment
  | .empty, fragment => fragment
  | .literal chars, fragment =>
    chars.foldr (fun c fragment => fragment.emit (.consume (.single c))) fragment
  | .set members, fragment => fragment.emit (.consume members)
  | .look condition, fragment => fragment.emit (.check condition)
  | .repeated min max greedy body, fragment =>
    fragment.repeated min max body.alwaysTakes greedy body.compile
  | .capture index body, fragment =>
    (body.compile (fragment.emit (.closeGroup index))).emit (.openGroup index)
  | .concat items, fragment => Regex.compileItems items fragment
  | .alternation branches, fragment => Regex.compileBranches branches fragment

/-- Put the items of a sequence in front of a fragment. -/
def Regex.compileItems : List Regex → Fragment → Fragment
  | [], fragment => fragment
  | item :: rest, fragment => item.compile (Regex.compileItems rest fragment)

/-- Put an alternation in front of a fragment; each branch goes on at the same
place. -/
def Regex.compileBranches : List Regex → Fragment → Fragment
  | [], fragment => fragment.emit (.consume .empty)
  | [branch], fragment => branch.compile fragment
  | branch :: rest, fragment =>
    let (code, others) := Regex.compileBranches rest fragment
    (branch.compile (code, fragment.2)).emit fun into => .fork into others

end

/-- The program of a regular expression, unless it would take too much memory. -/
def Program.ofRegex? (regex : Regex) : Option Program :=
  if regex.fits then
    let fragment := regex.compile (#[.accept], 0)
    some ⟨fragment.1, fragment.2⟩
  else none

end GrammarLexer.Pattern
