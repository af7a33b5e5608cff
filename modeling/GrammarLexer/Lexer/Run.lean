import GrammarLexer.Lexer.Basic
import GrammarLexer.Scan.Step
import GrammarLexer.Text.LineEnding
import GrammarLexer.Token.Merge

/-!
# Runs

A run hands out the tokens of a text one by one. It scans the text with its line
endings folded, and moves each token back to the text as it was given; tokens wait
in a merger until they are complete. Scanning goes no further than the next token
needs.

A snapshot of a run holds the stack, how far the text has been scanned, and the
tokens not yet handed out. Resuming from it goes on with those tokens and then with
the text, which need not be the same, nor the lexer.
-/

namespace GrammarLexer

open Text

/-- How to run a lexer: whether to merge neighbours of one kind, and the state to
start in on top of the root. -/
structure Options where
  merging : Bool
  state : Option String
deriving DecidableEq, Repr

/-- A run over a text. -/
structure Run where
  machine : Machine
  folded : List Char
  offsets : OffsetMap
  scan : Scan
  buffer : Merger

/-- A run at rest: the stack with the floor first, the byte offset up to which the
text has been scanned, the tokens not yet handed out, and whether they are merged. -/
structure Snapshot where
  stack : List String
  consumed : Nat
  pending : List Token
  merging : Bool
deriving DecidableEq, Repr

/-- The byte offset up to which tokens have been handed out. -/
def Snapshot.returned (snapshot : Snapshot) : Nat :=
  match snapshot.pending with
  | [] => snapshot.consumed
  | token :: _ => token.start

/-- The token with its span moved back from the folded text. -/
def Text.OffsetMap.sourceToken (offsets : OffsetMap) (token : Token) : Token :=
  let start := offsets.toSource token.start
  ⟨token.kind, start, offsets.toSource token.stop - start⟩

namespace Lexer

/-- A run over a text from a byte offset of it on, with a stack and with tokens to
hand out first. The offset goes back to the last character boundary. -/
def runFrom (lexer : Lexer) (text : String) (stack : Stack) (consumed : Nat)
    (buffer : Merger) : Run :=
  let folded := foldLineEndings text.toList
  let offsets := OffsetMap.ofText text.toList
  let parts := splitAtByte (offsets.toFolded consumed) folded
  { machine := lexer.machine
    folded := folded
    offsets := offsets
    scan := ⟨stack, byteLength parts.1, ⟨parts.1.getLast?, parts.2, none⟩, 0⟩
    buffer := buffer }

/-- The stack to start with: the root, and on it the state asked for. A state that
is the root or that the lexer does not know changes nothing. -/
def startStack (lexer : Lexer) (state : Option String) : Stack :=
  match state with
  | none => .floor rootState
  | some name =>
    if lexer.machine.knows name && name != rootState then (Stack.floor rootState).push name
    else .floor rootState

/-- Run over a text from its beginning. -/
def start (lexer : Lexer) (text : String) (options : Options) : Run :=
  lexer.runFrom text (lexer.startStack options.state) 0 (.ofList options.merging [])

/-- Go on from a snapshot. States that the lexer does not know are left out. -/
def resume (lexer : Lexer) (text : String) (snapshot : Snapshot) : Run :=
  lexer.runFrom text (.ofEntries rootState (snapshot.stack.filter lexer.machine.knows))
    snapshot.consumed (.ofList snapshot.merging snapshot.pending)

end Lexer

namespace Run

/-- The state of the run. -/
def snapshot (run : Run) : Snapshot where
  stack := run.scan.stack.entries
  consumed := run.offsets.toSource run.scan.position
  pending := run.buffer.outstanding
  merging := run.buffer.merging

/-- Scan one step further. -/
def advance (run : Run) : Run :=
  let result := run.scan.advance run.machine
  { run with
    scan := result.2
    buffer := run.buffer.supply (result.1.map run.offsets.sourceToken) }

/-- Replace the waiting tokens. -/
def withBuffer (run : Run) (buffer : Merger) : Run := { run with buffer := buffer }

/-- Advancing lowers the budget of the scan. -/
theorem advance_budget_lt (run : Run) (unfinished : run.scan.finished = false) :
    run.advance.scan.budget < run.scan.budget :=
  Scan.step_budget_lt _ _ _ unfinished

/-- The next token, if there is one, and the run after it. -/
def next (run : Run) : Option Token × Run :=
  match run.buffer.poll with
  | (some token, buffer) => (some token, run.withBuffer buffer)
  | (none, buffer) =>
    if _unfinished : run.scan.finished = false then
      (run.withBuffer buffer).advance.next
    else
      let flushed := buffer.flush
      (flushed.1, run.withBuffer flushed.2)
termination_by run.scan.budget
decreasing_by exact advance_budget_lt (run.withBuffer buffer) _unfinished

/-- Handing out a token leaves less to scan, or else fewer tokens waiting. -/
theorem next_decreases (run : Run) {token : Token} (found : run.next.1 = some token) :
    run.next.2.scan.budget < run.scan.budget ∨
      run.next.2.scan.budget = run.scan.budget ∧
        run.next.2.buffer.outstanding.length < run.buffer.outstanding.length := by
  fun_induction Run.next run with
  | case1 run token' buffer polled =>
    exact .inr ⟨rfl, Merger.poll_shortens polled⟩
  | case2 run buffer polled unfinished ih =>
    have lower := advance_budget_lt (run.withBuffer buffer) unfinished
    have same : (run.withBuffer buffer).scan.budget = run.scan.budget := rfl
    left
    rcases ih found with less | ⟨equal, _⟩ <;> omega
  | case3 run buffer polled finished flushed =>
    exact .inr ⟨rfl, Merger.flush_shortens polled found⟩

/-- All tokens that are still to come, and the run after them. -/
def drain (run : Run) : List Token × Run :=
  match _found : run.next with
  | (none, ended) => ([], ended)
  | (some token, rest) =>
    let more := rest.drain
    (token :: more.1, more.2)
termination_by (run.scan.budget, run.buffer.outstanding.length)
decreasing_by
  have found : run.next.1 = some token := by rw [_found]
  have decreases := run.next_decreases found
  rw [_found] at decreases
  rcases decreases with less | ⟨equal, fewer⟩
  · exact Prod.Lex.left _ _ less
  · rw [← equal]
    exact Prod.Lex.right _ fewer

end Run

namespace Lexer

/-- The tokens of a text. -/
def tokens (lexer : Lexer) (text : String) (options : Options) : List Token :=
  (lexer.start text options).drain.1

end Lexer

end GrammarLexer
