import GrammarLexer.Pattern.Program
import GrammarLexer.Text.Cursor

/-!
# Matching

A program is run on all ways to match at once: a list of threads, the preferred
one first, that take the characters in step. A thread that arrives at an
instruction where a preferred one has already arrived at the same place in the
text is dropped, since the two would go on alike. So the work for each character
is bounded by the length of the program, and the longest match never needs more
than one pass.

A match begins where the cursor stands and ends within its span. Among the ways
to match, the one that the pattern prefers wins, not the longest.
-/

namespace GrammarLexer.Pattern

open Text

/-- The span of a group, in characters from the beginning of the match. -/
structure GroupSpan where
  group : Nat
  start : Nat
  stop : Nat
deriving DecidableEq, Repr

/-- A match: its length in characters, and the spans of its groups, latest first. -/
structure Match where
  length : Nat
  spans : List GroupSpan
deriving DecidableEq, Repr

/-- The span of a group in its last pass, if it took part. -/
def Match.span? (found : Match) (group : Nat) : Option GroupSpan :=
  found.spans.find? (·.group = group)

/-! ## Conditions -/

/-- True of a character of a word. -/
def isWordChar (unicode : Bool) : Option Char → Bool
  | none => false
  | some c => (Shorthand.word.chars unicode).contains c

/-- True if a condition holds between two characters, where none stands for the
end of the text. -/
def Look.holds (before after : Option Char) : Look → Bool
  | .textStart => before.isNone
  | .textEnd => after.isNone
  | .lineStart false => before.isNone || before == some '\n'
  | .lineEnd false => after.isNone || after == some '\n'
  | .lineStart true =>
    before.isNone || before == some '\n' || (before == some '\r' && after != some '\n')
  | .lineEnd true =>
    after.isNone || after == some '\r' || (after == some '\n' && before != some '\r')
  | .wordBoundary negated unicode =>
    (isWordChar unicode before != isWordChar unicode after) != negated
  | .wordStart unicode => !isWordChar unicode before && isWordChar unicode after
  | .wordEnd unicode => isWordChar unicode before && !isWordChar unicode after
  | .wordStartHalf unicode => !isWordChar unicode before
  | .wordEndHalf unicode => !isWordChar unicode after

/-! ## Threads -/

/-- One way to match: where it is in the program, the groups it has entered, and
the spans of those it has left. -/
structure Thread where
  place : Nat
  entered : List (Nat × Nat)
  spans : List GroupSpan

namespace Thread

/-- Go to another instruction. -/
def goto (thread : Thread) (place : Nat) : Thread := { thread with place := place }

/-- Enter a group. -/
def enter (thread : Thread) (group offset : Nat) : Thread :=
  { thread with entered := (group, offset) :: thread.entered }

/-- Leave a group that was entered. -/
def leave (thread : Thread) (group offset : Nat) : Thread :=
  match thread.entered.find? (·.1 = group) with
  | some (_, start) => { thread with spans := ⟨group, start, offset⟩ :: thread.spans }
  | none => thread

end Thread

/-- The threads at one place of the text, the preferred one last, and the set of
instructions where a thread has arrived, as the bits of a number. -/
structure Frontier where
  visited : Nat
  threads : List Thread

/-- No thread has arrived. -/
def Frontier.empty : Frontier := ⟨0, []⟩

/-- Let a thread go on until it has to take a character. A path through distinct
instructions is no longer than the program, which bounds the steps. -/
def explore (code : Array Instr) (before after : Option Char) (offset : Nat) :
    Nat → Thread → Frontier → Frontier
  | 0, _, frontier => frontier
  | fuel + 1, thread, frontier =>
    if frontier.visited.testBit thread.place then frontier
    else
      let frontier := { frontier with visited := frontier.visited ||| (1 <<< thread.place) }
      let go := explore code before after offset fuel
      match code[thread.place]? with
      | none => frontier
      | some .accept => { frontier with threads := thread :: frontier.threads }
      | some (.consume _ _) => { frontier with threads := thread :: frontier.threads }
      | some (.fork first second) => go (thread.goto second) (go (thread.goto first) frontier)
      | some (.check condition next) =>
        if condition.holds before after then go (thread.goto next) frontier else frontier
      | some (.openGroup group next) => go ((thread.enter group offset).goto next) frontier
      | some (.closeGroup group next) => go ((thread.leave group offset).goto next) frontier

/-- True if a thread has reached the end of the pattern. -/
def accepts (code : Array Instr) (thread : Thread) : Bool := code[thread.place]? == some .accept

/-- Let threads take a character, in the order of preference. -/
def stepThreads (code : Array Instr) (c : Char) (after : Option Char) (offset : Nat)
    (threads : List Thread) : List Thread :=
  let frontier := threads.foldl (fun frontier thread =>
    match code[thread.place]? with
    | some (.consume members next) =>
      if members.contains c then
        explore code (some c) after offset (code.size + 1) (thread.goto next) frontier
      else frontier
    | _ => frontier) .empty
  frontier.threads.reverse

/-- Follow threads through the rest of a span. A thread that has reached the end of
the pattern is a match, and ends all threads after it. -/
def follow (code : Array Instr) (last : Option Char) :
    List Char → Nat → List Thread → Option Match → Option Match
  | [], offset, threads, best => bestOf offset threads best
  | c :: rest, offset, threads, best =>
    let best := bestOf offset threads best
    let live := threads.takeWhile (!accepts code ·)
    if live.isEmpty then best
    else
      let after := rest.head? <|> last
      follow code last rest (offset + 1) (stepThreads code c after (offset + 1) live) best
where
  /-- The match at this place, or else an earlier one. -/
  bestOf (offset : Nat) (threads : List Thread) (best : Option Match) : Option Match :=
    match threads.find? (accepts code) with
    | some thread => some ⟨offset, thread.spans⟩
    | none => best

/-- The match that begins where a cursor stands, if there is one. -/
def Program.match? (program : Program) (cursor : Cursor) : Option Match :=
  let after := cursor.rest.head? <|> cursor.after
  let frontier := explore program.code cursor.before after 0 (program.code.size + 1)
    ⟨program.start, [], []⟩ .empty
  follow program.code cursor.after cursor.rest 0 frontier.threads.reverse none

end GrammarLexer.Pattern
