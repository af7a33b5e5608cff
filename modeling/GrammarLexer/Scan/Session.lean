import GrammarLexer.Machine.Table
import GrammarLexer.Scan.Step

/-!
# Sessions

Scanning over a numbered table, tick by tick. A session stands at a byte offset of a text and
goes no further than the end of its span. What it has matched is first cut into pieces, which
are emitted one after the other: a piece is a token, or text that is handed to a state. For
such a piece a session of its own is opened within the one that matched, up to a depth of
`maxNesting`, and passes its tokens on to that one until it comes to its end.

Nothing here says that ticking ends: a session may be opened on the very span of the one
around it, and a step may leave a session where it stands. A text is cut at byte offsets, which
fails (`Failure.broken`) anywhere but at boundaries, as do look-ups by number where there is
nothing, and differences that would be less than zero.
-/

namespace GrammarLexer

open Text

namespace Table

/-- The difference of two numbers, which must not be less than zero. -/
def minus (left right : Nat) : Except Failure Nat :=
  if right ≤ left then .ok (left - right) else .error .broken

/-- The text between two byte offsets, which must be boundaries. -/
def cut (text : List Char) (start stop : Nat) : Except Failure (List Char) :=
  sure (slice? start stop text)

/-- The state meant by number, where another is on top of the stack. -/
def Target.resolve (target : Target) (current : Nat) : Nat :=
  match target with
  | .current => current
  | .numbered state => state

/-! ## Stacks -/

/-- The state on top of a stack, whose floor comes first. -/
def top (stack : List Nat) : Except Failure Nat := do
  let last ← minus stack.length 1
  sure stack[last]?

/-- Take away states from the top, but never the floor, and count them. -/
def pop (stack : List Nat) (depth : Nat) : Except Failure (Nat × List Nat) := do
  let most ← minus stack.length 1
  let removed := min depth most
  let kept ← minus stack.length removed
  .ok (removed, stack.take kept)

/-- Make a move, and tell whether it changed the stack. -/
def shift (stack : List Nat) (current : Nat) : Move → Except Failure (Bool × List Nat)
  | .stay => .ok (false, stack)
  | .push target => .ok (true, stack ++ [target.resolve current])
  | .pop depth => do
    let (removed, stack) ← pop stack depth
    .ok (decide (0 < removed), stack)

/-! ## Matching -/

/-- A cursor at the beginning of a span, with the characters next to the span. -/
def cursorAt (text : List Char) (start stop : Nat) : Except Failure Cursor := do
  let front ← cut text 0 start
  let rest ← cut text start stop
  let back ← cut text stop (byteLength text)
  .ok ⟨front.getLast?, rest, back.head?⟩

/-- The first rule that matches where a cursor stands, with its match. -/
def firstMatch? (cursor : Cursor) : List Rule → Option (Rule × Pattern.Match)
  | [] => none
  | rule :: rest =>
    match rule.program.match? cursor with
    | some found => some (rule, found)
    | none => firstMatch? cursor rest

/-- The byte offsets between which a group matched, if it took part. -/
def groupSpan? (position : Nat) (cursor : Cursor) (found : Pattern.Match) (group : Nat) :
    Option (Nat × Nat) :=
  (found.span? group).map fun span =>
    (position + cursor.bytesTo span.start, position + cursor.bytesTo span.stop)

/-- A piece of a match, between two byte offsets: a token, or text handed to a state. -/
inductive Piece where
  | token (kind : Kind) (start stop : Nat)
  | nested (state start stop : Nat)
deriving DecidableEq, Repr

/-- The piece for the span of a group. -/
def groupPiece (current start stop : Nat) : GroupAction → Piece
  | .token kind => .token kind start stop
  | .delegate target => .nested (target.resolve current) start stop

/-- The pieces for the groups of a match in the order of their numbers, from the number
`index` and the offset `done` on. -/
def groupPieces (current : Nat) (span? : Nat → Option (Nat × Nat)) (stop : Nat) :
    Nat → Nat → List GroupAction → List Piece
  | _, done, [] => [.token .text done stop]
  | index, done, action :: rest =>
    match span? index with
    | none => groupPieces current span? stop (index + 1) done rest
    | some (first, last) =>
      let start := max first done
      if last ≤ start then groupPieces current span? stop (index + 1) done rest
      else
        .token .text done start :: groupPiece current start last action ::
          groupPieces current span? stop (index + 1) last rest

/-- The pieces of a match. -/
def piecesOf (current : Nat) (span? : Nat → Option (Nat × Nat)) (start stop : Nat) :
    Action → List Piece
  | .nothing => [.token .text start stop]
  | .token kind => [.token kind start stop]
  | .groups actions => groupPieces current span? stop 1 start actions
  | .delegate target => [.nested (target.resolve current) start stop]

/-! ## Sessions -/

/-- A session: its stack, the byte offset it has reached and the one where it ends, how deeply
it is nested, how many steps it has made here without taking text, the pieces of its last match
that are still to be emitted, and the tokens that it has not handed on. -/
structure Session where
  stack : List Nat
  position : Nat
  stop : Nat
  depth : Nat
  idle : Nat
  pieces : List Piece
  queue : List Token
deriving DecidableEq, Repr

namespace Session

/-- A new session over a span. -/
def ofSpan (stack : List Nat) (position stop depth : Nat) : Session :=
  ⟨stack, position, stop, depth, 0, [], []⟩

/-- Queue tokens. -/
def enqueue (session : Session) (tokens : List Token) : Session :=
  { session with queue := session.queue ++ tokens }

/-- Take one character as an error. -/
def refuse (session : Session) (text : List Char) : Except Failure Session := do
  let rest ← cut text session.position (byteLength text)
  let length := match rest with
    | [] => 1
    | c :: _ => c.utf8Size
  .ok { session.enqueue [⟨.error, session.position, length⟩] with
    position := session.position + length
    idle := 0 }

/-- Do what the first match asks for. If nothing matches, or there is neither text to take nor a
move to make, take one character as an error. -/
def act (text : List Char) (session : Session) (current : Nat) (cursor : Cursor) :
    Option (Rule × Pattern.Match) → Except Failure Session
  | none => session.refuse text
  | some (rule, found) =>
    let stop := session.position + cursor.bytesTo found.length
    if stop = session.position then
      if session.idle < maxIdle then do
        let (changed, stack) ← shift session.stack current rule.move
        if changed then .ok { session with stack, idle := session.idle + 1 }
        else session.refuse text
      else session.refuse text
    else do
      let (_, stack) ← shift session.stack current rule.move
      .ok { session with
        stack
        position := stop
        idle := 0
        pieces := piecesOf current (groupSpan? session.position cursor found) session.position stop
          rule.action }

/-- Make one step. -/
def step (table : Table) (text : List Char) (session : Session) : Except Failure Session := do
  let current ← top session.stack
  let state ← sure table.states[current]?
  let cursor ← cursorAt text session.position session.stop
  session.act text current cursor (firstMatch? cursor state.rules)

end Session

/-! ## Nested sessions -/

/-- Sessions one within the other: the innermost one, then those around it. -/
structure Nest where
  inner : Session
  outer : List Session
deriving DecidableEq, Repr

namespace Nest

/-- What comes of a tick: the sessions go on, or hand out a token and go on, or have come to
their end. -/
inductive Outcome where
  | goes (nest : Nest)
  | hands (token : Token) (nest : Nest)
  | ended
deriving DecidableEq, Repr

/-- Emit a piece of the innermost session. -/
def emit (nest : Nest) : Piece → Nest
  | .token kind start stop =>
    { nest with inner := nest.inner.enqueue (Token.spanning kind start stop) }
  | .nested state start stop =>
    if nest.inner.depth < maxNesting then
      ⟨.ofSpan [state] start stop (nest.inner.depth + 1), nest.inner :: nest.outer⟩
    else { nest with inner := nest.inner.enqueue (Token.spanning .error start stop) }

/-- Hand a token of the innermost session to the one around it, or out. -/
def handOn (nest : Nest) (token : Token) : Outcome :=
  match nest.outer with
  | [] => .hands token nest
  | parent :: others => .goes ⟨nest.inner, parent.enqueue [token] :: others⟩

/-- Leave the innermost session. -/
def leave (nest : Nest) : Outcome :=
  match nest.outer with
  | [] => .ended
  | parent :: others => .goes ⟨parent, others⟩

/-- One tick: emit a piece, or else hand on a token, or else make a step, or else leave. -/
def tick (table : Table) (text : List Char) (nest : Nest) : Except Failure Outcome :=
  match nest.inner.pieces with
  | piece :: pieces => .ok (.goes ({ nest with inner := { nest.inner with pieces } }.emit piece))
  | [] =>
    match nest.inner.queue with
    | token :: queue => .ok ({ nest with inner := { nest.inner with queue } }.handOn token)
    | [] =>
      if nest.inner.position < nest.inner.stop then
        (nest.inner.step table text).map fun inner => .goes { nest with inner }
      else .ok nest.leave

end Nest

end Table

end GrammarLexer
