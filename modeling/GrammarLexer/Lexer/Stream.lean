import GrammarLexer.Lexer.Run
import GrammarLexer.Scan.Session

/-!
# Streams

A run over a numbered table, tick by tick, where each look-up and each difference of offsets can
fail. Offsets are moved to the source and back by a list of breakpoints, and the place to go on
from is looked for backwards, one byte at a time.

A snapshot may come from any text and any lexer. Its offset may be anything, and the names on
its stack may be unknown.

Sums are taken as numbers, and cannot fail. Each is made of offsets and lengths in one text, or of
two lengths in two, and a text takes no more than half of the machine words. `Table.toSourceWord`
and `Merger.nextWord` take any words.
-/

namespace GrammarLexer

open Text

namespace Table

/-! ## Offsets -/

/-- The breakpoints of an offset map: the place after each pair in the folded text, with the
number of pairs that end there or before. -/
def breaksOf (offsets : OffsetMap) : List (Nat × Nat) :=
  offsets.joins.mapIdx fun k join => (join, k + 1)

/-- The number of pairs up to the last of some breakpoints. -/
def shiftOf (breaks : List (Nat × Nat)) : Nat → Except Failure Nat
  | 0 => .ok 0
  | index + 1 => (sure breaks[index]?).map (·.2)

/-- The offset in the source of an offset in the folded text. The sum is a machine word for each
offset of a text, though not for each word. -/
def toSource (breaks : List (Nat × Nat)) (folded : Nat) : Except Failure Nat := do
  let shift ← shiftOf breaks (breaks.takeWhile fun entry => entry.1 ≤ folded).length
  .ok (folded + shift)

/-- The offset in the folded text of an offset in the source. -/
def toFolded (breaks : List (Nat × Nat)) (offset : Nat) : Except Failure Nat := do
  let shift ← shiftOf breaks (breaks.takeWhile fun entry => entry.1 + entry.2 ≤ offset).length
  minus offset shift

/-- A token moved to the source. Without breakpoints it stays as it is. -/
def sourceToken (breaks : List (Nat × Nat)) (token : Token) : Except Failure Token :=
  if breaks.isEmpty then .ok token
  else do
    let start ← toSource breaks token.start
    let stop ← toSource breaks token.stop
    let length ← minus stop start
    .ok ⟨token.kind, start, length⟩

/-- True if there are whole characters before an offset of a text. -/
def isBoundary (text : List Char) (offset : Nat) : Bool :=
  byteLength (splitAtByte offset text).1 = offset

/-- Go back to a boundary, which is there before the beginning is passed. -/
def backTo (text : List Char) : Nat → Except Failure Nat
  | 0 => if isBoundary text 0 then .ok 0 else .error .broken
  | offset + 1 => if isBoundary text (offset + 1) then .ok (offset + 1) else backTo text offset

/-! ## Streams -/

/-- A stream: the table, the folded text and its breakpoints, the sessions, and the tokens on
their way to the reader. -/
structure Stream where
  table : Table
  text : List Char
  breaks : List (Nat × Nat)
  nest : Nest
  buffer : Merger

namespace Stream

/-- What comes of a tick: the sessions go on and feed some tokens to the merger, or a token is
handed out, or the stream has come to its end. -/
inductive Outcome where
  | feeds (tokens : List Token) (stream : Stream)
  | hands (token : Token) (stream : Stream)
  | ended

/-- Feed tokens to the merger. -/
def supply (stream : Stream) (tokens : List Token) : Outcome :=
  .feeds tokens { stream with buffer := stream.buffer.supply tokens }

/-- Hand out the token that is held back, when nothing more comes. -/
def close (stream : Stream) : Outcome :=
  match stream.buffer.flush with
  | (some token, buffer) => .hands token { stream with buffer }
  | (none, _) => .ended

/-- One tick: hand out a token that is complete, or else go on with the sessions. -/
def tick (stream : Stream) : Except Failure Outcome :=
  match stream.buffer.poll with
  | (some token, buffer) => .ok (.hands token { stream with buffer })
  | (none, buffer) => do
    match ← stream.nest.tick stream.table stream.text with
    | .goes nest => .ok ({ stream with nest, buffer }.supply [])
    | .hands token nest => do
      let token ← sourceToken stream.breaks token
      .ok ({ stream with nest, buffer }.supply [token])
    | .ended => .ok { stream with buffer }.close

end Stream

/-- The stack with some states, or else the one with a given floor. -/
def stackOf (floor : Nat) : List Nat → List Nat
  | [] => [floor]
  | entries => entries

/-- Go on from a snapshot. States that the table does not know are left out, and the root is
put in place of an empty stack. -/
def resume (table : Table) (text : String) (snapshot : Snapshot) : Except Failure Stream := do
  let folded := foldLineEndings text.toList
  let breaks := breaksOf (.ofText text.toList)
  let offset ← toFolded breaks snapshot.consumed
  let position ← backTo folded (min offset (byteLength folded))
  let stack := stackOf table.root (snapshot.stack.filterMap table.lookup)
  .ok { table, text := folded, breaks, nest := ⟨.ofSpan stack position (byteLength folded) 0, []⟩
        buffer := .ofList snapshot.merging snapshot.pending }

end Table

end GrammarLexer
