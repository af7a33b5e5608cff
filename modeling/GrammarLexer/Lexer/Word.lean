import GrammarLexer.Lexer.Stream

/-!
# Machine words

Offsets and lengths are held in machine words of 64 bits. Those of a text are no greater than
its length, which is a word, so elsewhere they are added as numbers. Here are the functions that
any words can be given to: moving offsets to the source and back, and merging tokens. A sum may
be too great for a word there, and what comes of it depends on how the program has been built
(`Overflow`).
-/

namespace GrammarLexer

/-- The greatest machine word. -/
def maxWord : Nat := UInt64.size - 1

/-- What comes of a sum that is too great for a word: the program stops, or it goes on with the
last 64 bits of the sum. -/
inductive Overflow where
  | stops
  | wraps
deriving DecidableEq, Repr

namespace Overflow

/-- The word for a sum. -/
def word (overflow : Overflow) (sum : Nat) : Except Table.Failure Nat :=
  if sum ≤ maxWord then .ok sum
  else
    match overflow with
    | .stops => .error .broken
    | .wraps => .ok (sum % UInt64.size)

/-- A sum that is a word stays as it is. -/
theorem word_of_le (overflow : Overflow) {sum : Nat} (le : sum ≤ maxWord) :
    overflow.word sum = .ok sum :=
  if_pos le

end Overflow

/-! ## Offsets -/

namespace Table

/-- The offset in the source of an offset in the folded text. -/
def toSourceWord (overflow : Overflow) (breaks : List (Nat × Nat)) (folded : Nat) :
    Except Failure Nat := do
  let sum ← toSource breaks folded
  overflow.word sum

/-- The offset in the folded text of an offset in the source, which is compared with the offsets
of the breakpoints in the source. -/
def toFoldedWord (overflow : Overflow) (breaks : List (Nat × Nat)) (offset : Nat) :
    Except Failure Nat := do
  let ends ← breaks.mapM fun entry => overflow.word (entry.1 + entry.2)
  let shift ← shiftOf breaks (ends.takeWhile (· ≤ offset)).length
  minus offset shift

end Table

/-! ## Tokens -/

/-- The token that covers two neighbours of one kind. Where they are of two kinds, no sum is
made. -/
def Token.joinWord? (overflow : Overflow) (left right : Token) :
    Except Table.Failure (Option Token) :=
  if left.kind = right.kind then do
    let stop ← overflow.word left.stop
    if stop = right.start then do
      let length ← overflow.word (left.length + right.length)
      .ok (some { left with length })
    else .ok none
  else .ok none

namespace Merger

/-- Read tokens until one cannot join the held token. -/
def readRunWord (overflow : Overflow) (held : Option Token) :
    List Token → Except Table.Failure (Option Token × Option Token × List Token)
  | [] => .ok (none, held, [])
  | token :: rest =>
    match held with
    | none => readRunWord overflow (some token) rest
    | some current => do
      match ← current.joinWord? overflow token with
      | some joined => readRunWord overflow (some joined) rest
      | none => .ok (some current, some token, rest)

/-- The next token, when nothing more will be supplied. A merger that does not merge makes no
sums. -/
def nextWord (overflow : Overflow) (merger : Merger) :
    Except Table.Failure (Option Token × Merger) :=
  if merger.merging then do
    let (complete, held, unread) ← readRunWord overflow merger.held merger.unread
    match complete with
    | some token => .ok (some token, { merger with held, unread })
    | none => .ok (held, { merger with held := none, unread })
  else .ok merger.next

end Merger

end GrammarLexer
