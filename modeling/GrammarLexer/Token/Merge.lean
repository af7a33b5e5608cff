import GrammarLexer.Token.Basic

/-!
# Merging neighbours

Grammars emit many small tokens of one kind, while a reader of the stream cares
for changes of kind only. A `Merger` reads tokens from the front of a list and
keeps at most one of them back, which it extends for as long as the next token
has the same kind and starts where the held one ends. A merger that does not
merge hands its tokens on unchanged.
-/

namespace GrammarLexer

/-- The token that covers two neighbours of one kind, where both sums are machine words, as they
are in a text. -/
def Token.join? (left right : Token) : Option Token :=
  if left.kind = right.kind ∧ left.stop = right.start then
    some { left with length := left.length + right.length }
  else none

/-- Tokens on their way to the reader: the one held back, then those not yet
looked at. -/
structure Merger where
  merging : Bool
  held : Option Token
  unread : List Token
deriving DecidableEq, Repr

namespace Merger

/-- A merger that starts on a list of tokens. -/
def ofList (merging : Bool) (tokens : List Token) : Merger := ⟨merging, none, tokens⟩

/-- All tokens that have not been returned, in order. -/
def outstanding (merger : Merger) : List Token := merger.held.toList ++ merger.unread

/-- Put further tokens behind the unread ones. -/
def supply (merger : Merger) (tokens : List Token) : Merger :=
  { merger with unread := merger.unread ++ tokens }

/-- Read tokens until one cannot join the held token, which is then complete.
Returns that token if there is one, the token now held, and what is unread. -/
def readRun (held : Option Token) : List Token → Option Token × Option Token × List Token
  | [] => (none, held, [])
  | token :: rest =>
    match held with
    | none => readRun (some token) rest
    | some current =>
      match current.join? token with
      | some joined => readRun (some joined) rest
      | none => (some current, some token, rest)

/-- A token that is certain to be complete, whatever is supplied later. -/
def poll (merger : Merger) : Option Token × Merger :=
  if merger.merging then
    let result := readRun merger.held merger.unread
    (result.1, { merger with held := result.2.1, unread := result.2.2 })
  else
    match merger.outstanding with
    | [] => (none, merger)
    | token :: rest => (some token, { merger with held := none, unread := rest })

/-- Give up the held token. -/
def flush (merger : Merger) : Option Token × Merger :=
  (merger.held, { merger with held := none })

/-- The next token, when nothing more will be supplied. -/
def next (merger : Merger) : Option Token × Merger :=
  match merger.poll with
  | (some token, rest) => (some token, rest)
  | (none, rest) => rest.flush

/-- Reading a run that completes a token leaves fewer tokens. -/
theorem readRun_shortens {held : Option Token} {unread rest : List Token} {token : Token}
    {still : Option Token} (read : readRun held unread = (some token, still, rest)) :
    (still.toList ++ rest).length < (held.toList ++ unread).length := by
  induction unread generalizing held with
  | nil => simp [readRun] at read
  | cons next others ih =>
    unfold readRun at read
    split at read
    · have := ih read
      simp_all
    · split at read
      · have := ih read
        simp_all
        omega
      · simp only [Prod.mk.injEq] at read
        obtain ⟨_, rfl, rfl⟩ := read
        simp

/-- Handing out a token leaves fewer. -/
theorem poll_shortens {merger after : Merger} {token : Token}
    (polled : merger.poll = (some token, after)) :
    after.outstanding.length < merger.outstanding.length := by
  unfold poll at polled
  split at polled
  · simp only [Prod.mk.injEq] at polled
    obtain ⟨found, rfl⟩ := polled
    have read : readRun merger.held merger.unread = (some token, _, _) := Prod.ext found rfl
    exact readRun_shortens read
  · split at polled
    · simp at polled
    · rename_i rest outstanding
      simp only [Prod.mk.injEq] at polled
      obtain ⟨_, rfl⟩ := polled
      rw [outstanding]
      exact Nat.lt_succ_self rest.length

/-- Reading tokens that complete none leaves all but one of them behind at most. -/
theorem readRun_length_le {held : Option Token} {unread rest : List Token}
    {still : Option Token} (read : readRun held unread = (none, still, rest)) :
    (still.toList ++ rest).length ≤ (held.toList ++ unread).length := by
  induction unread generalizing held with
  | nil =>
    simp only [readRun, Prod.mk.injEq] at read
    obtain ⟨_, rfl, rfl⟩ := read
    simp
  | cons next others ih =>
    unfold readRun at read
    split at read
    · have := ih read
      simp_all
    · split at read
      · have := ih read
        simp_all
        omega
      · simp at read

/-- Looking for a complete token never leaves more tokens. -/
theorem poll_length_le {merger after : Merger} (polled : merger.poll = (none, after)) :
    after.outstanding.length ≤ merger.outstanding.length := by
  unfold poll at polled
  split at polled
  · simp only [Prod.mk.injEq] at polled
    obtain ⟨found, rfl⟩ := polled
    exact readRun_length_le (by rw [← found])
  · split at polled
    · simp only [Prod.mk.injEq, true_and] at polled
      exact Nat.le_of_eq (by rw [polled])
    · simp at polled

/-- Giving up the held token leaves fewer. -/
theorem flush_shortens {merger after : Merger} {token : Token}
    (polled : merger.poll = (none, after)) (flushed : after.flush.1 = some token) :
    after.flush.2.outstanding.length < merger.outstanding.length := by
  have le := poll_length_le polled
  have held : after.held = some token := flushed
  simp only [outstanding, held, Option.toList] at le
  simp only [flush, outstanding, Option.toList, List.nil_append]
  simp at le ⊢
  omega

end Merger

end GrammarLexer
