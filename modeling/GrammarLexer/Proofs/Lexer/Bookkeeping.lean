import GrammarLexer.Proofs.Lexer.Tiling

/-!
# What a snapshot says of its run

A snapshot keeps the books of a run (`snapshots_account`): the tokens handed out so far tile
the source up to `returned`, and those that are pending tile it from there to `consumed`,
whether they wait in the merger to be joined or have not been looked at. Each token that is
handed out moves `returned` forward. A run comes to its end, where both offsets are that of the
end of the text, and stays there.
-/

namespace GrammarLexer

open Text

namespace Run

/-- The tokens handed out by a number of calls. -/
def handed (run : Run) : Nat → List Token
  | 0 => []
  | count + 1 => run.handed count ++ (run.after count).next.1.toList

/-- Nothing is left to scan or to hand out. -/
structure Done (run : Run) : Prop where
  finished : run.scan.finished = true
  outstanding : run.buffer.outstanding = []

variable {text : List Char} {returned : Nat} {run : Run}

/-- Calls can be made in two turns. -/
theorem after_add (run : Run) (count further : Nat) :
    run.after (count + further) = (run.after count).after further := by
  induction further with
  | zero => rfl
  | succ further ih => exact congrArg (fun run => run.next.2) ih

/-! ## The end of a run -/

/-- A run that hands out nothing is done. -/
theorem done_of_next (nothing : run.next.1 = none) : run.next.2.Done := by
  fun_induction Run.next run with
  | case1 run token buffer polled => cases nothing
  | case2 run buffer polled unfinished ih => exact ih nothing
  | case3 run buffer polled finished flushed =>
    refine ⟨?_, ?_⟩
    · rw [Bool.not_eq_false] at finished
      exact finished
    · exact (Merger.exhausted_of_poll polled).outstanding_flush_snd

/-- A run that is done hands out nothing, and stays as it is. -/
theorem Done.next_eq (done : run.Done) : run.next = (none, run) := by
  obtain ⟨held, unread⟩ := Merger.outstanding_eq_nil.1 done.outstanding
  have polled : run.buffer.poll = (none, run.buffer) :=
    Merger.Exhausted.poll_eq ⟨unread, fun _ => held⟩
  have flushed : run.buffer.flush = (none, run.buffer) := by
    rw [Merger.flush, held]
    exact congrArg (Prod.mk none) (by rw [← held])
  have finished : ¬ run.scan.finished = false := by
    rw [done.finished]
    decide
  rw [Run.next, polled]
  simp only [dif_neg finished, flushed]
  rfl

/-- The same for a number of calls. -/
theorem Done.after_eq (done : run.Done) (count : Nat) : run.after count = run := by
  induction count with
  | zero => rfl
  | succ count ih => rw [after, ih, done.next_eq]

/-- A run that reads a text to its end has scanned all of it. -/
theorem Done.consumed_eq (done : run.Done) (reads : run.Reads text) :
    run.snapshot.consumed = byteLength text := by
  show run.offsets.toSource run.scan.position = byteLength text
  rw [Scan.position_of_finished done.finished, reads.stands.limit_eq, reads.offsets,
    OffsetMap.toSource_ofText_byteLength]

/-- Every run comes to its end. -/
theorem exists_next_eq_none (run : Run) : ∃ count, (run.after count).next.1 = none := by
  fun_induction Run.drain run with
  | case1 run ended next => exact ⟨0, congrArg Prod.fst next⟩
  | case2 run token rest next more =>
    rename_i ih
    obtain ⟨count, nothing⟩ := ih
    have first : run.after 1 = rest := congrArg Prod.snd next
    refine ⟨1 + count, ?_⟩
    rw [after_add, first]
    exact nothing

/-! ## Between calls -/

/-- A snapshot says how far tokens have been handed out. -/
theorem Tiled.returned_eq (tiled : run.Tiled text returned) :
    run.snapshot.returned = returned := by
  have pending : Tiles (IsCut text) returned run.snapshot.consumed run.snapshot.pending :=
    tiled.pending
  unfold Snapshot.returned
  cases waiting : run.snapshot.pending with
  | nil =>
    rw [waiting] at pending
    exact pending.2.symm
  | cons token rest =>
    rw [waiting] at pending
    exact pending.2.1

/-- The tokens handed out by some calls tile what comes before those outstanding. -/
theorem Tiled.after (tiled : run.Tiled text returned) (count : Nat) :
    ∃ reached, (run.after count).Tiled text reached ∧
      Tiles (IsCut text) returned reached (run.handed count) := by
  induction count with
  | zero => exact ⟨returned, tiled, .nil tiled.pending.mark_start⟩
  | succ count ih =>
    obtain ⟨reached, there, handed⟩ := ih
    obtain ⟨reached', more, there', -⟩ := there.next
    exact ⟨reached', there', handed.append more⟩

/-- A call that hands out a token moves on by its length. -/
theorem Tiled.returned_lt (tiled : run.Tiled text returned) {token : Token}
    (found : run.next.1 = some token) :
    run.snapshot.returned < run.next.2.snapshot.returned := by
  obtain ⟨reached, handed, there, -⟩ := tiled.next
  rw [found] at handed
  obtain ⟨-, first, positive, -, stops⟩ := handed
  rw [tiled.returned_eq, there.returned_eq, ← stops, ← first, Token.stop]
  omega

end Run

/-- A snapshot keeps the books of a run over a text that has handed out some tokens: these
tile the text up to `returned`, and those that are pending tile it from there to `consumed`.
Both offsets are places to cut the text. -/
structure Snapshot.Accounts (text : String) (handed : List Token) (snapshot : Snapshot) :
    Prop where
  handed : Tiles (IsCut text.toList) 0 snapshot.returned handed
  pending : Tiles (IsCut text.toList) snapshot.returned snapshot.consumed snapshot.pending
  consumed_le : snapshot.consumed ≤ text.utf8ByteSize
  returned_cut : IsCut text.toList snapshot.returned
  consumed_cut : IsCut text.toList snapshot.consumed

/-- The books of a fresh run after some calls. -/
theorem Lexer.accounts_after (lexer : Lexer) (text : String) (options : Options) (count : Nat) :
    ((lexer.start text options).after count).snapshot.Accounts text
      ((lexer.start text options).handed count) := by
  obtain ⟨reached, tiled, handed⟩ := (lexer.tiled_start text options).after count
  rw [← tiled.returned_eq] at handed
  have pending := tiled.pending
  rw [← tiled.returned_eq] at pending
  have cut : IsCut text.toList ((lexer.start text options).after count).snapshot.consumed :=
    pending.mark_stop
  refine ⟨handed, pending, ?_, pending.mark_start, cut⟩
  rw [← byteLength_toList]
  exact cut.isBoundary.le

/-- **Bookkeeping.** After any number of calls, the snapshot of a fresh run keeps its books. A
call that hands out a token makes `returned` greater. Once a call has handed out none, which
comes about, the whole text has been handed out, and nothing changes any more. -/
theorem Lexer.snapshots_account (lexer : Lexer) (text : String) (options : Options) :
    (∀ count, ((lexer.start text options).after count).snapshot.Accounts text
        ((lexer.start text options).handed count)) ∧
      (∀ count token, ((lexer.start text options).after count).next.1 = some token →
        ((lexer.start text options).after count).snapshot.returned <
          ((lexer.start text options).after (count + 1)).snapshot.returned) ∧
      (∀ count, ((lexer.start text options).after count).next.1 = none →
        ∀ later, count < later →
          ((lexer.start text options).after later).snapshot.consumed = text.utf8ByteSize ∧
            ((lexer.start text options).after later).snapshot.returned = text.utf8ByteSize ∧
            ((lexer.start text options).after later).snapshot.pending = [] ∧
            ((lexer.start text options).after later).next.1 = none ∧
            ((lexer.start text options).after later).snapshot =
              ((lexer.start text options).after (count + 1)).snapshot) ∧
      ∃ count, ((lexer.start text options).after count).next.1 = none := by
  refine ⟨lexer.accounts_after text options, ?_, ?_, Run.exists_next_eq_none _⟩
  · intro count token found
    obtain ⟨reached, tiled, -⟩ := (lexer.tiled_start text options).after count
    exact tiled.returned_lt found
  · intro count nothing later le
    have done : ((lexer.start text options).after (count + 1)).Done := Run.done_of_next nothing
    obtain ⟨further, rfl⟩ := Nat.exists_eq_add_of_le le
    obtain ⟨reached, tiled, -⟩ := (lexer.tiled_start text options).after (count + 1)
    have consumed := done.consumed_eq tiled.reads
    have pending : ((lexer.start text options).after (count + 1)).snapshot.pending = [] :=
      done.outstanding
    rw [byteLength_toList] at consumed
    -- what is done stays as it is
    have same := done.after_eq further
    rw [← Run.after_add] at same
    rw [same]
    refine ⟨consumed, ?_, pending, ?_, rfl⟩
    · rw [Snapshot.returned, pending]
      exact consumed
    · rw [done.next_eq]

end GrammarLexer
