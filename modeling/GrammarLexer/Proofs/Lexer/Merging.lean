import GrammarLexer.Proofs.Lexer.Tiling
import GrammarLexer.Proofs.Token.Blocks

/-!
# Merged tokens

With merging on, the tokens of a text are those without it, joined where neighbours are of one
kind (`tokens_merged`). A run hands out what its merger makes of the tokens outstanding and of
those that the scan has still before it (`Run.drain_eq`), although it scans no further than the
next token needs: what a merger hands out does not depend on when its tokens come.
-/

namespace GrammarLexer

open Text

namespace Run

/-- The tokens that a run has still to scan. -/
def ahead (run : Run) : List Token :=
  (run.scan.drain (delegated run.machine maxNesting) run.machine).map run.offsets.sourceToken

/-- The tokens that a run has still to hand out. -/
def remaining (run : Run) : List Token := run.buffer.remaining run.ahead

/-- Advancing scans the first of the tokens ahead. -/
theorem ahead_advance (run : Run) (unfinished : run.scan.finished = false) :
    run.ahead = (run.scan.advance run.machine).1.map run.offsets.sourceToken ++
      run.advance.ahead := by
  rw [ahead, Scan.drain, dif_pos unfinished, List.map_append]
  rfl

/-- A run that has scanned its text has no tokens ahead. -/
theorem ahead_eq_nil (run : Run) (finished : ¬ run.scan.finished = false) : run.ahead = [] := by
  rw [ahead, Scan.drain, dif_neg finished]
  rfl

/-- A token on its way from the scan to the merger remains to be handed out. -/
theorem remaining_advance (run : Run) (unfinished : run.scan.finished = false) :
    run.advance.remaining = run.remaining := by
  rw [remaining, remaining, run.ahead_advance unfinished, ← Merger.remaining_supply]
  rfl

/-- **One call.** It hands out the first of the remaining tokens, if there are any. -/
theorem remaining_next (run : Run) :
    run.remaining = run.next.1.toList ++ run.next.2.remaining ∧
      (run.next.1 = none → run.next.2.remaining = []) := by
  fun_induction Run.next run with
  | case1 run token buffer polled =>
    have polls := run.buffer.remaining_poll run.ahead
    rw [polled] at polls
    refine ⟨polls, ?_⟩
    intro none
    cases none
  | case2 run buffer polled unfinished ih =>
    have polls := run.buffer.remaining_poll run.ahead
    rw [polled] at polls
    have same : (run.withBuffer buffer).remaining = run.remaining := polls.symm
    rw [← same, ← (run.withBuffer buffer).remaining_advance unfinished]
    exact ih
  | case3 run buffer polled finished flushed =>
    have exhausted := Merger.exhausted_of_poll polled
    have polls := run.buffer.remaining_poll run.ahead
    rw [polled, run.ahead_eq_nil finished] at polls
    have nothing : (run.withBuffer flushed.2).remaining = [] := by
      rw [remaining, (run.withBuffer flushed.2).ahead_eq_nil finished]
      exact exhausted.remaining_flush_snd
    refine ⟨?_, fun _ => nothing⟩
    rw [nothing, List.append_nil, remaining, run.ahead_eq_nil finished, polls]
    exact exhausted.remaining_nil

/-- **All tokens.** A run hands out what remains. -/
theorem drain_eq (run : Run) : run.drain.1 = run.remaining := by
  fun_induction Run.drain run with
  | case1 run ended next =>
    obtain ⟨remaining, ends⟩ := run.remaining_next
    rw [next] at remaining ends
    rw [remaining, ends rfl]
    rfl
  | case2 run token rest next more =>
    rename_i ih
    obtain ⟨remaining, -⟩ := run.remaining_next
    rw [next] at remaining
    rw [remaining]
    exact congrArg (token :: ·) ih

end Run

namespace Lexer

variable (lexer : Lexer) (text : String)

/-- The tokens of a text are joined with merging on, and else as they are scanned. -/
theorem tokens_eq (options : Options) :
    lexer.tokens text options =
      if options.merging then Token.joinFrom none (lexer.start text options).ahead
      else (lexer.start text options).ahead :=
  (lexer.start text options).drain_eq

/-- The tokens of a text with merging on are those without it, joined. -/
theorem tokens_eq_joinFrom (state : Option String) :
    lexer.tokens text ⟨true, state⟩ =
      Token.joinFrom none (lexer.tokens text ⟨false, state⟩) := by
  rw [tokens_eq, tokens_eq]
  rfl

/-- **Merging.** With merging on, there is one token for each run of tokens of one kind that
there are without it: it starts where the first of them does, and is as long as all of them.
So neighbours are of different kinds, each byte of the text is of the same kind in both
streams, and a token starts or stops only where one does without merging. -/
theorem tokens_merged (state : Option String) :
    List.Forall₂ Token.Joins
        ((lexer.tokens text ⟨false, state⟩).splitBy fun left right => left.kind == right.kind)
        (lexer.tokens text ⟨true, state⟩) ∧
      (lexer.tokens text ⟨true, state⟩).IsChain (fun left right => left.kind ≠ right.kind) ∧
      (∀ offset < text.utf8ByteSize, ∃ kind,
        Token.kindAt offset (lexer.tokens text ⟨true, state⟩) = some kind ∧
          Token.kindAt offset (lexer.tokens text ⟨false, state⟩) = some kind) ∧
      Token.offsets (lexer.tokens text ⟨true, state⟩) ⊆
        Token.offsets (lexer.tokens text ⟨false, state⟩) := by
  have single := (lexer.tiled_start text ⟨false, state⟩).drain
  have merged := (lexer.tiled_start text ⟨true, state⟩).drain
  change Tiles _ _ _ (lexer.tokens text ⟨false, state⟩) at single
  change Tiles _ _ _ (lexer.tokens text ⟨true, state⟩) at merged
  rw [tokens_eq_joinFrom] at merged ⊢
  refine ⟨?_, ?_, ?_, Token.offsets_joinFrom none _⟩
  · rw [single.splitBy_meets]
    exact Token.forall₂_joinFrom _
  · -- neighbours touch, so they would have been joined if they were of one kind
    have apart := Token.isChain_joinFrom none (lexer.tokens text ⟨false, state⟩)
    have touch := merged.isChain
    rw [List.isChain_iff_getElem] at apart touch ⊢
    intro place lt
    have apart := apart place lt
    simp only [Token.meets, touch place lt, decide_true, Bool.and_true,
      decide_eq_false_iff_not] at apart
    exact apart
  · intro offset lt
    rw [← byteLength_toList] at lt
    obtain ⟨kind, found⟩ := single.exists_kindAt (Nat.zero_le offset) lt
    refine ⟨kind, ?_, found⟩
    rw [Token.kindAt_joinFrom]
    exact found

end Lexer

end GrammarLexer
