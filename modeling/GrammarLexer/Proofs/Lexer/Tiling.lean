import GrammarLexer.Proofs.Lexer.Position
import GrammarLexer.Proofs.Lexer.SourceToken

/-!
# The tokens of a text tile it

Whatever the machine of a lexer does, the tokens of a text cover it without a gap
(`tokens_tile`): they start at its first byte, meet, are not empty, and stop at its
last byte. They meet at boundaries of the text as it was given, and never between a
carriage return and its line feed.

The invariant of a run is that the tokens outstanding tile the source between what has
been handed out and what has been scanned (`Run.Tiled`).
-/

namespace GrammarLexer

open Text

namespace Run

/-- The run has handed out the tokens up to an offset of the source, and those that are
outstanding go from there to the place where the scan stands. -/
structure Tiled (text : List Char) (returned : Nat) (run : Run) : Prop where
  reads : run.Reads text
  pending : Tiles (IsCut text) returned (run.offsets.toSource run.scan.position)
    run.buffer.outstanding

variable {text : List Char} {returned : Nat} {run : Run}

/-- A boundary of the folded text is moved to a place to cut the source. -/
theorem Reads.isCut_toSource (reads : run.Reads text) {offset : Nat}
    (boundary : IsBoundary (foldLineEndings text) offset) :
    IsCut text (run.offsets.toSource offset) := by
  rw [reads.offsets]
  exact OffsetMap.isCut_toSource boundary

/-- Advancing adds the tokens of what it scans. -/
theorem Tiled.advance (tiled : run.Tiled text returned) : run.advance.Tiled text returned := by
  refine ⟨tiled.reads.advance, ?_⟩
  have step := Scan.step_tiles (delegated_tiles _ run.machine maxNesting) run.machine
    tiled.reads.stands.marked
  have moved := step.map_sourceToken run.offsets fun _ => tiled.reads.isCut_toSource
  unfold Run.advance
  rw [Merger.outstanding_supply]
  exact tiled.pending.append moved

/-- Other tokens outstanding that tile the same stretch do as well. -/
theorem Tiled.withBuffer (tiled : run.Tiled text returned) {buffer : Merger} {from' : Nat}
    (pending : Tiles (IsCut text) from' (run.offsets.toSource run.scan.position)
      buffer.outstanding) : (run.withBuffer buffer).Tiled text from' :=
  ⟨⟨tiled.reads.folded, tiled.reads.offsets, tiled.reads.stands⟩, pending⟩

/-- **One call.** The token handed out goes from where the last one stopped to where the
tokens still outstanding start; without one, the text has been used up. -/
theorem Tiled.next (tiled : run.Tiled text returned) :
    ∃ reached, Tiles (IsCut text) returned reached run.next.1.toList ∧
      run.next.2.Tiled text reached ∧
      (run.next.1 = none → reached = byteLength text) := by
  fun_induction Run.next run with
  | case1 run token buffer polled =>
    have pending := Merger.poll_tiles tiled.pending
    rw [polled] at pending
    obtain ⟨reached, handed, left⟩ := pending.of_append
    exact ⟨reached, handed, tiled.withBuffer left, fun none => absurd none (by simp)⟩
  | case2 run buffer polled unfinished ih =>
    have pending := Merger.poll_tiles tiled.pending
    rw [polled] at pending
    exact ih (tiled.withBuffer pending).advance
  | case3 run buffer polled finished flushed =>
    rw [Bool.not_eq_false] at finished
    have pending := Merger.poll_tiles tiled.pending
    rw [polled] at pending
    change Tiles _ _ _ buffer.outstanding at pending
    rw [← buffer.outstanding_flush] at pending
    obtain ⟨reached, handed, left⟩ := pending.of_append
    refine ⟨reached, handed, tiled.withBuffer left, ?_⟩
    intro _
    -- nothing is left behind the token given up, and the scan stands at the end
    rw [(Merger.exhausted_of_poll polled).outstanding_flush_snd] at left
    rw [left.2, Scan.position_of_finished finished, tiled.reads.stands.limit_eq,
      tiled.reads.offsets, OffsetMap.toSource_ofText_byteLength]

/-- The tokens still to come tile the rest of the source. -/
theorem Tiled.drain (tiled : run.Tiled text returned) :
    Tiles (IsCut text) returned (byteLength text) run.drain.1 := by
  fun_induction Run.drain run generalizing returned with
  | case1 run ended next =>
    obtain ⟨reached, handed, -, done⟩ := tiled.next
    rw [next] at handed done
    rw [← done rfl]
    exact handed
  | case2 run token rest next more =>
    rename_i ih
    obtain ⟨reached, handed, left, -⟩ := tiled.next
    rw [next] at handed left
    exact handed.append (ih left)

end Run

/-- A fresh run has handed out nothing. -/
theorem Lexer.tiled_start (lexer : Lexer) (text : String) (options : Options) :
    (lexer.start text options).Tiled text.toList 0 := by
  refine ⟨Run.reads_runFrom lexer text _ 0 _, ?_⟩
  have begins : (lexer.start text options).scan.position = 0 := by
    have parts := splitAtByte_byteLength [] (foldLineEndings text.toList)
    show byteLength (splitAtByte (OffsetMap.toFolded _ 0) _).1 = 0
    rw [OffsetMap.toFolded, Nat.zero_sub]
    exact congrArg (byteLength ·.1) parts
  rw [begins]
  show Tiles _ 0 ((OffsetMap.ofText text.toList).toSource 0) []
  rw [OffsetMap.toSource_ofText_zero]
  refine Tiles.nil ⟨[], text.toList, rfl, rfl, ?_⟩
  intro split
  exact absurd split.1 (by simp)

/-- **Tiling.** The tokens of a text, from whatever lexer and with whatever options, tile
the text as it was given: the first starts at its first byte, each one starts where the
one before it stops, none is empty, and the last stops at its last byte. They start and
stop at boundaries of the text that do not divide a carriage return and line feed. -/
theorem Lexer.tokens_tile (lexer : Lexer) (text : String) (options : Options) :
    Tiles (IsCut text.toList) 0 text.utf8ByteSize (lexer.tokens text options) := by
  rw [← byteLength_toList]
  exact (lexer.tiled_start text options).drain

end GrammarLexer
