import GrammarLexer.Lexer.Run
import GrammarLexer.Proofs.Scan.Tiling

/-!
# Where a run stands

A run over a text scans its folded form from the beginning to the end, without leaving
anything out: what a scan has before it is what follows the place where it stands, with
the character before that place at hand (`Scan.StandsIn`). So a place in the folded text
determines a scan up to its stack.

What one call of `Run.next` does to a scan is some number of steps, and it leaves the
rest of the run alone; `next_scan` and `next_frame` give that once for every property.
-/

namespace GrammarLexer

open Text

/-! ## Scans -/

namespace Scan

/-- The scan has the rest of a whole text before it. -/
def StandsIn (whole : List Char) (scan : Scan) : Prop :=
  ∃ front, whole = front ++ scan.cursor.rest ∧ scan.position = byteLength front ∧
    scan.cursor = ⟨front.getLast?, scan.cursor.rest, none⟩

variable {whole : List Char} {scan : Scan}

/-- The boundaries before a scan are boundaries of the whole text. -/
theorem StandsIn.marked (stands : scan.StandsIn whole) : scan.Marked (IsBoundary whole) := by
  obtain ⟨front, parts, position, -⟩ := stands
  rw [Marked, position, parts]
  exact marks_isBoundary front scan.cursor.rest

/-- A scan ends at the end of the text. -/
theorem StandsIn.limit_eq (stands : scan.StandsIn whole) : scan.limit = byteLength whole := by
  obtain ⟨front, parts, position, -⟩ := stands
  rw [limit, position, parts, byteLength_append]

/-- Going on leaves nothing out. -/
theorem StandsIn.goOn (stands : scan.StandsIn whole) (count : Nat) (stack : Stack) :
    (scan.goOn count stack).StandsIn whole := by
  obtain ⟨front, parts, position, cursor⟩ := stands
  refine ⟨front ++ scan.cursor.rest.take count, ?_, ?_, ?_⟩
  · show whole = (front ++ scan.cursor.rest.take count) ++ scan.cursor.rest.drop count
    rw [List.append_assoc, List.take_append_drop]
    exact parts
  · show scan.position + _ = _
    rw [position, byteLength_append]
    rfl
  · have before : scan.cursor.before = front.getLast? := congrArg Cursor.before cursor
    have after : scan.cursor.after = none := congrArg Cursor.after cursor
    show Cursor.mk (Cursor.lastOr scan.cursor.before (scan.cursor.rest.take count))
      (scan.cursor.rest.drop count) scan.cursor.after = _
    rw [before, after, List.getLast?_append, Cursor.lastOr, Option.orElse_eq_orElse,
      Option.orElse_eq_or]
    rfl

/-- A step leaves nothing out. -/
theorem StandsIn.step (stands : scan.StandsIn whole) (nested : Delegated)
    (machine : Machine) : (scan.step nested machine).2.StandsIn whole := by
  rcases step_cases nested machine scan with
    step | ⟨rule, found, _, _, step⟩ | ⟨rule, found, _, _, step⟩
  · rw [step]
    exact stands.goOn 1 scan.stack
  · rw [step]
    exact stands
  · rw [step]
    exact stands.goOn found.length _

/-- A scan that stands at a boundary of the text is given by its stack and its place. -/
theorem StandsIn.eq_of_position {left right : Scan} (stands : left.StandsIn whole)
    (stands' : right.StandsIn whole) (stack : left.stack = right.stack)
    (position : left.position = right.position) (idle : left.idle = right.idle) :
    left = right := by
  obtain ⟨front, parts, length, cursor⟩ := stands
  obtain ⟨front', parts', length', cursor'⟩ := stands'
  obtain ⟨rfl, rest⟩ := append_inj_of_byteLength (parts.symm.trans parts')
    (length.symm.trans (position.trans length'))
  have cursors : left.cursor = right.cursor := by rw [cursor, cursor', rest]
  obtain ⟨leftStack, leftPosition, leftCursor, leftIdle⟩ := left
  obtain ⟨rightStack, rightPosition, rightCursor, rightIdle⟩ := right
  simp only at stack position cursors idle
  rw [stack, position, cursors, idle]

end Scan

/-! ## Runs -/

namespace Run

/-- The run after a number of calls. -/
def after (run : Run) : Nat → Run
  | 0 => run
  | count + 1 => (run.after count).next.2

/-- The run scans the folded form of a text and moves its tokens back to it. -/
structure Reads (text : List Char) (run : Run) : Prop where
  folded : run.folded = foldLineEndings text
  offsets : run.offsets = OffsetMap.ofText text
  stands : run.scan.StandsIn (foldLineEndings text)

/-- A run that begins anywhere in a text reads it. -/
theorem reads_runFrom (lexer : Lexer) (text : String) (stack : Stack) (consumed : Nat)
    (buffer : Merger) : (lexer.runFrom text stack consumed buffer).Reads text.toList where
  folded := rfl
  offsets := rfl
  stands := ⟨_, (splitAtByte_append _ _).symm, rfl, rfl⟩

variable {text : List Char} {run : Run}

/-- Advancing reads on in the same text. -/
theorem Reads.advance (reads : run.Reads text) : run.advance.Reads text :=
  ⟨reads.folded, reads.offsets, reads.stands.step _ run.machine⟩

/-- The parts of a run that stay as they are. -/
theorem next_frame (run : Run) :
    run.next.2.machine = run.machine ∧ run.next.2.folded = run.folded ∧
      run.next.2.offsets = run.offsets ∧
      run.next.2.buffer.merging = run.buffer.merging := by
  have polled (buffer : Merger) : buffer.poll.2.merging = buffer.merging := by
    unfold Merger.poll
    split
    · rfl
    · split <;> rfl
  fun_induction Run.next run with
  | case1 run token buffer polls =>
    refine ⟨rfl, rfl, rfl, ?_⟩
    rw [← polled run.buffer, polls]
    rfl
  | case2 run buffer polls unfinished ih =>
    obtain ⟨machine, folded, offsets, merging⟩ := ih
    refine ⟨machine, folded, offsets, merging.trans ?_⟩
    rw [← polled run.buffer, polls]
    rfl
  | case3 run buffer polls finished flushed =>
    refine ⟨rfl, rfl, rfl, ?_⟩
    rw [← polled run.buffer, polls]
    rfl

/-- What each step of an unfinished scan preserves, a call preserves. -/
theorem next_scan (keeps : Scan → Prop)
    (step : ∀ scan, scan.finished = false → keeps scan → keeps (scan.advance run.machine).2)
    (here : keeps run.scan) : keeps run.next.2.scan := by
  fun_induction Run.next run with
  | case1 run token buffer polls => exact here
  | case2 run buffer polls unfinished ih => exact ih step (step _ unfinished here)
  | case3 run buffer polls finished flushed => exact here

/-- A call reads on in the same text. -/
theorem Reads.next (reads : run.Reads text) : run.next.2.Reads text := by
  obtain ⟨-, folded, offsets, -⟩ := run.next_frame
  exact ⟨folded.trans reads.folded, offsets.trans reads.offsets,
    next_scan (·.StandsIn (foldLineEndings text))
      (fun scan _ stands => stands.step _ run.machine) reads.stands⟩

end Run

end GrammarLexer
