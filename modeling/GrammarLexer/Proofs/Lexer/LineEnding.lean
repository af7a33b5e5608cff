import GrammarLexer.Proofs.Lexer.Position
import GrammarLexer.Proofs.Lexer.SourceToken
import Mathlib.Data.List.Forall2

/-!
# Line endings do not matter

A run over a text is the run over its folded form with every token moved back
(`start_eq_moved`): moving commutes with reading, merging and handing out tokens, since
it neither joins nor parts neighbours. So two texts that differ only in how their lines
end have the same tokens at corresponding places, and their runs go through
corresponding snapshots (`runs_correspond`).
-/

namespace GrammarLexer

open Text

/-! ## Merging moved tokens -/

namespace Merger

/-- Change every token of a merger. -/
def map (change : Token → Token) (merger : Merger) : Merger where
  merging := merger.merging
  held := merger.held.map change
  unread := merger.unread.map change

variable {change : Token → Token}

/-- What is outstanding is changed. -/
theorem outstanding_map (merger : Merger) :
    (merger.map change).outstanding = merger.outstanding.map change := by
  obtain ⟨merging, held, unread⟩ := merger
  cases held with
  | none => rfl
  | some token => rfl

/-- A change that keeps neighbours apart or joined can be made before or after a run
is read. -/
theorem readRun_map
    (joins : ∀ left right, (change left).join? (change right) = (left.join? right).map change)
    (held : Option Token) (unread : List Token) :
    readRun (held.map change) (unread.map change) =
      ((readRun held unread).1.map change, (readRun held unread).2.1.map change,
        (readRun held unread).2.2.map change) := by
  fun_induction readRun held unread with
  | case1 held => rfl
  | case2 token rest ih => exact ih
  | case3 token rest current joined same ih =>
    rw [Option.map_some, List.map_cons, readRun, joins, same]
    exact ih
  | case4 token rest current apart =>
    rw [Option.map_some, List.map_cons, readRun, joins, apart]
    rfl

/-- The same for the token handed out and what is left. -/
theorem poll_map
    (joins : ∀ left right, (change left).join? (change right) = (left.join? right).map change)
    (merger : Merger) :
    (merger.map change).poll = (merger.poll.1.map change, merger.poll.2.map change) := by
  unfold poll
  rw [outstanding_map]
  by_cases merging : merger.merging = true
  · rw [if_pos merging, if_pos (show (merger.map change).merging = true from merging)]
    have read := readRun_map joins merger.held merger.unread
    show ((readRun _ _).1, _) = _
    simp only [map] at read ⊢
    rw [read]
  · rw [if_neg merging, if_neg (show ¬ (merger.map change).merging = true from merging)]
    cases outstanding : merger.outstanding with
    | nil => rfl
    | cons token rest => rfl

/-- Tokens can be changed before or after they are supplied. -/
theorem supply_map (merger : Merger) (tokens : List Token) :
    (merger.map change).supply (tokens.map change) = (merger.supply tokens).map change := by
  simp only [supply, map, List.map_append]

end Merger

/-! ## Runs over the folded text -/

namespace Run

/-- A run over a folded text, with its tokens moved to a source of that text. -/
def moved (offsets : OffsetMap) (run : Run) : Run :=
  { run with offsets := offsets, buffer := run.buffer.map offsets.sourceToken }

/-- The offsets of the run's text are those of its folded form. -/
def Plain (run : Run) : Prop := run.offsets = ⟨[]⟩

variable {run : Run}

/-- Calls do not change what a run reads. -/
theorem Plain.next (plain : run.Plain) : run.next.2.Plain :=
  run.next_frame.2.2.1.trans plain

/-- Tokens can be moved before or after the run advances. -/
theorem advance_moved (plain : run.Plain) (offsets : OffsetMap) :
    (run.moved offsets).advance = run.advance.moved offsets := by
  have here : run.offsets.sourceToken = id := by
    rw [plain]
    exact funext OffsetMap.sourceToken_plain
  unfold Run.advance moved
  dsimp only
  rw [here, List.map_id, Merger.supply_map]

/-- **Moving.** Tokens can be moved before or after a call. -/
theorem next_moved (plain : run.Plain) (offsets : OffsetMap) :
    (run.moved offsets).next =
      (run.next.1.map offsets.sourceToken, run.next.2.moved offsets) := by
  have polls (buffer : Merger) := buffer.poll_map offsets.join?_sourceToken
  fun_induction Run.next run with
  | case1 run token buffer polled =>
    have polled' := polls run.buffer
    rw [polled] at polled'
    rw [Run.next, show (run.moved offsets).buffer = run.buffer.map _ from rfl, polled']
    rfl
  | case2 run buffer polled unfinished ih =>
    have polled' := polls run.buffer
    rw [polled] at polled'
    rw [Run.next, show (run.moved offsets).buffer = run.buffer.map _ from rfl, polled']
    show (if _ : run.scan.finished = false then _ else _) = _
    rw [dif_pos unfinished, ← ih plain]
    have plain' : (run.withBuffer buffer).Plain := plain
    exact congrArg Run.next (advance_moved plain' offsets)
  | case3 run buffer polled finished flushed =>
    have polled' := polls run.buffer
    rw [polled] at polled'
    rw [Run.next, show (run.moved offsets).buffer = run.buffer.map _ from rfl, polled']
    show (if _ : run.scan.finished = false then _ else _) = _
    rw [dif_neg finished]
    rfl

/-- The same for a number of calls. -/
theorem after_moved (plain : run.Plain) (offsets : OffsetMap) (count : Nat) :
    (run.moved offsets).after count = (run.after count).moved offsets ∧
      (run.after count).Plain := by
  induction count with
  | zero => exact ⟨rfl, plain⟩
  | succ count ih =>
    obtain ⟨same, plain⟩ := ih
    refine ⟨?_, plain.next⟩
    rw [Run.after, same, next_moved plain]
    rfl

/-- The tokens of a run over a source are those over the folded text, moved. -/
theorem drain_moved (plain : run.Plain) (offsets : OffsetMap) :
    (run.moved offsets).drain.1 = run.drain.1.map offsets.sourceToken := by
  fun_induction Run.drain run with
  | case1 run ended next =>
    have next' := next_moved plain offsets
    rw [next] at next'
    rw [Run.drain, next']
    rfl
  | case2 run token rest next more =>
    rename_i ih
    have next' := next_moved plain offsets
    have plain' := plain.next
    rw [next] at next' plain'
    rw [Run.drain, next']
    exact congrArg _ (ih plain')

/-- A snapshot of a moved run. -/
theorem snapshot_moved (plain : run.Plain) (offsets : OffsetMap) :
    (run.moved offsets).snapshot =
      { run.snapshot with
        consumed := offsets.toSource run.snapshot.consumed
        pending := run.snapshot.pending.map offsets.sourceToken } := by
  have consumed : run.snapshot.consumed = run.scan.position := by
    show run.offsets.toSource run.scan.position = _
    rw [plain]
    rfl
  rw [consumed]
  simp only [snapshot, moved, Merger.outstanding_map]
  rfl

end Run

/-! ## Texts with the same folded form -/

/-- A run over a text is the run over its folded form, moved. -/
theorem Lexer.start_eq_moved (lexer : Lexer) (text : String) (options : Options) :
    lexer.start text options =
      (lexer.start (String.ofList (foldLineEndings text.toList)) options).moved
        (OffsetMap.ofText text.toList) := by
  simp only [start, runFrom, Run.moved, String.toList_ofList, foldLineEndings_idem,
    OffsetMap.toFolded, Nat.zero_sub]
  rfl

/-- A run over a folded text has nothing to move. -/
theorem Lexer.plain_start (lexer : Lexer) (text : List Char) (options : Options) :
    (lexer.start (String.ofList (foldLineEndings text)) options).Plain := by
  show OffsetMap.ofText _ = _
  rw [String.toList_ofList]
  exact OffsetMap.ofText_foldLineEndings text

/-- The offset of one text for an offset of another, by way of the folded text that both
have in common. -/
def Text.carry (left right : String) (offset : Nat) : Nat :=
  (OffsetMap.ofText right.toList).toSource ((OffsetMap.ofText left.toList).toFolded offset)

/-- Two tokens of one kind at corresponding places of two texts. -/
structure Token.Corresponds (place : Nat → Nat) (left right : Token) : Prop where
  kind : left.kind = right.kind
  start : right.start = place left.start
  stop : right.stop = place left.stop

/-- Two snapshots with one stack, at corresponding places of two texts. -/
structure Snapshot.Corresponds (place : Nat → Nat) (left right : Snapshot) : Prop where
  stack : left.stack = right.stack
  consumed : right.consumed = place left.consumed
  returned : right.returned = place left.returned
  pending : List.Forall₂ (Token.Corresponds place) left.pending right.pending
  merging : left.merging = right.merging

section Carry

variable (left right : String)

/-- What stands for one offset of the folded text corresponds. -/
theorem Text.toSource_eq_carry (folded : Nat) :
    (OffsetMap.ofText right.toList).toSource folded =
      carry left right ((OffsetMap.ofText left.toList).toSource folded) := by
  rw [carry, OffsetMap.toFolded_toSource_ofText]

/-- Tokens that stem from one token of the folded text correspond. -/
theorem Token.corresponds_sourceToken (token : Token) :
    Token.Corresponds (carry left right)
      ((OffsetMap.ofText left.toList).sourceToken token)
      ((OffsetMap.ofText right.toList).sourceToken token) where
  kind := rfl
  start := toSource_eq_carry left right token.start
  stop := by
    rw [OffsetMap.stop_sourceToken, OffsetMap.stop_sourceToken]
    exact toSource_eq_carry left right token.stop

/-- Lists of tokens that stem from one list correspond. -/
theorem Token.forall₂_corresponds (tokens : List Token) :
    List.Forall₂ (Token.Corresponds (carry left right))
      (tokens.map (OffsetMap.ofText left.toList).sourceToken)
      (tokens.map (OffsetMap.ofText right.toList).sourceToken) := by
  rw [List.forall₂_map_left_iff, List.forall₂_map_right_iff, List.forall₂_same]
  exact fun token _ => Token.corresponds_sourceToken left right token

/-- Snapshots of runs that stem from one run correspond. -/
theorem Snapshot.corresponds_moved {run : Run} (plain : run.Plain) :
    Snapshot.Corresponds (carry left right)
      (run.moved (OffsetMap.ofText left.toList)).snapshot
      (run.moved (OffsetMap.ofText right.toList)).snapshot := by
  rw [Run.snapshot_moved plain, Run.snapshot_moved plain]
  refine ⟨rfl, toSource_eq_carry left right _, ?_, Token.forall₂_corresponds left right _, rfl⟩
  unfold returned
  cases run.snapshot.pending with
  | nil => exact toSource_eq_carry left right _
  | cons token rest => exact toSource_eq_carry left right token.start

end Carry

/-- **Line endings do not matter.** Two texts with one folded form have as many tokens,
of the same kinds and at corresponding places, and after any number of calls the runs
over them are at corresponding snapshots. -/
theorem Lexer.runs_correspond (lexer : Lexer) (left right : String) (options : Options)
    (same : foldLineEndings left.toList = foldLineEndings right.toList) :
    List.Forall₂ (Token.Corresponds (carry left right))
        (lexer.tokens left options) (lexer.tokens right options) ∧
      ∀ count, Snapshot.Corresponds (carry left right)
        ((lexer.start left options).after count).snapshot
        ((lexer.start right options).after count).snapshot := by
  have plain := lexer.plain_start left.toList options
  -- both runs are the one over the folded text, moved to either text
  have start := lexer.start_eq_moved right options
  rw [← same] at start
  rw [tokens, tokens, start, lexer.start_eq_moved left options]
  refine ⟨?_, ?_⟩
  · rw [Run.drain_moved plain, Run.drain_moved plain]
    exact Token.forall₂_corresponds left right _
  · intro count
    obtain ⟨moves, plain⟩ := Run.after_moved plain (OffsetMap.ofText left.toList) count
    obtain ⟨moves', -⟩ := Run.after_moved (lexer.plain_start left.toList options)
      (OffsetMap.ofText right.toList) count
    rw [moves, moves']
    exact Snapshot.corresponds_moved left right plain

/-- Words, and quotations in a state of their own. -/
def Grammar.quotations : Grammar where
  config := ⟨"quotations", [], [], [], .zero, ⟨false, false, false⟩⟩
  states := [
    ⟨"root", [
      ⟨"'", some "String", some "quoted", none, none, none, none, none⟩,
      ⟨"[a-z]+", some "Name", none, none, none, none, none, none⟩]⟩,
    ⟨"quoted", [
      ⟨"'", some "String", none, some 1, none, none, none, none⟩,
      ⟨"[a-z\n]+", some "String", none, none, none, none, none, none⟩]⟩]

/-- The grammar of quotations can be built. -/
theorem Lexer.exists_quotations : ∃ lexer, ofGrammar .quotations = .ok lexer := by
  have builds : (ofGrammar .quotations).toOption.isSome = true := by decide +kernel
  cases built : ofGrammar .quotations with
  | ok lexer => exact ⟨lexer, rfl⟩
  | error error =>
    rw [built] at builds
    exact absurd builds Bool.false_ne_true

/-- A quotation of two lines, with either line ending. -/
theorem Lexer.runs_correspond_quotations : ∃ lexer, ofGrammar .quotations = .ok lexer ∧
    foldLineEndings "'a\r\nb'".toList = foldLineEndings "'a\nb'".toList ∧
      List.Forall₂ (Token.Corresponds (carry "'a\r\nb'" "'a\nb'"))
          (lexer.tokens "'a\r\nb'" ⟨true, none⟩) (lexer.tokens "'a\nb'" ⟨true, none⟩) ∧
        ∀ count, Snapshot.Corresponds (carry "'a\r\nb'" "'a\nb'")
          ((lexer.start "'a\r\nb'" ⟨true, none⟩).after count).snapshot
          ((lexer.start "'a\nb'" ⟨true, none⟩).after count).snapshot := by
  obtain ⟨lexer, built⟩ := exists_quotations
  have same : foldLineEndings "'a\r\nb'".toList = foldLineEndings "'a\nb'".toList := by
    decide +kernel
  exact ⟨lexer, built, same, lexer.runs_correspond "'a\r\nb'" "'a\nb'" ⟨true, none⟩ same⟩

end GrammarLexer
