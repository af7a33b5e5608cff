import GrammarLexer.Proofs.Lexer.LineEnding
import GrammarLexer.Proofs.Scan.Stack

/-!
# Going on from a snapshot

A run that is resumed over the same text goes on as if it had not been interrupted
(`resume_exact`). A snapshot leaves out how the outstanding tokens are split between the
one held and those not yet looked at, how many idle steps have been made, and offsets of
the folded text. None of it is missed: what a merger hands out depends on the tokens
outstanding only (`poll_ofList`), no idle steps are left behind when a call returns
(`next_idle`), and offsets, states and the place of the scan can be found again
(`Resumable.resume_snapshot`).
-/

namespace GrammarLexer

open Text

/-! ## The tokens outstanding -/

namespace Merger

/-- It does not matter for what is handed out whether a token is held or unread. -/
theorem poll_ofList (merger : Merger) :
    (ofList merger.merging merger.outstanding).poll = merger.poll := by
  obtain ⟨merging, held, unread⟩ := merger
  cases merging with
  | true => cases held <;> rfl
  | false => cases held <;> cases unread <;> rfl

end Merger

namespace Run

/-- The run with all tokens outstanding unread. -/
def rewound (run : Run) : Run :=
  run.withBuffer (.ofList run.buffer.merging run.buffer.outstanding)

/-- The state of a run does not tell which tokens are unread. -/
theorem snapshot_rewound (run : Run) : run.rewound.snapshot = run.snapshot := by
  simp only [snapshot, rewound, withBuffer, Merger.ofList, Merger.outstanding,
    Option.toList_none, List.nil_append]

/-- Nor does the next call. -/
theorem next_rewound (run : Run) : run.rewound.next = run.next := by
  have polled : run.rewound.buffer.poll = run.buffer.poll := run.buffer.poll_ofList
  rw [Run.next, Run.next.eq_def run, polled]
  rfl

/-- Nor do any further calls. -/
theorem after_rewound (run : Run) (further : Nat) :
    (run.rewound.after further).next = (run.after further).next ∧
      (run.rewound.after further).snapshot = (run.after further).snapshot := by
  -- the two runs differ before the first call only
  have same : ∀ further, run.rewound.after (further + 1) = run.after (further + 1) := by
    intro further
    induction further with
    | zero => exact congrArg Prod.snd run.next_rewound
    | succ further ih => exact congrArg (fun run => run.next.2) ih
  cases further with
  | zero => exact ⟨run.next_rewound, run.snapshot_rewound⟩
  | succ further => rw [same further]; exact ⟨rfl, rfl⟩

/-! ## Idle steps -/

/-- Either no idle steps have been made, or there is more to scan before a token can be
handed out. -/
def Settles (run : Run) : Prop :=
  run.scan.idle = 0 ∨ run.scan.finished = false ∧ run.buffer.Exhausted

variable {run : Run}

/-- An idle step hands out nothing and leaves the text as it is. -/
theorem settles_advance (unfinished : run.scan.finished = false)
    (exhausted : run.buffer.Exhausted) : run.advance.Settles := by
  have step : (run.scan.advance run.machine).2.idle = 0 ∨
      (run.scan.advance run.machine).1 = [] ∧
        (run.scan.advance run.machine).2.cursor = run.scan.cursor := by
    rcases Scan.step_cases (delegated run.machine maxNesting) run.machine run.scan with
      step | ⟨rule, found, -, -, step⟩ | ⟨rule, found, -, -, step⟩
    · rw [Scan.advance, step]
      exact .inl rfl
    · rw [Scan.advance, step]
      exact .inr ⟨rfl, rfl⟩
    · rw [Scan.advance, step]
      exact .inl rfl
  rcases step with idle | ⟨nothing, same⟩
  · exact .inl idle
  · -- nothing is supplied, so the merger waits as before
    refine .inr ⟨?_, ?_⟩
    · show (run.scan.advance run.machine).2.cursor.rest.isEmpty = false
      rw [same]
      exact unfinished
    · refine ⟨?_, exhausted.held⟩
      show run.buffer.unread ++ (run.scan.advance run.machine).1.map _ = []
      rw [nothing, exhausted.unread]
      rfl

/-- **No idle steps.** When a call returns, it has taken the text it stands behind. -/
theorem next_idle (settles : run.Settles) : run.next.2.scan.idle = 0 := by
  fun_induction Run.next run with
  | case1 run token buffer polled =>
    rcases settles with idle | ⟨-, exhausted⟩
    · exact idle
    · -- a token is handed out, so there was something to hand out
      rw [exhausted.poll_eq] at polled
      exact absurd (congrArg Prod.fst polled) (by simp)
  | case2 run buffer polled unfinished ih =>
    have waits : (run.withBuffer buffer).buffer.Exhausted := Merger.exhausted_of_poll polled
    exact ih (settles_advance unfinished waits)
  | case3 run buffer polled finished flushed =>
    rcases settles with idle | ⟨unfinished, -⟩
    · exact idle
    · exact absurd unfinished finished

end Run

/-! ## Runs that can be resumed -/

/-- A run of a lexer over a text, between two calls. -/
structure Run.Resumable (lexer : Lexer) (text : String) (run : Run) : Prop where
  machine : run.machine = lexer.machine
  reads : run.Reads text.toList
  known : run.scan.stack.KnownTo lexer.machine
  idle : run.scan.idle = 0

namespace Lexer

variable {lexer : Lexer} {text : String}

/-- A run that begins anywhere can be resumed, if the lexer knows its stack. -/
theorem resumable_runFrom {stack : Stack} (known : stack.KnownTo lexer.machine)
    (consumed : Nat) (buffer : Merger) :
    (lexer.runFrom text stack consumed buffer).Resumable lexer text where
  machine := rfl
  reads := Run.reads_runFrom lexer text stack consumed buffer
  known := known
  idle := rfl

/-- So can a fresh run. -/
theorem resumable_start (closed : lexer.machine.Closed) (options : Options) :
    (lexer.start text options).Resumable lexer text := by
  have floor : (Stack.floor rootState).KnownTo lexer.machine := by
    intro name member
    obtain rfl := List.mem_singleton.1 member
    exact closed.root
  refine resumable_runFrom ?_ 0 _
  unfold startStack
  split
  · exact floor
  · rename_i name _
    split
    · rename_i other
      have known := Machine.knows_iff.1 (Bool.and_eq_true_iff.1 other).1
      show ((Stack.floor rootState).move (.push (.named name))).2.KnownTo lexer.machine
      refine floor.move ?_
      intro named member
      obtain rfl := List.mem_singleton.1 member
      exact known
    · exact floor

/-- So can a run that has been resumed. -/
theorem resumable_resume (closed : lexer.machine.Closed) (snapshot : Snapshot) :
    (lexer.resume text snapshot).Resumable lexer text := by
  refine resumable_runFrom (Stack.knownTo_ofEntries closed.root ?_) _ _
  intro name member
  exact Machine.knows_iff.1 (List.mem_filter.1 member).2

end Lexer

namespace Run

variable {lexer : Lexer} {text : String} {run : Run}

/-- A run can be resumed after a call if it can be before. -/
theorem Resumable.next (resumable : run.Resumable lexer text)
    (closed : lexer.machine.Closed) : run.next.2.Resumable lexer text where
  machine := run.next_frame.1.trans resumable.machine
  reads := resumable.reads.next
  known := by
    have step : ∀ scan : Scan, scan.finished = false → scan.stack.KnownTo lexer.machine →
        (scan.advance run.machine).2.stack.KnownTo lexer.machine := by
      intro scan _ known
      rw [resumable.machine]
      exact scan.step_knownTo closed _ known
    exact next_scan (·.stack.KnownTo lexer.machine) step resumable.known
  idle := next_idle (.inl resumable.idle)

/-- The same for a number of calls. -/
theorem Resumable.after (resumable : run.Resumable lexer text)
    (closed : lexer.machine.Closed) (count : Nat) :
    (run.after count).Resumable lexer text := by
  induction count with
  | zero => exact resumable
  | succ count ih => exact ih.next closed

/-- The scan of a run is found again. -/
theorem Resumable.scan_eq (resumable : run.Resumable lexer text) :
    (lexer.resume text run.snapshot).scan = run.scan := by
  have reads := Run.reads_runFrom lexer text
    (.ofEntries rootState (run.snapshot.stack.filter lexer.machine.knows))
    run.snapshot.consumed (.ofList run.snapshot.merging run.snapshot.pending)
  refine reads.stands.eq_of_position resumable.reads.stands ?_ ?_ resumable.idle.symm
  · have all : run.scan.stack.entries.filter lexer.machine.knows = run.scan.stack.entries :=
      List.filter_eq_self.2 fun name member =>
        Machine.knows_iff.2 (resumable.known name member)
    show Stack.ofEntries rootState (run.scan.stack.entries.filter lexer.machine.knows) = _
    rw [all, Stack.ofEntries_entries]
  · obtain ⟨front, parts, position, -⟩ := resumable.reads.stands
    show byteLength (splitAtByte ((OffsetMap.ofText text.toList).toFolded
      (run.offsets.toSource run.scan.position)) (foldLineEndings text.toList)).1 = _
    rw [resumable.reads.offsets, OffsetMap.toFolded_toSource_ofText, position, parts,
      splitAtByte_byteLength]

/-- **Resuming.** What is found again from a snapshot is the run, with all tokens
outstanding unread. -/
theorem Resumable.resume_snapshot (resumable : run.Resumable lexer text) :
    lexer.resume text run.snapshot = run.rewound := by
  have scan := resumable.scan_eq
  obtain ⟨machine, folded, offsets, place, buffer⟩ := run
  obtain ⟨same, ⟨folds, moves, -⟩, -, -⟩ := resumable
  simp only at same folds moves
  subst same folds moves
  unfold Lexer.resume Lexer.runFrom at scan ⊢
  simp only at scan
  simp only [scan]
  rfl

end Run

namespace Lexer

/-- The runs of a lexer over a text: fresh ones, and those resumed from the snapshot of
another run after some calls. -/
inductive Reaches (lexer : Lexer) (text : String) : Run → Prop
  | start (options : Options) : Reaches lexer text (lexer.start text options)
  | resume {run : Run} (count : Nat) (reached : Reaches lexer text run) :
      Reaches lexer text (lexer.resume text (run.after count).snapshot)

variable {lexer : Lexer} {text : String} {run : Run}

/-- Every run can be resumed. -/
theorem Reaches.resumable (reached : lexer.Reaches text run) (closed : lexer.machine.Closed) :
    run.Resumable lexer text := by
  cases reached with
  | start options => exact resumable_start closed options
  | resume count reached => exact resumable_resume closed _

/-- The machine of a lexer refers to its own states only. -/
theorem closed_of_ofGrammar {grammar : Grammar} (built : ofGrammar grammar = .ok lexer) :
    lexer.machine.Closed := by
  obtain ⟨machine, builds, rfl⟩ := map_eq_ok.1 built
  exact Grammar.closed_of_build builds

/-- **Exact resumption.** After any number of calls of any run, a run resumed from its
snapshot has that snapshot, and hands out the same at each further call, with the same
snapshot before it. -/
theorem resume_exact {grammar : Grammar} (built : ofGrammar grammar = .ok lexer)
    (reached : lexer.Reaches text run) (count : Nat) :
    (lexer.resume text (run.after count).snapshot).snapshot = (run.after count).snapshot ∧
      ∀ further,
        ((lexer.resume text (run.after count).snapshot).after further).next.1 =
            ((run.after count).after further).next.1 ∧
          ((lexer.resume text (run.after count).snapshot).after further).snapshot =
            ((run.after count).after further).snapshot := by
  have closed := closed_of_ofGrammar built
  have resumable := (reached.resumable closed).after closed count
  rw [resumable.resume_snapshot]
  refine ⟨(run.after count).snapshot_rewound, ?_⟩
  intro further
  obtain ⟨next, snapshot⟩ := (run.after count).after_rewound further
  exact ⟨congrArg Prod.fst next, snapshot⟩

/-- A run that is resumed twice, the second time within a quotation. -/
theorem resume_exact_quotations : ∃ lexer run, ofGrammar .quotations = .ok lexer ∧
    run = lexer.resume "ab'c\r\nd'e"
        ((lexer.start "ab'c\r\nd'e" ⟨false, none⟩).after 1).snapshot ∧
      lexer.Reaches "ab'c\r\nd'e" run ∧
      (lexer.resume "ab'c\r\nd'e" (run.after 1).snapshot).snapshot = (run.after 1).snapshot ∧
      ∀ further,
        ((lexer.resume "ab'c\r\nd'e" (run.after 1).snapshot).after further).next.1 =
            ((run.after 1).after further).next.1 ∧
          ((lexer.resume "ab'c\r\nd'e" (run.after 1).snapshot).after further).snapshot =
            ((run.after 1).after further).snapshot := by
  obtain ⟨lexer, built⟩ := exists_quotations
  have reached : lexer.Reaches "ab'c\r\nd'e" _ := .resume 1 (.start ⟨false, none⟩)
  exact ⟨lexer, _, built, rfl, reached, resume_exact built reached 1⟩

end Lexer

end GrammarLexer
