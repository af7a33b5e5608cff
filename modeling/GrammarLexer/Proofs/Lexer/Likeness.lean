import GrammarLexer.Proofs.Lexer.Position
import GrammarLexer.Proofs.Scan.Likeness

/-!
# Runs that are alike

Runs of like machines that begin in related states hand out the same tokens
(`Run.Alike.drain_eq`), and after any number of calls their snapshots differ in the names on
the stack only, which are related one by one (`Run.Alike.snapshot`).
-/

namespace GrammarLexer

variable {names : String → String → Prop}

/-- Snapshots that differ in the names on the stack only, which are related. -/
structure Snapshot.Alike (names : String → String → Prop) (left right : Snapshot) : Prop where
  stack : List.Forall₂ names left.stack right.stack
  consumed : left.consumed = right.consumed
  returned : left.returned = right.returned
  pending : left.pending = right.pending
  merging : left.merging = right.merging

/-- Snapshots with one name at each height are the same. -/
theorem Snapshot.Alike.eq {left right : Snapshot} (alike : left.Alike Eq right) :
    left = right := by
  obtain ⟨stack, consumed, pending, merging⟩ := left
  obtain ⟨stack', consumed', pending', merging'⟩ := right
  obtain ⟨same, rfl, -, rfl, rfl⟩ := alike
  rw [List.forall₂_eq_eq_eq] at same
  cases same
  rfl

namespace Run

/-- Runs of like machines at one place of one text, with related stacks and the same tokens
outstanding. -/
structure Alike (names : String → String → Prop) (left right : Run) : Prop where
  machine : left.machine.Alike names right.machine
  offsets : left.offsets = right.offsets
  scan : left.scan.Alike names right.scan
  buffer : left.buffer = right.buffer

variable {left right : Run}

/-- Other tokens may be outstanding in both. -/
theorem Alike.withBuffer (alike : left.Alike names right) (buffer : Merger) :
    (left.withBuffer buffer).Alike names (right.withBuffer buffer) :=
  ⟨alike.machine, alike.offsets, alike.scan, rfl⟩

/-- Like runs advance alike. -/
theorem Alike.advance (alike : left.Alike names right) :
    left.advance.Alike names right.advance := by
  obtain ⟨tokens, scans⟩ := alike.scan.step_alike alike.machine
    (delegated_alike alike.machine maxNesting)
  refine ⟨alike.machine, alike.offsets, scans, ?_⟩
  show left.buffer.supply ((left.scan.advance left.machine).1.map left.offsets.sourceToken) =
    right.buffer.supply ((right.scan.advance right.machine).1.map right.offsets.sourceToken)
  rw [alike.buffer, alike.offsets]
  exact congrArg (fun tokens => right.buffer.supply (tokens.map right.offsets.sourceToken)) tokens

/-- **One call.** Like runs hand out the same and are alike afterwards. -/
theorem Alike.next (alike : left.Alike names right) :
    left.next.1 = right.next.1 ∧ left.next.2.Alike names right.next.2 := by
  fun_induction Run.next left generalizing right with
  | case1 left token buffer polled =>
    rw [alike.buffer] at polled
    rw [Run.next.eq_def right, polled]
    exact ⟨rfl, alike.withBuffer buffer⟩
  | case2 left buffer polled unfinished ih =>
    have unfinished' : right.scan.finished = false :=
      alike.scan.finished_eq.symm.trans unfinished
    rw [alike.buffer] at polled
    rw [Run.next.eq_def right, polled]
    show _ = (dite (right.scan.finished = false) _ _ : Option Token × Run).1 ∧
      Alike names _ (dite (right.scan.finished = false) _ _ : Option Token × Run).2
    rw [dif_pos unfinished']
    exact ih (alike.withBuffer buffer).advance
  | case3 left buffer polled finished =>
    have finished' : ¬ right.scan.finished = false := by
      rw [← alike.scan.finished_eq]
      exact finished
    rw [alike.buffer] at polled
    rw [Run.next.eq_def right, polled]
    show _ = (dite (right.scan.finished = false) _ _ : Option Token × Run).1 ∧
      Alike names _ (dite (right.scan.finished = false) _ _ : Option Token × Run).2
    rw [dif_neg finished']
    exact ⟨rfl, alike.withBuffer buffer.flush.2⟩

/-- The same for a number of calls. -/
theorem Alike.after (alike : left.Alike names right) (count : Nat) :
    (left.after count).Alike names (right.after count) := by
  induction count with
  | zero => exact alike
  | succ count ih => exact ih.next.2

/-- **All tokens.** Like runs have the same tokens to come. -/
theorem Alike.drain_eq (alike : left.Alike names right) : left.drain.1 = right.drain.1 := by
  fun_induction Run.drain left generalizing right with
  | case1 left ended next =>
    obtain ⟨tokens, -⟩ := alike.next
    rw [next] at tokens
    rw [Run.drain.eq_def right]
    split
    · rfl
    · rename_i next'
      rw [next'] at tokens
      exact absurd tokens (by simp)
  | case2 left token rest next more =>
    rename_i ih
    obtain ⟨tokens, rests⟩ := alike.next
    rw [next] at tokens rests
    rw [Run.drain.eq_def right]
    split
    · rename_i next'
      rw [next'] at tokens
      exact absurd tokens (by simp)
    · rename_i next'
      rw [next'] at tokens rests
      rw [ih rests, Option.some.inj tokens]

/-- The state of like runs. -/
theorem Alike.snapshot (alike : left.Alike names right) :
    left.snapshot.Alike names right.snapshot := by
  have consumed : left.snapshot.consumed = right.snapshot.consumed := by
    show left.offsets.toSource left.scan.position = right.offsets.toSource right.scan.position
    rw [alike.offsets, alike.scan.position]
  have pending : left.snapshot.pending = right.snapshot.pending :=
    congrArg Merger.outstanding alike.buffer
  refine ⟨alike.scan.stack.entries, consumed, ?_, pending, congrArg Merger.merging alike.buffer⟩
  rw [Snapshot.returned, Snapshot.returned, pending, consumed]

end Run

namespace Lexer

variable {lexer lexer' : Lexer}

/-- Runs over one text that begin with related stacks are alike. -/
theorem alike_start (machines : lexer.machine.Alike names lexer'.machine) (text : String)
    {options options' : Options} (merging : options.merging = options'.merging)
    (starts : (lexer.startStack options.state).Alike names (lexer'.startStack options'.state)) :
    (lexer.start text options).Alike names (lexer'.start text options') where
  machine := machines
  offsets := rfl
  scan := ⟨starts, rfl, rfl, rfl⟩
  buffer := congrArg (Merger.ofList · []) merging

/-- Lexers that know the same states, with the same rules in each, run alike. -/
theorem runs_eq (known : ∀ name, name ∈ lexer.machine.stateNames ↔
      name ∈ lexer'.machine.stateNames)
    (rules : ∀ name, lexer.machine.rulesOf name = lexer'.machine.rulesOf name)
    (text : String) (options : Options) :
    lexer.tokens text options = lexer'.tokens text options ∧
      ∀ count, ((lexer.start text options).after count).snapshot =
        ((lexer'.start text options).after count).snapshot := by
  have machines : lexer.machine.Alike Eq lexer'.machine := by
    rintro name _ rfl
    rw [rules name]
    exact List.forall₂_same.2 fun rule _ => Rule.Alike.refl (fun _ => rfl) rule
  have sameStart : lexer.startStack options.state = lexer'.startStack options.state := by
    have knows : ∀ name, lexer.machine.knows name = lexer'.machine.knows name := by
      intro name
      rw [Bool.eq_iff_iff, Machine.knows, Machine.knows, List.contains_iff_mem,
        List.contains_iff_mem]
      exact known name
    unfold startStack
    cases options.state with
    | none => rfl
    | some name => simp only [knows name]
  have merging : options.merging = options.merging := rfl
  have alike := alike_start machines text merging
    (sameStart ▸ ⟨rfl, List.forall₂_same.2 fun _ _ => rfl⟩)
  exact ⟨alike.drain_eq, fun count => (alike.after count).snapshot.eq⟩

end Lexer

end GrammarLexer
