import GrammarLexer.Proofs.Machine.Closed
import GrammarLexer.Proofs.Scan.Tiling

/-!
# Stacks of a machine

A machine that refers to its own states only never puts any other state on a stack
(`Scan.step_knownTo`), since a move pushes a state that a rule names, or the one on top
once more, or takes states away.
-/

namespace GrammarLexer

namespace Stack

variable {machine : Machine} {stack : Stack}

/-- All states of the stack are states of the machine. -/
def KnownTo (machine : Machine) (stack : Stack) : Prop :=
  ∀ name ∈ stack.entries, name ∈ machine.stateNames

/-- The states of a stack are the one on top and those below. -/
theorem mem_entries {name : String} :
    name ∈ stack.entries ↔ name = stack.top ∨ name ∈ stack.below := by
  rw [entries, List.mem_reverse, List.mem_cons]

/-- A stack is given by its states. -/
theorem ofEntries_entries (floor : String) (stack : Stack) :
    ofEntries floor stack.entries = stack := by
  rw [ofEntries, entries, List.reverse_reverse]

/-- A stack of some states has those states. -/
theorem entries_ofEntries (floor : String) {entries : List String} (filled : entries ≠ []) :
    (ofEntries floor entries).entries = entries := by
  unfold ofEntries
  split
  · rename_i none
    exact absurd (List.reverse_eq_nil_iff.1 none) filled
  · rename_i top below order
    rw [Stack.entries, ← order, List.reverse_reverse]

/-- Where a machine knows the floor, it knows a stack of states that it knows. -/
theorem knownTo_ofEntries {floor : String} {entries : List String}
    (known : floor ∈ machine.stateNames) (all : ∀ name ∈ entries, name ∈ machine.stateNames) :
    (ofEntries floor entries).KnownTo machine := by
  intro name member
  unfold ofEntries at member
  split at member
  · obtain rfl := List.mem_singleton.1 member
    exact known
  · rename_i top below order
    have among := List.mem_reverse.1 member
    rw [← order] at among
    exact all name (List.mem_reverse.1 among)

/-- Taking states away adds none. -/
theorem mem_entries_popFrom {top name : String} {below : List String} {depth : Nat}
    (member : name ∈ (popFrom top below depth).entries) : name = top ∨ name ∈ below := by
  fun_induction popFrom top below depth with
  | case1 top next below depth ih => exact .inr (List.mem_cons.2 (ih member))
  | case2 top below depth floor => exact mem_entries.1 member

/-- Taking states from the top leaves the lower ones. -/
theorem entries_popFrom (top : String) (below : List String) (depth : Nat) :
    (popFrom top below depth).entries =
      (Stack.entries ⟨top, below⟩).take (below.length + 1 - min depth below.length) := by
  fun_induction popFrom top below depth with
  | case1 top next below depth ih =>
    rw [ih]
    have count : (next :: below).length + 1 - min (depth + 1) (next :: below).length =
        below.length + 1 - min depth below.length := by
      rw [List.length_cons]
      omega
    rw [count, entries, entries, List.reverse_cons (a := top), List.take_append_of_le_length]
    simp only [List.length_reverse, List.length_cons]
    omega
  | case2 top below depth stays =>
    -- there is nothing to take, or nothing is to be taken
    have none : min depth below.length = 0 := by
      cases below with
      | nil => simp
      | cons next below =>
        cases depth with
        | zero => simp
        | succ depth => exact absurd rfl (stays next below depth rfl)
    rw [none, List.take_of_length_le]
    simp [entries]

/-- A move to states that the machine knows keeps to them. -/
theorem KnownTo.move (known : stack.KnownTo machine) {move : Move}
    (named : ∀ name ∈ move.names, name ∈ machine.stateNames) :
    (stack.move move).2.KnownTo machine := by
  cases move with
  | stay => exact known
  | push target =>
    intro name member
    rcases mem_entries.1 member with rfl | below
    · cases target with
      | current => exact known _ (mem_entries.2 (.inl rfl))
      | named state => exact named state List.mem_cons_self
    · exact known name (mem_entries.2 (List.mem_cons.1 below))
  | pop depth =>
    intro name member
    exact known name (mem_entries.2 (mem_entries_popFrom member))

end Stack

/-- A step keeps to the states of the machine. -/
theorem Scan.step_knownTo {machine : Machine} {scan : Scan} (closed : machine.Closed)
    (nested : Delegated) (known : scan.stack.KnownTo machine) :
    (scan.step nested machine).2.stack.KnownTo machine := by
  have moves {rule : Rule} {found : Pattern.Match} (finds : scan.Finds machine rule found) :
      (scan.stack.move rule.move).2.KnownTo machine :=
    known.move fun name named => closed.rulesOf finds.member (List.mem_append_right _ named)
  rcases step_cases nested machine scan with
    step | ⟨rule, found, finds, -, step⟩ | ⟨rule, found, finds, -, step⟩
  · rw [step]
    exact known
  · rw [step]
    exact moves finds
  · rw [step]
    exact moves finds

end GrammarLexer
