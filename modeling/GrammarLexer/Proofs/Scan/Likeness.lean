import GrammarLexer.Scan.Step
import Mathlib.Data.List.Forall2

/-!
# Machines that are alike

Two machines are alike under a relation between the names of their states if related states
have the same rules but for the states that the rules refer to, which are related again
(`Machine.Alike`). Two scans that start in related states then go through related stacks,
and make the same tokens, in nested scans (`delegated_alike`) and step by step
(`step_alike`).
-/

namespace GrammarLexer

open Text

/-! ## Rules that are alike -/

/-- Targets that refer to related states. -/
inductive Target.Alike (names : String → String → Prop) : Target → Target → Prop
  | current : Target.Alike names .current .current
  | named {left right : String} (related : names left right) :
      Target.Alike names (.named left) (.named right)

/-- Groups that emit the same but for the states that text is handed to. -/
inductive GroupAction.Alike (names : String → String → Prop) : GroupAction → GroupAction → Prop
  | token (kind : Kind) : GroupAction.Alike names (.token kind) (.token kind)
  | delegate {left right : Target} (targets : left.Alike names right) :
      GroupAction.Alike names (.delegate left) (.delegate right)

/-- Actions that emit the same but for the states that text is handed to. -/
inductive Action.Alike (names : String → String → Prop) : Action → Action → Prop
  | nothing : Action.Alike names .nothing .nothing
  | token (kind : Kind) : Action.Alike names (.token kind) (.token kind)
  | groups {left right : List GroupAction}
      (actions : List.Forall₂ (GroupAction.Alike names) left right) :
      Action.Alike names (.groups left) (.groups right)
  | delegate {left right : Target} (targets : left.Alike names right) :
      Action.Alike names (.delegate left) (.delegate right)

/-- Moves that are the same but for the states that are pushed. -/
inductive Move.Alike (names : String → String → Prop) : Move → Move → Prop
  | stay : Move.Alike names .stay .stay
  | push {left right : Target} (targets : left.Alike names right) :
      Move.Alike names (.push left) (.push right)
  | pop (depth : Nat) : Move.Alike names (.pop depth) (.pop depth)

/-- Rules that match the same text and differ in the states that they refer to only. -/
structure Rule.Alike (names : String → String → Prop) (left right : Rule) : Prop where
  program : left.program = right.program
  action : left.action.Alike names right.action
  move : left.move.Alike names right.move

/-- Machines with like rules under related names. -/
def Machine.Alike (names : String → String → Prop) (left right : Machine) : Prop :=
  ∀ name name', names name name' →
    List.Forall₂ (Rule.Alike names) (left.rulesOf name) (right.rulesOf name')

variable {names : String → String → Prop}

section Refl

variable (same : ∀ name, names name name)
include same

/-- A target is like itself. -/
theorem Target.Alike.refl : ∀ target : Target, target.Alike names target
  | .current => .current
  | .named state => .named (same state)

/-- A group is like itself. -/
theorem GroupAction.Alike.refl : ∀ action : GroupAction, action.Alike names action
  | .token kind => .token kind
  | .delegate target => .delegate (Target.Alike.refl same target)

/-- An action is like itself. -/
theorem Action.Alike.refl : ∀ action : Action, action.Alike names action
  | .nothing => .nothing
  | .token kind => .token kind
  | .groups _ => .groups (List.forall₂_same.2 fun action _ => GroupAction.Alike.refl same action)
  | .delegate target => .delegate (Target.Alike.refl same target)

/-- A move is like itself. -/
theorem Move.Alike.refl : ∀ move : Move, move.Alike names move
  | .stay => .stay
  | .push target => .push (Target.Alike.refl same target)
  | .pop depth => .pop depth

/-- A rule is like itself. -/
theorem Rule.Alike.refl (rule : Rule) : rule.Alike names rule :=
  ⟨rfl, Action.Alike.refl same rule.action, Move.Alike.refl same rule.move⟩

end Refl

/-- Like targets mean related states where the states on top are related. -/
theorem Target.Alike.resolve {left right : Target} (targets : left.Alike names right)
    {current current' : String} (related : names current current') :
    names (left.resolve current) (right.resolve current') := by
  cases targets with
  | current => exact related
  | named same => exact same

/-! ## Stacks of related states -/

namespace Stack

/-- Stacks with related states at each height. -/
structure Alike (names : String → String → Prop) (left right : Stack) : Prop where
  top : names left.top right.top
  below : List.Forall₂ names left.below right.below

variable {left right : Stack}

/-- The states of such stacks are related one by one, the floor first. -/
theorem Alike.entries (alike : left.Alike names right) :
    List.Forall₂ names left.entries right.entries :=
  List.rel_reverse (.cons alike.top alike.below)

/-- Taking away states leaves related ones. -/
theorem alike_popFrom {top top' : String} {below below' : List String} (tops : names top top')
    (belows : List.Forall₂ names below below') (depth : Nat) :
    (popFrom top below depth).Alike names (popFrom top' below' depth) := by
  induction belows generalizing top top' depth with
  | nil => exact ⟨tops, .nil⟩
  | cons related others ih =>
    cases depth with
    | zero => exact ⟨tops, .cons related others⟩
    | succ depth => exact ih related depth

/-- **Moving.** Like moves change related stacks alike. -/
theorem Alike.move (alike : left.Alike names right) {move move' : Move}
    (moves : move.Alike names move') :
    (left.move move).1 = (right.move move').1 ∧
      (left.move move).2.Alike names (right.move move').2 := by
  cases moves with
  | stay => exact ⟨rfl, alike⟩
  | push targets => exact ⟨rfl, targets.resolve alike.top, .cons alike.top alike.below⟩
  | pop depth =>
    refine ⟨?_, alike_popFrom alike.top alike.below depth⟩
    have empty : left.below.isEmpty = right.below.isEmpty := by
      rw [Bool.eq_iff_iff, List.isEmpty_iff_length_eq_zero, List.isEmpty_iff_length_eq_zero,
        alike.below.length_eq]
    show (depth != 0 && !left.below.isEmpty) = (depth != 0 && !right.below.isEmpty)
    rw [empty]

end Stack

/-! ## Emitting -/

/-- What comes back for a span does not depend on which of two related states it is handed
to. -/
def Delegated.Alike (names : String → String → Prop) (left right : Delegated) : Prop :=
  ∀ state state', names state state' → left state = right state'

namespace Place

variable {current current' : String} {position : Nat} {cursor : Cursor}
  {nested nested' : Delegated}

/-- A span handed to related states. -/
theorem delegate_alike (related : names current current') (alike : nested.Alike names nested')
    {target target' : Target} (targets : target.Alike names target') (start stop : Nat) :
    (Place.mk current position cursor).delegate nested target start stop =
      (Place.mk current' position cursor).delegate nested' target' start stop := by
  unfold delegate
  rw [alike _ _ (targets.resolve related)]
  rfl

/-- The span of a group. -/
theorem group_alike (related : names current current') (alike : nested.Alike names nested')
    {action action' : GroupAction} (actions : action.Alike names action') (start stop : Nat) :
    (Place.mk current position cursor).group nested start stop action =
      (Place.mk current' position cursor).group nested' start stop action' := by
  cases actions with
  | token kind => rfl
  | delegate targets => exact delegate_alike related alike targets start stop

/-- The groups of a match. -/
theorem groups_alike (related : names current current') (alike : nested.Alike names nested')
    {actions actions' : List GroupAction}
    (likes : List.Forall₂ (GroupAction.Alike names) actions actions') (found : Pattern.Match)
    (index done : Nat) :
    (Place.mk current position cursor).groups nested found index done actions =
      (Place.mk current' position cursor).groups nested' found index done actions' := by
  induction likes generalizing index done with
  | nil => rfl
  | cons like _ ih =>
    unfold groups
    cases found.span? index with
    | none => exact ih (index + 1) done
    | some span =>
      dsimp only
      split
      · exact ih (index + 1) done
      · rw [group_alike related alike like, ih (index + 1) span.stop]
        rfl

/-- **Emitting.** Like actions make the same tokens. -/
theorem emit_alike (related : names current current') (alike : nested.Alike names nested')
    {action action' : Action} (actions : action.Alike names action') (found : Pattern.Match) :
    (Place.mk current position cursor).emit nested found action =
      (Place.mk current' position cursor).emit nested' found action' := by
  cases actions with
  | nothing => rfl
  | token kind => rfl
  | groups likes => exact groups_alike related alike likes found 1 0
  | delegate targets => exact delegate_alike related alike targets 0 found.length

end Place

/-! ## Steps and scans -/

/-- Of like rules, those at the same place match first. -/
theorem firstMatch?_alike (cursor : Cursor) {left right : List Rule}
    (rules : List.Forall₂ (Rule.Alike names) left right) :
    firstMatch? cursor left = none ∧ firstMatch? cursor right = none ∨
      ∃ rule rule' found, firstMatch? cursor left = some (rule, found) ∧
        firstMatch? cursor right = some (rule', found) ∧ rule.Alike names rule' := by
  induction rules with
  | nil => exact .inl ⟨rfl, rfl⟩
  | @cons rule rule' _ _ like _ ih =>
    unfold firstMatch?
    rw [← like.program]
    cases rule.program.match? cursor with
    | none => exact ih
    | some found => exact .inr ⟨rule, rule', found, rfl, rfl, like⟩

namespace Scan

/-- Scans at one place of one text, with related stacks. -/
structure Alike (names : String → String → Prop) (left right : Scan) : Prop where
  stack : left.stack.Alike names right.stack
  position : left.position = right.position
  cursor : left.cursor = right.cursor
  idle : left.idle = right.idle

variable {left right : Scan} {machine machine' : Machine} {nested nested' : Delegated}

/-- Such scans are finished at once. -/
theorem Alike.finished_eq (alike : left.Alike names right) : left.finished = right.finished := by
  rw [finished, finished, alike.cursor]

/-- Such scans go on alike. -/
theorem Alike.goOn (alike : left.Alike names right) (count : Nat) {stack stack' : Stack}
    (moved : stack.Alike names stack') :
    (left.goOn count stack).Alike names (right.goOn count stack') where
  stack := moved
  position := by
    show left.position + left.cursor.bytesTo count = right.position + right.cursor.bytesTo count
    rw [alike.position, alike.cursor]
  cursor := congrArg (Cursor.advance · count) alike.cursor
  idle := rfl

/-- A character is refused alike. -/
theorem Alike.refuse (alike : left.Alike names right) :
    left.refuse.1 = right.refuse.1 ∧ left.refuse.2.Alike names right.refuse.2 := by
  refine ⟨?_, alike.goOn 1 alike.stack⟩
  rw [Scan.refuse, Scan.refuse, alike.position, alike.cursor]

/-- **One step.** Like machines make the same tokens and go on alike. -/
theorem Alike.step_alike (alike : left.Alike names right)
    (machines : machine.Alike names machine') (delegates : nested.Alike names nested') :
    (left.step nested machine).1 = (right.step nested' machine').1 ∧
      (left.step nested machine).2.Alike names (right.step nested' machine').2 := by
  have rules := machines _ _ alike.stack.top
  unfold step
  rw [← alike.cursor, ← alike.position, ← alike.idle]
  rcases firstMatch?_alike left.cursor rules with
    ⟨first, first'⟩ | ⟨rule, rule', found, first, first', like⟩
  · rw [first, first']
    exact alike.refuse
  · obtain ⟨changes, moved⟩ := alike.stack.move like.move
    simp only [first, first', ← changes]
    split
    · split
      · exact ⟨rfl, moved, rfl, rfl, rfl⟩
      · exact alike.refuse
    · exact ⟨Place.emit_alike alike.stack.top delegates like.action found,
        alike.goOn found.length moved⟩

/-- **Scanning.** Like machines make the same tokens all the way. -/
theorem Alike.drain_eq (alike : left.Alike names right)
    (machines : machine.Alike names machine') (delegates : nested.Alike names nested') :
    left.drain nested machine = right.drain nested' machine' := by
  fun_induction drain nested machine left generalizing right with
  | case1 left unfinished result =>
    rename_i ih
    obtain ⟨tokens, next⟩ := alike.step_alike machines delegates
    have unfinished' : right.finished = false := alike.finished_eq.symm.trans unfinished
    rw [drain.eq_def nested' machine' right, dif_pos unfinished', ih next]
    exact congrArg (· ++ _) tokens
  | case2 left finished =>
    rw [alike.finished_eq] at finished
    rw [drain.eq_def nested' machine' right, dif_neg finished]

end Scan

/-- **Nested scans.** Like machines make the same tokens of a span that is handed to related
states, however many levels there are left. -/
theorem delegated_alike {machine machine' : Machine} (machines : machine.Alike names machine')
    (levels : Nat) : (delegated machine levels).Alike names (delegated machine' levels) := by
  induction levels with
  | zero =>
    intro state state' _
    rfl
  | succ levels ih =>
    intro state state' related
    funext position cursor
    have starts : (Scan.start state position cursor).Alike names
        (Scan.start state' position cursor) := ⟨⟨related, .nil⟩, rfl, rfl, rfl⟩
    exact starts.drain_eq machines ih

end GrammarLexer
