import GrammarLexer.Proofs.Lexer.Likeness

/-!
# Machines that agree

Two machines agree if, wherever a scan may stand, the first rule that matches in the one matches the
same text as that in the other, and the two emit the same and move alike (`Machine.Agrees`). They
need not have as many rules, nor rules that act in the same way elsewhere. A step cannot tell such
machines apart (`Scan.step_agrees`), nor can nested scans (`delegated_agrees`), so a run goes on
over either of them as over the other (`Run.next_withMachine`).
-/

namespace GrammarLexer

open Text

/-- Rules that emit the same for a match, and move alike. -/
structure Rule.Agrees (left right : Rule) : Prop where
  emit : ∀ (place : Place) (nested : Delegated) (found : Pattern.Match),
    place.emit nested found left.action = place.emit nested found right.action
  move : left.move = right.move

/-- Rules whose first ones to match agree and match the same text, or of which none matches. -/
def Rule.AgreeAt (cursor : Cursor) (left right : List Rule) : Prop :=
  Option.Rel (fun first first' => first.1.Agrees first'.1 ∧ first.2 = first'.2)
    (firstMatch? cursor left) (firstMatch? cursor right)

/-- Machines whose rules agree wherever a scan stands, in any state. -/
def Machine.Agrees (left right : Machine) : Prop :=
  ∀ name cursor, Rule.AgreeAt cursor (left.rulesOf name) (right.rulesOf name)

namespace Rule

variable {cursor : Cursor} {left right : List Rule}

theorem Agrees.refl (rule : Rule) : rule.Agrees rule := ⟨fun _ _ _ => rfl, rfl⟩

/-- Rules agree if the very same one is the first to match. -/
theorem agreeAt_of_eq (same : firstMatch? cursor left = firstMatch? cursor right) :
    AgreeAt cursor left right := by
  rw [AgreeAt, ← same]
  cases firstMatch? cursor left with
  | none => exact .none
  | some first => exact .some ⟨.refl first.1, rfl⟩

/-- Rules agree if they have the same programs and agree one by one. -/
theorem agreeAt_of_forall₂ (rules : List.Forall₂
    (fun rule rule' => rule.program = rule'.program ∧ rule.Agrees rule') left right) :
    AgreeAt cursor left right := by
  induction rules with
  | nil => exact .none
  | @cons rule rule' _ _ here _ ih =>
    obtain ⟨program, agrees⟩ := here
    rw [AgreeAt, firstMatch?, firstMatch?, ← program]
    cases rule.program.match? cursor with
    | none => exact ih
    | some found => exact .some ⟨agrees, rfl⟩

end Rule

/-! ## Steps and scans -/

section Agrees

variable {left right : Machine} (agrees : left.Agrees right)
include agrees

/-- **One step.** It is the same over machines that agree. -/
theorem Scan.step_agrees (nested : Delegated) (scan : Scan) :
    scan.step nested left = scan.step nested right := by
  unfold step
  have same := agrees scan.stack.top scan.cursor
  rw [Rule.AgreeAt] at same
  generalize firstMatch? scan.cursor (left.rulesOf scan.stack.top) = first at same ⊢
  generalize firstMatch? scan.cursor (right.rulesOf scan.stack.top) = first' at same ⊢
  cases same with
  | none => rfl
  | @some first first' same =>
    obtain ⟨rule, found⟩ := first
    obtain ⟨rule', found'⟩ := first'
    obtain ⟨rules, rfl⟩ : rule.Agrees rule' ∧ found = found' := same
    simp only [rules.move, rules.emit]

theorem Scan.drain_agrees (nested : Delegated) (scan : Scan) :
    scan.drain nested left = scan.drain nested right := by
  fun_induction drain nested left scan with
  | case1 scan unfinished result ih =>
    rw [drain.eq_def nested right scan, dif_pos unfinished, ← Scan.step_agrees agrees]
    exact congrArg (result.1 ++ ·) ih
  | case2 scan finished => rw [drain.eq_def nested right scan, dif_neg finished]

/-- **Nested scans.** They are the same, however many levels there are left. -/
theorem delegated_agrees (levels : Nat) : delegated left levels = delegated right levels := by
  induction levels with
  | zero => rfl
  | succ levels ih =>
    funext state position cursor
    rw [delegated, delegated, ih, Scan.drain_agrees agrees]

theorem Scan.advance_agrees (scan : Scan) : scan.advance left = scan.advance right := by
  rw [advance, advance, delegated_agrees agrees, Scan.step_agrees agrees]

end Agrees

/-! ## Runs -/

namespace Run

/-- The run with another machine. -/
def withMachine (run : Run) (machine : Machine) : Run := { run with machine := machine }

variable {run : Run} {machine : Machine}

theorem advance_withMachine (agrees : run.machine.Agrees machine) :
    (run.withMachine machine).advance = run.advance.withMachine machine := by
  have same : run.scan.advance machine = run.scan.advance run.machine :=
    (Scan.advance_agrees agrees run.scan).symm
  simp only [advance, withMachine, same]

/-- **One call.** It hands out the same token over a machine that agrees, and leaves the same run
but for the machine. -/
theorem next_withMachine (agrees : run.machine.Agrees machine) :
    (run.withMachine machine).next = (run.next.1, run.next.2.withMachine machine) := by
  fun_induction Run.next run with
  | case1 run token buffer polled =>
    have polled' : (run.withMachine machine).buffer.poll = (some token, buffer) := polled
    rw [Run.next.eq_def, polled']
    rfl
  | case2 run buffer polled unfinished ih =>
    have polled' : (run.withMachine machine).buffer.poll = (none, buffer) := polled
    have unfinished' : (run.withMachine machine).scan.finished = false := unfinished
    have goesOn : (run.withMachine machine).next =
        ((run.withBuffer buffer).withMachine machine).advance.next := by
      rw [Run.next.eq_def, polled']
      exact dif_pos unfinished'
    have agrees' : (run.withBuffer buffer).machine.Agrees machine := agrees
    rw [goesOn, advance_withMachine agrees', ih agrees]
  | case3 run buffer polled finished flushed =>
    have polled' : (run.withMachine machine).buffer.poll = (none, buffer) := polled
    have finished' : ¬ (run.withMachine machine).scan.finished = false := finished
    rw [Run.next.eq_def, polled']
    exact dif_neg finished'

theorem after_frame (run : Run) (count : Nat) : (run.after count).machine = run.machine := by
  induction count with
  | zero => rfl
  | succ count ih => exact (run.after count).next_frame.1.trans ih

theorem after_withMachine (agrees : run.machine.Agrees machine) (count : Nat) :
    (run.withMachine machine).after count = (run.after count).withMachine machine := by
  induction count with
  | zero => rfl
  | succ count ih =>
    have agrees' : (run.after count).machine.Agrees machine := by
      rw [after_frame]
      exact agrees
    rw [after, after, ih, next_withMachine agrees']

/-- **All tokens.** They are the same over a machine that agrees. -/
theorem drain_withMachine (agrees : run.machine.Agrees machine) :
    (run.withMachine machine).drain.1 = run.drain.1 := by
  fun_induction Run.drain run with
  | case1 run ended next =>
    have next' : (run.withMachine machine).next = (none, ended.withMachine machine) := by
      rw [next_withMachine agrees, next]
    rw [Run.drain.eq_def]
    split
    · rfl
    · rename_i some
      exact nomatch next'.symm.trans some
  | case2 run token rest next more ih =>
    have next' : (run.withMachine machine).next = (some token, rest.withMachine machine) := by
      rw [next_withMachine agrees, next]
    have agrees' : rest.machine.Agrees machine := by
      have kept : rest.machine = run.machine := by
        have frame := run.next_frame.1
        rwa [next] at frame
      rw [kept]
      exact agrees
    rw [Run.drain.eq_def]
    split
    · rename_i none
      exact nomatch next'.symm.trans none
    · rename_i some
      cases next'.symm.trans some
      exact congrArg (token :: ·) (ih agrees')

end Run

namespace Lexer

/-- True if two lexers make the same tokens of every text, and the snapshots of their runs are the
same after any number of calls. -/
def RunsLike (lexer lexer' : Lexer) : Prop :=
  ∀ (text : String) (options : Options),
    lexer.tokens text options = lexer'.tokens text options ∧
      ∀ count, ((lexer.start text options).after count).snapshot =
        ((lexer'.start text options).after count).snapshot

variable {lexer lexer' : Lexer}

theorem startStack_congr
    (known : ∀ name, lexer.machine.knows name = lexer'.machine.knows name) :
    lexer.startStack = lexer'.startStack := by
  funext state
  unfold startStack
  cases state with
  | none => rfl
  | some name => simp only [known name]

/-- **Agreement.** Lexers that know the same states run alike if their machines agree. -/
theorem runsLike_of_agrees
    (known : ∀ name, lexer.machine.knows name = lexer'.machine.knows name)
    (agrees : lexer.machine.Agrees lexer'.machine) : lexer.RunsLike lexer' := by
  intro text options
  have begins : lexer'.start text options =
      (lexer.start text options).withMachine lexer'.machine := by
    rw [start, start, startStack_congr known]
    rfl
  have agrees' : (lexer.start text options).machine.Agrees lexer'.machine := agrees
  refine ⟨?_, fun count => ?_⟩
  · rw [tokens, tokens, begins, Run.drain_withMachine agrees']
  · rw [begins, Run.after_withMachine agrees']
    rfl

end Lexer

end GrammarLexer
