import GrammarLexer.Proofs.Lexer.Resume
import GrammarLexer.Proofs.Machine.Specification
import Mathlib.Data.Set.Insert
import Mathlib.Logic.Relation

/-!
# Stacks along a history

Runs are started, called, saved and resumed in any order, over any texts and with any of some
lexers (`Desk.Step`). Whatever has gone before, the stack of a snapshot has the root as its floor,
and all its states are states of the lexer that its run uses (`stacks_rooted`). So a resumed run
has the stack that was saved, without the names that its lexer does not know: the root is always
left.

A stack never loses its floor, since a move puts a state on top or takes states away above the
floor (`Stack.floor_move`), and what a step keeps, a call keeps.
-/

namespace GrammarLexer

/-! ## The floor of a stack -/

namespace Stack

variable {stack : Stack}

theorem entries_push (stack : Stack) (state : String) :
    (stack.push state).entries = stack.entries ++ [state] := by
  simp only [push, entries, List.reverse_cons]

theorem entries_ne_nil (stack : Stack) : stack.entries ≠ [] := by
  simp [entries]

/-- A move leaves the floor where it is. -/
theorem floor_move (stack : Stack) (move : Move) :
    (stack.move move).2.entries.head? = stack.entries.head? := by
  cases move with
  | stay => rfl
  | push target =>
    show (stack.push _).entries.head? = _
    rw [entries_push, List.head?_append_of_ne_nil _ stack.entries_ne_nil]
  | pop depth =>
    -- however deep it goes, at least one entry is left
    show (popFrom stack.top stack.below depth).entries.head? = _
    rw [entries_popFrom, List.head?_take, if_neg]
    omega

end Stack

/-- A step leaves the floor where it is. -/
theorem Scan.floor_step (nested : Delegated) (machine : Machine) (scan : Scan) :
    (scan.step nested machine).2.stack.entries.head? = scan.stack.entries.head? := by
  rcases step_cases nested machine scan with
    step | ⟨rule, found, -, -, step⟩ | ⟨rule, found, -, -, step⟩
  · rw [step]
    rfl
  · rw [step]
    exact scan.stack.floor_move rule.move
  · rw [step]
    exact scan.stack.floor_move rule.move

/-! ## Runs -/

/-- Names of states of a lexer, the floor first, which is the root. -/
structure Lexer.Holds (lexer : Lexer) (names : List String) : Prop where
  floor : names.head? = some rootState
  known : ∀ name ∈ names, name ∈ lexer.machine.stateNames

namespace Lexer

variable {lexer : Lexer} {names : List String}

/-- Another lexer that has the root holds what is left of them. -/
theorem Holds.filter {other : Lexer} (holds : other.Holds names)
    (root : rootState ∈ lexer.machine.stateNames) :
    lexer.Holds (names.filter lexer.machine.knows) := by
  obtain ⟨above, rfl⟩ := List.head?_eq_some_iff.1 holds.floor
  constructor
  · rw [List.filter_cons_of_pos (Machine.knows_iff.2 root), List.head?_cons]
  · intro name member
    exact Machine.knows_iff.1 (List.mem_filter.1 member).2

/-- A fresh run stands on the root. -/
theorem floor_start (lexer : Lexer) (text : String) (options : Options) :
    (lexer.start text options).scan.stack.entries.head? = some rootState := by
  show (lexer.startStack options.state).entries.head? = some rootState
  -- a state that is not known is not put on top
  unfold startStack
  split
  · rfl
  · split
    · rfl
    · rfl

/-- The stack of a resumed run is the one that was saved, without unknown names. -/
theorem stack_resume {other : Lexer} (holds : other.Holds names)
    (root : rootState ∈ lexer.machine.stateNames) (text : String) {snapshot : Snapshot}
    (saved : snapshot.stack = names) :
    (lexer.resume text snapshot).snapshot.stack = names.filter lexer.machine.knows := by
  have left := holds.filter root
  have filled : names.filter lexer.machine.knows ≠ [] := by
    intro empty
    have floor := left.floor
    rw [empty] at floor
    exact absurd floor (by simp)
  show (Stack.ofEntries rootState (snapshot.stack.filter lexer.machine.knows)).entries = _
  rw [saved, Stack.entries_ofEntries rootState filled]

end Lexer

/-- A run of a lexer whose stack is held by it. -/
structure Run.HeldBy (lexer : Lexer) (run : Run) : Prop where
  machine : run.machine = lexer.machine
  stack : lexer.Holds run.snapshot.stack

/-- **One call.** A run keeps to the states of its lexer, and stays on the root. -/
theorem Run.HeldBy.next {lexer : Lexer} {run : Run} (held : run.HeldBy lexer)
    (closed : lexer.machine.Closed) : run.next.2.HeldBy lexer := by
  refine ⟨run.next_frame.1.trans held.machine, ?_, ?_⟩
  · have step : ∀ scan : Scan, scan.finished = false →
        scan.stack.entries.head? = some rootState →
        (scan.advance run.machine).2.stack.entries.head? = some rootState := by
      intro scan _ floor
      rw [Scan.advance, Scan.floor_step, floor]
    exact next_scan (·.stack.entries.head? = some rootState) step held.stack.floor
  · have step : ∀ scan : Scan, scan.finished = false → scan.stack.KnownTo lexer.machine →
        (scan.advance run.machine).2.stack.KnownTo lexer.machine := by
      intro scan _ known
      rw [held.machine]
      exact scan.step_knownTo closed _ known
    exact next_scan (·.stack.KnownTo lexer.machine) step held.stack.known

/-! ## Histories -/

/-- What a history has led to: the runs under way, each with the lexer that it uses, and the
snapshots that have been saved, each with the lexer of the run it was taken from. -/
structure Desk where
  runs : List (Lexer × Run)
  saved : List (Lexer × Snapshot)

namespace Desk

/-- Nothing has happened. -/
def empty : Desk := ⟨[], []⟩

/-- One event: a run is started, called, or saved, or a saved snapshot is resumed, with any of the
lexers and over any text. -/
inductive Step (lexers : Set Lexer) : Desk → Desk → Prop
  | start {desk : Desk} {lexer : Lexer} (member : lexer ∈ lexers) (text : String)
      (options : Options) :
      Step lexers desk { desk with runs := (lexer, lexer.start text options) :: desk.runs }
  | next {front back : List (Lexer × Run)} {saved : List (Lexer × Snapshot)} {lexer : Lexer}
      {run : Run} :
      Step lexers ⟨front ++ (lexer, run) :: back, saved⟩
        ⟨front ++ (lexer, run.next.2) :: back, saved⟩
  | save {desk : Desk} {lexer : Lexer} {run : Run} (member : (lexer, run) ∈ desk.runs) :
      Step lexers desk { desk with saved := (lexer, run.snapshot) :: desk.saved }
  | resume {desk : Desk} {lexer origin : Lexer} {snapshot : Snapshot}
      (saved : (origin, snapshot) ∈ desk.saved) (member : lexer ∈ lexers) (text : String) :
      Step lexers desk { desk with runs := (lexer, lexer.resume text snapshot) :: desk.runs }

/-- All runs are held by their lexers, and so are the stacks of all snapshots. -/
structure Rooted (lexers : Set Lexer) (desk : Desk) : Prop where
  runs : ∀ lexer run, (lexer, run) ∈ desk.runs → lexer ∈ lexers ∧ run.HeldBy lexer
  saved : ∀ lexer snapshot, (lexer, snapshot) ∈ desk.saved →
    lexer ∈ lexers ∧ lexer.Holds snapshot.stack

variable {lexers : Set Lexer} {desk desk' : Desk}

/-- Another run may come up, if it is held by its lexer. -/
theorem Rooted.begin (rooted : desk.Rooted lexers) {lexer : Lexer} {run : Run}
    (member : lexer ∈ lexers) (held : run.HeldBy lexer) :
    Rooted lexers { desk with runs := (lexer, run) :: desk.runs } := by
  refine ⟨?_, rooted.saved⟩
  intro lexer' run' among
  rcases List.mem_cons.1 among with here | among
  · obtain ⟨rfl, rfl⟩ := Prod.mk.inj here
    exact ⟨member, held⟩
  · exact rooted.runs lexer' run' among

/-- **One event.** Whatever happens next, the stacks stay as they should be. -/
theorem Rooted.step (rooted : desk.Rooted lexers)
    (closed : ∀ lexer ∈ lexers, lexer.machine.Closed) (step : Step lexers desk desk') :
    desk'.Rooted lexers := by
  cases step with
  | start member text options =>
    rename_i lexer
    have resumable := @Lexer.resumable_start lexer text (closed lexer member) options
    exact rooted.begin member
      ⟨resumable.machine, lexer.floor_start text options, resumable.known⟩
  | next =>
    rename_i front back saved lexer run
    obtain ⟨member, held⟩ := rooted.runs lexer run
      (List.mem_append_right front List.mem_cons_self)
    refine ⟨?_, rooted.saved⟩
    -- the run that is called, and those that stay as they are
    intro lexer' run' among
    rcases List.mem_append.1 among with before | among
    · exact rooted.runs lexer' run' (List.mem_append_left _ before)
    · rcases List.mem_cons.1 among with here | after
      · obtain ⟨rfl, rfl⟩ := Prod.mk.inj here
        exact ⟨member, held.next (closed lexer' member)⟩
      · exact rooted.runs lexer' run'
          (List.mem_append_right front (List.mem_cons_of_mem _ after))
  | save member =>
    rename_i lexer run
    obtain ⟨known, held⟩ := rooted.runs lexer run member
    refine ⟨rooted.runs, ?_⟩
    intro lexer' snapshot among
    rcases List.mem_cons.1 among with here | among
    · obtain ⟨rfl, rfl⟩ := Prod.mk.inj here
      exact ⟨known, held.stack⟩
    · exact rooted.saved lexer' snapshot among
  | resume saved member text =>
    rename_i lexer origin snapshot
    -- the names may come from another lexer; the root is the one that both know
    have holds := (rooted.saved origin snapshot saved).2
    have root := (closed lexer member).root
    refine rooted.begin member ⟨rfl, ?_⟩
    rw [Lexer.stack_resume holds root text rfl]
    exact holds.filter root

/-- The same for a whole history. -/
theorem Rooted.history (closed : ∀ lexer ∈ lexers, lexer.machine.Closed)
    (history : Relation.ReflTransGen (Step lexers) empty desk) : desk.Rooted lexers := by
  induction history with
  | refl =>
    refine ⟨?_, ?_⟩
    · intro lexer run among
      exact absurd among List.not_mem_nil
    · intro lexer snapshot among
      exact absurd among List.not_mem_nil
  | tail _ step ih => exact ih.step closed step

/-- **Stacks.** After any history with some lexers, the stack of each run under way, and of each
snapshot that has been saved, has the root as its floor, and its states are states of the lexer
that the run uses. A saved snapshot can be resumed with any of the lexers over any text: right
after, the stack is the one that was saved, without the names that the lexer does not know. -/
theorem stacks_rooted (built : ∀ lexer ∈ lexers, ∃ grammar, Lexer.ofGrammar grammar = .ok lexer)
    (history : Relation.ReflTransGen (Step lexers) empty desk) :
    desk.Rooted lexers ∧
      ∀ origin snapshot, (origin, snapshot) ∈ desk.saved → ∀ lexer ∈ lexers, ∀ text,
        (lexer.resume text snapshot).snapshot.stack =
          snapshot.stack.filter lexer.machine.knows := by
  have closed : ∀ lexer ∈ lexers, lexer.machine.Closed := by
    intro lexer member
    obtain ⟨grammar, built⟩ := built lexer member
    exact Lexer.closed_of_ofGrammar built
  have rooted := Rooted.history closed history
  refine ⟨rooted, ?_⟩
  intro origin snapshot among lexer member text
  exact Lexer.stack_resume (rooted.saved origin snapshot among).2 (closed lexer member).root
    text rfl

/-- A quotation that is saved after one call, and gone on from with a lexer that does not know
the state within quotations. -/
theorem stacks_rooted_quotations : ∃ lexer other run snapshot desk,
    Lexer.ofGrammar .quotations = .ok lexer ∧ Lexer.ofGrammar .brackets = .ok other ∧
      run = (lexer.start "a'b" ⟨false, some "quoted"⟩).next.2 ∧ snapshot = run.snapshot ∧
      desk = ⟨[(other, other.resume "(c)" snapshot), (lexer, run)], [(lexer, snapshot)]⟩ ∧
      Relation.ReflTransGen (Step {lexer, other}) empty desk ∧
      desk.Rooted {lexer, other} ∧
      (other.resume "(c)" snapshot).snapshot.stack =
        snapshot.stack.filter other.machine.knows := by
  obtain ⟨lexer, built⟩ := Lexer.exists_quotations
  obtain ⟨machine, made⟩ := Grammar.exists_brackets
  let other : Lexer := ⟨Grammar.brackets.config, machine⟩
  have built' : Lexer.ofGrammar .brackets = .ok other := map_eq_ok.2 ⟨machine, made, rfl⟩
  have all : ∀ one ∈ ({lexer, other} : Set Lexer), ∃ grammar, Lexer.ofGrammar grammar = .ok one := by
    rintro one (rfl | rfl)
    · exact ⟨_, built⟩
    · exact ⟨_, built'⟩
  have first : lexer ∈ ({lexer, other} : Set Lexer) := .inl rfl
  have second : other ∈ ({lexer, other} : Set Lexer) := .inr rfl
  -- the state within quotations is unknown to the other lexer, and only the root is left
  have started := Relation.ReflTransGen.single
    (@Step.start _ empty lexer first "a'b" ⟨false, some "quoted"⟩)
  have called := started.tail (@Step.next _ [] [] _ _ _)
  have saved := called.tail (Step.save List.mem_cons_self)
  have resumed := saved.tail (Step.resume List.mem_cons_self second "(c)")
  refine ⟨lexer, other, _, _, _, built, built', rfl, rfl, rfl, resumed,
    (stacks_rooted all resumed).1, ?_⟩
  exact (stacks_rooted all resumed).2 _ _ List.mem_cons_self other second "(c)"

end Desk

end GrammarLexer
