import GrammarLexer.Proofs.Machine.Tabulation
import GrammarLexer.Proofs.Scan.Nesting

/-!
# How long sessions take

A session makes at most `maxIdle + 1` steps for each byte of its span, at most `maxIdle` of them
without taking text at any one place, and sessions are nested no deeper than `maxNesting`
(`sessions_end`). Stages of a run are counted by a bound on the outermost session that each step
of it lowers and that nothing else changes (`Runs.countP_le`).

What a tick can do is said once, by `changes_of_tick`.
-/

namespace GrammarLexer

open Text

namespace Table

/-! ## What a step changes -/

namespace Session

/-- True if a session has neither a piece to emit nor a token to hand on, but text before it. -/
def due (session : Session) : Bool :=
  decide (session.pieces = [] ∧ session.queue = [] ∧ session.position < session.stop)

/-- A session that stands where another does. -/
structure Stays (session after : Session) : Prop where
  position : after.position = session.position
  stop : after.stop = session.stop
  idle : after.idle = session.idle
  depth : after.depth = session.depth

/-- A session after a step: it stays and is idle once more, which it may be so often, or else it
goes on. -/
structure Advances (session after : Session) : Prop where
  stop : after.stop = session.stop
  depth : after.depth = session.depth
  further : after.position = session.position ∧ session.idle < maxIdle ∧
      after.idle = session.idle + 1 ∨
    session.position < after.position ∧ after.idle = 0

variable {table : Table} {text : List Char} {session after : Session}

theorem Stays.refl (session : Session) : session.Stays session := ⟨rfl, rfl, rfl, rfl⟩

/-- Emitting and handing on leaves a session where it is. -/
theorem stays_with (session : Session) (pieces : List Piece) (queue : List Token) :
    session.Stays { session with pieces, queue } := ⟨rfl, rfl, rfl, rfl⟩

/-- A character that is refused has some length. -/
theorem advances_refuse (refuse : session.refuse text = .ok after) : session.Advances after := by
  obtain ⟨rest, -, refused⟩ := bind_eq_ok.1 refuse
  cases refused
  refine ⟨rfl, rfl, .inr ⟨?_, rfl⟩⟩
  cases rest with
  | nil => exact Nat.lt_succ_self _
  | cons c cs => exact Nat.lt_add_of_pos_right (Char.utf8Size_pos c)

theorem advances_act {current : Nat} {cursor : Cursor} {first : Option (Rule × Pattern.Match)}
    (act : session.act text current cursor first = .ok after) : session.Advances after := by
  cases first with
  | none => exact advances_refuse act
  | some result =>
    obtain ⟨rule, found⟩ := result
    unfold Session.act at act
    dsimp only at act
    split at act
    · split at act
      · rename_i spare
        obtain ⟨⟨changed, stack⟩, -, act⟩ := bind_eq_ok.1 act
        dsimp only at act
        split at act
        · cases act
          exact ⟨rfl, rfl, .inl ⟨rfl, spare, rfl⟩⟩
        · exact advances_refuse act
      · exact advances_refuse act
    · rename_i moved
      obtain ⟨⟨changed, stack⟩, -, act⟩ := bind_eq_ok.1 act
      cases act
      refine ⟨rfl, rfl, .inr ⟨?_, rfl⟩⟩
      exact Nat.lt_of_le_of_ne (Nat.le_add_right _ _) (Ne.symm moved)

/-- **One step.** It makes a session go on, or idle once more. -/
theorem advances_step (step : session.step table text = .ok after) : session.Advances after := by
  obtain ⟨_, -, step⟩ := bind_eq_ok.1 step
  obtain ⟨_, -, step⟩ := bind_eq_ok.1 step
  obtain ⟨_, -, act⟩ := bind_eq_ok.1 step
  exact advances_act act

end Session

/-! ## What a tick changes -/

namespace Nest

/-- The outermost session. -/
def outermost (nest : Nest) : Session := nest.outer.getLastD nest.inner

/-- True if the next tick is a step of the outermost session. -/
def steps (nest : Nest) : Bool := nest.outer.isEmpty && nest.inner.due

/-- True if it is a step that makes a move and leaves the session at an offset of the text. -/
def idles (table : Table) (text : List Char) (position : Nat) (nest : Nest) : Bool :=
  nest.steps && nest.inner.position == position &&
    (nest.inner.step table text).toOption.any (·.position == position)

/-- What a tick can do, if it is not the last one: the innermost session stays, and it may have
opened another one, or handed a token to the one around it; or it makes a step; or it is left. -/
inductive Changes (table : Table) (text : List Char) : Nest → Nest → Prop
  | stays {inner after : Session} {outer : List Session} (busy : inner.due = false)
      (stays : inner.Stays after) : Changes table text ⟨inner, outer⟩ ⟨after, outer⟩
  | opens {inner after : Session} {outer : List Session} (busy : inner.due = false)
      (stays : inner.Stays after) (shallow : inner.depth < maxNesting) (state start stop : Nat) :
      Changes table text ⟨inner, outer⟩
        ⟨.ofSpan [state] start stop (inner.depth + 1), after :: outer⟩
  | passes {inner after parent : Session} {others : List Session} (stays : inner.Stays after)
      (token : Token) :
      Changes table text ⟨inner, parent :: others⟩ ⟨after, parent.enqueue [token] :: others⟩
  | steps {inner after : Session} {outer : List Session} (due : inner.due = true)
      (step : inner.step table text = .ok after) :
      Changes table text ⟨inner, outer⟩ ⟨after, outer⟩
  | leaves {inner parent : Session} {others : List Session} :
      Changes table text ⟨inner, parent :: others⟩ ⟨parent, others⟩

/-- The sessions that go on after a tick. -/
def Outcome.next? : Outcome → Option Nest
  | .goes next => some next
  | .hands _ next => some next
  | .ended => none

variable {table : Table} {text : List Char} {nest next : Nest}

theorem changes_of_tick {outcome : Outcome} (tick : nest.tick table text = .ok outcome)
    (goes : outcome.next? = some next) : nest.Changes table text next := by
  obtain ⟨inner, outer⟩ := nest
  unfold Nest.tick at tick
  cases pieces : inner.pieces with
  | cons piece rest =>
    have busy : inner.due = false := by simp [Session.due, pieces]
    rw [pieces] at tick
    cases tick
    cases goes
    cases piece with
    | token kind start stop => exact .stays busy (inner.stays_with _ _)
    | nested state start stop =>
      unfold emit
      dsimp only
      split
      · rename_i shallow
        exact .opens busy (inner.stays_with rest inner.queue) shallow state start stop
      · exact .stays busy (inner.stays_with _ _)
  | nil =>
    cases waiting : inner.queue with
    | cons token queue =>
      have busy : inner.due = false := by simp [Session.due, waiting]
      simp only [pieces, waiting] at tick
      cases tick
      cases outer with
      | nil =>
        cases goes
        exact .stays busy (inner.stays_with [] queue)
      | cons parent others =>
        cases goes
        exact .passes (inner.stays_with [] queue) token
    | nil =>
      simp only [pieces, waiting] at tick
      split at tick
      · rename_i unfinished
        have due : inner.due = true := by simp [Session.due, pieces, waiting, unfinished]
        obtain ⟨after, step, rfl⟩ := map_eq_ok.1 tick
        cases goes
        exact .steps due step
      · cases tick
        cases outer with
        | nil => exact nomatch goes
        | cons parent others =>
          cases goes
          exact .leaves

/-- At the end no session is due for a step. -/
theorem steps_of_ended (tick : nest.tick table text = .ok .ended) : nest.steps = false := by
  by_contra steps
  simp only [Nest.steps, Session.due, Bool.not_eq_false, Bool.and_eq_true, decide_eq_true_eq]
    at steps
  obtain ⟨-, pieces, queue, unfinished⟩ := steps
  simp only [Nest.tick, pieces, queue, if_pos unfinished] at tick
  obtain ⟨after, -, goes⟩ := map_eq_ok.1 tick
  cases goes

@[simp] theorem outermost_cons (inner parent : Session) (others : List Session) :
    outermost ⟨inner, parent :: others⟩ = outermost ⟨parent, others⟩ :=
  List.getLastD_cons

/-- The outermost session stays if the innermost one does. -/
theorem stays_outermost {inner after : Session} (stays : inner.Stays after)
    (outer : List Session) : (outermost ⟨inner, outer⟩).Stays (outermost ⟨after, outer⟩) := by
  cases outer with
  | nil => exact stays
  | cons parent others =>
    rw [outermost_cons, outermost_cons]
    exact .refl _

/-- What a tick does to the outermost session: a step of it, or nothing. -/
theorem Changes.outermost (changes : nest.Changes table text next) :
    (nest.steps = true ∧ nest.outermost.step table text = .ok next.outermost) ∨
      nest.steps = false ∧ nest.outermost.Stays next.outermost := by
  cases changes with
  | stays busy stays =>
    refine .inr ⟨?_, stays_outermost stays _⟩
    simp [Nest.steps, busy]
  | opens busy stays _ state start stop =>
    rw [outermost_cons]
    refine .inr ⟨?_, stays_outermost stays _⟩
    simp [Nest.steps, busy]
  | @passes inner after parent others stays token =>
    rw [outermost_cons, outermost_cons]
    exact .inr ⟨rfl, stays_outermost (parent.stays_with _ _) others⟩
  | @steps inner after outer due step =>
    cases outer with
    | nil => exact .inl ⟨due, step⟩
    | cons parent others =>
      rw [outermost_cons, outermost_cons]
      exact .inr ⟨rfl, .refl _⟩
  | leaves =>
    rw [outermost_cons]
    exact .inr ⟨rfl, .refl _⟩

end Nest

/-! ## Depth -/

/-- Sessions, each of them as deep below a depth as there are sessions around it. -/
def Leveled (depth : Nat) : List Session → Prop
  | [] => True
  | session :: outer =>
    session.depth = depth + outer.length ∧ session.depth ≤ maxNesting ∧ Leveled depth outer

theorem Leveled.of_eq {depth : Nat} {session after : Session} {outer : List Session}
    (leveled : Leveled depth (session :: outer)) (same : after.depth = session.depth) :
    Leveled depth (after :: outer) := by
  obtain ⟨level, le, others⟩ := leveled
  refine ⟨same.trans level, ?_, others⟩
  rw [same]
  exact le

namespace Nest

variable {table : Table} {text : List Char} {nest next : Nest} {depth : Nat}

/-- A tick opens no session that would be too deep. -/
theorem Changes.leveled (changes : nest.Changes table text next)
    (leveled : Leveled depth (nest.inner :: nest.outer)) :
    Leveled depth (next.inner :: next.outer) := by
  cases changes with
  | stays _ stays => exact leveled.of_eq stays.depth
  | opens _ stays shallow state start stop =>
    exact ⟨congrArg (· + 1) leveled.1, shallow, leveled.of_eq stays.depth⟩
  | passes stays token =>
    have parent := leveled.2.2.of_eq rfl
    exact ⟨stays.depth.trans leveled.1, stays.depth ▸ leveled.2.1, parent⟩
  | steps _ step => exact leveled.of_eq (Session.advances_step step).depth
  | leaves => exact leveled.2.2

/-- What ticks keep holds at all stages of a run. -/
theorem Runs.forall_of_changes {kept : Nest → Prop} {passed : List Nest} {tokens : List Token}
    (keeps : ∀ {nest next : Nest}, nest.Changes table text next → kept nest → kept next)
    (runs : nest.Runs table text passed tokens) (first : kept nest) :
    ∀ stage ∈ passed, kept stage := by
  induction runs with
  | ended =>
    intro stage member
    obtain rfl := List.mem_singleton.1 member
    exact first
  | goes tick _ ih =>
    exact List.forall_mem_cons.2 ⟨first, ih (keeps (changes_of_tick tick rfl) first)⟩
  | hands tick _ ih =>
    exact List.forall_mem_cons.2 ⟨first, ih (keeps (changes_of_tick tick rfl) first)⟩

/-- **Depth.** Sessions are as deep as there are sessions around them, and never too deep. -/
theorem Runs.depth_le {passed : List Nest} {tokens : List Token}
    (runs : nest.Runs table text passed tokens)
    (leveled : Leveled depth (nest.inner :: nest.outer)) :
    ∀ stage ∈ passed, stage.inner.depth = depth + stage.outer.length ∧
      stage.inner.depth ≤ maxNesting := by
  intro stage member
  have here := runs.forall_of_changes Changes.leveled leveled stage member
  exact ⟨here.1, here.2.1⟩

end Nest

/-! ## Counting steps -/

/-- A bound on the outermost session that its steps lower: by one at least if they count, and
nothing else counts. -/
structure Lowers (table : Table) (text : List Char) (counts : Nest → Bool)
    (bound : Session → Nat) : Prop where
  stays : ∀ {session after : Session}, session.Stays after → bound after = bound session
  only : ∀ {nest : Nest}, counts nest = true → nest.steps = true
  step : ∀ {nest : Nest} {after : Session}, nest.steps = true → nest.outermost.idle ≤ maxIdle →
    nest.outermost.step table text = .ok after →
      bound after + (counts nest).toNat ≤ bound nest.outermost

theorem Lowers.uncounted {table : Table} {text : List Char} {counts : Nest → Bool}
    {bound : Session → Nat} (lowers : Lowers table text counts bound) {nest : Nest}
    (busy : nest.steps = false) : counts nest = false := by
  rw [← Bool.not_eq_true] at busy ⊢
  exact fun counted => busy (lowers.only counted)

namespace Nest

variable {table : Table} {text : List Char} {nest next : Nest} {counts : Nest → Bool}
  {bound : Session → Nat}

/-- A stage that counts lowers the bound. -/
theorem Changes.countP_le {passed : List Nest} (changes : nest.Changes table text next)
    (lowers : Lowers table text counts bound) (idle : nest.outermost.idle ≤ maxIdle)
    (later : next.outermost.idle ≤ maxIdle → passed.countP counts ≤ bound next.outermost) :
    (nest :: passed).countP counts ≤ bound nest.outermost := by
  have counted : (if counts nest = true then 1 else 0) = (counts nest).toNat := by
    cases counts nest <;> rfl
  rw [List.countP_cons, counted]
  rcases changes.outermost with ⟨steps, step⟩ | ⟨busy, stays⟩
  · have lower := lowers.step steps idle step
    have idle' : next.outermost.idle ≤ maxIdle := by
      rcases (Session.advances_step step).further with ⟨-, spare, more⟩ | ⟨-, none⟩ <;> omega
    have others := later idle'
    omega
  · have others := later (stays.idle ▸ idle)
    rw [lowers.uncounted busy, ← lowers.stays stays]
    exact others

/-- **Counting.** The stages of a run that count are no more than the bound at its beginning. -/
theorem Runs.countP_le {passed : List Nest} {tokens : List Token}
    (runs : nest.Runs table text passed tokens) (lowers : Lowers table text counts bound)
    (idle : nest.outermost.idle ≤ maxIdle) : passed.countP counts ≤ bound nest.outermost := by
  induction runs with
  | ended tick => simp [lowers.uncounted (steps_of_ended tick)]
  | goes tick _ ih => exact (changes_of_tick tick rfl).countP_le lowers idle ih
  | hands tick _ ih => exact (changes_of_tick tick rfl).countP_le lowers idle ih

end Nest

/-! ## The bounds -/

/-- How many steps a session can still make. -/
def Session.budget (session : Session) : Nat :=
  (maxIdle + 1) * (session.stop - session.position) - session.idle

/-- How often a session can still be idle at an offset of the text. -/
def Session.spare (position : Nat) (session : Session) : Nat :=
  if session.position < position then maxIdle
  else if session.position = position then maxIdle - session.idle
  else 0

variable {table : Table} {text : List Char}

/-- A step of the outermost session is due. -/
theorem Nest.lt_of_steps {nest : Nest} (steps : nest.steps = true) :
    nest.outermost = nest.inner ∧ nest.outermost.position < nest.outermost.stop := by
  obtain ⟨inner, outer⟩ := nest
  simp only [Nest.steps, Session.due, Bool.and_eq_true, List.isEmpty_iff, decide_eq_true_eq]
    at steps
  obtain ⟨rfl, -, -, unfinished⟩ := steps
  exact ⟨rfl, unfinished⟩

/-- Every step lowers the budget. -/
theorem lowers_budget : Lowers table text Nest.steps Session.budget where
  stays stays := by
    unfold Session.budget
    rw [stays.stop, stays.position, stays.idle]
  only steps := steps
  step {nest after} steps idle step := by
    have ⟨stop, _, further⟩ := Session.advances_step step
    have unfinished := (Nest.lt_of_steps steps).2
    rw [steps]
    -- a byte that is taken is worth more than the idle steps that were made before it
    simp only [Session.budget, maxIdle, Bool.toNat_true, stop] at further idle ⊢
    omega

/-- Every move without text takes one of those allowed where the session stands. -/
theorem lowers_spare (position : Nat) :
    Lowers table text (Nest.idles table text position) (Session.spare position) where
  stays stays := by
    unfold Session.spare
    rw [stays.position, stays.idle]
  only idles := by
    simp only [Nest.idles, Bool.and_eq_true] at idles
    exact idles.1.1
  step {nest after} steps idle step := by
    have further := (Session.advances_step step).further
    have inner := (Nest.lt_of_steps steps).1
    have counted : Nest.idles table text position nest = true →
        nest.outermost.position = position ∧ after.position = position := by
      intro idles
      simp only [Nest.idles, Bool.and_eq_true, beq_iff_eq, ← inner, step] at idles
      exact ⟨idles.1.2, by simpa [Except.toOption] using idles.2⟩
    unfold Session.spare
    cases counts : Nest.idles table text position nest with
    | true =>
      obtain ⟨here, there⟩ := counted counts
      simp only [here, there, Nat.lt_irrefl, if_true, if_false, Bool.toNat_true]
      omega
    | false =>
      -- the session is somewhere else, or goes on and does not come back
      rw [Bool.toNat_false]
      split_ifs <;> omega

/-- The names on a stack of known states. -/
theorem exists_names {names : List String} {numbers : List Nat}
    (known : ∀ number ∈ numbers, number < names.length) :
    ∃ entries, List.Forall₂ (Numbers names) entries numbers := by
  induction numbers with
  | nil => exact ⟨[], .nil⟩
  | cons number numbers ih =>
    obtain ⟨lt, others⟩ := List.forall_mem_cons.1 known
    obtain ⟨entries, stack⟩ := ih others
    exact ⟨names[number] :: entries, .cons (List.getElem?_eq_getElem lt) stack⟩

/-- A new session over any span, on any stack, shows a scan. -/
theorem exists_shows {machine : Machine} (tabulates : table.Tabulates machine) {start stop : Nat}
    (first : IsBoundary text start) (last : IsBoundary text stop) (le : start ≤ stop)
    {stack : List Nat} (filled : stack ≠ [])
    (known : ∀ state ∈ stack, state < table.states.length) (depth : Nat) :
    ∃ scan, (Session.ofSpan stack start stop depth).Shows machine text scan := by
  have length : table.states.length = machine.stateNames.length := by
    rw [Machine.stateNames, List.length_map, tabulates.states.length_eq]
  rw [length] at known
  obtain ⟨entries, names⟩ := exists_names known
  obtain ⟨cursor, spans⟩ := Cursor.exists_spans first last le
  refine ⟨⟨.ofEntries rootState entries, start, cursor, 0⟩, ?_, rfl, spans, rfl⟩
  rw [Stack.entries_ofEntries]
  · exact names
  · rintro rfl
    exact filled (List.forall₂_nil_left_iff.1 names)

/-- **Sessions end.** A session over any span between two boundaries, on any stack and at any
depth, comes to its end, whatever the grammar. It makes at most `maxIdle + 1` steps for each byte
of the span, at most `maxIdle` of them without taking text where it stands, no session is nested
too deeply on the way, and the tokens are those of a scan. -/
theorem sessions_end {grammar : Grammar} {iteration : Iteration}
    (built : build iteration grammar = .ok table) {start stop : Nat}
    (first : IsBoundary text start) (last : IsBoundary text stop) (le : start ≤ stop)
    {stack : List Nat} (filled : stack ≠ [])
    (known : ∀ state ∈ stack, state < table.states.length) {depth : Nat}
    (shallow : depth ≤ maxNesting) :
    ∃ passed tokens, Nest.Runs table text ⟨.ofSpan stack start stop depth, []⟩ passed tokens ∧
      passed.countP Nest.steps ≤ (maxIdle + 1) * (stop - start) ∧
      (∀ position, passed.countP (Nest.idles table text position) ≤ maxIdle) ∧
      (∀ stage ∈ passed, stage.inner.depth = depth + stage.outer.length ∧
        stage.inner.depth ≤ maxNesting) ∧
      ∃ machine scan, grammar.build = .ok machine ∧
        (Session.ofSpan stack start stop depth).Shows machine text scan ∧
        tokens = scan.drain (delegated machine (maxNesting - depth)) machine := by
  obtain ⟨machine, made, tabulates⟩ := (build_agree iteration grammar).exists_ok_left built
  have distinct := (Grammar.specifies_of_build made).distinct
  obtain ⟨scan, shows⟩ := exists_shows tabulates first last le filled known depth
  have gives := shows.gives tabulates distinct rfl rfl (Nat.add_sub_cancel' shallow)
  obtain ⟨passed, runs⟩ := gives [] _ rfl
  refine ⟨passed, _, runs, ?_, ?_, ?_, machine, scan, made, shows, rfl⟩
  · exact runs.countP_le lowers_budget (Nat.zero_le _)
  · intro position
    refine Nat.le_trans (runs.countP_le (lowers_spare position) (Nat.zero_le _)) ?_
    unfold Session.spare
    split_ifs <;> omega
  · exact runs.depth_le ⟨rfl, shallow, trivial⟩

end Table

/-- A state that hands words to itself, and makes moves for ever where there is none. -/
def Grammar.runaway : Grammar where
  config := ⟨"runaway", [], [], [], .zero, ⟨false, false, false⟩⟩
  states := [
    ⟨"root", [
      ⟨"[a-z]+", none, none, none, none, none, none, some ⟨some "root"⟩⟩,
      ⟨"", none, some "aside", none, none, none, none, none⟩]⟩,
    ⟨"aside", [
      ⟨"", none, none, some 1, none, none, none, none⟩]⟩]

namespace Table

/-- A word that is handed on to the greatest depth, and a place where moves do not end. -/
theorem sessions_end_runaway : ∃ table,
    build ⟨id, fun _ => .refl _⟩ Grammar.runaway = .ok table ∧
      IsBoundary "ab 1".toList 0 ∧ IsBoundary "ab 1".toList 4 ∧
      (∀ state ∈ [1, 0], state < table.states.length) ∧
      ∃ passed tokens,
        Nest.Runs table "ab 1".toList ⟨.ofSpan [1, 0] 0 4 0, []⟩ passed tokens ∧
          passed.countP Nest.steps ≤ (maxIdle + 1) * (4 - 0) ∧
          (∀ position, passed.countP (Nest.idles table "ab 1".toList position) ≤ maxIdle) ∧
          (∀ stage ∈ passed, stage.inner.depth = 0 + stage.outer.length ∧
            stage.inner.depth ≤ maxNesting) ∧
          ∃ machine scan, Grammar.runaway.build = .ok machine ∧
            (Session.ofSpan [1, 0] 0 4 0).Shows machine "ab 1".toList scan ∧
            tokens = scan.drain (delegated machine (maxNesting - 0)) machine := by
  have builds : ∃ machine, Grammar.runaway.build = .ok machine :=
    exists_ok_of_isSome (by decide +kernel)
  obtain ⟨machine, made⟩ := builds
  obtain ⟨table, built, tabulates⟩ :=
    (build_agree ⟨id, fun _ => .refl _⟩ Grammar.runaway).exists_ok made
  have length : table.states.length = 2 := by
    have names := congrArg List.length (Grammar.specifies_of_build made).names
    rw [Machine.stateNames, List.length_map, List.length_map, tabulates.states.length_eq] at names
    rw [names]
    decide
  have first : IsBoundary "ab 1".toList 0 := ⟨[], _, rfl, rfl⟩
  have last : IsBoundary "ab 1".toList 4 := ⟨_, [], (List.append_nil _).symm, rfl⟩
  have known : ∀ state ∈ [1, 0], state < table.states.length := by
    rw [length]
    decide
  exact ⟨table, built, first, last, known, sessions_end built first last (by decide) (by decide)
    known (by decide)⟩

end Table

end GrammarLexer
