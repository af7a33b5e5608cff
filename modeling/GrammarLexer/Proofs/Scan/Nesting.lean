import GrammarLexer.Proofs.Scan.Session

/-!
# Sessions one within the other

Ticking comes to an end (`Nest.Runs`) with the tokens of the scan that the outermost session
shows (`Session.Shows.gives`). The induction is on the levels that are left: a session one level
further down is opened on a span that may be that of the session around it, so nothing but its
depth is nearer to a bound. Within one level it is on the scan.

A session is looked at together with whatever is around it (`Session.Gives`): it hands its
tokens to the session around it and is left, or hands them out.
-/

namespace GrammarLexer

open Text

namespace Table

/-- Ticking from some sessions to the end passes through some stages, the first and the last
among them, and hands out some tokens. -/
inductive Nest.Runs (table : Table) (text : List Char) : Nest → List Nest → List Token → Prop
  | ended {nest : Nest} (tick : nest.tick table text = .ok .ended) : Runs table text nest [nest] []
  | goes {nest next : Nest} {passed : List Nest} {tokens : List Token}
      (tick : nest.tick table text = .ok (.goes next)) (later : Runs table text next passed tokens) :
      Runs table text nest (nest :: passed) tokens
  | hands {nest next : Nest} {token : Token} {passed : List Nest} {tokens : List Token}
      (tick : nest.tick table text = .ok (.hands token next))
      (later : Runs table text next passed tokens) :
      Runs table text nest (nest :: passed) (token :: tokens)

/-- Ticking comes to an end with some tokens. -/
def Nest.Yields (table : Table) (text : List Char) (nest : Nest) (tokens : List Token) : Prop :=
  ∃ passed, nest.Runs table text passed tokens

/-- When a session with some tokens is left, the sessions around it come to a result. -/
def Closes (table : Table) (text : List Char) (tokens : List Token) :
    List Session → List Token → Prop
  | [], result => result = tokens
  | parent :: others, result => Nest.Yields table text ⟨parent.enqueue tokens, others⟩ result

/-- A session comes to an end with some tokens, whatever is around it. -/
def Session.Gives (table : Table) (text : List Char) (session : Session) (tokens : List Token) :
    Prop :=
  ∀ outer result, Closes table text tokens outer result →
    Nest.Yields table text ⟨session, outer⟩ result

section Ticks

variable {table : Table} {text : List Char} {nest next : Nest} {session : Session}
  {token : Token} {tokens result : List Token} {outer : List Session}

theorem Nest.Yields.goes (tick : nest.tick table text = .ok (.goes next))
    (later : next.Yields table text tokens) : nest.Yields table text tokens := by
  obtain ⟨passed, runs⟩ := later
  exact ⟨nest :: passed, .goes tick runs⟩

theorem Nest.Yields.hands (tick : nest.tick table text = .ok (.hands token next))
    (later : next.Yields table text tokens) : nest.Yields table text (token :: tokens) := by
  obtain ⟨passed, runs⟩ := later
  exact ⟨nest :: passed, .hands tick runs⟩

namespace Session

@[simp] theorem enqueue_nil (session : Session) : session.enqueue [] = session := by
  simp [enqueue]

@[simp] theorem enqueue_enqueue (session : Session) (first later : List Token) :
    (session.enqueue first).enqueue later = session.enqueue (first ++ later) := by
  simp [enqueue]

/-- A session at its end is left. -/
theorem gives_nil (pieces : session.pieces = []) (queue : session.queue = [])
    (ended : ¬ session.position < session.stop) : session.Gives table text [] := by
  intro outer result closes
  have tick : Nest.tick table text ⟨session, outer⟩ = .ok (Nest.leave ⟨session, outer⟩) := by
    simp only [Nest.tick, pieces, queue, if_neg ended]
  cases outer with
  | nil =>
    subst closes
    exact ⟨_, .ended tick⟩
  | cons parent others =>
    refine .goes tick ?_
    rw [← enqueue_nil parent]
    exact closes

/-- A token in the queue is handed on. -/
theorem gives_cons (pieces : session.pieces = []) {queue : List Token}
    (queued : session.queue = token :: queue)
    (later : Gives table text { session with queue } tokens) :
    session.Gives table text (token :: tokens) := by
  intro outer result closes
  have tick : Nest.tick table text ⟨session, outer⟩ =
      .ok (Nest.handOn ⟨{ session with queue }, outer⟩ token) := by
    simp only [Nest.tick, pieces, queued]
  cases outer with
  | nil =>
    subst closes
    exact .hands tick (later [] tokens rfl)
  | cons parent others =>
    refine .goes tick (later _ _ ?_)
    show Nest.Yields table text ⟨(parent.enqueue [token]).enqueue tokens, others⟩ result
    rw [enqueue_enqueue]
    exact closes

/-- The queue comes before what is given without it. -/
theorem gives_append (pieces : session.pieces = [])
    (later : Gives table text { session with queue := [] } tokens) :
    session.Gives table text (session.queue ++ tokens) := by
  generalize queued : session.queue = queue
  induction queue generalizing session with
  | nil =>
    obtain ⟨⟩ := session
    cases queued
    exact later
  | cons token queue ih =>
    refine gives_cons pieces queued ?_
    exact ih pieces later rfl

/-- A step is made where nothing is left to emit or to hand on. -/
theorem gives_step (pieces : session.pieces = []) (queue : session.queue = [])
    (unfinished : session.position < session.stop) {after : Session}
    (step : session.step table text = .ok after) (later : after.Gives table text tokens) :
    session.Gives table text tokens := by
  intro outer result closes
  have tick : Nest.tick table text ⟨session, outer⟩ = .ok (.goes ⟨after, outer⟩) := by
    simp only [Nest.tick, pieces, queue, if_pos unfinished, step]
    rfl
  exact .goes tick (later outer result closes)

/-- A piece that is emitted within the session. -/
theorem gives_emit {piece : Piece} {pieces : List Piece} (first : session.pieces = piece :: pieces)
    {after : Session}
    (emits : ∀ outer, Nest.emit ⟨{ session with pieces }, outer⟩ piece = ⟨after, outer⟩)
    (later : after.Gives table text tokens) : session.Gives table text tokens := by
  intro outer result closes
  have tick : Nest.tick table text ⟨session, outer⟩ = .ok (.goes ⟨after, outer⟩) := by
    simp only [Nest.tick, first, emits]
  exact .goes tick (later outer result closes)

/-- Text that is handed to a state is given by a session of its own. -/
theorem gives_nested {state start stop : Nat} {pieces : List Piece}
    (first : session.pieces = .nested state start stop :: pieces)
    (depth : session.depth < maxNesting) {inner : List Token}
    (opened : (ofSpan [state] start stop (session.depth + 1)).Gives table text inner)
    (later : Gives table text { session.enqueue inner with pieces } tokens) :
    session.Gives table text tokens := by
  intro outer result closes
  have tick : Nest.tick table text ⟨session, outer⟩ = .ok (.goes
      ⟨ofSpan [state] start stop (session.depth + 1), { session with pieces } :: outer⟩) := by
    simp only [Nest.tick, first, Nest.emit, if_pos depth]
  exact .goes tick (opened _ _ (later outer result closes))

end Session

end Ticks

section Scans

variable {table : Table} {machine : Machine} {text : List Char} {session : Session} {scan : Scan}
  {nested : Delegated} {depth : Nat}

/-- What a nested scan makes of a span is given by a session that is opened on it, or one error
where sessions are too deep. -/
structure Opens (table : Table) (machine : Machine) (text : List Char) (depth : Nat)
    (nested : Delegated) : Prop where
  gives : depth < maxNesting → ∀ {name : String} {state start stop : Nat} {cursor : Cursor},
    Numbers machine.stateNames name state → cursor.Spans text start stop →
      (Session.ofSpan [state] start stop (depth + 1)).Gives table text (nested name start cursor)
  refuses : ¬ depth < maxNesting → ∀ {name : String} {start stop : Nat} {cursor : Cursor},
    cursor.Spans text start stop →
      nested name start cursor = Token.spanning .error start stop

namespace Session

/-- The tokens of the pieces of a session come after its queue. -/
theorem gives_pieces (opens : Opens table machine text depth nested) {pieces : List Piece}
    {tokens more : List Token} (delivers : Delivers machine.stateNames text nested pieces tokens)
    (left : session.pieces = pieces) (level : session.depth = depth)
    (later : Gives table text { session with pieces := [], queue := [] } more) :
    session.Gives table text (session.queue ++ (tokens ++ more)) := by
  induction delivers generalizing session with
  | nil =>
    refine gives_append left ?_
    rw [left]
    exact later
  | @token pieces tokens kind start stop _ ih =>
    let after : Session := { session.enqueue (Token.spanning kind start stop) with pieces }
    have rest : after.Gives table text (after.queue ++ (tokens ++ more)) := ih rfl level later
    rw [List.append_assoc, ← List.append_assoc session.queue]
    exact gives_emit left (fun _ => rfl) rest
  | @nested pieces tokens name state start stop cursor numbers spans _ ih =>
    let after : Session := { session.enqueue (nested name start cursor) with pieces }
    have rest : after.Gives table text (after.queue ++ (tokens ++ more)) := ih rfl level later
    rw [List.append_assoc, ← List.append_assoc session.queue]
    by_cases shallow : depth < maxNesting
    · have opened := opens.gives shallow numbers spans
      rw [← level] at opened shallow
      exact gives_nested left shallow opened rest
    · have refused : nested name start cursor = _ := opens.refuses shallow spans
      rw [← level] at shallow
      refine gives_emit left (fun outer => ?_) rest
      simp only [Nest.emit, if_neg shallow, after, refused]
      rfl

/-- A session that shows a scan gives its tokens, if those it opens give what nested scans
give. -/
theorem Shows.gives_drain (tabulates : table.Tabulates machine)
    (distinct : machine.stateNames.Nodup) (opens : Opens table machine text depth nested)
    (shows : session.Shows machine text scan) (level : session.depth = depth)
    (pieces : session.pieces = []) (queue : session.queue = []) :
    session.Gives table text (scan.drain nested machine) := by
  fun_induction Scan.drain nested machine scan generalizing session with
  | case1 scan unfinished result =>
    rename_i ih
    obtain ⟨after, step, follows⟩ :=
      shows.exists_step tabulates distinct unfinished nested pieces queue
    obtain ⟨tokens, delivers, same⟩ := follows.tokens
    have level' := follows.depth.trans level
    refine gives_step pieces queue (shows.lt_iff.2 unfinished) step ?_
    rw [show result = scan.step nested machine from rfl, same, List.append_assoc]
    refine gives_pieces opens delivers rfl level' (ih ?_ level' rfl rfl)
    exact ⟨follows.shows.stack, follows.shows.position, follows.shows.spans, follows.shows.idle⟩
  | case2 scan finished =>
    refine gives_nil pieces queue fun unfinished => finished ?_
    exact shows.lt_iff.1 unfinished

/-- A new session on a span shows a nested scan of it. -/
theorem shows_ofSpan {name : String} {state start stop : Nat} {cursor : Cursor}
    (numbers : Numbers machine.stateNames name state) (spans : cursor.Spans text start stop)
    (depth : Nat) :
    (ofSpan [state] start stop depth).Shows machine text (.start name start cursor) :=
  ⟨.cons numbers .nil, rfl, spans, rfl⟩

/-- Sessions come to an end with as many levels as there are. -/
theorem opens_delegated (tabulates : table.Tabulates machine)
    (distinct : machine.stateNames.Nodup) {levels depth : Nat}
    (levels_eq : depth + levels = maxNesting) :
    Opens table machine text depth (delegated machine levels) := by
  induction levels generalizing depth with
  | zero =>
    refine ⟨fun shallow => absurd levels_eq (Nat.ne_of_lt shallow), ?_⟩
    intro _ name start stop cursor spans
    obtain ⟨front, back, -, -, rfl, -, -⟩ := spans
    unfold delegated
    rw [Cursor.bytesTo, List.take_length]
  | succ levels ih =>
    refine ⟨?_, fun deep => absurd (by omega) deep⟩
    intro _ name state start stop cursor numbers spans
    have deeper := ih (by omega : depth + 1 + levels = maxNesting)
    exact (shows_ofSpan numbers spans _).gives_drain tabulates distinct deeper rfl rfl rfl

/-- **Sessions.** A session comes to an end with the tokens of the scan that it shows. -/
theorem Shows.gives (tabulates : table.Tabulates machine) (distinct : machine.stateNames.Nodup)
    (shows : session.Shows machine text scan) (pieces : session.pieces = [])
    (queue : session.queue = []) {levels : Nat} (level : session.depth + levels = maxNesting) :
    session.Gives table text (scan.drain (delegated machine levels) machine) :=
  shows.gives_drain tabulates distinct (opens_delegated tabulates distinct level) rfl pieces queue

end Session

end Scans

end Table

end GrammarLexer
