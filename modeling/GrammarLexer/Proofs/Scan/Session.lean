import GrammarLexer.Proofs.Machine.Tabulation
import GrammarLexer.Proofs.Scan.Stack
import GrammarLexer.Proofs.Text.Cursor
import GrammarLexer.Scan.Session

/-!
# Sessions show scans

A session of a table shows a scan of its machine (`Session.Shows`): it stands at the same place
of the same span, with the same states on its stack by number. Where the scan makes a step, so
does the session, without failing. It shows the scan after the step then, and has queued the
tokens of the step or left pieces that deliver them (`Session.Shows.exists_step`).

That a cut or a look-up does not fail is said once for each of them, in the first section.
-/

namespace GrammarLexer

open Text

namespace Table

/-! ## Steps that do not fail -/

theorem minus_eq_ok {left right : Nat} (le : right ≤ left) :
    minus left right = .ok (left - right) := if_pos le

theorem cut_append (front middle back : List Char) :
    cut (front ++ (middle ++ back)) (byteLength front) (byteLength front + byteLength middle) =
      .ok middle := by
  rw [cut, slice?_append]
  rfl

/-- A span is found where it is. -/
theorem cursorAt_eq_ok {text : List Char} {start stop : Nat} {cursor : Cursor}
    (spans : cursor.Spans text start stop) : cursorAt text start stop = .ok cursor := by
  obtain ⟨front, back, rfl, rfl, rfl, before, after⟩ := spans
  have first := cut_append [] front (cursor.rest ++ back)
  have rest := cut_append front cursor.rest back
  have last := cut_append (front ++ cursor.rest) back []
  simp only [List.nil_append, List.append_nil, byteLength_nil, Nat.zero_add, List.append_assoc]
    at first last
  simp only [byteLength_append] at last
  have whole : byteLength (front ++ (cursor.rest ++ back)) =
      byteLength front + byteLength cursor.rest + byteLength back := by
    simp only [byteLength_append]
    omega
  refine bind_eq_ok.2 ⟨front, first, bind_eq_ok.2 ⟨cursor.rest, rest,
    bind_eq_ok.2 ⟨back, ?_, ?_⟩⟩⟩
  · rw [whole]
    exact last
  · rw [← before, ← after]

section Stacks

variable {names : List String} {stack : GrammarLexer.Stack} {numbers : List Nat}

/-- The state on top has the last number. -/
theorem exists_top (shows : List.Forall₂ (Numbers names) stack.entries numbers) :
    ∃ current, top numbers = .ok current ∧ Numbers names stack.top current := by
  rw [Stack.entries, ← List.reverse_reverse numbers, List.forall₂_reverse_iff] at shows
  rcases List.forall₂_cons_left_iff.1 shows with ⟨current, rest, here, -, order⟩
  have parts : numbers = rest.reverse ++ [current] := by
    rw [← List.reverse_reverse numbers, order, List.reverse_cons]
  refine ⟨current, ?_, here⟩
  rw [parts]
  refine bind_eq_ok.2 ⟨rest.reverse.length, ?_, ?_⟩
  · rw [List.length_append, List.length_singleton, minus_eq_ok (Nat.le_add_left 1 _),
      Nat.add_sub_cancel]
  · rw [List.getElem?_concat_length]
    rfl

/-- The number of states on a stack. -/
theorem length_numbers (shows : List.Forall₂ (Numbers names) stack.entries numbers) :
    numbers.length = stack.below.length + 1 := by
  rw [← shows.length_eq, Stack.entries, List.length_reverse, List.length_cons]

/-- A move by number. -/
theorem exists_shift (shows : List.Forall₂ (Numbers names) stack.entries numbers)
    {current : Nat} (here : Numbers names stack.top current) {move : GrammarLexer.Move}
    {move' : Move} (numbered : move.Numbered (Numbers names) move') :
    ∃ numbers', shift numbers current move' = .ok ((stack.move move).1, numbers') ∧
      List.Forall₂ (Numbers names) (stack.move move).2.entries numbers' := by
  cases numbered with
  | stay => exact ⟨numbers, rfl, shows⟩
  | @push target target' targets =>
    have resolved : Numbers names (target.resolve stack.top) (target'.resolve current) := by
      cases targets with
      | current => exact here
      | named numbered => exact numbered
    refine ⟨numbers ++ [target'.resolve current], rfl, ?_⟩
    have pushed : (stack.push (target.resolve stack.top)).entries =
        stack.entries ++ [target.resolve stack.top] := by
      simp only [Stack.entries, Stack.push, List.reverse_cons]
    show List.Forall₂ _ (stack.push (target.resolve stack.top)).entries _
    rw [pushed]
    exact List.rel_append shows (.cons resolved .nil)
  | pop depth =>
    have length := length_numbers shows
    refine ⟨numbers.take (numbers.length - min depth (numbers.length - 1)), ?_, ?_⟩
    · have popped : pop numbers depth = .ok (min depth (numbers.length - 1),
          numbers.take (numbers.length - min depth (numbers.length - 1))) := by
        rw [pop, minus_eq_ok (by omega)]
        show (minus numbers.length (min depth (numbers.length - 1)) >>= fun kept =>
          .ok (min depth (numbers.length - 1), numbers.take kept)) = _
        rw [minus_eq_ok (by omega)]
        rfl
      have changed : decide (0 < min depth (numbers.length - 1)) =
          (depth != 0 && !stack.below.isEmpty) := by
        rw [length, Nat.add_sub_cancel, Bool.eq_iff_iff]
        simp [Nat.pos_iff_ne_zero]
      rw [shift, popped]
      show Except.ok _ = _
      rw [changed]
      rfl
    · have kept : numbers.length - min depth (numbers.length - 1) =
          stack.below.length + 1 - min depth stack.below.length := by omega
      show List.Forall₂ _ (stack.pop depth).entries _
      rw [Stack.pop, Stack.entries_popFrom, kept]
      exact List.forall₂_take _ shows

end Stacks

/-! ## Pieces -/

/-- Some pieces deliver some tokens, where text that is handed to a state comes to what a
nested scan makes of it. -/
inductive Delivers (names : List String) (text : List Char) (nested : Delegated) :
    List Piece → List Token → Prop
  | nil : Delivers names text nested [] []
  | token {pieces : List Piece} {tokens : List Token} (kind : Kind) (start stop : Nat)
      (later : Delivers names text nested pieces tokens) :
      Delivers names text nested (.token kind start stop :: pieces)
        (Token.spanning kind start stop ++ tokens)
  | nested {pieces : List Piece} {tokens : List Token} {name : String} {state start stop : Nat}
      {cursor : Cursor} (numbers : Numbers names name state)
      (spans : cursor.Spans text start stop) (later : Delivers names text nested pieces tokens) :
      Delivers names text nested (.nested state start stop :: pieces)
        (nested name start cursor ++ tokens)

section Pieces

variable {names : List String} {text : List Char} {nested : Delegated} {place : Place}
  {current stop : Nat}

/-- One token is a piece by itself. -/
theorem delivers_span (kind : Kind) (first last : Nat) :
    Delivers names text nested [.token kind (place.offset first) (place.offset last)]
      (place.span kind first last) := by
  rw [← List.append_nil (place.span kind first last)]
  exact .token kind _ _ .nil

theorem resolve_numbered {name : String} (here : Numbers names name current)
    {target : GrammarLexer.Target} {target' : Target}
    (targets : target.Numbered (Numbers names) target') :
    Numbers names (target.resolve name) (target'.resolve current) := by
  cases targets with
  | current => exact here
  | named numbered => exact numbered

/-- The span of a group as a piece, with others behind it. -/
theorem delivers_group (spans : place.cursor.Spans text place.position stop)
    (here : Numbers names place.current current) {action : GrammarLexer.GroupAction}
    {action' : GroupAction} (acts : action.Numbered (Numbers names) action') {first last : Nat}
    (le : first ≤ last) {pieces : List Piece} {tokens : List Token}
    (later : Delivers names text nested pieces tokens) :
    Delivers names text nested
      (groupPiece current (place.offset first) (place.offset last) action' :: pieces)
      (place.group nested first last action ++ tokens) := by
  cases acts with
  | token kind => exact .token kind _ _ later
  | delegate targets => exact .nested (resolve_numbered here targets) (spans.slice le) later

/-- Within the span, offsets are in the order of the characters. -/
theorem offset_le_iff {first last : Nat} (within : last ≤ place.cursor.rest.length) :
    place.offset last ≤ place.offset first ↔ last ≤ first := by
  refine ⟨fun le => ?_, place.offset_mono⟩
  by_contra lt
  have less := place.cursor.bytesTo_lt (Nat.lt_of_not_le lt) within
  unfold Place.offset at le
  omega

theorem offset_max (place : Place) (first last : Nat) :
    place.offset (max first last) = max (place.offset first) (place.offset last) := by
  rcases Nat.le_total first last with le | le
  · rw [Nat.max_eq_right le, Nat.max_eq_right (place.offset_mono le)]
  · rw [Nat.max_eq_left le, Nat.max_eq_left (place.offset_mono le)]

/-- The pieces for the groups of a match deliver the tokens for them. -/
theorem delivers_groups (spans : place.cursor.Spans text place.position stop)
    (here : Numbers names place.current current) {found : Pattern.Match}
    (within : found.Within place.cursor.rest.length)
    {actions : List GrammarLexer.GroupAction} {actions' : List GroupAction}
    (acts : List.Forall₂ (GroupAction.Numbered (Numbers names)) actions actions')
    (index done : Nat) :
    Delivers names text nested
      (groupPieces current (groupSpan? place.position place.cursor found)
        (place.offset found.length) index (place.offset done) actions')
      (place.groups nested found index done actions) := by
  induction acts generalizing index done with
  | nil => exact delivers_span .text done found.length
  | cons group _ ih =>
    rw [groupPieces, Place.groups]
    cases took : found.span? index with
    | none =>
      rw [groupSpan?, took]
      exact ih (index + 1) done
    | some span =>
      have spanned : groupSpan? place.position place.cursor found index =
          some (place.offset span.start, place.offset span.stop) := by
        rw [groupSpan?, took]
        rfl
      have inside := Nat.le_trans (within.span?_le took) within.length_le
      rw [spanned]
      dsimp only
      -- a group is covered if its bytes are, and a gap ends at the same place
      rw [← offset_max, if_congr (offset_le_iff inside) rfl rfl]
      split
      · exact ih (index + 1) done
      · rename_i uncovered
        rw [List.append_assoc]
        exact .token .text _ _ (delivers_group spans here group
          (Nat.le_of_lt (Nat.lt_of_not_le uncovered)) (ih (index + 1) span.stop))

/-- The pieces of a match deliver its tokens. -/
theorem delivers_match (spans : place.cursor.Spans text place.position stop)
    (here : Numbers names place.current current) {found : Pattern.Match}
    (within : found.Within place.cursor.rest.length) {action : GrammarLexer.Action}
    {action' : Action} (acts : action.Numbered (Numbers names) action') :
    Delivers names text nested
      (piecesOf current (groupSpan? place.position place.cursor found) place.position
        (place.offset found.length) action')
      (place.emit nested found action) := by
  have start := place.offset_zero
  cases acts with
  | nothing =>
    rw [← start]
    exact delivers_span .text 0 found.length
  | token kind =>
    rw [← start]
    exact delivers_span kind 0 found.length
  | groups actions =>
    have groups : Delivers names text nested _ _ := delivers_groups spans here within actions 1 0
    rwa [start] at groups
  | delegate targets =>
    rw [← start, Place.emit, Place.delegate, ← List.append_nil (nested _ _ _)]
    exact .nested (resolve_numbered here targets) (spans.slice (Nat.zero_le _)) .nil

end Pieces

/-! ## Sessions -/

section Sessions

variable {table : Table} {machine : Machine} {text : List Char} {session : Session} {scan : Scan}

/-- The number of a state has its rules. -/
theorem exists_state (tabulates : table.Tabulates machine) (distinct : machine.stateNames.Nodup)
    {name : String} {number : Nat} (numbers : Numbers machine.stateNames name number) :
    ∃ state, table.states[number]? = some state ∧
      List.Forall₂ (Rule.Numbered (Numbers machine.stateNames)) (machine.rulesOf name)
        state.rules := by
  rw [Numbers, Machine.stateNames, List.getElem?_map, Option.map_eq_some_iff] at numbers
  obtain ⟨state, found, rfl⟩ := numbers
  obtain ⟨state', found', numbered⟩ := exists_getElem?_of_forall₂ tabulates.states found
  refine ⟨state', found', ?_⟩
  rw [Machine.rulesOf_eq distinct (List.mem_of_getElem? found)]
  exact numbered.rules

/-- By number, the same rule matches first. -/
theorem firstMatch?_numbered (cursor : Cursor) {numbers : String → Nat → Prop}
    {rules : List GrammarLexer.Rule} {rules' : List Rule}
    (same : List.Forall₂ (Rule.Numbered numbers) rules rules') :
    GrammarLexer.firstMatch? cursor rules = none ∧ firstMatch? cursor rules' = none ∨
      ∃ rule rule' found, GrammarLexer.firstMatch? cursor rules = some (rule, found) ∧
        firstMatch? cursor rules' = some (rule', found) ∧ rule.Numbered numbers rule' := by
  induction same with
  | nil => exact .inl ⟨rfl, rfl⟩
  | @cons rule rule' _ _ numbered _ ih =>
    unfold GrammarLexer.firstMatch? firstMatch?
    rw [← numbered.program]
    cases rule.program.match? cursor with
    | none => exact ih
    | some found => exact .inr ⟨rule, rule', found, rfl, rfl, numbered⟩

/-- A session at the place where a scan stands, in the same span, with the same states on its
stack by number. -/
structure Session.Shows (machine : Machine) (text : List Char) (session : Session)
    (scan : Scan) : Prop where
  stack : List.Forall₂ (Numbers machine.stateNames) scan.stack.entries session.stack
  position : scan.position = session.position
  spans : scan.cursor.Spans text session.position session.stop
  idle : scan.idle = session.idle

/-- What a session is after it has shown a step: it shows the scan after it, and the tokens of
the step are those queued and those that its pieces deliver. -/
structure Session.Follows (machine : Machine) (text : List Char) (nested : Delegated)
    (depth : Nat) (result : List Token × Scan) (after : Session) : Prop where
  shows : after.Shows machine text result.2
  depth : after.depth = depth
  tokens : ∃ tokens, Delivers machine.stateNames text nested after.pieces tokens ∧
    result.1 = after.queue ++ tokens

namespace Session

/-- A session has come to its end where the scan is finished. -/
theorem Shows.lt_iff (shows : session.Shows machine text scan) :
    session.position < session.stop ↔ scan.finished = false := by
  obtain ⟨front, back, -, -, stop, -, -⟩ := shows.spans
  rw [stop, Scan.finished]
  cases scan.cursor.rest with
  | nil => simp
  | cons c cs =>
    have := Char.utf8Size_pos c
    simp only [byteLength_cons, List.isEmpty_cons, iff_true]
    omega

/-- Going on after some characters. -/
theorem Shows.goOn (shows : session.Shows machine text scan) (count : Nat) {stack : Stack}
    {numbers : List Nat} (shown : List.Forall₂ (Numbers machine.stateNames) stack.entries numbers)
    (pieces : List Piece) (queue : List Token) :
    Shows machine text
      { session with
        stack := numbers, position := session.position + scan.cursor.bytesTo count, idle := 0,
        pieces, queue }
      (scan.goOn count stack) :=
  ⟨shown, congrArg (· + scan.cursor.bytesTo count) shows.position, shows.spans.advance count, rfl⟩

/-- A character is refused by the session as by the scan. -/
theorem Shows.exists_refuse (shows : session.Shows machine text scan)
    (unfinished : scan.finished = false) (nested : Delegated) (pieces : session.pieces = [])
    (queue : session.queue = []) :
    ∃ after, session.refuse text = .ok after ∧
      after.Follows machine text nested session.depth scan.refuse := by
  obtain ⟨front, back, whole, start, -, -, -⟩ := shows.spans
  cases rest : scan.cursor.rest with
  | nil => simp [Scan.finished, rest] at unfinished
  | cons c cs =>
    have width : scan.cursor.bytesTo 1 = c.utf8Size := by simp [Cursor.bytesTo, rest]
    have found : cut text session.position (byteLength text) = .ok (c :: (cs ++ back)) := by
      have last := cut_append front (scan.cursor.rest ++ back) []
      rw [List.append_nil, ← byteLength_append, ← whole, ← start, rest] at last
      exact last
    have refused : session.refuse text = .ok { session with
        position := session.position + c.utf8Size, idle := 0,
        queue := session.queue ++ [⟨.error, session.position, c.utf8Size⟩] } :=
      bind_eq_ok.2 ⟨_, found, rfl⟩
    rw [← width] at refused
    refine ⟨_, refused, shows.goOn 1 shows.stack _ _, rfl, [], ?_, ?_⟩
    · rw [pieces]
      exact .nil
    · have := Char.utf8Size_pos c
      rw [queue, List.append_nil, List.nil_append, Scan.refuse, shows.position, width,
        Token.spanning, if_pos (by omega), Nat.add_sub_cancel_left]

/-- A match takes no bytes if it takes no characters. -/
theorem stop_eq_iff {found : Pattern.Match} {cursor : Cursor}
    (within : found.Within cursor.rest.length) (position : Nat) :
    position + cursor.bytesTo found.length = position ↔ found.length = 0 := by
  constructor
  · intro same
    by_contra taken
    have more := cursor.bytesTo_lt (Nat.pos_of_ne_zero taken) within.length_le
    omega
  · intro nothing
    rw [nothing]
    rfl

/-- A match of some text leaves its pieces and goes on after it. -/
theorem Shows.follows_take (shows : session.Shows machine text scan) {nested : Delegated}
    {current : Nat} (here : Numbers machine.stateNames scan.stack.top current)
    {rule : GrammarLexer.Rule} {rule' : Rule} {found : Pattern.Match}
    (within : found.Within scan.cursor.rest.length)
    (numbered : rule.Numbered (Numbers machine.stateNames) rule') {stack : Stack}
    {numbers : List Nat} (shown : List.Forall₂ (Numbers machine.stateNames) stack.entries numbers)
    (queue : session.queue = []) :
    Follows machine text nested session.depth
      (Place.emit ⟨scan.stack.top, scan.position, scan.cursor⟩ nested found rule.action,
        scan.goOn found.length stack)
      { session with
        stack := numbers, position := session.position + scan.cursor.bytesTo found.length,
        idle := 0,
        pieces := piecesOf current (groupSpan? session.position scan.cursor found)
          session.position (session.position + scan.cursor.bytesTo found.length) rule'.action } := by
  let place : Place := ⟨scan.stack.top, scan.position, scan.cursor⟩
  have spans : place.cursor.Spans text place.position session.stop := by
    show scan.cursor.Spans text scan.position session.stop
    rw [shows.position]
    exact shows.spans
  refine ⟨shows.goOn found.length shown _ _, rfl, place.emit nested found rule.action, ?_, ?_⟩
  · rw [← shows.position]
    exact delivers_match spans here within numbered.action
  · rw [queue]
    rfl

/-- What the first match asks for does not fail, and is what the scan does. -/
theorem Shows.exists_act (shows : session.Shows machine text scan)
    (unfinished : scan.finished = false) (nested : Delegated) (pieces : session.pieces = [])
    (queue : session.queue = []) {current : Nat}
    (here : Numbers machine.stateNames scan.stack.top current) {rules : List Rule}
    (same : List.Forall₂ (Rule.Numbered (Numbers machine.stateNames))
      (machine.rulesOf scan.stack.top) rules) :
    ∃ after, session.act text current scan.cursor (firstMatch? scan.cursor rules) = .ok after ∧
      after.Follows machine text nested session.depth (scan.step nested machine) := by
  have refused := shows.exists_refuse unfinished nested pieces queue
  rw [Scan.step]
  rcases firstMatch?_numbered scan.cursor same with
    ⟨first, first'⟩ | ⟨rule, rule', found, first, first', numbered⟩
  · rw [first, first']
    exact refused
  · have within : found.Within scan.cursor.rest.length :=
      Pattern.match?_within (Scan.of_firstMatch? first).2
    obtain ⟨numbers, shifted, shown⟩ := exists_shift shows.stack here numbered.move
    simp only [first, first', act, shifted, stop_eq_iff within, shows.idle]
    by_cases taken : found.length = 0
    · rw [if_pos taken, if_pos taken]
      by_cases allowed : session.idle < maxIdle ∧ (scan.stack.move rule.move).1 = true
      · -- the stack changes and nothing else does
        rw [if_pos allowed, if_pos allowed.1]
        refine ⟨{ session with stack := numbers, idle := session.idle + 1 }, ?_,
          ⟨shown, shows.position, shows.spans, rfl⟩, rfl, [], ?_, ?_⟩
        · show (if (scan.stack.move rule.move).1 = true then _ else _) = _
          rw [if_pos allowed.2]
        · rw [pieces]
          exact .nil
        · rw [queue]
          rfl
      · rw [if_neg allowed]
        split
        · rename_i spare
          show ∃ after, (if (scan.stack.move rule.move).1 = true then _ else _) = _ ∧ _
          rw [if_neg fun changed => allowed ⟨spare, changed⟩]
          exact refused
        · exact refused
    · rw [if_neg taken, if_neg taken]
      exact ⟨_, rfl, shows.follows_take here within numbered shown queue⟩

/-- **One step.** It does not fail, and is the step of the scan. -/
theorem Shows.exists_step (tabulates : table.Tabulates machine)
    (distinct : machine.stateNames.Nodup) (shows : session.Shows machine text scan)
    (unfinished : scan.finished = false) (nested : Delegated) (pieces : session.pieces = [])
    (queue : session.queue = []) :
    ∃ after, session.step table text = .ok after ∧
      after.Follows machine text nested session.depth (scan.step nested machine) := by
  obtain ⟨current, topped, here⟩ := exists_top shows.stack
  obtain ⟨state, found, rules⟩ := exists_state tabulates distinct here
  obtain ⟨after, acted, follows⟩ := shows.exists_act unfinished nested pieces queue here rules
  have stands : sure table.states[current]? = .ok state := by
    rw [found]
    rfl
  refine ⟨after, ?_, follows⟩
  exact bind_eq_ok.2 ⟨current, topped, bind_eq_ok.2 ⟨state, stands,
    bind_eq_ok.2 ⟨scan.cursor, cursorAt_eq_ok shows.spans, acted⟩⟩⟩

end Session

end Sessions

end Table

end GrammarLexer
