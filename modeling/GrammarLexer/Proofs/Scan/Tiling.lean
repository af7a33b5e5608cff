import GrammarLexer.Proofs.Pattern.Extent
import GrammarLexer.Proofs.Text.Boundary
import GrammarLexer.Proofs.Token.Tiling
import GrammarLexer.Scan.Step

/-!
# What a scan covers

The tokens of a scan tile the rest of its span, and meet at boundaries of the text
(`drain_tiles`). Nested scans are covered by the same statement one level further
down (`delegated_tiles`), so it holds for all ways to emit a match at once: what is
handed to a state is tiled by the tokens that come back, and what no group covers is
plain text.

All facts about a step are drawn from `step_cases`, which says what it can do.
-/

namespace GrammarLexer

open Text

/-! ## What a step can do -/

namespace Scan

variable {mark : Nat → Prop} {nested : Delegated} {machine : Machine} {scan : Scan}

/-- A rule of the state on top of the stack with its match where the scan stands. -/
structure Finds (scan : Scan) (machine : Machine) (rule : Rule) (found : Pattern.Match) :
    Prop where
  member : rule ∈ machine.rulesOf scan.stack.top
  result : rule.program.match? scan.cursor = some found

/-- The first rule that matches is one of the rules. -/
theorem of_firstMatch? {cursor : Cursor} {rules : List Rule} {rule : Rule}
    {found : Pattern.Match} (first : firstMatch? cursor rules = some (rule, found)) :
    rule ∈ rules ∧ rule.program.match? cursor = some found := by
  induction rules with
  | nil => exact absurd first (by simp [firstMatch?])
  | cons head rest ih =>
    unfold firstMatch? at first
    split at first
    · rename_i result
      obtain ⟨rfl, rfl⟩ := Prod.mk.inj (Option.some.inj first)
      exact ⟨List.mem_cons_self, result⟩
    · obtain ⟨member, result⟩ := ih first
      exact ⟨List.mem_cons_of_mem _ member, result⟩

/-- **One step.** It refuses a character, or makes a move without taking text, or
takes the text of a match, emits it and makes the rule's move. -/
theorem step_cases (nested : Delegated) (machine : Machine) (scan : Scan) :
    scan.step nested machine = scan.refuse ∨
    (∃ rule found, scan.Finds machine rule found ∧ scan.idle < maxIdle ∧
      scan.step nested machine =
        ([], { scan with stack := (scan.stack.move rule.move).2, idle := scan.idle + 1 })) ∨
    ∃ rule found, scan.Finds machine rule found ∧ 0 < found.length ∧
      scan.step nested machine =
        (Place.emit ⟨scan.stack.top, scan.position, scan.cursor⟩ nested found rule.action,
          scan.goOn found.length (scan.stack.move rule.move).2) := by
  unfold step
  split
  · exact .inl rfl
  · rename_i rule found first
    obtain ⟨member, result⟩ := of_firstMatch? first
    dsimp only
    split
    · split
      · rename_i allowed
        exact .inr (.inl ⟨rule, found, ⟨member, result⟩, allowed.1, rfl⟩)
      · exact .inl rfl
    · rename_i taken
      exact .inr (.inr ⟨rule, found, ⟨member, result⟩, Nat.pos_of_ne_zero taken, rfl⟩)

/-- A match lies in the rest of the span. -/
theorem Finds.within {rule : Rule} {found : Pattern.Match}
    (finds : scan.Finds machine rule found) : found.Within scan.cursor.rest.length :=
  Pattern.match?_within finds.result

end Scan

/-! ## Emitting -/

/-- The tokens for a span that is handed to a state tile it. -/
def Delegated.Covers (mark : Nat → Prop) (nested : Delegated) : Prop :=
  ∀ state position cursor, Marks mark position cursor.rest →
    Tiles mark position (position + byteLength cursor.rest) (nested state position cursor)

namespace Place

variable {mark : Nat → Prop} {place : Place} {nested : Delegated}

/-- A later character of the match has no smaller offset. -/
theorem offset_mono (place : Place) {start stop : Nat} (le : start ≤ stop) :
    place.offset start ≤ place.offset stop :=
  Nat.add_le_add_left (byteLength_take_mono place.cursor.rest le) place.position

/-- The match begins where the scan stands. -/
theorem offset_zero (place : Place) : place.offset 0 = place.position := by
  simp [offset, Cursor.bytesTo]

/-- A part of the match as one token. -/
theorem span_tiles (marks : Marks mark place.position place.cursor.rest) (kind : Kind)
    {start stop : Nat} (le : start ≤ stop) :
    Tiles mark (place.offset start) (place.offset stop) (place.span kind start stop) :=
  Tiles.spanning kind (marks start) (marks stop) (place.offset_mono le)

/-- A part of the match that is handed to a state. -/
theorem delegate_tiles (marks : Marks mark place.position place.cursor.rest)
    (covers : nested.Covers mark) (target : Target) {start stop : Nat} (le : start ≤ stop) :
    Tiles mark (place.offset start) (place.offset stop)
      (place.delegate nested target start stop) := by
  have inner := covers (target.resolve place.current) (place.offset start)
    (place.cursor.slice start stop) ((marks.drop start).take (stop - start))
  have reaches : place.offset start + byteLength (place.cursor.slice start stop).rest =
      place.offset stop := by
    have parts := byteLength_take_add place.cursor.rest start (stop - start)
    rw [Nat.add_sub_cancel' le] at parts
    rw [offset, offset, Cursor.bytesTo, Cursor.bytesTo, ← parts, Nat.add_assoc]
    rfl
  rw [reaches] at inner
  exact inner

/-- The span of a group. -/
theorem group_tiles (marks : Marks mark place.position place.cursor.rest)
    (covers : nested.Covers mark) (action : GroupAction) {start stop : Nat}
    (le : start ≤ stop) :
    Tiles mark (place.offset start) (place.offset stop)
      (place.group nested start stop action) := by
  cases action with
  | token kind => exact place.span_tiles marks kind le
  | delegate target => exact place.delegate_tiles marks covers target le

/-- The groups of a match from a character on, whatever their order and however they
overlap. -/
theorem groups_tiles (marks : Marks mark place.position place.cursor.rest)
    (covers : nested.Covers mark) {found : Pattern.Match} {limit : Nat}
    (within : found.Within limit) (actions : List GroupAction) (index : Nat) {done : Nat}
    (le : done ≤ found.length) :
    Tiles mark (place.offset done) (place.offset found.length)
      (place.groups nested found index done actions) := by
  induction actions generalizing index done with
  | nil => exact place.span_tiles marks .text le
  | cons action rest ih =>
    unfold groups
    split
    · exact ih (index + 1) le
    · rename_i span took
      dsimp only
      split
      · exact ih (index + 1) le
      · -- the group has a part that is not covered yet: from `done` or its start on
        rename_i uncovered
        have gap := place.span_tiles marks .text (Nat.le_max_right span.start done)
        have covered := place.group_tiles marks covers action
          (Nat.le_of_lt (Nat.lt_of_not_le uncovered))
        exact (gap.append covered).append (ih (index + 1) (within.span?_le took))

/-- **Emitting.** The tokens for a match tile it. -/
theorem emit_tiles (marks : Marks mark place.position place.cursor.rest)
    (covers : nested.Covers mark) {found : Pattern.Match} {limit : Nat}
    (within : found.Within limit) (action : Action) :
    Tiles mark place.position (place.offset found.length)
      (place.emit nested found action) := by
  rw [← place.offset_zero]
  cases action with
  | nothing => exact place.span_tiles marks .text (Nat.zero_le _)
  | token kind => exact place.span_tiles marks kind (Nat.zero_le _)
  | groups actions => exact place.groups_tiles marks covers within actions 1 (Nat.zero_le _)
  | delegate target => exact place.delegate_tiles marks covers target (Nat.zero_le _)

end Place

/-! ## Steps and scans -/

namespace Scan

variable {mark : Nat → Prop} {nested : Delegated} {machine : Machine} {scan : Scan}

/-- The boundaries of what a scan has before it. -/
def Marked (mark : Nat → Prop) (scan : Scan) : Prop :=
  Marks mark scan.position scan.cursor.rest

/-- The offset at which a scan ends. -/
def limit (scan : Scan) : Nat := scan.position + byteLength scan.cursor.rest

/-- Going on keeps the boundaries. -/
theorem Marked.goOn (marked : scan.Marked mark) (count : Nat) (stack : Stack) :
    (scan.goOn count stack).Marked mark := marked.drop count

/-- Going on leaves the end where it is. -/
theorem limit_goOn (scan : Scan) (count : Nat) (stack : Stack) :
    (scan.goOn count stack).limit = scan.limit := by
  have parts := byteLength_take_drop scan.cursor.rest count
  simp only [limit, Scan.goOn, Cursor.bytesTo, Cursor.advance]
  omega

/-- A character refused is one token. -/
theorem refuse_tiles (marked : scan.Marked mark) :
    Tiles mark scan.position scan.refuse.2.position scan.refuse.1 :=
  Tiles.spanning .error marked.start (marked 1) (Nat.le_add_right _ _)

/-- The tokens of a step tile what it takes. -/
theorem step_tiles (covers : nested.Covers mark) (machine : Machine)
    (marked : scan.Marked mark) :
    Tiles mark scan.position (scan.step nested machine).2.position
      (scan.step nested machine).1 := by
  rcases step_cases nested machine scan with
    step | ⟨rule, found, _, _, step⟩ | ⟨rule, found, finds, _, step⟩
  · rw [step]
    exact refuse_tiles marked
  · rw [step]
    exact Tiles.nil marked.start
  · rw [step]
    exact (Place.mk scan.stack.top scan.position scan.cursor).emit_tiles marked covers
      finds.within rule.action

/-- A step keeps the boundaries of what is left. -/
theorem step_marked (marked : scan.Marked mark) :
    (scan.step nested machine).2.Marked mark := by
  rcases step_cases nested machine scan with
    step | ⟨rule, found, _, _, step⟩ | ⟨rule, found, _, _, step⟩
  · rw [step]
    exact marked.goOn 1 scan.stack
  · rw [step]
    exact marked
  · rw [step]
    exact marked.goOn found.length _

/-- A step leaves the end where it is. -/
theorem limit_step (nested : Delegated) (machine : Machine) (scan : Scan) :
    (scan.step nested machine).2.limit = scan.limit := by
  rcases step_cases nested machine scan with
    step | ⟨rule, found, _, _, step⟩ | ⟨rule, found, _, _, step⟩
  · rw [step]
    exact scan.limit_goOn 1 scan.stack
  · rw [step]
    rfl
  · rw [step]
    exact scan.limit_goOn found.length _

/-- A scan that is finished stands at its end. -/
theorem position_of_finished (finished : scan.finished = true) :
    scan.position = scan.limit := by
  have rest : scan.cursor.rest = [] := List.isEmpty_iff.1 finished
  rw [limit, rest, byteLength_nil, Nat.add_zero]

/-- **Scanning.** The tokens of a scan tile the rest of its span. -/
theorem drain_tiles (covers : nested.Covers mark) (marked : scan.Marked mark) :
    Tiles mark scan.position scan.limit (scan.drain nested machine) := by
  fun_induction drain nested machine scan with
  | case1 scan unfinished result ih =>
    have here := step_tiles covers machine marked
    have later := ih (step_marked marked)
    rw [show result = scan.step nested machine from rfl, limit_step] at later
    exact here.append later
  | case2 scan finished =>
    rw [Bool.not_eq_false] at finished
    rw [← position_of_finished finished]
    exact Tiles.nil marked.start

end Scan

/-- **Nested scans.** A span is tiled by the tokens of the scan it is handed to, however
many levels there are left. -/
theorem delegated_tiles (mark : Nat → Prop) (machine : Machine) (levels : Nat) :
    (delegated machine levels).Covers mark := by
  induction levels with
  | zero =>
    -- beyond the last level a span is one error
    intro state position cursor marks
    have whole : cursor.bytesTo cursor.rest.length = byteLength cursor.rest := by
      rw [Cursor.bytesTo, List.take_length]
    unfold delegated
    rw [whole]
    exact Tiles.spanning .error marks.start marks.stop (Nat.le_add_right _ _)
  | succ levels ih =>
    intro state position cursor marks
    have marked : (Scan.start state position cursor).Marked mark := marks
    exact Scan.drain_tiles ih marked

end GrammarLexer
