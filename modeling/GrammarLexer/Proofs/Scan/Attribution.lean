import GrammarLexer.Proofs.Machine.Specification
import GrammarLexer.Proofs.Scan.Tiling

/-!
# Which group a byte goes to

A rule may list what to do with each group of its pattern. The groups are emitted in the order of
their numbers, and what one of them covers is not looked at again. A group keeps the span of its
last pass, so that it may lie behind a group with a higher number. What stands before it is then
emitted as plain text, whatever groups with higher numbers cover there.

So of the groups that cover a byte the one with the lowest number has it, unless a group with a
lower number still lies behind the byte; in that case the byte is plain text
(`step_attributes`, `not_emitsLowest`). What decides is the first group whose span ends behind
the byte (`Place.owner?`).
-/

namespace GrammarLexer

open Text

namespace Place

/-! ## Groups and bytes -/

/-- The span of a group holds a byte. -/
def Covers (place : Place) (found : Pattern.Match) (byte group : Nat) : Prop :=
  ∃ span, found.span? group = some span ∧
    place.offset span.start ≤ byte ∧ byte < place.offset span.stop

/-- The span of a group is not empty, and all of it lies behind a byte. -/
def Follows (place : Place) (found : Pattern.Match) (byte group : Nat) : Prop :=
  ∃ span, found.span? group = some span ∧ span.start < span.stop ∧
    byte < place.offset span.start

instance (place : Place) (found : Pattern.Match) (byte group : Nat) :
    Decidable (place.Covers found byte group) :=
  inferInstanceAs (Decidable (∃ span, span ∈ found.span? group ∧
    place.offset span.start ≤ byte ∧ byte < place.offset span.stop))

instance (place : Place) (found : Pattern.Match) (byte group : Nat) :
    Decidable (place.Follows found byte group) :=
  inferInstanceAs (Decidable (∃ span, span ∈ found.span? group ∧
    span.start < span.stop ∧ byte < place.offset span.start))

/-- Among some tokens, a byte is held by those that an action yields for a part of the match, and
by no others. -/
def Emits (place : Place) (nested : Delegated) (tokens : List Token) (byte : Nat)
    (action : GroupAction) (start stop : Nat) : Prop :=
  (place.offset start ≤ byte ∧ byte < place.offset stop) ∧
    ∃ front back, tokens = front ++ (place.group nested start stop action ++ back) ∧
      (∀ token ∈ front, token.stop ≤ byte) ∧ ∀ token ∈ back, byte < token.start

/-- A byte is emitted under the action for a span, as part of what is left of that span, or as
plain text. -/
def Attributes (place : Place) (nested : Delegated) (tokens : List Token) (byte : Nat) :
    Option (Pattern.GroupSpan × GroupAction) → Prop
  | some (span, action) =>
    ∃ start, span.start ≤ start ∧ place.Emits nested tokens byte action start span.stop
  | none => ∃ start stop, place.Emits nested tokens byte (.token .text) start stop

/-- The first group from a number on whose span ends behind a byte, provided that it holds the
byte. -/
def owner? (place : Place) (found : Pattern.Match) (byte : Nat) :
    Nat → List GroupAction → Option (Pattern.GroupSpan × GroupAction)
  | _, [] => none
  | index, action :: rest =>
    match found.span? index with
    | none => place.owner? found byte (index + 1) rest
    | some span =>
      if span.stop ≤ span.start ∨ place.offset span.stop ≤ byte then
        place.owner? found byte (index + 1) rest
      else if place.offset span.start ≤ byte then some (span, action)
      else none

variable {place : Place} {nested : Delegated} {found : Pattern.Match} {byte index : Nat}
  {action : GroupAction} {front back : List GroupAction}

/-! ## The group that decides -/

theorem lt_of_offset_lt (place : Place) {start stop : Nat}
    (less : place.offset start < place.offset stop) : start < stop := by
  by_contra ge
  have := place.offset_mono (Nat.le_of_not_lt ge)
  omega

/-- A group that neither holds the byte nor lies behind it does not decide. -/
theorem owner?_of_apart (apart : ¬ place.Covers found byte index)
    (before : ¬ place.Follows found byte index) :
    place.owner? found byte index (action :: back) = place.owner? found byte (index + 1) back := by
  cases took : found.span? index with
  | none => simp only [owner?, took]
  | some span =>
    have passed : span.stop ≤ span.start ∨ place.offset span.stop ≤ byte := by
      by_contra ends
      by_cases reached : place.offset span.start ≤ byte
      · exact apart ⟨span, took, reached, by omega⟩
      · exact before ⟨span, took, by omega, by omega⟩
    simp only [owner?, took, if_pos passed]

/-- A group behind the byte decides that no group has it. -/
theorem owner?_of_follows (follows : place.Follows found byte index) :
    place.owner? found byte index (action :: back) = none := by
  obtain ⟨span, took, filled, later⟩ := follows
  have := place.offset_mono (Nat.le_of_lt filled)
  simp only [owner?, took]
  rw [if_neg (by omega), if_neg (by omega)]

/-- The lowest of the groups that hold the byte decides, if no lower one lies behind the byte. -/
theorem exists_owner (covers : place.Covers found byte (index + front.length))
    (apart : ∀ lower < front.length, ¬ place.Covers found byte (index + lower))
    (before : ∀ lower < front.length, ¬ place.Follows found byte (index + lower)) :
    ∃ span, found.span? (index + front.length) = some span ∧
      place.owner? found byte index (front ++ action :: back) = some (span, action) := by
  induction front generalizing index with
  | nil =>
    obtain ⟨span, took, first, last⟩ := covers
    have filled := place.lt_of_offset_lt (Nat.lt_of_le_of_lt first last)
    refine ⟨span, took, ?_⟩
    rw [List.length_nil, Nat.add_zero] at took
    simp only [List.nil_append, owner?, took]
    rw [if_neg (by omega), if_pos first]
  | cons head front ih =>
    have next : ∀ lower, index + (lower + 1) = index + 1 + lower := by
      intro lower
      omega
    rw [List.length_cons, next] at covers ⊢
    -- the group in front is out of the way, so that the next one comes first
    have apart_head : ¬ place.Covers found byte index := apart 0 (Nat.zero_lt_succ _)
    have before_head : ¬ place.Follows found byte index := before 0 (Nat.zero_lt_succ _)
    rw [List.cons_append, owner?_of_apart apart_head before_head]
    refine ih covers ?_ ?_
    · intro lower less
      rw [← next]
      exact apart (lower + 1) (Nat.succ_lt_succ less)
    · intro lower less
      rw [← next]
      exact before (lower + 1) (Nat.succ_lt_succ less)

/-- No group has the byte if none holds it, or if one lies behind it and no lower one holds it. -/
theorem owner?_eq_none
    (apart : ∀ lower < front.length, ¬ place.Covers found byte (index + lower))
    (ends : back = [] ∨ ∃ lower < front.length, place.Follows found byte (index + lower)) :
    place.owner? found byte index (front ++ back) = none := by
  induction front generalizing index with
  | nil =>
    rcases ends with rfl | ⟨lower, less, -⟩
    · rfl
    · exact absurd less (Nat.not_lt_zero lower)
  | cons head front ih =>
    have apart_head : ¬ place.Covers found byte index := apart 0 (Nat.zero_lt_succ _)
    rw [List.cons_append]
    by_cases here : place.Follows found byte index
    · exact owner?_of_follows here
    · rw [owner?_of_apart apart_head here]
      refine ih ?_ ?_
      · intro lower less
        have := apart (lower + 1) (Nat.succ_lt_succ less)
        rwa [Nat.add_comm lower, ← Nat.add_assoc] at this
      · rcases ends with nothing | ⟨lower, less, follows⟩
        · exact .inl nothing
        · -- it is not the group in front that lies behind the byte
          cases lower with
          | zero => exact absurd follows here
          | succ lower =>
            rw [Nat.add_comm lower, ← Nat.add_assoc] at follows
            exact .inr ⟨lower, Nat.lt_of_succ_lt_succ less, follows⟩

/-! ## What is emitted -/

/-- A byte between tokens that come before it and tokens that come after it. -/
theorem emits_of_tiles {mark : Nat → Prop} {tokens others : List Token} {low high start stop : Nat}
    (before : Tiles mark low (place.offset start) tokens)
    (behind : Tiles mark (place.offset stop) high others)
    (first : place.offset start ≤ byte) (last : byte < place.offset stop) :
    place.Emits nested (tokens ++ (place.group nested start stop action ++ others)) byte action
      start stop := by
  refine ⟨⟨first, last⟩, tokens, others, rfl, ?_, ?_⟩
  · intro token member
    exact Nat.le_trans (before.within member).2 first
  · intro token member
    exact Nat.lt_of_lt_of_le last (behind.within member).1

/-- Tokens further in front do not matter. -/
theorem Attributes.behind {tokens earlier : List Token}
    {owner : Option (Pattern.GroupSpan × GroupAction)}
    (attributes : place.Attributes nested tokens byte owner)
    (before : ∀ token ∈ earlier, token.stop ≤ byte) :
    place.Attributes nested (earlier ++ tokens) byte owner := by
  have emits {action : GroupAction} {start stop : Nat}
      (emits : place.Emits nested tokens byte action start stop) :
      place.Emits nested (earlier ++ tokens) byte action start stop := by
    obtain ⟨holds, front, back, rfl, left, right⟩ := emits
    refine ⟨holds, earlier ++ front, back, (List.append_assoc _ _ _).symm, ?_, right⟩
    intro token member
    rcases List.mem_append.1 member with member | member
    · exact before token member
    · exact left token member
  cases owner with
  | none =>
    obtain ⟨start, stop, there⟩ := attributes
    exact ⟨start, stop, emits there⟩
  | some owner =>
    obtain ⟨start, le, there⟩ := attributes
    exact ⟨start, le, emits there⟩

/-- **Emitting groups.** The byte is emitted as the group that decides has it. -/
theorem groups_attributes (covers : nested.Covers fun _ => True) {limit : Nat}
    (within : found.Within limit) (actions : List GroupAction) (index : Nat) {done : Nat}
    (first : place.offset done ≤ byte) (last : byte < place.offset found.length) :
    place.Attributes nested (place.groups nested found index done actions) byte
      (place.owner? found byte index actions) := by
  have marks : Marks (fun _ => True) place.position place.cursor.rest := fun _ => trivial
  have nothing {offset : Nat} : Tiles (fun _ => True) offset offset [] := Tiles.nil trivial
  -- the groups in the order of their numbers; all before `done` has been emitted
  induction actions generalizing index done with
  | nil =>
    have emits : place.Emits nested _ byte (.token .text) done found.length :=
      emits_of_tiles nothing nothing first last
    rw [List.nil_append, List.append_nil] at emits
    exact ⟨done, found.length, emits⟩
  | cons action rest ih =>
    cases took : found.span? index with
    | none =>
      simp only [groups, owner?, took]
      exact ih (index + 1) first
    | some span =>
      simp only [groups, owner?, took]
      by_cases passed : span.stop ≤ max span.start done
      · -- the group has nothing that is not covered yet
        have decided : span.stop ≤ span.start ∨ place.offset span.stop ≤ byte := by
          rcases Nat.le_total span.start done with le | le
          · have := place.offset_mono (show span.stop ≤ done by omega)
            exact .inr (by omega)
          · exact .inl (by omega)
        rw [if_pos passed, if_pos decided]
        exact ih (index + 1) first
      · rw [if_neg passed, List.append_assoc]
        have inside := within.span?_le took
        have gap := place.span_tiles marks .text (Nat.le_max_right span.start done)
        have group := place.group_tiles marks covers action
          (Nat.le_of_lt (Nat.lt_of_not_le passed))
        have later := place.groups_tiles marks covers within rest (index + 1) inside
        by_cases ended : place.offset span.stop ≤ byte
        · rw [if_pos (.inr ended), ← List.append_assoc]
          refine (ih (index + 1) ended).behind ?_
          intro token member
          exact Nat.le_trans ((gap.append group).within member).2 ended
        · rw [if_neg (by omega)]
          by_cases reached : place.offset span.start ≤ byte
          · -- the part of the group that is left begins at or before the byte
            rw [if_pos reached]
            have begins : place.offset (max span.start done) ≤ byte := by
              rcases Nat.le_total span.start done with le | le
              · rw [Nat.max_eq_right le]
                exact first
              · rw [Nat.max_eq_left le]
                exact reached
            exact ⟨max span.start done, Nat.le_max_left _ _,
              emits_of_tiles gap later begins (Nat.lt_of_not_le ended)⟩
          · -- the group lies behind the byte, and so does all that is emitted after it
            rw [if_neg reached]
            have le : done ≤ span.start := Nat.le_of_lt (place.lt_of_offset_lt (by omega))
            rw [Nat.max_eq_left le] at group ⊢
            have emits : place.Emits nested _ byte (.token .text) done span.start :=
              emits_of_tiles nothing (group.append later) first (Nat.lt_of_not_le reached)
            exact ⟨done, span.start, emits⟩

/-! ## The lowest group -/

/-- Of the groups with listed actions that hold a byte, the one with the lowest number, counted
from 0. -/
structure Lowest (place : Place) (found : Pattern.Match) (actions : List GroupAction)
    (byte group : Nat) (action : GroupAction) : Prop where
  listed : actions[group]? = some action
  covers : place.Covers found byte (group + 1)
  apart : ∀ lower < group, ¬ place.Covers found byte (lower + 1)

/-- A byte is emitted under the action of a group. -/
def EmitsGroup (place : Place) (nested : Delegated) (found : Pattern.Match) (tokens : List Token)
    (byte group : Nat) (action : GroupAction) : Prop :=
  ∃ span, found.span? group = some span ∧
    place.Attributes nested tokens byte (some (span, action))

/-- A byte is emitted as plain text. -/
def EmitsText (place : Place) (nested : Delegated) (tokens : List Token) (byte : Nat) : Prop :=
  place.Attributes nested tokens byte none

/-- Each byte that groups hold is emitted under the action of the lowest of them. -/
def EmitsLowest (place : Place) (nested : Delegated) (found : Pattern.Match)
    (actions : List GroupAction) (tokens : List Token) : Prop :=
  ∀ byte group action, byte < place.offset found.length →
    place.Lowest found actions byte group action →
    place.EmitsGroup nested found tokens byte (group + 1) action

variable {actions : List GroupAction} {group : Nat}

/-- The actions listed before and after that of the lowest group. -/
theorem Lowest.exists_parts (lowest : place.Lowest found actions byte group action) :
    ∃ front back, actions = front ++ action :: back ∧ front.length = group ∧
      place.Covers found byte (1 + front.length) ∧
      ∀ lower < front.length, ¬ place.Covers found byte (1 + lower) := by
  obtain ⟨listed, covers, apart⟩ := lowest
  obtain ⟨lt, rfl⟩ := List.getElem?_eq_some_iff.1 listed
  have length : (actions.take group).length = group := List.length_take_of_le (Nat.le_of_lt lt)
  refine ⟨actions.take group, actions.drop (group + 1), ?_, length, ?_, ?_⟩
  · rw [← List.drop_eq_getElem_cons lt, List.take_append_drop]
  · rw [length, Nat.add_comm]
    exact covers
  · intro lower less
    rw [Nat.add_comm]
    exact apart lower (by omega)

/-- The lowest group has the byte, if no lower one lies behind it. -/
theorem Lowest.exists_owner (lowest : place.Lowest found actions byte group action)
    (before : ∀ lower < group, ¬ place.Follows found byte (lower + 1)) :
    ∃ span, found.span? (group + 1) = some span ∧
      place.owner? found byte 1 actions = some (span, action) := by
  obtain ⟨front, back, rfl, rfl, covers, apart⟩ := lowest.exists_parts
  rw [Nat.add_comm front.length 1]
  refine Place.exists_owner covers apart ?_
  intro lower less
  rw [Nat.add_comm]
  exact before lower less

/-- No group has the byte, if one lower than the lowest lies behind it. -/
theorem Lowest.owner?_eq_none (lowest : place.Lowest found actions byte group action)
    (before : ∃ lower < group, place.Follows found byte (lower + 1)) :
    place.owner? found byte 1 actions = none := by
  obtain ⟨front, back, rfl, rfl, -, apart⟩ := lowest.exists_parts
  obtain ⟨lower, less, follows⟩ := before
  rw [Nat.add_comm] at follows
  exact Place.owner?_eq_none apart (.inr ⟨lower, less, follows⟩)

/-- No group has a byte that none of them holds. -/
theorem owner?_of_uncovered
    (apart : ∀ group < actions.length, ¬ place.Covers found byte (group + 1)) :
    place.owner? found byte 1 actions = none := by
  rw [← List.append_nil actions]
  refine Place.owner?_eq_none ?_ (.inl rfl)
  intro lower less
  rw [Nat.add_comm]
  exact apart lower less

end Place

/-! ## Steps -/

namespace Scan

/-- Where a scan stands. -/
def place (scan : Scan) : Place := ⟨scan.stack.top, scan.position, scan.cursor⟩

variable {machine : Machine} {scan : Scan} {rule : Rule} {found : Pattern.Match}
  {actions : List GroupAction}

/-- The tokens of a step are those of its match. -/
theorem step_of_firstMatch? (nested : Delegated)
    (first : firstMatch? scan.cursor (machine.rulesOf scan.stack.top) = some (rule, found))
    (taken : 0 < found.length) :
    (scan.step nested machine).1 = scan.place.emit nested found rule.action := by
  unfold step
  simp only [first]
  rw [if_neg (Nat.ne_of_gt taken)]
  rfl

/-- **Attribution.** A step that takes text with a rule for groups, at any level of nesting, emits
a byte of the match under the action of the lowest of the groups that hold it, if no lower group
lies behind the byte. If one does, or if no group holds the byte, it is plain text. -/
theorem step_attributes (levels : Nat)
    (first : firstMatch? scan.cursor (machine.rulesOf scan.stack.top) = some (rule, found))
    (listed : rule.action = .groups actions) {byte : Nat} (begins : scan.position ≤ byte)
    (ends : byte < scan.place.offset found.length) :
    (∀ group action, scan.place.Lowest found actions byte group action →
        ((∀ lower < group, ¬ scan.place.Follows found byte (lower + 1)) →
          scan.place.EmitsGroup (delegated machine levels) found
            (scan.step (delegated machine levels) machine).1 byte (group + 1) action) ∧
        ((∃ lower < group, scan.place.Follows found byte (lower + 1)) →
          scan.place.EmitsText (delegated machine levels)
            (scan.step (delegated machine levels) machine).1 byte)) ∧
      ((∀ group < actions.length, ¬ scan.place.Covers found byte (group + 1)) →
        scan.place.EmitsText (delegated machine levels)
          (scan.step (delegated machine levels) machine).1 byte) := by
  have taken : 0 < found.length := by
    by_contra nothing
    have := scan.place.offset_mono (Nat.le_of_not_lt nothing)
    rw [scan.place.offset_zero] at this
    have : scan.place.position = scan.position := rfl
    omega
  have within := Pattern.match?_within (of_firstMatch? first).2
  have start : scan.place.offset 0 ≤ byte := by
    rw [scan.place.offset_zero]
    exact begins
  have emitted := scan.place.groups_attributes
    (delegated_tiles (fun _ => True) machine levels) within actions 1 start ends
  rw [step_of_firstMatch? _ first taken, listed]
  change scan.place.Attributes _ (scan.place.emit _ found (.groups actions)) byte _ at emitted
  refine ⟨?_, ?_⟩
  · intro group action lowest
    refine ⟨?_, ?_⟩
    · intro before
      obtain ⟨span, took, owner⟩ := lowest.exists_owner before
      rw [owner] at emitted
      exact ⟨span, took, emitted⟩
    · intro before
      rw [lowest.owner?_eq_none before] at emitted
      exact emitted
  · intro apart
    rw [Place.owner?_of_uncovered apart] at emitted
    exact emitted

/-- A grammar of one rule, for letters in any order, each with a group of its own. -/
def letters : Grammar where
  config := ⟨"letters", [], [], [], .zero, ⟨false, false, false⟩⟩
  states := [
    ⟨"root", [
      ⟨"(?:(a)|(b))+", none, none, none, none, none, some [.token "Name", .token "Keyword"],
        none⟩]⟩]

/-- The first rule that matches in the root is found by building the grammar. -/
theorem exists_firstMatch {grammar : Grammar} {cursor : Cursor} {action : Action}
    (computed : (grammar.build.toOption.bind fun machine =>
      (firstMatch? cursor (machine.rulesOf rootState)).map fun first =>
        (first.1.action, first.2)) = some (action, found)) :
    ∃ machine rule, grammar.build = .ok machine ∧
      firstMatch? cursor (machine.rulesOf rootState) = some (rule, found) ∧
      rule.action = action := by
  cases built : grammar.build with
  | error cause =>
    rw [built] at computed
    exact nomatch computed
  | ok machine =>
    rw [built] at computed
    obtain ⟨⟨rule, found'⟩, first, same⟩ := Option.map_eq_some_iff.1 computed
    obtain ⟨rfl, rfl⟩ := Prod.mk.inj same
    exact ⟨machine, rule, rfl, first, rfl⟩

/-- The second letter goes to the second group, since the first one lies before it. -/
theorem step_attributes_letters : ∃ machine rule found scan,
    letters.build = .ok machine ∧ scan = start rootState 0 ⟨none, ['a', 'b'], none⟩ ∧
      firstMatch? scan.cursor (machine.rulesOf scan.stack.top) = some (rule, found) ∧
      rule.action = .groups [.token .name, .token .keyword] ∧
      scan.position ≤ 1 ∧ 1 < scan.place.offset found.length ∧
      scan.place.EmitsGroup (delegated machine maxNesting) found
        (scan.step (delegated machine maxNesting) machine).1 1 2 (.token .keyword) := by
  let found : Pattern.Match := ⟨2, [⟨2, 1, 2⟩, ⟨1, 0, 1⟩]⟩
  let scan : Scan := start rootState 0 ⟨none, ['a', 'b'], none⟩
  obtain ⟨machine, rule, built, first, listed⟩ :=
    @exists_firstMatch found letters scan.cursor (.groups [.token .name, .token .keyword])
      (by decide +kernel)
  have ends : 1 < scan.place.offset found.length := by decide
  have lowest : scan.place.Lowest found [.token .name, .token .keyword] 1 1 (.token .keyword) :=
    ⟨rfl, by decide, by decide⟩
  have before : ∀ lower < 1, ¬ scan.place.Follows found 1 (lower + 1) := by decide
  refine ⟨machine, rule, found, scan, built, rfl, first, listed, by decide, ends, ?_⟩
  exact ((step_attributes maxNesting first listed (by decide) ends).1 1 (.token .keyword)
    lowest).1 before

/-- The first letter does not go to the second group, though it is the only one that holds it. -/
theorem not_emitsLowest : ∃ machine rule found scan,
    letters.build = .ok machine ∧ scan = start rootState 0 ⟨none, ['b', 'a'], none⟩ ∧
      firstMatch? scan.cursor (machine.rulesOf scan.stack.top) = some (rule, found) ∧
      rule.action = .groups [.token .name, .token .keyword] ∧
      ¬ scan.place.EmitsLowest (delegated machine maxNesting) found
        [.token .name, .token .keyword] (scan.step (delegated machine maxNesting) machine).1 := by
  let found : Pattern.Match := ⟨2, [⟨1, 1, 2⟩, ⟨2, 0, 1⟩]⟩
  let scan : Scan := start rootState 0 ⟨none, ['b', 'a'], none⟩
  obtain ⟨machine, rule, built, first, listed⟩ :=
    @exists_firstMatch found letters scan.cursor (.groups [.token .name, .token .keyword])
      (by decide +kernel)
  refine ⟨machine, rule, found, scan, built, rfl, first, listed, ?_⟩
  intro emits
  have lowest : scan.place.Lowest found [.token .name, .token .keyword] 0 1 (.token .keyword) :=
    ⟨rfl, by decide, by decide⟩
  obtain ⟨span, -, first', -, ⟨begins, ends⟩, front, back, tokens, -⟩ :=
    emits 0 1 (.token .keyword) (by decide) lowest
  have step : (scan.step (delegated machine maxNesting) machine).1 =
      [⟨.text, 0, 1⟩, ⟨.name, 1, 1⟩] := by
    rw [step_of_firstMatch? _ first (by decide), listed]
    rfl
  rw [step, Place.group, Place.span, Token.spanning,
    if_pos (Nat.lt_of_le_of_lt begins ends)] at tokens
  -- the tokens of the step would have to include a keyword
  have among : Kind.keyword ∈ [Kind.text, Kind.name] := by
    have kinds := congrArg (List.map Token.kind) tokens
    rw [List.map_append] at kinds
    change [Kind.text, Kind.name] = _ at kinds
    rw [kinds]
    exact List.mem_append_right _ List.mem_cons_self
  exact absurd among (by decide)

end Scan

end GrammarLexer
