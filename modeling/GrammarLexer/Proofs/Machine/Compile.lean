import GrammarLexer.Proofs.Machine.Directive
import Mathlib.Tactic.Tauto

/-!
# What the rules of a grammar compile to

Compiling succeeds or fails rule by rule, except that the lists of states to be pushed
as one must get along with each other: `WellNoted` says of some lists, in no order, that
their members are declared and that each has a name of its own. `item_eq_ok`,
`items_eq_ok` and `allItems_eq_ok` reduce the pass over all rules to this and to
`Compiled`. What it leaves for each state is found again by `forall₂_itemsOf`.
-/

namespace GrammarLexer

/-- The lists of states that some rules push as one. -/
def combinedLists (rules : List RuleDecl) : List (List String) :=
  rules.flatMap (·.combined.toList)

namespace RuleContext

variable {context : RuleContext}

/-! ## Lists of states to be pushed as one -/

/-- Note a list, unless it has been noted before. -/
def noteOnce (noted : List (List String)) (members : List String) : List (List String) :=
  if members ∈ noted then noted else noted ++ [members]

/-- The members of some lists are declared, and each list has a name of its own. -/
structure WellNoted (context : RuleContext) (lists : List (List String)) : Prop where
  members : ∀ members ∈ lists, ∀ name ∈ members, name ∈ context.declared
  fresh : ∀ members ∈ lists, combinedName members ∉ context.declared
  apart : ∀ left ∈ lists, ∀ right ∈ lists, combinedName left = combinedName right → left = right

variable {noted : List (List String)}

/-- Fewer lists get along if more do. -/
theorem WellNoted.mono {lists fewer : List (List String)} (well : context.WellNoted lists)
    (subset : fewer ⊆ lists) : context.WellNoted fewer where
  members members member := well.members members (subset member)
  fresh members member := well.fresh members (subset member)
  apart left member right member' := well.apart left (subset member) right (subset member')

/-- What has been noted, in the order of first use. -/
theorem mem_foldl_noteOnce {lists : List (List String)} {members : List String} :
    members ∈ lists.foldl noteOnce noted ↔ members ∈ noted ∨ members ∈ lists := by
  induction lists generalizing noted with
  | nil => simp
  | cons first rest ih =>
    have once : members ∈ noteOnce noted first ↔ members ∈ noted ∨ members = first := by
      unfold noteOnce
      by_cases known : first ∈ noted
      · rw [if_pos known]
        constructor
        · exact .inl
        · rintro (old | rfl)
          · exact old
          · exact known
      · rw [if_neg known, List.mem_append, List.mem_singleton]
    rw [List.foldl_cons, ih, once, List.mem_cons, or_assoc]

/-- A list gets along with others if its members are declared and neither a state nor
another list has its name. -/
theorem WellNoted.cons_iff (well : context.WellNoted noted) {members : List String}
    (unknown : members ∉ noted) : context.WellNoted (members :: noted) ↔
      (∀ name ∈ members, name ∈ context.declared) ∧
        combinedName members ∉ context.declared ∧
          combinedName members ∉ noted.map combinedName := by
  constructor
  · intro all
    have here : members ∈ members :: noted := List.mem_cons_self
    refine ⟨all.members members here, all.fresh members here, ?_⟩
    intro taken
    obtain ⟨other, member, same⟩ := List.mem_map.1 taken
    exact unknown (all.apart other (List.mem_cons_of_mem _ member) members here same ▸ member)
  · rintro ⟨declared, fresh, apart⟩
    refine ⟨List.forall_mem_cons.2 ⟨declared, well.members⟩,
      List.forall_mem_cons.2 ⟨fresh, well.fresh⟩, ?_⟩
    intro left member right member' same
    rcases List.mem_cons.1 member with here | member <;>
      rcases List.mem_cons.1 member' with here' | member'
    · rw [here, here']
    · exact absurd (List.mem_map.2 ⟨right, member', by rw [← same, here]⟩) apart
    · exact absurd (List.mem_map.2 ⟨left, member, by rw [same, here']⟩) apart
    · exact well.apart left member right member' same

/-- A list can be noted if it gets along with those before it. -/
theorem note_eq_ok (well : context.WellNoted noted) {members : List String}
    {noted' : List (List String)} : context.note noted members = .ok noted' ↔
      context.WellNoted (members :: noted) ∧ noteOnce noted members = noted' := by
  unfold RuleContext.note noteOnce
  by_cases known : members ∈ noted
  · have same : context.WellNoted (members :: noted) :=
      well.mono (List.cons_subset.2 ⟨known, fun _ member => member⟩)
    simp [known, same]
  · rw [well.cons_iff known, if_neg (by simpa using known), if_neg known]
    cases undeclared : members.find? fun member => !context.declared.contains member with
    | some member =>
      have missing : member ∉ context.declared := by
        simpa using List.find?_some undeclared
      have member := List.mem_of_find?_eq_some undeclared
      constructor
      · intro found
        exact nomatch found
      · rintro ⟨⟨declared, -⟩, -⟩
        exact absurd (declared _ member) missing
    | none =>
      have declared : ∀ name ∈ members, name ∈ context.declared := by
        simpa using undeclared
      by_cases taken : combinedName members ∈ context.declared ∨
          combinedName members ∈ noted.map combinedName
      · simp only [List.contains_eq_mem, ← Bool.decide_or, decide_eq_true_eq, if_pos taken]
        constructor
        · intro found
          exact nomatch found
        · rintro ⟨⟨-, fresh, apart⟩, -⟩
          exact (taken.elim fresh apart).elim
      · obtain ⟨fresh, apart⟩ := not_or.1 taken
        simp only [List.contains_eq_mem, ← Bool.decide_or, decide_eq_true_eq, if_neg taken,
          Except.ok.injEq]
        constructor
        · intro same
          exact ⟨⟨declared, fresh, apart⟩, same⟩
        · rintro ⟨-, same⟩
          exact same

/-! ## One rule after the other -/

/-- Note the list of states that a rule pushes as one, if there is one. -/
def noteRule (context : RuleContext) (noted : List (List String)) (rule : RuleDecl) :
    Except GrammarError (List (List String)) :=
  match rule.combined with
  | some members => context.note noted members
  | none => .ok noted

/-- The list of a rule can be noted if it gets along with those before it. -/
theorem noteRule_eq_ok (well : context.WellNoted noted) {rule : RuleDecl}
    {noted' : List (List String)} : context.noteRule noted rule = .ok noted' ↔
      context.WellNoted (rule.combined.toList ++ noted) ∧
        rule.combined.toList.foldl noteOnce noted = noted' := by
  unfold noteRule
  cases rule.combined with
  | some members => exact note_eq_ok well
  | none => simp [well]

/-- A rule of its own is compiled in four steps. -/
theorem item_of_splice_eq_none {rule : RuleDecl} (splice : rule.splice = none)
    (state : String) (index : Nat) : context.item state index noted rule =
      (context.program state index rule >>= fun program =>
        context.action state index rule >>= fun action =>
          context.noteRule noted rule >>= fun noted =>
            context.move rule >>= fun move =>
              .ok (.rule ⟨rule.pattern, program, action, move⟩, noted)) := by
  unfold RuleContext.item noteRule
  rw [splice]
  cases rule.combined <;> rfl

/-- **One rule.** A rule becomes an item if its list gets along with those before it. -/
theorem item_eq_ok {rule : RuleDecl} (free : rule.conflict? = none)
    (well : context.WellNoted noted) {state : String} {index : Nat} {item : Item}
    {noted' : List (List String)} :
    context.item state index noted rule = .ok (item, noted') ↔
      context.Compiled rule item ∧ context.WellNoted (rule.combined.toList ++ noted) ∧
        rule.combined.toList.foldl noteOnce noted = noted' := by
  cases splice : rule.splice with
  | some target =>
    -- an include goes with no other directive, so nothing is noted
    have combined : rule.combined = none :=
      (RuleDecl.eq_none_of_splice free (by simp [splice])).2.2.1
    cases item with
    | splice found =>
      simp only [RuleContext.item, bind_eq_ok, declaredState_eq_ok, Compiled, splice, combined]
      simp only [Except.ok.injEq, Prod.mk.injEq, Item.splice.injEq, Option.some.injEq,
        Option.toList_none, List.nil_append, List.foldl_nil, well, true_and]
      constructor
      · rintro ⟨_, ⟨declared, rfl⟩, rfl, rfl⟩
        exact ⟨⟨rfl, declared⟩, rfl⟩
      · rintro ⟨⟨rfl, declared⟩, rfl⟩
        exact ⟨target, ⟨declared, rfl⟩, rfl, rfl⟩
    | rule result =>
      simp [RuleContext.item, bind_eq_ok, declaredState_eq_ok, Compiled, splice]
  | none =>
    rw [item_of_splice_eq_none splice]
    simp only [bind_eq_ok, program_eq_ok, noteRule_eq_ok well, Except.ok.injEq,
      Prod.mk.injEq]
    constructor
    · rintro ⟨program, compiled, action, acts, _, notes, move, moves, rfl, rfl⟩
      exact ⟨⟨splice, rfl, compiled, ⟨state, index, acts⟩, moves⟩, notes⟩
    · rintro ⟨compiled, notes⟩
      cases item with
      | splice target => exact absurd (splice.symm.trans compiled.1) (by simp)
      | rule result =>
        obtain ⟨-, pattern, program, ⟨_, _, acts⟩, moves⟩ := compiled
        refine ⟨_, program, _, action_congr acts, _, notes, _, moves, ?_, rfl⟩
        rw [pattern]

/-! ## All rules -/

/-- It does not matter for getting along that lists are noted once. -/
theorem wellNoted_append_foldl {lists more : List (List String)} :
    context.WellNoted (more ++ lists.foldl noteOnce noted) ↔
      context.WellNoted (lists ++ more ++ noted) := by
  constructor <;> intro well <;> apply well.mono <;> intro members member <;>
    simp only [List.mem_append, mem_foldl_noteOnce] at member ⊢ <;> tauto

/-- Lists that get along can be noted. -/
theorem WellNoted.foldl {lists : List (List String)}
    (well : context.WellNoted (lists ++ noted)) :
    context.WellNoted (lists.foldl noteOnce noted) :=
  well.mono fun _ member => List.mem_append.2 (mem_foldl_noteOnce.1 member).symm

/-- Noting some lists and then more is noting all of them. -/
theorem wellNoted_and_foldl {lists more noted' : List (List String)} :
    (context.WellNoted (lists ++ noted) ∧
        context.WellNoted (more ++ lists.foldl noteOnce noted) ∧
          more.foldl noteOnce (lists.foldl noteOnce noted) = noted') ↔
      context.WellNoted (lists ++ more ++ noted) ∧
        (lists ++ more).foldl noteOnce noted = noted' := by
  rw [wellNoted_append_foldl, List.foldl_append]
  -- what comes first gets along if everything does
  apply and_iff_right_of_imp
  intro both
  apply both.1.mono
  intro members member
  simp only [List.mem_append] at member ⊢
  tauto

/-- The rules of a state become items if their lists get along. -/
theorem items_eq_ok {rules : List RuleDecl} (free : ∀ rule ∈ rules, rule.conflict? = none)
    (well : context.WellNoted noted) {state : String} {index : Nat} {items : List Item}
    {noted' : List (List String)} :
    context.items state index noted rules = .ok (items, noted') ↔
      List.Forall₂ context.Compiled rules items ∧
        context.WellNoted (combinedLists rules ++ noted) ∧
          (combinedLists rules).foldl noteOnce noted = noted' := by
  induction rules generalizing noted index items with
  | nil => simp [RuleContext.items, combinedLists, well]
  | cons rule rest ih =>
    obtain ⟨here, others⟩ := List.forall_mem_cons.1 free
    have lists : combinedLists (rule :: rest) = rule.combined.toList ++ combinedLists rest := rfl
    rw [lists, ← wellNoted_and_foldl, List.forall₂_cons_left_iff]
    simp only [RuleContext.items, bind_eq_ok, Prod.exists, Except.ok.injEq, Prod.mk.injEq]
    constructor
    · rintro ⟨item, _, found, items, _, found', rfl, rfl⟩
      obtain ⟨compiled, well', rfl⟩ := (item_eq_ok here well).1 found
      obtain ⟨others, notes⟩ := (ih others well'.foldl).1 found'
      exact ⟨⟨item, items, compiled, others, rfl⟩, well', notes⟩
    · rintro ⟨⟨item, items, compiled, compileds, rfl⟩, well', notes⟩
      refine ⟨item, _, (item_eq_ok here well).2 ⟨compiled, well', rfl⟩, items, _, ?_, rfl, rfl⟩
      exact (ih others well'.foldl).2 ⟨compileds, notes⟩

/-- The items of a state. -/
def CompiledState (context : RuleContext) (state : StateDecl) (entry : String × List Item) :
    Prop :=
  state.name = entry.1 ∧ List.Forall₂ context.Compiled state.rules entry.2

/-- **All rules.** The rules of all states become items if their lists get along. -/
theorem allItems_eq_ok {states : List StateDecl}
    (free : ∀ state ∈ states, ∀ rule ∈ state.rules, rule.conflict? = none)
    (well : context.WellNoted noted) {items : List (String × List Item)}
    {noted' : List (List String)} :
    context.allItems noted states = .ok (items, noted') ↔
      List.Forall₂ context.CompiledState states items ∧
        context.WellNoted (combinedLists (states.flatMap (·.rules)) ++ noted) ∧
          (combinedLists (states.flatMap (·.rules))).foldl noteOnce noted = noted' := by
  induction states generalizing noted items with
  | nil => simp [RuleContext.allItems, combinedLists, well]
  | cons state rest ih =>
    obtain ⟨here, others⟩ := List.forall_mem_cons.1 free
    have lists : combinedLists ((state :: rest).flatMap (·.rules)) =
        combinedLists state.rules ++ combinedLists (rest.flatMap (·.rules)) := by
      simp only [combinedLists, List.flatMap_cons, List.flatMap_append]
    rw [lists, ← wellNoted_and_foldl, List.forall₂_cons_left_iff]
    simp only [RuleContext.allItems, bind_eq_ok, Prod.exists, Except.ok.injEq, Prod.mk.injEq]
    constructor
    · rintro ⟨items, _, found, entries, _, found', rfl, rfl⟩
      obtain ⟨compiled, well', rfl⟩ := (items_eq_ok here well).1 found
      obtain ⟨compileds, notes⟩ := (ih others well'.foldl).1 found'
      exact ⟨⟨_, _, entries, ⟨rfl, compiled⟩, compileds, rfl⟩, well', notes⟩
    · rintro ⟨⟨_, items, entries, ⟨rfl, compiled⟩, compileds, rfl⟩, well', notes⟩
      refine ⟨items, _, (items_eq_ok here well).2 ⟨compiled, well', rfl⟩, entries, _, ?_,
        rfl, rfl⟩
      exact (ih others well'.foldl).2 ⟨compileds, notes⟩

/-- All rules become items if each one does. -/
theorem exists_items {rules : List RuleDecl} :
    (∃ items, List.Forall₂ context.Compiled rules items) ↔
      ∀ rule ∈ rules, ∃ item, context.Compiled rule item := by
  induction rules with
  | nil => simp
  | cons rule rest ih =>
    rw [List.forall_mem_cons, ← ih]
    constructor
    · rintro ⟨_, _ | ⟨compiled, others⟩⟩
      exact ⟨⟨_, compiled⟩, _, others⟩
    · rintro ⟨⟨item, compiled⟩, items, others⟩
      exact ⟨item :: items, .cons compiled others⟩

/-- So do the rules of all states. -/
theorem exists_compiledStates {states : List StateDecl} :
    (∃ items, List.Forall₂ context.CompiledState states items) ↔
      ∀ rule ∈ states.flatMap (·.rules), ∃ item, context.Compiled rule item := by
  induction states with
  | nil => simp
  | cons state rest ih =>
    rw [List.flatMap_cons, List.forall_mem_append, ← ih, ← exists_items]
    constructor
    · rintro ⟨_, _ | ⟨⟨-, compiled⟩, others⟩⟩
      exact ⟨⟨_, compiled⟩, _, others⟩
    · rintro ⟨⟨items, compiled⟩, entries, others⟩
      exact ⟨(state.name, items) :: entries, .cons ⟨rfl, compiled⟩ others⟩

end RuleContext

/-! ## The items of a state -/

/-- The items of a state. -/
def itemsOf (items : List (String × List Item)) (name : String) : List Item :=
  (items.lookup name).getD []

section CompiledStates

variable {context : RuleContext} {states : List StateDecl} {items : List (String × List Item)}

/-- States have items under their names. -/
theorem names_of_compiledStates (compiled : List.Forall₂ context.CompiledState states items) :
    items.map (·.1) = states.map (·.name) := by
  induction compiled with
  | nil => rfl
  | cons here _ ih => rw [List.map_cons, List.map_cons, ih, here.1]

/-- A name that no state has has no items. -/
theorem itemsOf_eq_nil (compiled : List.Forall₂ context.CompiledState states items)
    {name : String} (unknown : name ∉ states.map (·.name)) : itemsOf items name = [] := by
  rw [← names_of_compiledStates compiled, List.mem_map] at unknown
  have missing : items.lookup name = none := by
    rw [List.lookup_eq_none_iff]
    intro entry member
    exact bne_iff_ne.2 fun same => unknown ⟨entry, member, same.symm⟩
  rw [itemsOf, missing, Option.getD_none]

/-- The items of a state are what its rules become. -/
theorem forall₂_itemsOf (compiled : List.Forall₂ context.CompiledState states items)
    (distinct : (states.map (·.name)).Nodup) {state : StateDecl} (member : state ∈ states) :
    List.Forall₂ context.Compiled state.rules (itemsOf items state.name) := by
  induction compiled with
  | nil => exact absurd member List.not_mem_nil
  | @cons first entry rest entries here others ih =>
    obtain ⟨name, body⟩ := entry
    obtain ⟨rfl, bodies⟩ := here
    obtain ⟨absent, distinct⟩ := List.nodup_cons.1 distinct
    rcases List.mem_cons.1 member with rfl | later
    · rw [itemsOf, List.lookup_cons_self]
      exact bodies
    · have other : state.name ≠ first.name := by
        intro same
        exact absent (List.mem_map.2 ⟨state, later, same⟩)
      rw [itemsOf, List.lookup_cons, beq_false_of_ne other]
      exact ih distinct later

/-- A rule with an include becomes the include of that state, and no other rule does. -/
theorem splice_mem_iff {rules : List RuleDecl} {body : List Item}
    (compiled : List.Forall₂ context.Compiled rules body) {target : String} :
    .splice target ∈ body ↔ ∃ rule ∈ rules, rule.splice = some target := by
  induction compiled with
  | nil => simp
  | @cons rule item rest items here _ ih =>
    have same : .splice target = item ↔ rule.splice = some target := by
      cases item with
      | splice found => simp [here.1, eq_comm]
      | rule result => simp [here.1]
    rw [List.mem_cons, List.exists_mem_cons_iff, ih, same]

end CompiledStates

end GrammarLexer
