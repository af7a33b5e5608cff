import GrammarLexer.Proofs.Machine.Acceptance

/-!
# Machines that refer to their own states only

The machine of a grammar has a state for every name in its rules (`closed_of_build`), the
lists to be pushed as one included, and for the root. Each rule of the machine stems from
a rule of the grammar, since replacing includes only moves rules about
(`Ordered.exists_owner`).
-/

namespace GrammarLexer

/-! ## Names in compiled rules -/

/-- The state that a target names. -/
def Target.names : Target → List String
  | .current => []
  | .named state => [state]

/-- The state that a group names. -/
def GroupAction.names : GroupAction → List String
  | .token _ => []
  | .delegate target => target.names

/-- The states that an action names. -/
def Action.names : Action → List String
  | .groups actions => actions.flatMap GroupAction.names
  | .delegate target => target.names
  | _ => []

/-- The state that a move names. -/
def Move.names : Move → List String
  | .push target => target.names
  | _ => []

/-- The states that a rule names. -/
def Rule.names (rule : Rule) : List String := rule.action.names ++ rule.move.names

namespace Machine

/-- The machine has the root, and all states that its rules name. -/
structure Closed (machine : Machine) : Prop where
  root : rootState ∈ machine.stateNames
  names : ∀ state ∈ machine.states, ∀ rule ∈ state.rules, ∀ name ∈ rule.names,
    name ∈ machine.stateNames

/-- A name is known if a state has it. -/
theorem knows_iff {machine : Machine} {name : String} :
    machine.knows name = true ↔ name ∈ machine.stateNames :=
  List.contains_iff_mem

/-- The rules of any state name states of the machine only. -/
theorem Closed.rulesOf {machine : Machine} (closed : machine.Closed) {state name : String}
    {rule : Rule} (member : rule ∈ machine.rulesOf state) (named : name ∈ rule.names) :
    name ∈ machine.stateNames := by
  unfold Machine.rulesOf at member
  split at member
  · rename_i found
    exact closed.names _ (List.mem_of_find?_eq_some found) rule member name named
  · exact absurd member List.not_mem_nil

end Machine

/-! ## What compiled rules name -/

namespace RuleContext

variable {context : RuleContext} {name : String}

/-- A target names a declared state. -/
theorem names_of_target {given : Option String} {target : Target}
    (found : context.target given = .ok target) (named : name ∈ target.names) :
    name ∈ context.declared := by
  obtain ⟨refers, rfl⟩ := target_eq_ok.1 found
  cases given with
  | none => exact absurd named List.not_mem_nil
  | some given =>
    rw [Target.ofName] at named
    by_cases special : given = "" ∨ given = pushCurrent
    · rw [if_pos special] at named
      exact absurd named List.not_mem_nil
    · rw [if_neg special] at named
      obtain rfl := List.mem_singleton.1 named
      obtain ⟨filled, other⟩ := not_or.1 special
      exact ((refers name rfl).resolve_left filled).resolve_left other

theorem names_of_groupActs {group : GroupDecl} {action : GroupAction}
    (acts : context.GroupActs group action) (named : name ∈ action.names) :
    name ∈ context.declared := by
  cases acts with
  | token known => exact absurd named List.not_mem_nil
  | delegate refers => exact names_of_target refers named

/-- The action of a rule names declared states. -/
theorem names_of_acts {token : Option String} {groups : Option (List GroupDecl)}
    {delegate : Option Delegate} {action : Action}
    (acts : context.Acts token groups delegate action) (named : name ∈ action.names) :
    name ∈ context.declared := by
  cases acts with
  | token known => exact absurd named List.not_mem_nil
  | groups each =>
    obtain ⟨action, member, named⟩ := List.mem_flatMap.1 named
    obtain ⟨group, -, acts⟩ := exists_of_forall₂ each member
    exact names_of_groupActs acts named
  | delegate refers => exact names_of_target refers named
  | nothing => exact absurd named List.not_mem_nil

/-- The move of a rule names a declared state, or the one for the list of the rule. -/
theorem names_of_moves {combined : Option (List String)} {push : Option String}
    {pop : Option Nat} {move : Move} (moves : context.Moves combined push pop move)
    (named : name ∈ move.names) :
    name ∈ context.declared ∨ ∃ members ∈ combined, combinedName members = name := by
  cases moves with
  | @combined members => exact .inr ⟨members, rfl, (List.mem_singleton.1 named).symm⟩
  | push refers => exact .inl (names_of_target refers named)
  | pop => exact absurd named List.not_mem_nil
  | stay => exact absurd named List.not_mem_nil

end RuleContext

/-! ## Where rules come from -/

/-- The rules of a state that is done are items of some state. -/
theorem Resolved.Ordered.exists_owner {items : List (String × List Item)}
    {resolved : Resolved} (ordered : resolved.Ordered items) {name : String} {rule : Rule}
    (member : rule ∈ resolved.rulesOf name) : ∃ owner, .rule rule ∈ itemsOf items owner := by
  induction resolved generalizing name with
  | nil => exact absurd member List.not_mem_nil
  | cons entry older ih =>
    obtain ⟨first, rules⟩ := entry
    obtain ⟨-, -, rfl, ordered⟩ := ordered
    by_cases here : name = first
    · subst here
      rw [Resolved.rulesOf, List.lookup_cons_self, Option.getD_some] at member
      obtain ⟨item, within, expanded⟩ := List.mem_flatMap.1 member
      cases item with
      | rule own =>
        obtain rfl := List.mem_singleton.1 expanded
        exact ⟨name, within⟩
      | splice target => exact ih ordered expanded
    · rw [Resolved.rulesOf, List.lookup_cons, beq_false_of_ne here] at member
      exact ih ordered member

/-- The states of a machine, declared ones first. -/
theorem Machine.stateNames_assemble (declared : List String) (resolved : Resolved)
    (noted : List (List String)) : (Machine.assemble declared resolved noted).stateNames =
      declared ++ noted.map combinedName := by
  simp [Machine.stateNames, Machine.assemble, Function.comp_def]

/-- A rule of a machine is a rule of a state that has been resolved. -/
theorem Machine.exists_rulesOf {declared : List String} {resolved : Resolved}
    {noted : List (List String)} {state : State} {rule : Rule}
    (member : state ∈ (Machine.assemble declared resolved noted).states)
    (within : rule ∈ state.rules) : ∃ name, rule ∈ resolved.rulesOf name := by
  rcases List.mem_append.1 member with single | combined
  · obtain ⟨name, -, rfl⟩ := List.mem_map.1 single
    exact ⟨name, within⟩
  · obtain ⟨members, -, rfl⟩ := List.mem_map.1 combined
    obtain ⟨name, -, within⟩ := List.mem_flatMap.1 within
    exact ⟨name, within⟩

namespace Grammar

variable {grammar : Grammar} {machine : Machine}

/-- An item of a state stems from a rule of the grammar. -/
theorem Compiles.exists_rule {items : List (String × List Item)} {noted : List (List String)}
    (compiles : grammar.Compiles items noted) (distinct : grammar.stateNames.Nodup)
    {owner : String} {item : Item} (member : item ∈ itemsOf items owner) :
    ∃ rule ∈ grammar.rules, (RuleContext.ofGrammar grammar).Compiled rule item := by
  by_cases known : owner ∈ grammar.stateNames
  · obtain ⟨state, declared, rfl⟩ := List.mem_map.1 known
    obtain ⟨rule, within, compiled⟩ :=
      exists_of_forall₂ (forall₂_itemsOf compiles.items distinct declared) member
    exact ⟨rule, List.mem_flatMap.2 ⟨state, declared, within⟩, compiled⟩
  · rw [itemsOf_eq_nil compiles.items known] at member
    exact absurd member List.not_mem_nil

/-- **Closure.** A grammar is built into a machine that refers to its own states only. -/
theorem closed_of_build (built : grammar.build = .ok machine) : machine.Closed := by
  obtain ⟨items, noted, resolved, ⟨distinct, root, -, compiles, done⟩, rfl⟩ :=
    exists_built built
  obtain ⟨ordered, -⟩ := resolveAll_ordered .nil done
  have declared {name : String} (member : name ∈ grammar.stateNames) :
      name ∈ (Machine.assemble grammar.stateNames resolved noted).stateNames := by
    rw [Machine.stateNames_assemble]
    exact List.mem_append_left _ member
  refine ⟨declared root, ?_⟩
  intro state member rule within name named
  obtain ⟨owner, within⟩ := Machine.exists_rulesOf member within
  obtain ⟨owner, within⟩ := ordered.exists_owner within
  obtain ⟨decl, member, -, -, -, ⟨_, _, acts⟩, moves⟩ := compiles.exists_rule distinct within
  -- the name is declared, or that of the list of the rule, which has been noted
  rw [RuleContext.action_iff] at acts
  rw [RuleContext.move_iff] at moves
  rcases List.mem_append.1 named with named | named
  · exact declared (RuleContext.names_of_acts acts named)
  · rcases RuleContext.names_of_moves moves named with known | ⟨members, combined, rfl⟩
    · exact declared known
    · rw [Machine.stateNames_assemble, ← compiles.noted]
      refine List.mem_append_right _ (List.mem_map.2 ⟨members, ?_, rfl⟩)
      refine RuleContext.mem_foldl_noteOnce.2 (.inr (List.mem_flatMap.2 ⟨decl, member, ?_⟩))
      exact Option.mem_toList.2 combined

end Grammar

end GrammarLexer
