import GrammarLexer.Proofs.Machine.Closed
import Mathlib.Data.List.Nodup

/-!
# Which rules the states of a machine have

The machine of a grammar can be told from the declarations alone, whatever the passes do
one after the other (`specifies_of_build`): its states are those declared and one for each
list of states that is pushed as one, which is as if it included the members; and each state
has the rules that are left when includes are unfolded. Only one machine is like that
(`Specifies.unique`), so a change to the declarations that leaves this description as it is
leaves the machine as it is.
-/

namespace GrammarLexer

/-! ## Lists that are pushed as one -/

namespace RuleContext

/-- What has been noted comes first, then what is new, each list once. -/
theorem foldl_noteOnce (lists noted : List (List String)) :
    lists.foldl noteOnce noted = noted ++ (lists.removeAll noted).eraseDups :=
  Grammar.foldl_keep lists noted

/-- Lists are noted once each. -/
theorem nodup_foldl_noteOnce {lists noted : List (List String)} (distinct : noted.Nodup) :
    (lists.foldl noteOnce noted).Nodup := by
  induction lists generalizing noted with
  | nil => exact distinct
  | cons first rest ih =>
    refine ih ?_
    unfold noteOnce
    by_cases known : first ∈ noted
    · rw [if_pos known]
      exact distinct
    · rw [if_neg known]
      exact List.nodup_append.2 ⟨distinct, by simp, by
        rintro list member _ here rfl
        exact known (List.mem_singleton.1 here ▸ member)⟩

/-- A rule becomes one item only. -/
theorem Compiled.unique {context : RuleContext} {rule : RuleDecl} {left right : Rule}
    (compiled : context.Compiled rule (.rule left))
    (compiled' : context.Compiled rule (.rule right)) : left = right := by
  obtain ⟨-, pattern, program, ⟨state, index, acts⟩, moves⟩ := compiled
  obtain ⟨-, pattern', program', ⟨_, _, acts'⟩, moves'⟩ := compiled'
  have action := Except.ok.inj (acts.symm.trans (action_congr acts'))
  obtain ⟨_, _, _, _⟩ := left
  obtain ⟨_, _, _, _⟩ := right
  simp only at pattern program moves pattern' program' moves' action
  rw [← pattern, ← pattern', action, Except.ok.inj (program.symm.trans program'),
    Except.ok.inj (moves.symm.trans moves')]

end RuleContext

/-! ## The states of a machine -/

namespace Machine

variable {machine : Machine}

/-- Where names are distinct, each state has the rules found under its name. -/
theorem rulesOf_eq (distinct : machine.stateNames.Nodup) {state : State}
    (member : state ∈ machine.states) : machine.rulesOf state.name = state.rules := by
  unfold rulesOf
  cases found : machine.states.find? (·.name = state.name) with
  | none => exact absurd (List.find?_eq_none.1 found state member) (by simp)
  | some other =>
    have named : other.name = state.name := by simpa using List.find?_some found
    have same := List.inj_on_of_nodup_map distinct (List.mem_of_find?_eq_some found) member named
    exact congrArg State.rules same

/-- Where names are distinct, a machine is given by its names and the rules found under
them. -/
theorem states_eq (distinct : machine.stateNames.Nodup) :
    machine.states = machine.stateNames.map fun name => ⟨name, machine.rulesOf name⟩ := by
  rw [stateNames, List.map_map]
  refine (List.map_id _).symm.trans (List.map_congr_left ?_)
  intro state member
  rw [Function.comp_apply, rulesOf_eq distinct member]
  rfl

/-- A name that no state has has no rules. -/
theorem rulesOf_eq_nil {name : String} (unknown : name ∉ machine.stateNames) :
    machine.rulesOf name = [] := by
  unfold rulesOf
  cases found : machine.states.find? (·.name = name) with
  | none => rfl
  | some state =>
    have named : state.name = name := by simpa using List.find?_some found
    exact absurd (List.mem_map.2 ⟨state, List.mem_of_find?_eq_some found, named⟩) unknown

end Machine

/-! ## Includes, unfolded -/

/-- A rule that is there for the rules of a state. -/
def RuleDecl.including (state : String) : RuleDecl :=
  ⟨"", none, none, none, some state, none, none, none⟩

/-- A state that includes some states, under the name that they have as one. -/
def StateDecl.including (members : List String) : StateDecl :=
  ⟨combinedName members, members.map RuleDecl.including⟩

namespace Grammar

/-- The lists of states that are pushed as one, each once, in the order of first use. -/
def usedLists (grammar : Grammar) : List (List String) := grammar.combinedLists.eraseDups

/-- The states that the machine of a grammar has: those declared, then one for each list in
use, which includes the members. -/
def allStates (grammar : Grammar) : List StateDecl :=
  grammar.states ++ grammar.usedLists.map StateDecl.including

/-- Some rules with each include replaced by the rules of the state included, which may have
includes in turn. -/
inductive Unfolds (grammar : Grammar) : List RuleDecl → List RuleDecl → Prop
  | nil : Unfolds grammar [] []
  | own {rule : RuleDecl} {rest flat : List RuleDecl} (own : rule.splice = none)
      (others : Unfolds grammar rest flat) : Unfolds grammar (rule :: rest) (rule :: flat)
  | splice {rule : RuleDecl} {state : StateDecl} {rest inner flat : List RuleDecl}
      (includes : rule.splice = some state.name) (declared : state ∈ grammar.states)
      (within : Unfolds grammar state.rules inner) (others : Unfolds grammar rest flat) :
      Unfolds grammar (rule :: rest) (inner ++ flat)

/-- The rule of a machine that a rule of its own becomes. -/
def Yields (grammar : Grammar) (decl : RuleDecl) (rule : Rule) : Prop :=
  (RuleContext.ofGrammar grammar).Compiled decl (.rule rule)

/-- The states and rules that the machine of a grammar has. -/
structure Specifies (grammar : Grammar) (machine : Machine) : Prop where
  names : machine.stateNames = grammar.allStates.map (·.name)
  distinct : machine.stateNames.Nodup
  rules : ∀ state ∈ grammar.allStates, ∃ flat, grammar.Unfolds state.rules flat ∧
    List.Forall₂ grammar.Yields flat (machine.rulesOf state.name)

variable {grammar : Grammar}

theorem yields_unique : Relator.RightUnique grammar.Yields :=
  fun _ _ _ yields yields' => RuleContext.Compiled.unique yields yields'

/-- The lists that are pushed as one are the lists in use. -/
theorem mem_usedLists {members : List String} :
    members ∈ grammar.usedLists ↔ members ∈ grammar.combinedLists :=
  List.mem_eraseDups

/-- The states of a machine are those declared, and those of the lists in use. -/
theorem mem_allStates {state : StateDecl} : state ∈ grammar.allStates ↔
    state ∈ grammar.states ∨
      ∃ members ∈ grammar.combinedLists, StateDecl.including members = state := by
  simp only [allStates, List.mem_append, List.mem_map, mem_usedLists]

theorem map_name_allStates : grammar.allStates.map (·.name) =
    grammar.stateNames ++ grammar.usedLists.map combinedName := by
  simp [allStates, stateNames, StateDecl.including, Function.comp_def]

namespace Unfolds

variable {left right flat flat' : List RuleDecl}

/-- Rules one after the other unfold one after the other. -/
theorem append (first : grammar.Unfolds left flat) (second : grammar.Unfolds right flat') :
    grammar.Unfolds (left ++ right) (flat ++ flat') := by
  induction first with
  | nil => exact second
  | own own _ ih => exact .own own ih
  | splice includes declared within _ _ ih =>
    rw [List.append_assoc]
    exact .splice includes declared within ih

/-- What rules one after the other unfold to comes in two parts. -/
theorem of_append (both : grammar.Unfolds (left ++ right) flat) :
    ∃ first second, grammar.Unfolds left first ∧ grammar.Unfolds right second ∧
      flat = first ++ second := by
  induction left generalizing flat with
  | nil => exact ⟨[], flat, .nil, both, rfl⟩
  | cons rule rest ih =>
    cases both with
    | own own others =>
      obtain ⟨first, second, unfolds, unfolds', rfl⟩ := ih others
      exact ⟨_, second, .own own unfolds, unfolds', rfl⟩
    | splice includes declared within others =>
      obtain ⟨first, second, unfolds, unfolds', rfl⟩ := ih others
      exact ⟨_, second, .splice includes declared within unfolds, unfolds',
        (List.append_assoc _ _ _).symm⟩

/-- Where names are distinct, rules unfold in one way only. -/
theorem unique (distinct : grammar.stateNames.Nodup) {rules : List RuleDecl}
    (unfolds : grammar.Unfolds rules flat) (unfolds' : grammar.Unfolds rules flat') :
    flat = flat' := by
  induction unfolds generalizing flat' with
  | nil =>
    cases unfolds'
    rfl
  | own own _ ih =>
    cases unfolds' with
    | own _ others => rw [ih others]
    | splice includes => exact absurd (own.symm.trans includes) (by simp)
  | splice includes declared _ _ ihWithin ih =>
    cases unfolds' with
    | own own => exact absurd (own.symm.trans includes) (by simp)
    | splice includes' declared' within' others' =>
      have named := Option.some.inj (includes.symm.trans includes')
      cases List.inj_on_of_nodup_map distinct declared declared' named
      rw [ihWithin within', ih others']

/-- What is left are rules of the grammar, if whatever was no include was one. -/
theorem subset {rules : List RuleDecl} (unfolds : grammar.Unfolds rules flat)
    (owned : ∀ rule ∈ rules, rule.splice = none → rule ∈ grammar.rules) :
    flat ⊆ grammar.rules := by
  induction unfolds with
  | nil => exact List.nil_subset _
  | own own _ ih =>
    obtain ⟨here, others⟩ := List.forall_mem_cons.1 owned
    exact List.cons_subset.2 ⟨here own, ih others⟩
  | splice _ declared _ _ ihWithin ih =>
    refine List.append_subset.2 ⟨ihWithin ?_, ih (List.forall_mem_cons.1 owned).2⟩
    intro rule member _
    exact List.mem_flatMap.2 ⟨_, declared, member⟩

/-- What is left of the rules of any state are rules of the grammar. -/
theorem subset_rules {state : StateDecl} (listed : state ∈ grammar.allStates)
    (unfolds : grammar.Unfolds state.rules flat) : flat ⊆ grammar.rules := by
  refine unfolds.subset ?_
  intro rule member own
  rcases mem_allStates.1 listed with declared | ⟨members, -, rfl⟩
  · exact List.mem_flatMap.2 ⟨state, declared, member⟩
  · -- the state of a list has includes only
    obtain ⟨name, -, rfl⟩ := List.mem_map.1 member
    exact nomatch own

/-- Includes of some states unfold to what their rules unfold to. -/
theorem exists_including {members : List String} {rulesOf : String → List Rule}
    (single : ∀ name ∈ members, ∃ state ∈ grammar.states, state.name = name ∧
      ∃ flat, grammar.Unfolds state.rules flat ∧ List.Forall₂ grammar.Yields flat (rulesOf name)) :
    ∃ flat, grammar.Unfolds (members.map RuleDecl.including) flat ∧
      List.Forall₂ grammar.Yields flat (members.flatMap rulesOf) := by
  induction members with
  | nil => exact ⟨[], .nil, .nil⟩
  | cons name rest ih =>
    obtain ⟨⟨state, declared, rfl, inner, within, yields⟩, others⟩ :=
      List.forall_mem_cons.1 single
    obtain ⟨flat, unfolds, yields'⟩ := ih others
    exact ⟨inner ++ flat, .splice rfl declared within unfolds, List.rel_append yields yields'⟩

/-- Rules unfold to what their items are expanded to, if this is so of the states that they
include. -/
theorem exists_expand {resolved : Resolved} {decls : List RuleDecl} {items : List Item}
    (compiled : List.Forall₂ (RuleContext.ofGrammar grammar).Compiled decls items)
    (single : ∀ state ∈ grammar.states, .splice state.name ∈ items →
      ∃ flat, grammar.Unfolds state.rules flat ∧
        List.Forall₂ grammar.Yields flat (resolved.rulesOf state.name)) :
    ∃ flat, grammar.Unfolds decls flat ∧
      List.Forall₂ grammar.Yields flat (items.flatMap resolved.expand) := by
  induction compiled with
  | nil => exact ⟨[], .nil, .nil⟩
  | @cons decl item decls items here _ ih =>
    obtain ⟨flat, unfolds, yields⟩ := ih fun state declared member =>
      single state declared (List.mem_cons_of_mem _ member)
    cases item with
    | rule rule => exact ⟨decl :: flat, .own here.1 unfolds, .cons here yields⟩
    | splice target =>
      obtain ⟨includes, known⟩ := here
      obtain ⟨other, declared, rfl⟩ := List.mem_map.1 known
      obtain ⟨inner, unfolds', yields'⟩ := single other declared List.mem_cons_self
      exact ⟨inner ++ flat, .splice includes declared unfolds' unfolds,
        List.rel_append yields' yields⟩

end Unfolds

/-! ## The machine of a grammar -/

/-- What is resolved unfolds the declarations. -/
theorem Compiles.exists_unfolds {items : List (String × List Item)}
    {noted : List (List String)} (compiles : grammar.Compiles items noted)
    (distinct : grammar.stateNames.Nodup) {resolved : Resolved}
    (ordered : resolved.Ordered items) {state : StateDecl} (declared : state ∈ grammar.states)
    (done : state.name ∈ resolved.names) : ∃ flat, grammar.Unfolds state.rules flat ∧
      List.Forall₂ grammar.Yields flat (resolved.rulesOf state.name) := by
  induction resolved generalizing state with
  | nil => exact absurd done List.not_mem_nil
  | cons entry older ih =>
    obtain ⟨first, rules⟩ := entry
    have whole := ordered
    obtain ⟨-, before, rfl, ordered⟩ := ordered
    rcases List.mem_cons.1 done with rfl | done
    · rw [Resolved.rulesOf, List.lookup_cons_self, Option.getD_some]
      have body := forall₂_itemsOf compiles.items distinct declared
      -- the body includes states that were done before only
      exact Unfolds.exists_expand body fun other declared' member =>
        ih ordered declared' (before _ member)
    · have other : state.name ∉ Resolved.names [(first, _)] := Resolved.Ordered.fresh whole done
      have older' : Resolved.rulesOf ((first, _) :: older) state.name =
          Resolved.rulesOf older state.name :=
        Resolved.rulesOf_append other
      rw [older']
      exact ih ordered declared done

/-- The lists in use are those that are noted. -/
theorem Compiles.usedLists_eq {items : List (String × List Item)} {noted : List (List String)}
    (compiles : grammar.Compiles items noted) : grammar.usedLists = noted := by
  rw [← compiles.noted, RuleContext.foldl_noteOnce, List.nil_append]
  simp [List.removeAll, usedLists]

/-- The names of a machine are distinct. -/
theorem Compiles.nodup_names {items : List (String × List Item)} {noted : List (List String)}
    (compiles : grammar.Compiles items noted) (distinct : grammar.stateNames.Nodup) :
    (grammar.stateNames ++ noted.map combinedName).Nodup := by
  have listed {members : List String} (member : members ∈ noted) :
      members ∈ grammar.combinedLists := by
    rw [← compiles.usedLists_eq] at member
    exact mem_usedLists.1 member
  refine List.nodup_append.2 ⟨distinct, ?_, ?_⟩
  · refine List.Nodup.map_on ?_ ?_
    · intro left member right member' same
      exact compiles.well.apart left (listed member) right (listed member') same
    · rw [← compiles.noted]
      exact RuleContext.nodup_foldl_noteOnce List.nodup_nil
  · rintro name declared _ among rfl
    obtain ⟨members, member, rfl⟩ := List.mem_map.1 among
    exact compiles.well.fresh members (listed member) declared

/-- **The machine of a grammar.** Its states and rules are those that the declarations
specify. -/
theorem specifies_of_build {machine : Machine} (built : grammar.build = .ok machine) :
    grammar.Specifies machine := by
  obtain ⟨items, noted, resolved, ⟨distinct, -, -, compiles, done⟩, rfl⟩ := exists_built built
  obtain ⟨ordered, all⟩ := resolveAll_ordered .nil done
  have names := Machine.stateNames_assemble grammar.stateNames resolved noted
  have nodup : (Machine.assemble grammar.stateNames resolved noted).stateNames.Nodup := by
    rw [names]
    exact compiles.nodup_names distinct
  have single : ∀ state ∈ grammar.states, ∃ flat, grammar.Unfolds state.rules flat ∧
      List.Forall₂ grammar.Yields flat (resolved.rulesOf state.name) := by
    intro state declared
    have member : state.name ∈ grammar.stateNames := List.mem_map.2 ⟨state, declared, rfl⟩
    exact compiles.exists_unfolds distinct ordered declared (all _ (.inr member))
  refine ⟨?_, nodup, ?_⟩
  · rw [names, map_name_allStates, compiles.usedLists_eq]
  · intro state listed
    rcases mem_allStates.1 listed with declared | ⟨members, used, rfl⟩
    · have among : (⟨state.name, resolved.rulesOf state.name⟩ : State) ∈
          (Machine.assemble grammar.stateNames resolved noted).states :=
        List.mem_append_left _
          (List.mem_map.2 ⟨state.name, List.mem_map.2 ⟨state, declared, rfl⟩, rfl⟩)
      have rules := Machine.rulesOf_eq nodup among
      exact rules ▸ single state declared
    · have member : members ∈ noted := by
        rw [← compiles.usedLists_eq]
        exact mem_usedLists.2 used
      have among : (⟨combinedName members, members.flatMap resolved.rulesOf⟩ : State) ∈
          (Machine.assemble grammar.stateNames resolved noted).states :=
        List.mem_append_right _ (List.mem_map.2 ⟨members, member, rfl⟩)
      have rules := Machine.rulesOf_eq nodup among
      refine rules ▸ Unfolds.exists_including ?_
      intro name within
      obtain ⟨state, declared, rfl⟩ :=
        List.mem_map.1 (compiles.well.members members used name within)
      exact ⟨state, declared, rfl, single state declared⟩

namespace Specifies

variable {machine other : Machine}

/-- The names of the declared states are distinct. -/
theorem nodup_stateNames (specifies : grammar.Specifies machine) :
    grammar.stateNames.Nodup := by
  have distinct := specifies.distinct
  rw [specifies.names, map_name_allStates] at distinct
  exact (List.nodup_append.1 distinct).1

/-- A state has the rules that its declarations unfold to. -/
theorem forall₂_rulesOf (specifies : grammar.Specifies machine) {state : StateDecl}
    (listed : state ∈ grammar.allStates) {flat : List RuleDecl}
    (unfolds : grammar.Unfolds state.rules flat) :
    List.Forall₂ grammar.Yields flat (machine.rulesOf state.name) := by
  obtain ⟨flat', unfolds', yields⟩ := specifies.rules state listed
  rw [unfolds.unique specifies.nodup_stateNames unfolds']
  exact yields

/-- A machine has the states that the grammar specifies, by name. -/
theorem mem_stateNames (specifies : grammar.Specifies machine) {name : String} :
    name ∈ machine.stateNames ↔ ∃ state ∈ grammar.allStates, state.name = name := by
  rw [specifies.names, List.mem_map]

/-- The state of a list in use has the rules of its members, one after the other. -/
theorem rulesOf_combinedName (specifies : grammar.Specifies machine) {members : List String}
    (used : members ∈ grammar.combinedLists)
    (declared : ∀ name ∈ members, name ∈ grammar.stateNames) :
    machine.rulesOf (combinedName members) = members.flatMap machine.rulesOf := by
  have single : ∀ name ∈ members, ∃ state ∈ grammar.states, state.name = name ∧
      ∃ flat, grammar.Unfolds state.rules flat ∧
        List.Forall₂ grammar.Yields flat (machine.rulesOf name) := by
    intro name member
    obtain ⟨state, declared, rfl⟩ := List.mem_map.1 (declared name member)
    exact ⟨state, declared, rfl, specifies.rules state (List.mem_append_left _ declared)⟩
  obtain ⟨flat, unfolds, yields⟩ := Unfolds.exists_including single
  have listed : StateDecl.including members ∈ grammar.allStates :=
    mem_allStates.2 (.inr ⟨members, used, rfl⟩)
  exact yields_unique.forall₂ (specifies.forall₂_rulesOf listed unfolds) yields

/-- A grammar specifies one machine only. -/
theorem unique (specifies : grammar.Specifies machine) (specifies' : grammar.Specifies other) :
    machine = other := by
  have names : machine.stateNames = other.stateNames :=
    specifies.names.trans specifies'.names.symm
  have rules : ∀ name ∈ machine.stateNames, machine.rulesOf name = other.rulesOf name := by
    intro name member
    obtain ⟨state, listed, rfl⟩ := specifies.mem_stateNames.1 member
    obtain ⟨flat, unfolds, yields⟩ := specifies.rules state listed
    exact yields_unique.forall₂ yields (specifies'.forall₂_rulesOf listed unfolds)
  have states : machine.states = other.states := by
    rw [Machine.states_eq specifies.distinct, Machine.states_eq specifies'.distinct, ← names]
    refine List.map_congr_left ?_
    intro name member
    rw [rules name member]
  exact congrArg Machine.mk states

end Specifies

end Grammar

/-- A lexer that has been built is that of an acceptable grammar, which specifies its machine. -/
theorem Lexer.specifies_of_ofGrammar {grammar : Grammar} {lexer : Lexer}
    (built : ofGrammar grammar = .ok lexer) :
    grammar.Acceptable ∧ grammar.Specifies lexer.machine := by
  obtain ⟨machine, builds, rfl⟩ := map_eq_ok.1 built
  exact ⟨Grammar.acceptable_of_build builds, Grammar.specifies_of_build builds⟩

/-! ## An example -/

theorem exists_ok_of_isSome {ε α : Type} {step : Except ε α}
    (succeeds : step.toOption.isSome = true) : ∃ value, step = .ok value := by
  cases step with
  | ok value => exact ⟨value, rfl⟩
  | error error => exact absurd succeeds Bool.false_ne_true

theorem exists_ok_of_any {ε α : Type} {step : Except ε α} {test : α → Bool}
    (succeeds : step.toOption.any test = true) : ∃ value, step = .ok value ∧ test value = true := by
  cases step with
  | ok value => exact ⟨value, rfl, succeeds⟩
  | error error => exact absurd succeeds Bool.false_ne_true

/-- Words between brackets, with rules that are included at two removes, and three lists of
states that are pushed as one. -/
def Grammar.brackets : Grammar where
  config := ⟨"brackets", [], [], [], .zero, ⟨false, false, false⟩⟩
  states := [
    ⟨"root", [
      ⟨"[(]", some "Punctuation", none, none, none, some ["words", "close"], none, none⟩,
      ⟨"", none, none, none, some "tags", none, none, none⟩]⟩,
    ⟨"words", [
      ⟨"[a-z]+", some "Name", none, none, none, none, none, none⟩,
      ⟨"!", none, none, none, none, some ["close"], none, none⟩]⟩,
    ⟨"tags", [
      ⟨"<", none, none, none, none, some ["close", "words"], none, none⟩,
      ⟨"#", none, some "#push", none, none, none, none, none⟩,
      ⟨"", none, none, none, some "words", none, none, none⟩]⟩,
    ⟨"close", [
      ⟨"[)]", some "Punctuation", none, some 1, none, none, none, none⟩,
      ⟨"=([a-z]*)", none, none, none, none, none, some [.delegate ⟨some "words"⟩], none⟩]⟩]

/-- The grammar of brackets can be built. -/
theorem Grammar.exists_brackets : ∃ machine, Grammar.brackets.build = .ok machine :=
  exists_ok_of_isSome (by decide +kernel)

end GrammarLexer
