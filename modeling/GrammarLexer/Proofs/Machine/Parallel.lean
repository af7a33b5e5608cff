import GrammarLexer.Proofs.Machine.Specification

/-!
# Grammars that go side by side

Two grammars are parallel if they have states of the same names in the same order, with rules that
are related one by one (`Grammar.Parallel`). Where related rules include the same state, if any,
their includes unfold side by side (`Parallel.unfolds`), and so do the rules of the two machines
come from related declarations one by one (`Parallel.forall₂_rulesOf`).
-/

namespace GrammarLexer

/-- What holds of the one holds of all of the ones if and only if the other holds of all of the
others. -/
theorem forall_mem_iff_of_forall₂ {α β : Type} {related : α → β → Prop} {left : List α}
    {right : List β} (all : List.Forall₂ related left right) {fine : α → Prop} {fine' : β → Prop}
    (same : ∀ one other, related one other → (fine one ↔ fine' other)) :
    (∀ one ∈ left, fine one) ↔ ∀ other ∈ right, fine' other := by
  induction all with
  | nil => simp
  | cons here _ ih => rw [List.forall_mem_cons, List.forall_mem_cons, same _ _ here, ih]

/-- Lists put together of related ones are related. -/
theorem forall₂_flatMap {α β γ : Type} {related : β → γ → Prop} {members : List α}
    {first : α → List β} {second : α → List γ}
    (each : ∀ name ∈ members, List.Forall₂ related (first name) (second name)) :
    List.Forall₂ related (members.flatMap first) (members.flatMap second) := by
  induction members with
  | nil => exact .nil
  | cons name rest ih =>
    obtain ⟨here, others⟩ := List.forall_mem_cons.1 each
    exact List.rel_append here (ih others)

/-- States of one name whose rules are related one by one. -/
structure StateDecl.Parallel (related : RuleDecl → RuleDecl → Prop) (left right : StateDecl) :
    Prop where
  name : left.name = right.name
  rules : List.Forall₂ related left.rules right.rules

namespace Grammar

/-- Grammars that read patterns alike and have parallel states in the same order. -/
structure Parallel (related : RuleDecl → RuleDecl → Prop) (left right : Grammar) : Prop where
  options : left.config.options = right.config.options
  states : List.Forall₂ (StateDecl.Parallel related) left.states right.states

namespace Parallel

variable {related : RuleDecl → RuleDecl → Prop} {left right : Grammar}

theorem flip (parallel : left.Parallel related right) :
    right.Parallel (fun rule' rule => related rule rule') left where
  options := parallel.options.symm
  states := (parallel.states.imp fun _ _ (here : StateDecl.Parallel related _ _) =>
    (⟨here.name.symm, here.rules.flip⟩ :
      StateDecl.Parallel (fun rule' rule => related rule rule') _ _)).flip

theorem stateNames (parallel : left.Parallel related right) :
    left.stateNames = right.stateNames := by
  have names : List.Forall₂ Eq (left.states.map (·.name)) (right.states.map (·.name)) :=
    List.rel_map (fun _ _ here => StateDecl.Parallel.name here) parallel.states
  rwa [List.forall₂_eq_eq_eq] at names

/-- Names and patterns are read alike. -/
theorem ofGrammar (parallel : left.Parallel related right) :
    RuleContext.ofGrammar left = RuleContext.ofGrammar right := by
  rw [RuleContext.ofGrammar, parallel.stateNames, parallel.options, RuleContext.ofGrammar]

theorem yields (parallel : left.Parallel related right) : left.Yields = right.Yields := by
  unfold Yields
  rw [parallel.ofGrammar]

theorem rules (parallel : left.Parallel related right) :
    List.Forall₂ related left.rules right.rules :=
  List.rel_flatMap parallel.states fun _ _ here => StateDecl.Parallel.rules here

theorem exists_state (parallel : left.Parallel related right) {state : StateDecl}
    (declared : state ∈ left.states) :
    ∃ state' ∈ right.states, state.Parallel related state' :=
  exists_of_forall₂ parallel.flip.states declared |>.imp fun _ both =>
    ⟨both.1, both.2.name.symm, both.2.rules.flip⟩

/-! ## Includes -/

section Includes

variable (splices : ∀ rule rule', related rule rule' → rule.splice = rule'.splice)
include splices

theorem includes_of (parallel : left.Parallel related right) {name target : String}
    (includes : left.Includes name target) : right.Includes name target := by
  obtain ⟨state, declared, rfl, rule, within, splice⟩ := includes
  obtain ⟨state', declared', named, rules⟩ := parallel.exists_state declared
  obtain ⟨rule', within', here⟩ := exists_of_forall₂ rules.flip within
  exact ⟨state', declared', named.symm, rule', within', (splices _ _ here).symm.trans splice⟩

/-- The same states include the same ones. -/
theorem includes (parallel : left.Parallel related right) : left.Includes = right.Includes := by
  funext name target
  refine propext ⟨parallel.includes_of splices, parallel.flip.includes_of ?_⟩
  exact fun _ _ here => (splices _ _ here).symm

/-- **Unfolding.** Rules that are related one by one unfold to such rules. -/
theorem unfolds (parallel : left.Parallel related right) {rules flat rules' : List RuleDecl}
    (unfolds : left.Unfolds rules flat) (all : List.Forall₂ related rules rules') :
    ∃ flat', right.Unfolds rules' flat' ∧ List.Forall₂ related flat flat' := by
  induction unfolds generalizing rules' with
  | nil =>
    cases all
    exact ⟨[], .nil, .nil⟩
  | own own _ ih =>
    obtain _ | ⟨here, others⟩ := all
    obtain ⟨flat', unfolds', flats⟩ := ih others
    exact ⟨_, .own ((splices _ _ here).symm.trans own) unfolds', .cons here flats⟩
  | splice includes declared _ _ ihWithin ih =>
    obtain _ | ⟨here, others⟩ := all
    obtain ⟨state', declared', named, within⟩ := parallel.exists_state declared
    obtain ⟨inner', unfolds', inners⟩ := ihWithin within
    obtain ⟨flat', unfolds'', flats⟩ := ih others
    have includes' := (splices _ _ here).symm.trans (named ▸ includes)
    exact ⟨inner' ++ flat', .splice includes' declared' unfolds' unfolds'',
      List.rel_append inners flats⟩

/-- Rules that related rules of two grammars become. -/
def Become (related : RuleDecl → RuleDecl → Prop) (left right : Grammar) (rule rule' : Rule) :
    Prop :=
  ∃ decl ∈ left.rules, ∃ decl' ∈ right.rules,
    related decl decl' ∧ left.Yields decl rule ∧ right.Yields decl' rule'

/-- **Rules.** In each declared state the rules of the two machines come from related rules. -/
theorem forall₂_rulesOf (parallel : left.Parallel related right) {machine machine' : Machine}
    (specifies : left.Specifies machine) (specifies' : right.Specifies machine') {name : String}
    (declared : name ∈ left.stateNames) :
    List.Forall₂ (Become related left right) (machine.rulesOf name) (machine'.rulesOf name) := by
  obtain ⟨state, member, rfl⟩ := List.mem_map.1 declared
  obtain ⟨state', declared', named, rules⟩ := parallel.exists_state member
  have listed : state ∈ left.allStates := List.mem_append_left _ member
  have listed' : state' ∈ right.allStates := List.mem_append_left _ declared'
  obtain ⟨flat, unfolds, yields⟩ := specifies.rules state listed
  obtain ⟨flat', unfolds', flats⟩ := parallel.unfolds splices unfolds rules
  have yields' := specifies'.forall₂_rulesOf listed' unfolds'
  rw [← named] at yields'
  -- each pair of declarations with the two rules that they become
  have owned := (List.forall₂_and_left _ _).2 ⟨unfolds.subset_rules listed, yields⟩
  have owned' := (List.forall₂_and_left _ _).2 ⟨unfolds'.subset_rules listed', yields'⟩
  refine (forall₂_comp (forall₂_comp owned.flip flats) owned').imp ?_
  rintro rule rule' ⟨decl', ⟨decl, ⟨member, here⟩, pair⟩, member', there⟩
  exact ⟨decl, member, decl', member', pair, here, there⟩

end Includes

end Parallel

end Grammar

end GrammarLexer
