import GrammarLexer.Proofs.Lexer.Likeness
import GrammarLexer.Proofs.Machine.Specification

/-!
# Includes are there for the rules of another state

An include may be replaced, where it stands, by the rules of the state that it names, as they
are declared: this changes neither whether the grammar can be built nor what its lexer does
(`splice_in_place`). The two grammars put the lists that are pushed as one in different
orders, and so their states; but states go by name, and under each name the rules unfold to
the same (`Inclusion.unfolds`). A cycle of one include graph is one of the other, too,
since an edge has only been drawn past one state (`exists_cycle_of_shortcut`).
-/

namespace GrammarLexer

/-! ## Cycles -/

section Shortcut

variable {α : Type} {old new : α → α → Prop} {start middle : α}
  (others : ∀ left right, old left right → new left right ∨ left = start ∧ right = middle)
  (shortcut : ∀ right, old middle right → new start right)
include others shortcut

/-- A way through a graph is still there when an edge is replaced by those behind it, unless
the way ends with that edge. -/
theorem transGen_of_shortcut {left right : α} (way : Relation.TransGen old left right) :
    Relation.TransGen new left right ∨
      right = middle ∧ Relation.ReflTransGen new left start := by
  induction way with
  | single edge =>
    rcases others _ _ edge with kept | ⟨rfl, rfl⟩
    · exact .inl (.single kept)
    · exact .inr ⟨rfl, .refl⟩
  | tail _ edge ih =>
    rcases ih with before | ⟨rfl, before⟩
    · rcases others _ _ edge with kept | ⟨rfl, rfl⟩
      · exact .inl (before.tail kept)
      · exact .inr ⟨rfl, before.to_reflTransGen⟩
    · exact .inl (.tail' before (shortcut _ edge))

/-- So a cycle is still there. -/
theorem exists_cycle_of_shortcut {place : α} (cycle : Relation.TransGen old place place) :
    ∃ place, Relation.TransGen new place place := by
  rcases transGen_of_shortcut others shortcut cycle with kept | ⟨rfl, back⟩
  · exact ⟨place, kept⟩
  · -- the cycle ends with the edge, and goes on behind it
    obtain ⟨next, edge, rest⟩ := Relation.TransGen.head'_iff.1 cycle
    refine ⟨start, .head' (shortcut next edge) ?_⟩
    rcases Relation.reflTransGen_iff_eq_or_transGen.1 rest with rfl | way
    · exact back
    · rcases transGen_of_shortcut others shortcut way with kept | ⟨-, kept⟩
      · exact kept.to_reflTransGen.trans back
      · exact kept

end Shortcut

namespace Grammar

/-- A rule of a grammar that is there for the rules of a declared state: the states and rules
around it, and the state it names. -/
structure Inclusion (grammar : Grammar) where
  earlier : List StateDecl
  name : String
  front : List RuleDecl
  rule : RuleDecl
  back : List RuleDecl
  later : List StateDecl
  target : StateDecl
  states : grammar.states = earlier ++ ⟨name, front ++ rule :: back⟩ :: later
  free : rule.conflict? = none
  splice : rule.splice = some target.name
  declared : target ∈ grammar.states

namespace Inclusion

variable {grammar : Grammar} (site : grammar.Inclusion)

/-- The state that the rule belongs to. -/
def owner : StateDecl := ⟨site.name, site.front ++ site.rule :: site.back⟩

/-- That state with the rules of the other one in place of the rule. -/
def opened : StateDecl := ⟨site.name, site.front ++ site.target.rules ++ site.back⟩

/-- The grammar with the rules of the state that the rule names in its place. -/
def spliced : Grammar := { grammar with states := site.earlier ++ site.opened :: site.later }

/-! ## What is declared -/

/-- The states have the names they had. -/
theorem stateNames_spliced : site.spliced.stateNames = grammar.stateNames := by
  rw [stateNames, stateNames, site.states]
  simp [spliced, opened]

/-- So names stand for what they stood for. -/
theorem ofGrammar_spliced :
    RuleContext.ofGrammar site.spliced = RuleContext.ofGrammar grammar := by
  rw [RuleContext.ofGrammar, stateNames_spliced]
  rfl

/-- Only the state that the rule belongs to is another. -/
theorem mem_states {state : StateDecl} (declared : state ∈ grammar.states) :
    state ∈ site.spliced.states ∨ state = site.owner := by
  rw [site.states] at declared
  exact mem_append_cons_or _ declared

/-- The state that the rule belongs to is declared. -/
theorem owner_mem : site.owner ∈ grammar.states := by
  rw [site.states]
  exact List.mem_append_right _ List.mem_cons_self

/-- In its place stands the one with the rules of the other state. -/
theorem opened_mem : site.opened ∈ site.spliced.states :=
  List.mem_append_right _ List.mem_cons_self

/-- The states after the change. -/
theorem mem_states_spliced {state : StateDecl} (declared : state ∈ site.spliced.states) :
    state ∈ grammar.states ∨ state = site.opened := by
  rw [site.states]
  exact mem_append_cons_or _ declared

/-- The rule is the only one that may be gone. -/
theorem mem_owner {rule : RuleDecl} (member : rule ∈ site.owner.rules) :
    rule = site.rule ∨ rule ∈ site.opened.rules := by
  rcases List.mem_append.1 member with front | rest
  · exact .inr (List.mem_append_left _ (List.mem_append_left _ front))
  · rcases List.mem_cons.1 rest with rfl | back
    · exact .inl rfl
    · exact .inr (List.mem_append_right _ back)

/-- The rules after the change. -/
theorem mem_opened {rule : RuleDecl} (member : rule ∈ site.opened.rules) :
    rule ∈ site.owner.rules ∨ rule ∈ site.target.rules := by
  rcases List.mem_append.1 member with before | back
  · rcases List.mem_append.1 before with front | inner
    · exact .inl (List.mem_append_left _ front)
    · exact .inr inner
  · exact .inl (List.mem_append_right _ (List.mem_cons_of_mem _ back))

/-- What holds of the rule holds of all rules before the change if it does after it. -/
theorem forall_rules_iff (fine : RuleDecl → Prop) (here : fine site.rule) :
    (∀ rule ∈ site.spliced.rules, fine rule) ↔ ∀ rule ∈ grammar.rules, fine rule := by
  constructor
  · intro all rule member
    obtain ⟨state, declared, within⟩ := List.mem_flatMap.1 member
    rcases site.mem_states declared with same | rfl
    · exact all rule (List.mem_flatMap.2 ⟨state, same, within⟩)
    · rcases site.mem_owner within with rfl | within
      · exact here
      · exact all rule (List.mem_flatMap.2 ⟨site.opened, site.opened_mem, within⟩)
  · intro all rule member
    obtain ⟨state, declared, within⟩ := List.mem_flatMap.1 member
    rcases site.mem_states_spliced declared with same | rfl
    · exact all rule (List.mem_flatMap.2 ⟨state, same, within⟩)
    · rcases site.mem_opened within with within | within
      · exact all rule (List.mem_flatMap.2 ⟨site.owner, site.owner_mem, within⟩)
      · exact all rule (List.mem_flatMap.2 ⟨site.target, site.declared, within⟩)

/-- The rule has no other directive. -/
theorem eq_none : site.rule.token = none ∧ site.rule.push = none ∧ site.rule.combined = none ∧
    site.rule.groups = none ∧ site.rule.delegate = none :=
  RuleDecl.eq_none_of_splice site.free (by simp [site.splice])

/-- The lists that are pushed as one are the same. -/
theorem mem_combinedLists {members : List String} :
    members ∈ site.spliced.combinedLists ↔ members ∈ grammar.combinedLists := by
  have none_of (grammar : Grammar) : (∀ rule ∈ grammar.rules, rule.combined ≠ some members) ↔
      members ∉ grammar.combinedLists := by
    simp [combinedLists, GrammarLexer.combinedLists]
  have here : site.rule.combined ≠ some members := by simp [site.eq_none.2.2.1]
  rw [← not_iff_not, ← none_of, ← none_of]
  exact site.forall_rules_iff _ here

/-! ## The include graph -/

/-- An include after the change was there at some remove before it. -/
theorem transGen_includes {name target : String} (includes : site.spliced.Includes name target) :
    Relation.TransGen grammar.Includes name target := by
  obtain ⟨state, declared, rfl, rule, within, splice⟩ := includes
  rcases site.mem_states_spliced declared with same | rfl
  · exact .single ⟨state, same, rfl, rule, within, splice⟩
  · rcases site.mem_opened within with within | within
    · exact .single ⟨site.owner, site.owner_mem, rfl, rule, within, splice⟩
    · have first : grammar.Includes site.opened.name site.target.name :=
        ⟨site.owner, site.owner_mem, rfl, site.rule,
          List.mem_append_right _ List.mem_cons_self, site.splice⟩
      exact .tail (.single first) ⟨site.target, site.declared, rfl, rule, within, splice⟩

/-- An include before the change is there after it, but perhaps for that of the rule. -/
theorem includes_spliced (name target : String) (includes : grammar.Includes name target) :
    site.spliced.Includes name target ∨ name = site.name ∧ target = site.target.name := by
  obtain ⟨state, declared, rfl, rule, within, splice⟩ := includes
  rcases site.mem_states declared with same | rfl
  · exact .inl ⟨state, same, rfl, rule, within, splice⟩
  · rcases site.mem_owner within with rfl | within
    · exact .inr ⟨rfl, Option.some.inj (splice.symm.trans site.splice)⟩
    · exact .inl ⟨site.opened, site.opened_mem, rfl, rule, within, splice⟩

/-- What the other state includes is included in the place of the rule. -/
theorem shortcut (distinct : grammar.stateNames.Nodup) (target : String)
    (includes : grammar.Includes site.target.name target) :
    site.spliced.Includes site.name target := by
  obtain ⟨state, declared, named, rule, within, splice⟩ := includes
  cases List.inj_on_of_nodup_map distinct declared site.declared named
  exact ⟨site.opened, site.opened_mem, rfl, rule,
    List.mem_append_left _ (List.mem_append_right _ within), splice⟩

/-- The one graph has a cycle if and only if the other has. -/
theorem acyclic_iff (distinct : grammar.stateNames.Nodup) :
    (∀ name, ¬ Relation.TransGen site.spliced.Includes name name) ↔
      ∀ name, ¬ Relation.TransGen grammar.Includes name name := by
  constructor
  · intro acyclic name cycle
    obtain ⟨place, cycle⟩ := exists_cycle_of_shortcut site.includes_spliced
      (site.shortcut distinct) cycle
    exact acyclic place cycle
  · intro acyclic name cycle
    exact acyclic name (Relation.TransGen.closed (fun _ _ => site.transGen_includes) _ _ cycle)

/-! ## Building -/

/-- The one grammar is acceptable if and only if the other is. -/
theorem acceptable_iff : site.spliced.Acceptable ↔ grammar.Acceptable := by
  obtain ⟨token, push, -, groups, delegate⟩ := site.eq_none
  have targets : site.rule.targetNames = [] := by
    simp [RuleDecl.targetNames, RuleDecl.delegatedNames, push, groups, delegate,
      RuleDecl.delegateNames]
  have splices := site.forall_rules_iff
    (fun rule => ∀ name ∈ rule.splice, name ∈ grammar.stateNames)
    (by
      rintro name named
      cases Option.some.inj (site.splice.symm.trans named)
      exact List.mem_map.2 ⟨site.target, site.declared, rfl⟩)
  have refers := site.forall_rules_iff
    (fun rule => ∀ name ∈ rule.targetNames,
      name = "" ∨ name = pushCurrent ∨ name ∈ grammar.stateNames)
    (by simp [targets])
  have patterns := site.forall_rules_iff
    (fun rule => rule.splice = none → ∃ program,
      Pattern.compile grammar.config.options.flags rule.pattern = .ok program)
    (by simp [site.splice])
  have kinds := site.forall_rules_iff
    (fun rule => rule.splice = none →
      ∀ name ∈ rule.kindNames, ∃ kind, Kind.ofName? name = some kind)
    (by simp [site.splice])
  have directives := site.forall_rules_iff (fun rule => rule.conflict? = none) site.free
  have lists {fine : List String → Prop} : (∀ members ∈ site.spliced.combinedLists,
      fine members) ↔ ∀ members ∈ grammar.combinedLists, fine members := by
    simp only [site.mem_combinedLists]
  have names := site.stateNames_spliced
  constructor
  · intro acceptable
    have distinct := names ▸ acceptable.names
    exact
      { names := distinct
        root := names ▸ acceptable.root
        directives := directives.1 acceptable.directives
        splices := splices.1 (names ▸ acceptable.splices)
        members := lists.1 (names ▸ acceptable.members)
        targets := refers.1 (names ▸ acceptable.targets)
        patterns := patterns.1 acceptable.patterns
        kinds := kinds.1 acceptable.kinds
        fresh := lists.1 (names ▸ acceptable.fresh)
        apart := lists.1 fun left member => lists.1 (acceptable.apart left member)
        acyclic := (site.acyclic_iff distinct).1 acceptable.acyclic }
  · intro acceptable
    exact
      { names := names.symm ▸ acceptable.names
        root := names.symm ▸ acceptable.root
        directives := directives.2 acceptable.directives
        splices := names.symm ▸ splices.2 acceptable.splices
        members := names.symm ▸ lists.2 acceptable.members
        targets := names.symm ▸ refers.2 acceptable.targets
        patterns := patterns.2 acceptable.patterns
        kinds := kinds.2 acceptable.kinds
        fresh := names.symm ▸ lists.2 acceptable.fresh
        apart := lists.2 fun left member => lists.2 (acceptable.apart left member)
        acyclic := (site.acyclic_iff acceptable.names).2 acceptable.acyclic }

/-! ## The rules of the two machines -/

/-- Where the rule stood, the rules of the other state unfold to what the rule does. -/
theorem unfolds_opened (acceptable : grammar.Acceptable) {flat : List RuleDecl}
    (unfolds : site.spliced.Unfolds site.owner.rules flat) :
    site.spliced.Unfolds site.opened.rules flat := by
  obtain ⟨front, rest, first, others, rfl⟩ := unfolds.of_append
  cases others with
  | own own => exact absurd (site.splice.symm.trans own) (by simp)
  | @splice _ state _ inner back includes declared within others =>
    have named := Option.some.inj (site.splice.symm.trans includes)
    -- no state includes itself, so the other one has its rules after the change, too
    have apart : site.target ≠ site.owner := by
      intro same
      refine acceptable.acyclic site.target.name (.single ?_)
      exact ⟨site.owner, site.owner_mem, congrArg StateDecl.name same.symm, site.rule,
        List.mem_append_right _ List.mem_cons_self, site.splice⟩
    have kept := (site.mem_states site.declared).resolve_right apart
    have distinct : site.spliced.stateNames.Nodup := site.stateNames_spliced ▸ acceptable.names
    cases List.inj_on_of_nodup_map distinct kept declared named
    rw [← List.append_assoc]
    exact (first.append within).append others

/-- **Unfolding.** Rules unfold after the change to what they did before it. -/
theorem unfolds_spliced (acceptable : grammar.Acceptable) {rules flat : List RuleDecl}
    (unfolds : grammar.Unfolds rules flat) : site.spliced.Unfolds rules flat := by
  induction unfolds with
  | nil => exact .nil
  | own own _ ih => exact .own own ih
  | splice includes declared _ _ within others =>
    rcases site.mem_states declared with same | rfl
    · exact .splice includes same within others
    · have includes' : _ = some site.opened.name := includes
      exact .splice includes' site.opened_mem (site.unfolds_opened acceptable within) others

variable {machine machine' : Machine}

/-- The two machines have the same states. -/
theorem mem_stateNames_iff (specifies : grammar.Specifies machine)
    (specifies' : site.spliced.Specifies machine') (name : String) :
    name ∈ machine.stateNames ↔ name ∈ machine'.stateNames := by
  simp only [specifies.names, specifies'.names, map_name_allStates, site.stateNames_spliced,
    List.mem_append, List.mem_map, mem_usedLists, site.mem_combinedLists]

/-- All states are there after the change, but for the one that the rule belongs to. -/
theorem mem_allStates_spliced {state : StateDecl} (listed : state ∈ grammar.allStates) :
    state ∈ site.spliced.allStates ∨ state = site.owner := by
  rcases mem_allStates.1 listed with declared | ⟨members, used, same⟩
  · exact (site.mem_states declared).imp_left (List.mem_append_left _)
  · exact .inl (mem_allStates.2 (.inr ⟨members, site.mem_combinedLists.2 used, same⟩))

/-- The two machines have the same rules in each state. -/
theorem rulesOf_eq (acceptable : grammar.Acceptable) (specifies : grammar.Specifies machine)
    (specifies' : site.spliced.Specifies machine') (name : String) :
    machine.rulesOf name = machine'.rulesOf name := by
  have same : site.spliced.Yields = grammar.Yields := by
    unfold Yields
    rw [site.ofGrammar_spliced]
  by_cases known : name ∈ machine.stateNames
  · obtain ⟨state, listed, rfl⟩ := specifies.mem_stateNames.1 known
    obtain ⟨flat, unfolds, yields⟩ := specifies.rules state listed
    have after := site.unfolds_spliced acceptable unfolds
    refine yields_unique.forall₂ yields (same ▸ ?_)
    rcases site.mem_allStates_spliced listed with kept | rfl
    · exact specifies'.forall₂_rulesOf kept after
    · exact specifies'.forall₂_rulesOf (List.mem_append_left _ site.opened_mem)
        (site.unfolds_opened acceptable after)
  · have unknown := known
    rw [site.mem_stateNames_iff specifies specifies'] at unknown
    rw [Machine.rulesOf_eq_nil known, Machine.rulesOf_eq_nil unknown]

end Inclusion

end Grammar

namespace Lexer

/-- **Includes.** A rule that is there for the rules of a declared state may be replaced by
those rules, as they are declared: the one grammar can be built if and only if the other can,
and then both lexers make the same tokens of each text, with the same snapshot after any
number of calls. -/
theorem splice_in_place {grammar : Grammar} (site : grammar.Inclusion) :
    ((∃ lexer, ofGrammar grammar = .ok lexer) ↔
        ∃ lexer, ofGrammar site.spliced = .ok lexer) ∧
      ∀ lexer lexer', ofGrammar grammar = .ok lexer → ofGrammar site.spliced = .ok lexer' →
        ∀ text options, lexer.tokens text options = lexer'.tokens text options ∧
          ∀ count, ((lexer.start text options).after count).snapshot =
            ((lexer'.start text options).after count).snapshot := by
  constructor
  · have builds (grammar : Grammar) :
        (∃ lexer, ofGrammar grammar = .ok lexer) ↔ grammar.Acceptable := by
      rw [ofGrammar, exists_map_eq_ok]
      constructor
      · rintro ⟨machine, built⟩
        exact Grammar.acceptable_of_build built
      · intro acceptable
        exact acceptable.exists_build
    rw [builds, builds, site.acceptable_iff]
  · intro lexer lexer' built built' text options
    obtain ⟨machine, builds, rfl⟩ := map_eq_ok.1 built
    obtain ⟨machine', builds', rfl⟩ := map_eq_ok.1 built'
    have acceptable := Grammar.acceptable_of_build builds
    have specifies := Grammar.specifies_of_build builds
    have specifies' := Grammar.specifies_of_build builds'
    exact runs_eq (site.mem_stateNames_iff specifies specifies')
      (site.rulesOf_eq acceptable specifies specifies') text options

/-- The include at the root of the grammar of brackets. -/
def bracketsInclusion : Grammar.brackets.Inclusion where
  earlier := []
  name := rootState
  front := Grammar.brackets.states[0].rules.take 1
  rule := ⟨"", none, none, none, some "tags", none, none, none⟩
  back := []
  later := Grammar.brackets.states.drop 1
  target := Grammar.brackets.states[2]
  states := rfl
  free := by decide
  splice := rfl
  declared := List.getElem_mem _

/-- The rules that are put in place of this include use a list of states before another one
does, so that the lexers have their states in different orders. -/
theorem splice_in_place_brackets :
    Grammar.brackets.usedLists = [["words", "close"], ["close"], ["close", "words"]] ∧
      bracketsInclusion.spliced.usedLists = [["words", "close"], ["close", "words"], ["close"]] ∧
        ∃ lexer lexer', ofGrammar Grammar.brackets = .ok lexer ∧
          ofGrammar bracketsInclusion.spliced = .ok lexer' ∧
            ∀ text options, lexer.tokens text options = lexer'.tokens text options ∧
              ∀ count, ((lexer.start text options).after count).snapshot =
                ((lexer'.start text options).after count).snapshot := by
  obtain ⟨machine, builds⟩ := Grammar.exists_brackets
  have built : ofGrammar Grammar.brackets = .ok _ := map_eq_ok.2 ⟨machine, builds, rfl⟩
  obtain ⟨both, runs⟩ := splice_in_place bracketsInclusion
  obtain ⟨lexer', built'⟩ := both.1 ⟨_, built⟩
  exact ⟨by decide, by decide, _, lexer', built, built', runs _ _ built built'⟩

end Lexer

end GrammarLexer
