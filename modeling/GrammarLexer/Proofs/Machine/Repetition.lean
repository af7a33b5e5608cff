import GrammarLexer.Proofs.Machine.Shedding

/-!
# States that are included again

Behind an include, a state that this brings in may be included once more, be it the very state that
is named or one that is included in turn. The grammar with one more include can be built if and
only if the one without it can (`Repetition.acceptable_iff`). What the include unfolds to is there
before it already (`Unfolds.exists_reached`), so the rules of any state with it shed to those
without it (`Repetition.exists_unfolds`).
-/

namespace GrammarLexer.Grammar

/-! ## What is included -/

namespace Unfolds

variable {grammar : Grammar}

/-- What an include unfolds to is among what the rules unfold to. -/
theorem exists_spliced {rules flat : List RuleDecl} (unfolds : grammar.Unfolds rules flat)
    {rule : RuleDecl} (member : rule ∈ rules) {target : String}
    (splice : rule.splice = some target) : ∃ state ∈ grammar.states, state.name = target ∧
      ∃ inner, grammar.Unfolds state.rules inner ∧ inner ⊆ flat := by
  induction unfolds with
  | nil => exact absurd member List.not_mem_nil
  | own own _ ih =>
    rcases List.mem_cons.1 member with rfl | later
    · exact nomatch own.symm.trans splice
    · obtain ⟨state, declared, named, inner, within, subset⟩ := ih later
      exact ⟨state, declared, named, inner, within,
        List.Subset.trans subset (List.subset_cons_self _ _)⟩
  | splice includes declared within _ _ ih =>
    rcases List.mem_cons.1 member with rfl | later
    · exact ⟨_, declared, Option.some.inj (includes.symm.trans splice), _, within,
        List.subset_append_left _ _⟩
    · obtain ⟨state, declared', named, inner, within', subset⟩ := ih later
      exact ⟨state, declared', named, inner, within',
        List.Subset.trans subset (List.subset_append_right _ _)⟩

/-- So is what the states unfold to that are included in turn. -/
theorem exists_reached (distinct : grammar.stateNames.Nodup) {rules flat : List RuleDecl}
    (unfolds : grammar.Unfolds rules flat) {rule : RuleDecl} (member : rule ∈ rules)
    {first target : String} (splice : rule.splice = some first)
    (reached : Relation.ReflTransGen grammar.Includes first target) :
    ∃ state ∈ grammar.states, state.name = target ∧
      ∃ inner, grammar.Unfolds state.rules inner ∧ inner ⊆ flat := by
  induction reached with
  | refl => exact unfolds.exists_spliced member splice
  | tail _ edge ih =>
    obtain ⟨state, declared, rfl, inner, within, subset⟩ := ih
    obtain ⟨state', declared', named, rule', member', splice'⟩ := edge
    cases List.inj_on_of_nodup_map distinct declared' declared named
    obtain ⟨last, declared'', named', inner', within', subset'⟩ :=
      within.exists_spliced member' splice'
    exact ⟨last, declared'', named', inner', within', List.Subset.trans subset' subset⟩

end Unfolds

/-- A place in a state behind an include, with an include of a state that is there already: the
states and rules around the place, and the rule to be put there. -/
structure Repetition (grammar : Grammar) where
  earlier : List StateDecl
  name : String
  front : List RuleDecl
  rule : RuleDecl
  back : List RuleDecl
  later : List StateDecl
  target : String
  states : grammar.states = earlier ++ ⟨name, front ++ back⟩ :: later
  free : rule.conflict? = none
  splice : rule.splice = some target
  reached : ∃ before ∈ front, ∃ first, before.splice = some first ∧
    Relation.ReflTransGen grammar.Includes first target

namespace Repetition

variable {grammar : Grammar} (site : grammar.Repetition)

/-- The state without the rule. -/
def owner : StateDecl := ⟨site.name, site.front ++ site.back⟩

/-- The state with the rule. -/
def longer : StateDecl := ⟨site.name, site.front ++ site.rule :: site.back⟩

/-- The grammar with the rule. -/
def repeated : Grammar := { grammar with states := site.earlier ++ site.longer :: site.later }

/-! ## What is declared -/

theorem stateNames_repeated : site.repeated.stateNames = grammar.stateNames := by
  rw [stateNames, stateNames, site.states]
  simp [repeated, longer]

theorem ofGrammar_repeated :
    RuleContext.ofGrammar site.repeated = RuleContext.ofGrammar grammar := by
  rw [RuleContext.ofGrammar, stateNames_repeated]
  rfl

theorem owner_mem : site.owner ∈ grammar.states := by
  rw [site.states]
  exact List.mem_append_right _ List.mem_cons_self

theorem longer_mem : site.longer ∈ site.repeated.states :=
  List.mem_append_right _ List.mem_cons_self

/-- Only the state with the place is another. -/
theorem mem_states {state : StateDecl} (declared : state ∈ grammar.states) :
    state ∈ site.repeated.states ∨ state = site.owner := by
  rw [site.states] at declared
  exact mem_append_cons_or _ declared

/-- The states with the rule. -/
theorem mem_states_repeated {state : StateDecl} (declared : state ∈ site.repeated.states) :
    state ∈ grammar.states ∨ state = site.longer := by
  rw [site.states]
  exact mem_append_cons_or _ declared

theorem mem_longer {rule : RuleDecl} :
    rule ∈ site.longer.rules ↔ rule = site.rule ∨ rule ∈ site.owner.rules := by
  simp only [longer, owner, List.mem_append, List.mem_cons]
  exact or_left_comm

/-- The rules are the same ones, and the rule. -/
theorem mem_rules {rule : RuleDecl} :
    rule ∈ site.repeated.rules ↔ rule = site.rule ∨ rule ∈ grammar.rules := by
  simp only [rules, repeated, site.states, List.flatMap_append, List.flatMap_cons, List.mem_append,
    mem_longer]
  simp only [owner, List.mem_append]
  tauto

/-- The rule has no other directive. -/
theorem eq_none : site.rule.token = none ∧ site.rule.push = none ∧ site.rule.combined = none ∧
    site.rule.groups = none ∧ site.rule.delegate = none :=
  RuleDecl.eq_none_of_splice site.free (by simp [site.splice])

theorem mem_combinedLists {members : List String} :
    members ∈ site.repeated.combinedLists ↔ members ∈ grammar.combinedLists := by
  simp only [combinedLists, GrammarLexer.combinedLists, List.mem_flatMap, site.mem_rules,
    or_and_right, exists_or, exists_eq_left, site.eq_none.2.2.1]
  simp

/-! ## The include graph -/

/-- With the rule there is one more include. -/
theorem includes_repeated {name target : String} : site.repeated.Includes name target ↔
    grammar.Includes name target ∨ name = site.name ∧ target = site.target := by
  constructor
  · rintro ⟨state, declared, rfl, rule, within, splice⟩
    rcases site.mem_states_repeated declared with same | rfl
    · exact .inl ⟨state, same, rfl, rule, within, splice⟩
    · rcases site.mem_longer.1 within with rfl | within
      · exact .inr ⟨rfl, Option.some.inj (splice.symm.trans site.splice)⟩
      · exact .inl ⟨site.owner, site.owner_mem, rfl, rule, within, splice⟩
  · rintro (⟨state, declared, rfl, rule, within, splice⟩ | ⟨rfl, rfl⟩)
    · rcases site.mem_states declared with same | rfl
      · exact ⟨state, same, rfl, rule, within, splice⟩
      · exact ⟨site.longer, site.longer_mem, rfl, rule, site.mem_longer.2 (.inr within), splice⟩
    · exact ⟨site.longer, site.longer_mem, rfl, site.rule, site.mem_longer.2 (.inl rfl),
        site.splice⟩

/-- The state of the rule was included at some remove. -/
theorem transGen_target : Relation.TransGen grammar.Includes site.name site.target := by
  obtain ⟨before, member, first, splice, reached⟩ := site.reached
  have edge : grammar.Includes site.name first :=
    ⟨site.owner, site.owner_mem, rfl, before, List.mem_append_left _ member, splice⟩
  exact .head' edge reached

theorem acyclic_iff : (∀ name, ¬ Relation.TransGen site.repeated.Includes name name) ↔
    ∀ name, ¬ Relation.TransGen grammar.Includes name name := by
  constructor
  · intro acyclic name cycle
    exact acyclic name
      (Relation.TransGen.mono (fun _ _ edge => site.includes_repeated.2 (.inl edge)) _ _ cycle)
  · intro acyclic name cycle
    refine acyclic name (Relation.TransGen.closed (fun _ _ edge => ?_) _ _ cycle)
    rcases site.includes_repeated.1 edge with old | ⟨rfl, rfl⟩
    · exact .single old
    · exact site.transGen_target

/-! ## Building -/

/-- The rule fits where all others do: the state it names is declared, as whatever is included. -/
theorem fits (fits : ∀ rule ∈ grammar.rules, (RuleContext.ofGrammar grammar).Fits rule) :
    (RuleContext.ofGrammar grammar).Fits site.rule := by
  obtain ⟨-, push, -, groups, delegate⟩ := site.eq_none
  obtain ⟨_, -, state, declared, -, rule, member, splice⟩ :=
    Relation.TransGen.tail'_iff.1 site.transGen_target
  have known : site.target ∈ grammar.stateNames :=
    (fits rule (List.mem_flatMap.2 ⟨state, declared, member⟩)).splices _ splice
  refine ⟨site.free, ?_, ?_, by simp [site.splice], by simp [site.splice]⟩
  · rintro name named
    cases Option.some.inj (site.splice.symm.trans named)
    exact known
  · simp [RuleDecl.targetNames, RuleDecl.delegatedNames, push, groups, delegate,
      RuleDecl.delegateNames]

/-- The one grammar is acceptable if and only if the other is. -/
theorem acceptable_iff : site.repeated.Acceptable ↔ grammar.Acceptable := by
  have rules : (∀ rule ∈ site.repeated.rules, (RuleContext.ofGrammar grammar).Fits rule) ↔
      ∀ rule ∈ grammar.rules, (RuleContext.ofGrammar grammar).Fits rule := by
    simp only [site.mem_rules, forall_eq_or_imp]
    exact and_iff_right_of_imp site.fits
  have lists : (RuleContext.ofGrammar grammar).WellNoted site.repeated.combinedLists ↔
      (RuleContext.ofGrammar grammar).WellNoted grammar.combinedLists :=
    ⟨fun well => well.mono fun _ => site.mem_combinedLists.2,
      fun well => well.mono fun _ => site.mem_combinedLists.1⟩
  rw [acceptable_iff_fits, acceptable_iff_fits, site.stateNames_repeated, site.ofGrammar_repeated,
    rules, lists, site.acyclic_iff]

/-! ## The rules of the two machines -/

/-- **The place.** What the state unfolds to with the rule sheds to what it unfolds to without. -/
theorem exists_unfolds_longer (distinct : grammar.stateNames.Nodup) {flat : List RuleDecl}
    (unfolds : site.repeated.Unfolds site.owner.rules flat) :
    ∃ flat', site.repeated.Unfolds site.longer.rules flat' ∧
      Sheds RuleDecl.pattern [] flat' flat := by
  obtain ⟨front, back, first, second, rfl⟩ := unfolds.of_append
  obtain ⟨before, member, via, splice, reached⟩ := site.reached
  have distinct' : site.repeated.stateNames.Nodup := site.stateNames_repeated ▸ distinct
  have reached' : Relation.ReflTransGen site.repeated.Includes via site.target :=
    Relation.ReflTransGen.mono (fun _ _ edge => site.includes_repeated.2 (.inl edge)) _ _ reached
  obtain ⟨state, declared, named, inner, within, subset⟩ :=
    first.exists_reached distinct' member splice reached'
  have includes : site.rule.splice = some state.name := named ▸ site.splice
  refine ⟨front ++ (inner ++ back), first.append (.splice includes declared within second), ?_⟩
  refine (Sheds.refl front).append ?_
  -- what the rule brings in has the patterns of what is in front
  have seen : ∀ rule ∈ inner, rule.pattern ∈ front.map RuleDecl.pattern ++ [] := by
    intro rule member
    rw [List.append_nil]
    exact List.mem_map_of_mem (subset member)
  exact (Sheds.of_seen seen).append (.refl back)

/-- **Unfolding.** Rules unfold with the rule to what sheds to what they unfold to without it. -/
theorem exists_unfolds (distinct : grammar.stateNames.Nodup) {rules flat : List RuleDecl}
    (unfolds : grammar.Unfolds rules flat) : ∃ flat', site.repeated.Unfolds rules flat' ∧
      Sheds RuleDecl.pattern [] flat' flat := by
  induction unfolds with
  | nil => exact ⟨[], .nil, .nil⟩
  | own own _ ih =>
    obtain ⟨flat', unfolds', sheds⟩ := ih
    exact ⟨_, .own own unfolds', .keep (sheds.mono (List.nil_subset _))⟩
  | @splice rule state _ inner _ includes declared _ _ ihWithin ih =>
    obtain ⟨flat', unfolds', sheds⟩ := ih
    -- the state with the place has the rule behind what it unfolds to without
    obtain ⟨state', declared', named, inner', within, sheds'⟩ :
        ∃ state' ∈ site.repeated.states, state'.name = state.name ∧ ∃ inner',
          site.repeated.Unfolds state'.rules inner' ∧ Sheds RuleDecl.pattern [] inner' inner := by
      obtain ⟨inner', within, sheds'⟩ := ihWithin
      rcases site.mem_states declared with same | rfl
      · exact ⟨state, same, rfl, inner', within, sheds'⟩
      · obtain ⟨inner'', within', sheds''⟩ := site.exists_unfolds_longer distinct within
        exact ⟨site.longer, site.longer_mem, rfl, inner'', within', sheds''.trans sheds'⟩
    exact ⟨inner' ++ flat', .splice (named ▸ includes) declared' within unfolds',
      sheds'.append (sheds.mono (List.nil_subset _))⟩

variable {machine machine' : Machine}

theorem mem_stateNames_iff (specifies : site.repeated.Specifies machine)
    (specifies' : grammar.Specifies machine') (name : String) :
    name ∈ machine.stateNames ↔ name ∈ machine'.stateNames := by
  simp only [specifies.names, specifies'.names, map_name_allStates, site.stateNames_repeated,
    List.mem_append, List.mem_map, mem_usedLists, site.mem_combinedLists]

/-- Each state has the same name with the rule and unfolds to what sheds. -/
theorem exists_allStates (distinct : grammar.stateNames.Nodup) {state : StateDecl}
    (listed : state ∈ grammar.allStates) {flat : List RuleDecl}
    (unfolds : grammar.Unfolds state.rules flat) :
    ∃ state' ∈ site.repeated.allStates, state'.name = state.name ∧
      ∃ flat', site.repeated.Unfolds state'.rules flat' ∧ Sheds RuleDecl.pattern [] flat' flat := by
  obtain ⟨flat', unfolds', sheds⟩ := site.exists_unfolds distinct unfolds
  rcases mem_allStates.1 listed with declared | ⟨members, used, rfl⟩
  · rcases site.mem_states declared with same | rfl
    · exact ⟨state, List.mem_append_left _ same, rfl, flat', unfolds', sheds⟩
    · obtain ⟨flat'', unfolds'', sheds'⟩ := site.exists_unfolds_longer distinct unfolds'
      exact ⟨site.longer, List.mem_append_left _ site.longer_mem, rfl, flat'', unfolds'',
        sheds'.trans sheds⟩
  · exact ⟨_, mem_allStates.2 (.inr ⟨members, site.mem_combinedLists.2 used, rfl⟩), rfl, flat',
      unfolds', sheds⟩

/-- **Rules.** The rules of each state with the rule shed to those without it. -/
theorem sheds_rulesOf (specifies : site.repeated.Specifies machine)
    (specifies' : grammar.Specifies machine') (name : String) :
    Sheds Rule.pattern [] (machine.rulesOf name) (machine'.rulesOf name) := by
  by_cases known : name ∈ machine'.stateNames
  · obtain ⟨state, listed, rfl⟩ := specifies'.mem_stateNames.1 known
    obtain ⟨flat, unfolds, yields⟩ := specifies'.rules state listed
    obtain ⟨state', listed', named, flat', unfolds', sheds⟩ :=
      site.exists_allStates specifies'.nodup_stateNames listed unfolds
    have yields' := specifies.forall₂_rulesOf listed' unfolds'
    have same : site.repeated.Yields = grammar.Yields := by
      unfold Yields
      rw [site.ofGrammar_repeated]
    rw [same, named] at yields'
    have patterns : ∀ decl rule, grammar.Yields decl rule → decl.pattern = rule.pattern :=
      fun _ _ yields => yields.2.1
    obtain ⟨kept, pairs, sheds'⟩ := sheds.exists_forall₂ patterns yields'
    rwa [yields_unique.forall₂ pairs yields] at sheds'
  · have unknown := known
    rw [← site.mem_stateNames_iff specifies specifies'] at unknown
    rw [Machine.rulesOf_eq_nil known, Machine.rulesOf_eq_nil unknown]
    exact .nil

end Repetition

end GrammarLexer.Grammar
