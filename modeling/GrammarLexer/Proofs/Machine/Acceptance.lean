import GrammarLexer.Lexer.Basic
import GrammarLexer.Proofs.Machine.Includes

/-!
# Which grammars can be built

A grammar can be built if and only if it is acceptable (`exists_ofGrammar_iff`), where
`Acceptable` speaks of its declarations alone, in no order: which names must be declared
and distinct, which directives go together, which patterns and kinds must be known, and
that no state includes itself at any remove. The passes of `Grammar.build` are taken one
after the other, by what each one asks of the declarations.
-/

namespace GrammarLexer

namespace Grammar

/-- The lists of states that are pushed as one. -/
def combinedLists (grammar : Grammar) : List (List String) :=
  GrammarLexer.combinedLists grammar.rules

/-- A declared state includes another. -/
def Includes (grammar : Grammar) (name target : String) : Prop :=
  ∃ state ∈ grammar.states, state.name = name ∧ ∃ rule ∈ state.rules, rule.splice = some target

/-- What a grammar must fulfil to be built. -/
structure Acceptable (grammar : Grammar) : Prop where
  names : grammar.stateNames.Nodup
  root : rootState ∈ grammar.stateNames
  directives : ∀ rule ∈ grammar.rules, rule.conflict? = none
  splices : ∀ rule ∈ grammar.rules, ∀ name ∈ rule.splice, name ∈ grammar.stateNames
  members : ∀ members ∈ grammar.combinedLists, ∀ name ∈ members, name ∈ grammar.stateNames
  targets : ∀ rule ∈ grammar.rules, ∀ name ∈ rule.targetNames,
    name = "" ∨ name = pushCurrent ∨ name ∈ grammar.stateNames
  patterns : ∀ rule ∈ grammar.rules, rule.splice = none →
    ∃ program, Pattern.compile grammar.config.options.flags rule.pattern = .ok program
  kinds : ∀ rule ∈ grammar.rules, rule.splice = none →
    ∀ name ∈ rule.kindNames, ∃ kind, Kind.ofName? name = some kind
  fresh : ∀ members ∈ grammar.combinedLists, combinedName members ∉ grammar.stateNames
  apart : ∀ left ∈ grammar.combinedLists, ∀ right ∈ grammar.combinedLists,
    left ≠ right → combinedName left ≠ combinedName right
  acyclic : ∀ name, ¬ Relation.TransGen grammar.Includes name name

variable {grammar : Grammar}

/-! ## The passes -/

/-- A grammar is built in three passes after the checks. -/
theorem build_eq_ok {machine : Machine} : grammar.build = .ok machine ↔
    grammar.check = .ok () ∧ ∃ items noted resolved,
      (RuleContext.ofGrammar grammar).allItems [] grammar.states = .ok (items, noted) ∧
        resolveAll items [] grammar.stateNames = .ok resolved ∧
          Machine.assemble grammar.stateNames resolved noted = machine := by
  simp only [build, bind_eq_ok, Prod.exists, Except.ok.injEq]
  constructor
  · rintro ⟨⟨⟩, checked, items, noted, compiled, resolved, done, same⟩
    exact ⟨checked, items, noted, resolved, compiled, done, same⟩
  · rintro ⟨checked, items, noted, resolved, compiled, done, same⟩
    exact ⟨(), checked, items, noted, compiled, resolved, done, same⟩

/-- What the rules of a grammar become, and the lists noted on the way. -/
structure Compiles (grammar : Grammar) (items : List (String × List Item))
    (noted : List (List String)) : Prop where
  items : List.Forall₂ (RuleContext.ofGrammar grammar).CompiledState grammar.states items
  well : (RuleContext.ofGrammar grammar).WellNoted grammar.combinedLists
  noted : grammar.combinedLists.foldl RuleContext.noteOnce [] = noted

/-- The pass over the rules of a grammar without conflicts. -/
theorem allItems_eq_ok (free : ∀ rule ∈ grammar.rules, rule.conflict? = none)
    {items : List (String × List Item)} {noted : List (List String)} :
    (RuleContext.ofGrammar grammar).allItems [] grammar.states = .ok (items, noted) ↔
      grammar.Compiles items noted := by
  have free' : ∀ state ∈ grammar.states, ∀ rule ∈ state.rules, rule.conflict? = none :=
    List.forall_mem_flatMap.1 free
  have nothing : (RuleContext.ofGrammar grammar).WellNoted [] :=
    ⟨by simp, by simp, by simp⟩
  rw [RuleContext.allItems_eq_ok free' nothing, List.append_nil]
  exact ⟨fun ⟨items, well, noted⟩ => ⟨items, well, noted⟩,
    fun ⟨items, well, noted⟩ => ⟨items, well, noted⟩⟩

/-- What the machine of a grammar is put together from. -/
structure Built (grammar : Grammar) (items : List (String × List Item))
    (noted : List (List String)) (resolved : Resolved) : Prop where
  names : grammar.stateNames.Nodup
  root : rootState ∈ grammar.stateNames
  directives : ∀ rule ∈ grammar.rules, rule.conflict? = none
  compiles : grammar.Compiles items noted
  resolves : resolveAll items [] grammar.stateNames = .ok resolved

/-- A machine is put together from what the passes leave. -/
theorem exists_built {machine : Machine} (built : grammar.build = .ok machine) :
    ∃ items noted resolved, grammar.Built items noted resolved ∧
      Machine.assemble grammar.stateNames resolved noted = machine := by
  obtain ⟨checked, items, noted, resolved, compiled, done, same⟩ := build_eq_ok.1 built
  obtain ⟨names, root, free, -⟩ := check_eq_ok.1 checked
  exact ⟨items, noted, resolved,
    ⟨names, root, free, (allItems_eq_ok free).1 compiled, done⟩, same⟩

/-- The includes among the items are those of the declarations. -/
theorem Compiles.splices_iff {items : List (String × List Item)} {noted : List (List String)}
    (compiles : grammar.Compiles items noted) (distinct : grammar.stateNames.Nodup)
    {name target : String} : Splices items name target ↔ grammar.Includes name target := by
  constructor
  · intro splices
    by_cases known : name ∈ grammar.stateNames
    · obtain ⟨state, member, rfl⟩ := List.mem_map.1 known
      have body := forall₂_itemsOf compiles.items distinct member
      exact ⟨state, member, rfl, (splice_mem_iff body).1 splices⟩
    · rw [Splices, itemsOf_eq_nil compiles.items known] at splices
      exact absurd splices List.not_mem_nil
  · rintro ⟨state, member, rfl, includes⟩
    exact (splice_mem_iff (forall₂_itemsOf compiles.items distinct member)).2 includes

/-- The pass over the includes succeeds if no state includes itself at any remove. -/
theorem Compiles.exists_resolveAll_iff {items : List (String × List Item)}
    {noted : List (List String)} (compiles : grammar.Compiles items noted)
    (distinct : grammar.stateNames.Nodup)
    (declared : ∀ rule ∈ grammar.rules, ∀ name ∈ rule.splice, name ∈ grammar.stateNames) :
    (∃ resolved, resolveAll items [] grammar.stateNames = .ok resolved) ↔
      ∀ name, ¬ Relation.TransGen grammar.Includes name name := by
  have same : Splices items = grammar.Includes := by
    funext name target
    exact propext (compiles.splices_iff distinct)
  have names : items.map (·.1) = grammar.stateNames := names_of_compiledStates compiles.items
  rw [← names, ← same]
  refine GrammarLexer.exists_resolveAll_iff ?_
  intro name target splices
  obtain ⟨state, member, -, rule, within, splice⟩ := (compiles.splices_iff distinct).1 splices
  rw [names]
  exact declared rule (List.mem_flatMap.2 ⟨state, member, within⟩) target splice

/-! ## Acceptance -/

/-- A rule that becomes an item. -/
theorem exists_compiled_iff {rule : RuleDecl} (free : rule.conflict? = none) :
    (∃ item, (RuleContext.ofGrammar grammar).Compiled rule item) ↔
      (∀ name ∈ rule.splice, name ∈ grammar.stateNames) ∧
        (∀ name ∈ rule.targetNames,
          name = "" ∨ name = pushCurrent ∨ name ∈ grammar.stateNames) ∧
          (rule.splice = none →
            (∃ program,
              Pattern.compile grammar.config.options.flags rule.pattern = .ok program) ∧
              ∀ name ∈ rule.kindNames, ∃ kind, Kind.ofName? name = some kind) :=
  RuleContext.exists_compiled free

/-- A grammar that can be built is acceptable. -/
theorem acceptable_of_build {machine : Machine} (built : grammar.build = .ok machine) :
    grammar.Acceptable := by
  obtain ⟨items, noted, resolved, ⟨names, root, free, compiles, done⟩, -⟩ := exists_built built
  have become := RuleContext.exists_compiledStates.1 ⟨items, compiles.items⟩
  have fine : ∀ rule ∈ grammar.rules, _ := fun rule member =>
    (exists_compiled_iff (free rule member)).1 (become rule member)
  have splices : ∀ rule ∈ grammar.rules, ∀ name ∈ rule.splice, name ∈ grammar.stateNames :=
    fun rule member => (fine rule member).1
  exact
    { names := names
      root := root
      directives := free
      splices := splices
      members := compiles.well.members
      targets := fun rule member => (fine rule member).2.1
      patterns := fun rule member own => ((fine rule member).2.2 own).1
      kinds := fun rule member own => ((fine rule member).2.2 own).2
      fresh := compiles.well.fresh
      apart := fun left member right member' other same =>
        other (compiles.well.apart left member right member' same)
      acyclic := (compiles.exists_resolveAll_iff names splices).1 ⟨resolved, done⟩ }

/-- An acceptable grammar passes the checks. -/
theorem Acceptable.check_eq_ok (acceptable : grammar.Acceptable) : grammar.check = .ok () := by
  refine Grammar.check_eq_ok.2
    ⟨acceptable.names, acceptable.root, acceptable.directives, ?_⟩
  intro rule member name refers
  obtain ⟨splice | ⟨members, combined, among⟩ | target, named, other⟩ :=
    RuleDecl.mem_references.1 refers
  · exact acceptable.splices rule member name splice
  · refine acceptable.members members (List.mem_flatMap.2 ⟨rule, member, ?_⟩) name among
    exact Option.mem_toList.2 combined
  · have either := acceptable.targets rule member name target
    exact (either.resolve_left named).resolve_left other

/-- An acceptable grammar can be built. -/
theorem Acceptable.exists_build (acceptable : grammar.Acceptable) :
    ∃ machine, grammar.build = .ok machine := by
  -- every rule becomes an item, which gives the items of all states
  have fine : ∀ rule ∈ grammar.rules, ∃ item,
      (RuleContext.ofGrammar grammar).Compiled rule item := by
    intro rule member
    rw [exists_compiled_iff (acceptable.directives rule member)]
    refine ⟨acceptable.splices rule member, acceptable.targets rule member, ?_⟩
    intro own
    exact ⟨acceptable.patterns rule member own, acceptable.kinds rule member own⟩
  obtain ⟨items, compiled⟩ := RuleContext.exists_compiledStates.2 fine
  have well : (RuleContext.ofGrammar grammar).WellNoted grammar.combinedLists := by
    refine ⟨acceptable.members, acceptable.fresh, ?_⟩
    intro left member right member' same
    by_contra other
    exact acceptable.apart left member right member' other same
  have compiles : grammar.Compiles items _ := ⟨compiled, well, rfl⟩
  obtain ⟨resolved, done⟩ :=
    (compiles.exists_resolveAll_iff acceptable.names acceptable.splices).2 acceptable.acyclic
  exact ⟨_, build_eq_ok.2 ⟨acceptable.check_eq_ok, items, _, resolved,
    (allItems_eq_ok acceptable.directives).2 compiles, done, rfl⟩⟩

theorem exists_build_iff : (∃ machine, grammar.build = .ok machine) ↔ grammar.Acceptable :=
  ⟨fun ⟨_, built⟩ => acceptable_of_build built, Acceptable.exists_build⟩

end Grammar

/-- What a rule must fulfil for itself. -/
structure RuleContext.Fits (context : RuleContext) (rule : RuleDecl) : Prop where
  free : rule.conflict? = none
  splices : ∀ name ∈ rule.splice, name ∈ context.declared
  targets : ∀ name ∈ rule.targetNames, context.Refers name
  patterns : rule.splice = none →
    ∃ program, Pattern.compile context.flags rule.pattern = .ok program
  kinds : rule.splice = none → ∀ name ∈ rule.kindNames, ∃ kind, Kind.ofName? name = some kind

/-- A grammar is acceptable if each rule is for itself, the lists in use are fine together, and no
state includes itself. -/
theorem Grammar.acceptable_iff_fits {grammar : Grammar} : grammar.Acceptable ↔
    grammar.stateNames.Nodup ∧ rootState ∈ grammar.stateNames ∧
      (∀ rule ∈ grammar.rules, (RuleContext.ofGrammar grammar).Fits rule) ∧
      (RuleContext.ofGrammar grammar).WellNoted grammar.combinedLists ∧
      ∀ name, ¬ Relation.TransGen grammar.Includes name name := by
  constructor
  · intro acceptable
    refine ⟨acceptable.names, acceptable.root, fun rule member => ?_, ?_, acceptable.acyclic⟩
    · exact ⟨acceptable.directives rule member, acceptable.splices rule member,
        acceptable.targets rule member, acceptable.patterns rule member,
        acceptable.kinds rule member⟩
    · refine ⟨acceptable.members, acceptable.fresh, fun left member right member' same => ?_⟩
      by_contra other
      exact acceptable.apart left member right member' other same
  · rintro ⟨names, root, fits, well, acyclic⟩
    exact
      { names := names
        root := root
        directives := fun rule member => (fits rule member).free
        splices := fun rule member => (fits rule member).splices
        members := well.members
        targets := fun rule member => (fits rule member).targets
        patterns := fun rule member => (fits rule member).patterns
        kinds := fun rule member => (fits rule member).kinds
        fresh := well.fresh
        apart := fun left member right member' other same =>
          other (well.apart left member right member' same)
        acyclic := acyclic }

/-- **Acceptance.** A grammar can be built if and only if it is acceptable. -/
theorem Lexer.exists_ofGrammar_iff (grammar : Grammar) :
    (∃ lexer, Lexer.ofGrammar grammar = .ok lexer) ↔ grammar.Acceptable := by
  simp only [Lexer.ofGrammar, map_eq_ok]
  constructor
  · rintro ⟨_, machine, built, -⟩
    exact Grammar.acceptable_of_build built
  · intro acceptable
    obtain ⟨machine, built⟩ := acceptable.exists_build
    exact ⟨_, machine, built, rfl⟩

end GrammarLexer
