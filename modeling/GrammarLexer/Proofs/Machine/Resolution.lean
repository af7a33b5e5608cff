import GrammarLexer.Proofs.Machine.Specification
import Mathlib.Data.List.Chain

/-!
# Includes that come full circle

`Resolution` says how items are resolved on a path of states, however long the path grows:
it has a rule for each thing that can happen to an item, and no bound. Since the states on
a path are distinct there are never more of them than there are states, so a derivation can
always be found, and it ends as `resolve` answers (`resolution_foldlM`). It fails only where a
state is reached that is being resolved already, and then the path from there on is a cycle
of includes (`Resolution.closesCycle`).

What is left where there is no cycle is told by `Grammar.Expands`, which knows of no order in
which states are resolved. `Grammar.resolves_or_closes` puts the two together.
-/

namespace GrammarLexer

/-! ## Resolving without a bound -/

/-- Items are resolved on a path, after some rules and with some states done already. -/
inductive Resolution (items : List (String × List Item)) :
    List String → List Rule × Resolved → List Item →
      Except GrammarError (List Rule × Resolved) → Prop
  | nil {path : List String} {start : List Rule × Resolved} :
      Resolution items path start [] (.ok start)
  | rule {path : List String} {rules : List Rule} {resolved : Resolved} {rule : Rule}
      {rest : List Item} {outcome : Except GrammarError (List Rule × Resolved)}
      (others : Resolution items path (rules ++ [rule], resolved) rest outcome) :
      Resolution items path (rules, resolved) (.rule rule :: rest) outcome
  | known {path : List String} {rules : List Rule} {resolved : Resolved} {target : String}
      {rest : List Item} {outcome : Except GrammarError (List Rule × Resolved)}
      (done : target ∈ resolved.names)
      (others : Resolution items path (rules ++ resolved.rulesOf target, resolved) rest outcome) :
      Resolution items path (rules, resolved) (.splice target :: rest) outcome
  | circle {path : List String} {rules : List Rule} {resolved : Resolved} {target : String}
      {rest : List Item} (absent : target ∉ resolved.names) (on : target ∈ path) :
      Resolution items path (rules, resolved) (.splice target :: rest)
        (.error (.includeCycle (path.dropWhile (· != target) ++ [target])))
  | within {path : List String} {rules inner : List Rule} {resolved after : Resolved}
      {target : String} {rest : List Item}
      {outcome : Except GrammarError (List Rule × Resolved)}
      (absent : target ∉ resolved.names) (off : target ∉ path)
      (body : Resolution items (path ++ [target]) ([], resolved) (itemsOf items target)
        (.ok (inner, after)))
      (others : Resolution items path (rules ++ inner, (target, inner) :: after) rest outcome) :
      Resolution items path (rules, resolved) (.splice target :: rest) outcome
  | stuck {path : List String} {rules : List Rule} {resolved : Resolved} {target : String}
      {rest : List Item} {error : GrammarError}
      (absent : target ∉ resolved.names) (off : target ∉ path)
      (body : Resolution items (path ++ [target]) ([], resolved) (itemsOf items target)
        (.error error)) :
      Resolution items path (rules, resolved) (.splice target :: rest) (.error error)

variable {items : List (String × List Item)} {fuel : Nat} {path : List String}
  {resolved : Resolved}

/-- **Termination.** The resolving of items comes to an end, and ends as it does with a
bound, if that admits a path through all states. -/
theorem resolution_foldlM
    (closed : ∀ name target, Splices items name target → target ∈ items.map (·.1))
    {todo : List Item} (known : ∀ target, .splice target ∈ todo → target ∈ items.map (·.1))
    (distinct : path.Nodup) (within : path ⊆ items.map (·.1))
    (enough : items.length < fuel + path.length) (start : List Rule × Resolved) :
    Resolution items path start todo (todo.foldlM (resolveItem items fuel path) start) := by
  induction fuel generalizing path todo start with
  | zero =>
    -- distinct states on the path are no more than there are
    have short := (List.subperm_of_subset distinct within).length_le
    rw [List.length_map] at short
    omega
  | succ fuel ih =>
    induction todo generalizing start with
    | nil => exact .nil
    | cons item rest ihRest =>
      have others := ihRest fun target member => known target (List.mem_cons_of_mem _ member)
      obtain ⟨rules, resolved⟩ := start
      rw [List.foldlM_cons]
      cases item with
      | rule rule => exact .rule (others _)
      | splice target =>
        by_cases done : target ∈ resolved.names
        · rw [resolveItem, resolve_of_mem done]
          exact .known done (others _)
        · by_cases on : target ∈ path
          · rw [resolveItem, resolve_of_on_path done on]
            exact .circle done on
          · have here := known target List.mem_cons_self
            have longer : (path ++ [target]).Nodup := by
              rw [← List.concat_eq_append]
              exact List.Nodup.concat on distinct
            have body := ih (closed target) longer
              (List.append_subset.2 ⟨within, List.cons_subset.2 ⟨here, List.nil_subset _⟩⟩)
              (by rw [List.length_append, List.length_singleton]; omega) ([], resolved)
            rw [resolveItem, resolve_of_absent done on]
            cases ends : (itemsOf items target).foldlM
                (resolveItem items fuel (path ++ [target])) ([], resolved) with
            | error error =>
              rw [ends] at body
              exact .stuck done on body
            | ok result =>
              rw [ends] at body
              exact .within done on body (others _)

/-- States that are resolved one after the other are resolved like the items of a state that
includes them all. -/
theorem resolveAll_eq (names : List String) (rules : List Rule) (resolved : Resolved) :
    resolveAll items resolved names =
      ((names.map Item.splice).foldlM (resolveItem items (items.length + 1) [])
        (rules, resolved)).map (·.2) := by
  induction names generalizing rules resolved with
  | nil => rfl
  | cons name rest ih =>
    rw [resolveAll, List.map_cons, List.foldlM_cons, resolveItem]
    cases resolve items (items.length + 1) [] resolved name with
    | error error => rfl
    | ok result => exact ih (rules ++ result.1) result.2

/-! ## Cycles -/

/-- A list that ends where it begins, each member of which has the next one, and in which
nothing else occurs twice. -/
structure ClosesCycle (includes : String → String → Prop) (chain : List String) : Prop where
  two_le : 2 ≤ chain.length
  closed : chain.head? = chain.getLast?
  distinct : chain.dropLast.Nodup
  includes : chain.IsChain includes

/-- The part of a list from a member on begins with it. -/
theorem dropWhile_bne_eq_cons {names : List String} {name : String} (member : name ∈ names) :
    ∃ rest, names.dropWhile (· != name) = name :: rest := by
  induction names with
  | nil => exact absurd member List.not_mem_nil
  | cons first names ih =>
    by_cases same : first = name
    · exact ⟨names, by simp [same]⟩
    · rw [List.dropWhile_cons_of_pos (by simpa using same)]
      exact ih ((List.mem_cons.1 member).resolve_left (Ne.symm same))

/-- A path that leads to one of its own states closes a cycle there. -/
theorem closesCycle_of_mem {includes : String → String → Prop} {target : String}
    (chain : path.IsChain includes) (distinct : path.Nodup) (on : target ∈ path)
    (leads : ∀ last ∈ path.getLast?, includes last target) :
    ClosesCycle includes (path.dropWhile (· != target) ++ [target]) := by
  obtain ⟨rest, begins⟩ := dropWhile_bne_eq_cons on
  obtain ⟨front, whole⟩ := List.dropWhile_suffix (l := path) (· != target)
  rw [begins] at whole ⊢
  subst whole
  refine ⟨by simp, by rw [List.getLast?_concat]; rfl, ?_, ?_⟩
  · rw [List.dropLast_concat]
    exact distinct.of_append_right
  · rw [List.isChain_append]
    refine ⟨(List.isChain_append.1 chain).2.1, List.isChain_singleton target, ?_⟩
    rintro last found _ ⟨⟩
    exact leads last (by rw [List.getLast?_append_cons]; exact found)

/-- **Failure.** Resolving fails only on a cycle of includes, which it names, if each state on
the path includes the next one, and the last of them what is to be resolved. -/
theorem Resolution.closesCycle {start : List Rule × Resolved} {todo : List Item}
    {outcome : Except GrammarError (List Rule × Resolved)} {error : GrammarError}
    (resolves : Resolution items path start todo outcome) (failed : outcome = .error error)
    (chain : path.IsChain (Splices items)) (distinct : path.Nodup)
    (leads : ∀ last ∈ path.getLast?, ∀ target, .splice target ∈ todo →
      Splices items last target) :
    ∃ names, error = .includeCycle names ∧ ClosesCycle (Splices items) names := by
  induction resolves with
  | nil => exact nomatch failed
  | rule _ ih | known _ _ ih | within _ _ _ _ _ ih =>
    exact ih failed chain distinct fun last found target member =>
      leads last found target (List.mem_cons_of_mem _ member)
  | @circle path rules resolved target rest absent on =>
    cases failed
    exact ⟨_, rfl, closesCycle_of_mem chain distinct on fun last found =>
      leads last found target List.mem_cons_self⟩
  | @stuck path rules resolved target rest error' absent off body ih =>
    refine ih failed ?_ ?_ ?_
    · rw [List.isChain_append]
      refine ⟨chain, List.isChain_singleton target, ?_⟩
      rintro last found _ ⟨⟩
      exact leads last found target List.mem_cons_self
    · rw [← List.concat_eq_append]
      exact List.Nodup.concat off distinct
    · rw [List.getLast?_concat]
      rintro _ ⟨⟩ other member
      exact member

/-! ## Grammars -/

namespace Grammar

/-- The rules of a machine that rules expand to: each include is replaced by the rules of the
state included, and what is left is compiled. -/
def Expands (grammar : Grammar) (decls : List RuleDecl) (rules : List Rule) : Prop :=
  ∃ flat, grammar.Unfolds decls flat ∧ List.Forall₂ grammar.Yields flat rules

namespace Compiles

variable {grammar : Grammar} {noted : List (List String)}

/-- Items include what the declarations do. -/
theorem splices_eq (compiles : grammar.Compiles items noted)
    (names : grammar.stateNames.Nodup) : Splices items = grammar.Includes := by
  funext name target
  exact propext (compiles.splices_iff names)

/-- Each declared state has items. -/
theorem map_fst_eq (compiles : grammar.Compiles items noted) :
    items.map (·.1) = grammar.stateNames :=
  names_of_compiledStates compiles.items

/-- Only declared states are included. -/
theorem mem_of_includes (compiles : grammar.Compiles items noted) {name target : String}
    (includes : grammar.Includes name target) : target ∈ grammar.stateNames := by
  obtain ⟨state, declared, -, rule, within, splice⟩ := includes
  have member : rule ∈ grammar.rules := List.mem_flatMap.2 ⟨state, declared, within⟩
  obtain ⟨item, compiled⟩ := RuleContext.exists_compiledStates.1 ⟨items, compiles.items⟩ rule member
  cases item with
  | rule result => exact absurd (splice.symm.trans compiled.1) (by simp)
  | splice found =>
    obtain ⟨same, known⟩ := compiled
    cases splice.symm.trans same
    exact known

/-- Declared states are resolved, in any order and any number of times, as they would be
without a bound. -/
theorem exists_resolution (compiles : grammar.Compiles items noted)
    (names : grammar.stateNames.Nodup) {order : List String} (known : order ⊆ grammar.stateNames) :
    ∃ outcome, Resolution items [] ([], []) (order.map .splice) outcome ∧
      resolveAll items [] order = outcome.map (·.2) := by
  refine ⟨_, ?_, resolveAll_eq order [] []⟩
  refine resolution_foldlM ?_ ?_ List.nodup_nil (List.nil_subset _) (Nat.lt_succ_self _) _
  · intro name target splices
    rw [compiles.map_fst_eq]
    exact compiles.mem_of_includes ((compiles.splices_iff names).1 splices)
  · intro target member
    rw [compiles.map_fst_eq]
    obtain ⟨name, among, same⟩ := List.mem_map.1 member
    cases same
    exact known among

/-- Where they cannot be resolved, there is a cycle of includes. -/
theorem closesCycle_of_error (compiles : grammar.Compiles items noted)
    (names : grammar.stateNames.Nodup) {order : List String} (known : order ⊆ grammar.stateNames)
    {error : GrammarError} (failed : resolveAll items [] order = .error error) :
    ∃ chain, error = .includeCycle chain ∧ ClosesCycle grammar.Includes chain := by
  obtain ⟨outcome, resolves, same⟩ := compiles.exists_resolution names known
  rw [← compiles.splices_eq names]
  cases outcome with
  | ok result => exact nomatch same.symm.trans failed
  | error error' =>
    cases same.symm.trans failed
    refine resolves.closesCycle rfl .nil List.nodup_nil ?_
    intro last found
    exact nomatch found

/-- Without a cycle they can be resolved, and each one has the rules that its declarations
expand to. -/
theorem exists_expands (compiles : grammar.Compiles items noted)
    (names : grammar.stateNames.Nodup)
    (acyclic : ∀ name, ¬ Relation.TransGen grammar.Includes name name) {order : List String}
    (known : order ⊆ grammar.stateNames) :
    ∃ resolved, resolveAll items [] order = .ok resolved ∧
      ∀ state ∈ grammar.states, state.name ∈ order →
        grammar.Expands state.rules (resolved.rulesOf state.name) := by
  have free : Acyclic items := by
    rw [← compiles.splices_eq names] at acyclic
    refine ⟨?_, acyclic⟩
    intro name target splices
    rw [compiles.map_fst_eq]
    exact compiles.mem_of_includes ((compiles.splices_iff names).1 splices)
  obtain ⟨resolved, done⟩ : ∃ resolved, resolveAll items [] order = .ok resolved :=
    free.exists_resolveAll (compiles.map_fst_eq.symm ▸ known)
  obtain ⟨ordered, all⟩ := resolveAll_ordered .nil done
  refine ⟨resolved, done, ?_⟩
  intro state declared among
  exact compiles.exists_unfolds names ordered declared (all _ (.inr among))

end Compiles

variable {grammar : Grammar}

/-- Where names are distinct, rules expand in one way only. -/
theorem Expands.unique (names : grammar.stateNames.Nodup) {decls : List RuleDecl}
    {rules rules' : List Rule} (expands : grammar.Expands decls rules)
    (expands' : grammar.Expands decls rules') : rules = rules' := by
  obtain ⟨flat, unfolds, yields⟩ := expands
  obtain ⟨flat', unfolds', yields'⟩ := expands'
  cases unfolds.unique names unfolds'
  exact yields_unique.forall₂ yields yields'

/-- What is left of the building once the rules are compiled. -/
theorem build_eq_map {noted : List (List String)} (checked : grammar.check = .ok ())
    (compiled : (RuleContext.ofGrammar grammar).allItems [] grammar.states = .ok (items, noted)) :
    grammar.build = (resolveAll items [] grammar.stateNames).map fun resolved =>
      .assemble grammar.stateNames resolved noted := by
  rw [build, checked]
  change ((RuleContext.ofGrammar grammar).allItems [] grammar.states >>= _) = _
  rw [compiled]
  change (resolveAll items [] grammar.stateNames >>= _) = _
  cases resolveAll items [] grammar.stateNames <;> rfl

/-- **Cycles of includes.** Once a grammar has passed the checks and its rules are compiled,
the resolving of its includes comes to an end. It fails if and only if a state includes itself
at some remove, and then names such a cycle. Else each state has the one list of rules that
its declarations expand to, whatever states have been resolved before it. -/
theorem resolves_or_closes {noted : List (List String)} (checked : grammar.check = .ok ())
    (compiled : (RuleContext.ofGrammar grammar).allItems [] grammar.states = .ok (items, noted)) :
    (∃ outcome, Resolution items [] ([], []) (grammar.stateNames.map .splice) outcome ∧
        resolveAll items [] grammar.stateNames = outcome.map (·.2)) ∧
      ((∃ chain, grammar.build = .error (.includeCycle chain)) ↔
        ∃ name, Relation.TransGen grammar.Includes name name) ∧
      (∀ chain, grammar.build = .error (.includeCycle chain) →
        ClosesCycle grammar.Includes chain) ∧
      ((∀ name, ¬ Relation.TransGen grammar.Includes name name) →
        (∃ machine, grammar.build = .ok machine ∧ ∀ state ∈ grammar.states, ∀ rules,
          grammar.Expands state.rules rules ↔ rules = machine.rulesOf state.name) ∧
        ∀ order ⊆ grammar.stateNames, ∃ resolved, resolveAll items [] order = .ok resolved ∧
          ∀ state ∈ grammar.states, state.name ∈ order → ∀ rules,
            grammar.Expands state.rules rules ↔ rules = resolved.rulesOf state.name) := by
  obtain ⟨names, -, free, -⟩ := check_eq_ok.1 checked
  have compiles := (allItems_eq_ok free).1 compiled
  have built := build_eq_map checked compiled
  have all : grammar.stateNames ⊆ grammar.stateNames := List.Subset.refl _
  have single {decls : List RuleDecl} {found : List Rule} (expands : grammar.Expands decls found)
      (rules : List Rule) : grammar.Expands decls rules ↔ rules = found :=
    ⟨fun expands' => expands'.unique names expands, fun same => same ▸ expands⟩
  have fails : ∀ chain, grammar.build = .error (.includeCycle chain) →
      ClosesCycle grammar.Includes chain ∧ ∃ name, Relation.TransGen grammar.Includes name name := by
    intro chain failed
    cases done : resolveAll items [] grammar.stateNames with
    | ok resolved =>
      rw [built, done] at failed
      exact nomatch failed
    | error error =>
      rw [built, done] at failed
      cases failed
      obtain ⟨_, ⟨⟩, closes⟩ := compiles.closesCycle_of_error names all done
      refine ⟨closes, ?_⟩
      by_contra acyclic
      obtain ⟨resolved, done', -⟩ := compiles.exists_expands names (not_exists.1 acyclic) all
      exact nomatch done.symm.trans done'
  refine ⟨compiles.exists_resolution names all, ⟨?_, ?_⟩, fun chain failed => (fails chain failed).1,
    fun acyclic => ⟨?_, ?_⟩⟩
  · rintro ⟨chain, failed⟩
    exact (fails chain failed).2
  · rintro ⟨name, cycle⟩
    cases done : resolveAll items [] grammar.stateNames with
    | ok resolved =>
      -- a state that is done does not include itself at any remove
      obtain ⟨ordered, among⟩ := resolveAll_ordered .nil done
      obtain ⟨above, -, includes⟩ := Relation.TransGen.tail'_iff.1 cycle
      rw [← compiles.splices_eq names] at cycle
      exact absurd cycle (ordered.acyclic (among name (.inr (compiles.mem_of_includes includes))))
    | error error =>
      obtain ⟨chain, rfl, -⟩ := compiles.closesCycle_of_error names all done
      exact ⟨chain, by rw [built, done]; rfl⟩
  · obtain ⟨resolved, done, -⟩ := compiles.exists_expands names acyclic all
    rw [done] at built
    refine ⟨_, built, ?_⟩
    intro state declared
    exact single ((specifies_of_build built).rules state (List.mem_append_left _ declared))
  · intro order known
    obtain ⟨resolved, done, expands⟩ := compiles.exists_expands names acyclic known
    exact ⟨resolved, done, fun state declared among => single (expands state declared among)⟩

/-- Two states that include each other, the first one included by the root. -/
def circle : Grammar where
  config := ⟨"circle", [], [], [], .zero, ⟨false, false, false⟩⟩
  states := [⟨"root", [.including "first"]⟩, ⟨"first", [.including "second"]⟩,
    ⟨"second", [.including "first"]⟩]

/-- The cycle is named from the first of its states on, and the root is not part of it. -/
theorem resolves_or_closes_circle :
    circle.check = .ok () ∧
      (RuleContext.ofGrammar circle).allItems [] circle.states =
        .ok ([("root", [.splice "first"]), ("first", [.splice "second"]),
          ("second", [.splice "first"])], []) ∧
      circle.build = .error (.includeCycle ["first", "second", "first"]) ∧
      ClosesCycle circle.Includes ["first", "second", "first"] := by
  have checked : circle.check = .ok () := by decide +kernel
  have built : circle.build = .error (.includeCycle ["first", "second", "first"]) := by
    decide +kernel
  exact ⟨checked, rfl, built, (resolves_or_closes checked rfl).2.2.1 _ built⟩

end Grammar

end GrammarLexer
