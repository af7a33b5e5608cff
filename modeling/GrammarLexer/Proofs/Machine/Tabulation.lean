import GrammarLexer.Proofs.Machine.Numbering
import GrammarLexer.Proofs.Machine.Specification

/-!
# Building a table

A table is built where a machine is, and refused for the same reason (`build_agree`). Includes
are resolved in the same order, so what is known of each state at each step is the same
(`NumberedResolved`). Sorting the lists by number gives the order in which they were noted,
in whatever order they come from the map (`mergeSort_order`), so each state that is made last
finds its place (`synthesize_numbered`). Nothing is missing on the way.
-/

namespace GrammarLexer

/-- A state with numbers in place of names in its rules. -/
structure State.Numbered (numbers : String → Nat → Prop) (left : State) (right : Table.State) :
    Prop where
  name : left.name = right.name
  rules : List.Forall₂ (Rule.Numbered numbers) left.rules right.rules

/-- A table of the states of a machine. -/
structure Table.Tabulates (table : Table) (machine : Machine) : Prop where
  states : List.Forall₂ (State.Numbered (Numbers machine.stateNames)) machine.states table.states
  byName : table.byName = machine.stateNames.zipIdx.reverse
  root : Numbers machine.stateNames rootState table.root

namespace Table.Tabulates

variable {machine : Machine} {table table' : Table}

/-- Numbers are looked up by name. -/
theorem lookup_eq_some_iff (tabulates : table.Tabulates machine)
    (distinct : machine.stateNames.Nodup) {name : String} {number : Nat} :
    table.lookup name = some number ↔ Numbers machine.stateNames name number := by
  have keys : (machine.stateNames.zipIdx.reverse.map (·.1)).Nodup := by
    rw [List.map_reverse, List.zipIdx_map_fst]
    exact List.nodup_reverse.2 distinct
  rw [lookup, tabulates.byName, GrammarLexer.lookup_eq_some_iff keys, List.mem_reverse,
    List.mem_zipIdx_iff_getElem?]
  rfl

/-- A machine whose states have distinct names has one table. -/
theorem unique (distinct : machine.stateNames.Nodup) (tabulates : table.Tabulates machine)
    (tabulates' : table'.Tabulates machine) : table = table' := by
  have once : Relator.RightUnique (Numbers machine.stateNames) :=
    fun _ _ _ numbers numbers' => numbers.number_eq distinct numbers'
  have states : Relator.RightUnique (State.Numbered (Numbers machine.stateNames)) := by
    rintro state ⟨name, rules⟩ ⟨name', rules'⟩ ⟨rfl, same⟩ ⟨rfl, same'⟩
    cases (Rule.numbered_unique once).forall₂ same same'
    rfl
  obtain ⟨_, _, _⟩ := table
  obtain ⟨_, _, _⟩ := table'
  obtain ⟨all, byName, root⟩ := tabulates
  obtain ⟨all', byName', root'⟩ := tabulates'
  simp only at all byName root all' byName' root'
  rw [states.forall₂ all all', byName, byName', root.number_eq distinct root']

end Table.Tabulates

/-! ## Resolving by number -/

section Resolving

/-- What has been resolved is the same by name and by number. -/
structure NumberedResolved (declared : List String) (numbers : String → Nat → Prop)
    (resolved : Resolved) (resolved' : Table.Resolved) : Prop where
  length : resolved'.length = declared.length
  entry : ∀ name number, Numbers declared name number → ∃ entry, resolved'[number]? = some entry ∧
    Option.Rel (List.Forall₂ (Rule.Numbered numbers)) (resolved.lookup name) entry

/-- A state has been resolved, and so is what has been resolved by number. -/
def Resolves (declared : List String) (numbers : String → Nat → Prop) (name : String)
    (left : List Rule × Resolved) (right : Table.Resolved) : Prop :=
  left.2.lookup name = some left.1 ∧ NumberedResolved declared numbers left.2 right

variable {declared names : List String} {numbers : String → Nat → Prop}
  {entries : List (String × List Item)} {bodies : List (List Table.Item)}

theorem NumberedResolved.nil :
    NumberedResolved declared numbers [] (List.replicate declared.length none) := by
  refine ⟨List.length_replicate, ?_⟩
  intro name number numbered
  exact ⟨none, List.getElem?_replicate_of_lt numbered.lt, .none⟩

theorem NumberedResolved.set (distinct : declared.Nodup) {resolved : Resolved}
    {resolved' : Table.Resolved} (all : NumberedResolved declared numbers resolved resolved')
    {name : String} {number : Nat} (numbered : Numbers declared name number) {rules : List Rule}
    {rules' : List Table.Rule} (same : List.Forall₂ (Rule.Numbered numbers) rules rules') :
    NumberedResolved declared numbers ((name, rules) :: resolved)
      (resolved'.set number (some rules')) := by
  refine ⟨by rw [List.length_set, all.length], ?_⟩
  intro other number' numbered'
  by_cases here : number' = number
  · subst here
    cases numbered.name_eq numbered'
    have lt : number' < resolved'.length := by
      rw [all.length]
      exact numbered.lt
    rw [List.lookup_cons_self]
    exact ⟨_, List.getElem?_set_self lt, .some same⟩
  · have other' : other ≠ name := by
      rintro rfl
      exact here (numbered'.number_eq distinct numbered)
    rw [List.lookup_cons, beq_false_of_ne other', List.getElem?_set_ne (Ne.symm here)]
    exact all.entry other number' numbered'

/-- A cycle is told by the names of the states on it. -/
theorem cycle_eq (named : ∀ name number, Numbers declared name number → Numbers names name number)
    {α : Type} {chain : List String} {path : List Nat}
    (numbered : List.Forall₂ (Numbers declared) chain path) :
    (Table.cycle names path : Except Table.Failure α) =
      .error (.refused (.includeCycle chain)) := by
  have all : (path.mapM fun number => Table.sure names[number]?) = .ok chain := by
    induction numbered with
    | nil => rfl
    | @cons name number _ _ here _ ih =>
      have found : names[number]? = some name := named name number here
      rw [List.mapM_cons, found, ih]
      rfl
  rw [Table.cycle, all]
  rfl

theorem bne_eq (distinct : declared.Nodup) {name name' : String} {number number' : Nat}
    (numbered : Numbers declared name number) (numbered' : Numbers declared name' number') :
    (name != name') = (number != number') := by
  rw [Bool.eq_iff_iff, bne_iff_ne, bne_iff_ne, not_iff_not]
  exact numbered.eq_iff distinct numbered'

theorem forall₂_dropWhile (distinct : declared.Nodup) {path : List String} {path' : List Nat}
    (paths : List.Forall₂ (Numbers declared) path path') {name : String} {number : Nat}
    (numbered : Numbers declared name number) :
    List.Forall₂ (Numbers declared) (path.dropWhile (· != name))
      (path'.dropWhile (· != number)) := by
  induction paths with
  | nil => exact .nil
  | cons here rest ih =>
    rw [List.dropWhile_cons, List.dropWhile_cons, bne_eq distinct here numbered]
    split
    · exact ih
    · exact .cons here rest

theorem mem_path_iff (distinct : declared.Nodup) {path : List String} {path' : List Nat}
    (paths : List.Forall₂ (Numbers declared) path path') {name : String} {number : Nat}
    (numbered : Numbers declared name number) : name ∈ path ↔ number ∈ path' := by
  induction paths with
  | nil => simp
  | cons here _ ih => rw [List.mem_cons, List.mem_cons, ih, numbered.eq_iff distinct here]

/-- The items of a state are resolved alike if the states they include are. -/
theorem foldlM_agree {fuel : Nat} {path : List String}
    {nested : Table.Resolved → Nat → Except Table.Failure Table.Resolved}
    (resolves : ∀ {target number resolved resolved'}, Numbers declared target number →
      NumberedResolved declared numbers resolved resolved' →
        Agree (Resolves declared numbers target) (resolve entries fuel path resolved target)
          (nested resolved' number))
    {todo : List Item} {todo' : List Table.Item}
    (items : List.Forall₂ (Item.Numbered declared numbers) todo todo')
    {rules : List Rule} {rules' : List Table.Rule}
    (before : List.Forall₂ (Rule.Numbered numbers) rules rules')
    {resolved : Resolved} {resolved' : Table.Resolved}
    (all : NumberedResolved declared numbers resolved resolved') :
    Agree (fun left right => List.Forall₂ (Rule.Numbered numbers) left.1 right.1 ∧
        NumberedResolved declared numbers left.2 right.2)
      (todo.foldlM (resolveItem entries fuel path) (rules, resolved))
      (todo'.foldlM (Table.resolveItem nested) (rules', resolved')) := by
  induction items generalizing rules rules' resolved resolved' with
  | nil => exact .ok ⟨before, all⟩
  | cons here _ ih =>
    rw [List.foldlM_cons, List.foldlM_cons]
    cases here with
    | rule same => exact ih (List.rel_append before (.cons same .nil)) all
    | @splice target number numbered =>
      -- what the target is resolved to by name is what is found under its number afterwards
      have nested' : Agree (fun left right => List.Forall₂ (Rule.Numbered numbers) left.1 right.1 ∧
            NumberedResolved declared numbers left.2 right.2)
          (resolveItem entries fuel path (rules, resolved) (.splice target))
          (Table.resolveItem nested (rules', resolved') (.splice number)) := by
        refine (resolves numbered all).bind ?_
        rintro ⟨more, after⟩ after' ⟨found, all'⟩
        obtain ⟨entry, found', same⟩ := all'.entry target number numbered
        rw [found] at same
        cases same with
        | some same =>
          rw [found']
          exact .ok ⟨List.rel_append before same, all'⟩
      refine nested'.bind ?_
      rintro ⟨rules, after⟩ ⟨rules', after'⟩ ⟨before', all'⟩
      exact ih before' all'

/-- **Includes.** A state is resolved by number where it is by name. -/
theorem resolve_agree (distinct : declared.Nodup)
    (named : ∀ name number, Numbers declared name number → Numbers names name number)
    (items : ∀ name number, Numbers declared name number → ∃ body, bodies[number]? = some body ∧
      List.Forall₂ (Item.Numbered declared numbers) (itemsOf entries name) body)
    {fuel : Nat} {path : List String} {path' : List Nat}
    (paths : List.Forall₂ (Numbers declared) path path') {resolved : Resolved}
    {resolved' : Table.Resolved} (all : NumberedResolved declared numbers resolved resolved')
    {name : String} {number : Nat} (numbered : Numbers declared name number) :
    Agree (Resolves declared numbers name) (resolve entries fuel path resolved name)
      (Table.resolve names bodies fuel path' resolved' number) := by
  -- the fuel runs out on both sides at once, and with the same chain of states
  induction fuel generalizing path path' resolved resolved' name number with
  | zero =>
    rw [resolve, Table.resolve, cycle_eq named (List.rel_append paths (.cons numbered .nil))]
    exact .refused _
  | succ fuel ih =>
    obtain ⟨entry, found, same⟩ := all.entry name number numbered
    rw [Table.resolve, found]
    cases known : resolved.lookup name with
    | some rules =>
      rw [known] at same
      cases same with
      | some same =>
        rw [resolve, known]
        exact .ok ⟨known, all⟩
    | none =>
      rw [known] at same
      cases same with
      | none =>
        have absent := Resolved.lookup_eq_none.1 known
        by_cases on : name ∈ path
        · have on' := (mem_path_iff distinct paths numbered).1 on
          have chain := List.rel_append (forall₂_dropWhile distinct paths numbered)
            (.cons numbered .nil)
          rw [resolve_of_on_path absent on]
          show Agree _ _ (if path'.contains number then Table.cycle names _ else _)
          rw [if_pos (List.contains_iff_mem.2 on'), cycle_eq named chain]
          exact .refused _
        · have off' := mt (mem_path_iff distinct paths numbered).2 on
          obtain ⟨body, found', here⟩ := items name number numbered
          rw [resolve_of_absent absent on]
          show Agree _ _ (if path'.contains number then Table.cycle names _ else _)
          rw [if_neg (by simpa using off'), found']
          have deeper := List.rel_append paths (.cons numbered .nil)
          have resolves := foldlM_agree (fun numbered' all' => ih deeper all' numbered') here .nil all
          refine resolves.bind ?_
          rintro ⟨rules, after⟩ ⟨rules', after'⟩ ⟨same, all'⟩
          exact .ok ⟨List.lookup_cons_self, all'.set distinct numbered same⟩

theorem resolveAll_agree (distinct : declared.Nodup)
    (named : ∀ name number, Numbers declared name number → Numbers names name number)
    (items : ∀ name number, Numbers declared name number → ∃ body, bodies[number]? = some body ∧
      List.Forall₂ (Item.Numbered declared numbers) (itemsOf entries name) body)
    (length : entries.length = bodies.length) {todo : List String} {todo' : List Nat}
    (numbered : List.Forall₂ (Numbers declared) todo todo') {resolved : Resolved}
    {resolved' : Table.Resolved} (all : NumberedResolved declared numbers resolved resolved') :
    Agree (NumberedResolved declared numbers) (resolveAll entries resolved todo)
      (Table.resolveAll names bodies resolved' todo') := by
  induction numbered generalizing resolved resolved' with
  | nil => exact .ok all
  | cons here _ ih =>
    rw [resolveAll, Table.resolveAll, length]
    refine (resolve_agree distinct named items .nil all here).bind ?_
    rintro ⟨rules, after⟩ after' ⟨-, all'⟩
    exact ih all'

end Resolving

/-- The items of declared states are found under their names and by number. -/
theorem RuleContext.NumberedStates.items {states : List StateDecl} {declared : List String}
    {numbers : String → Nat → Prop} {entries : List (String × List Item)}
    {bodies : List (List Table.Item)}
    (numbered : RuleContext.NumberedStates states declared numbers entries bodies)
    (distinct : (states.map (·.name)).Nodup) {name : String} {number : Nat}
    (here : Numbers (states.map (·.name)) name number) : ∃ body, bodies[number]? = some body ∧
      List.Forall₂ (Item.Numbered declared numbers) (itemsOf entries name) body := by
  rw [← numbered.names] at distinct here
  rw [Numbers, List.getElem?_map, Option.map_eq_some_iff] at here
  obtain ⟨⟨_, items⟩, found, rfl⟩ := here
  obtain ⟨body, found', same⟩ := exists_getElem?_of_forall₂ numbered.bodies found
  refine ⟨body, found', ?_⟩
  rw [itemsOf, (lookup_eq_some_iff distinct).2 (List.mem_of_getElem? found)]
  exact same

/-! ## The states of lists -/

/-- Whatever order entries are met in, they are sorted by number. -/
theorem mergeSort_order (iteration : Table.Iteration) (noted : List (List String))
    (start : Nat) :
    ((iteration.order (noted.zipIdx start)).mergeSort fun left right => left.2 ≤ right.2) =
      noted.zipIdx start := by
  have same := (List.mergeSort_perm (iteration.order (noted.zipIdx start))
    fun left right => left.2 ≤ right.2).trans (iteration.perm _)
  have ascending : ((noted.zipIdx start).map Prod.snd).Pairwise (· < ·) := by
    rw [List.zipIdx_map_snd]
    exact List.pairwise_lt_range' 1
  have sorted : ((iteration.order (noted.zipIdx start)).mergeSort fun left right =>
      left.2 ≤ right.2).Pairwise fun left right => decide (left.2 ≤ right.2) = true := by
    refine List.pairwise_mergeSort ?_ ?_ _
    · intro first second third below below'
      simp only [decide_eq_true_eq] at below below' ⊢
      omega
    · intro left right
      simp only [Bool.or_eq_true, decide_eq_true_eq]
      omega
  have sorted' : (noted.zipIdx start).Pairwise fun left right =>
      decide (left.2 ≤ right.2) = true :=
    (List.pairwise_map.1 ascending).imp fun below => decide_eq_true (Nat.le_of_lt below)
  refine List.Perm.eq_of_pairwise ?_ sorted sorted' same
  -- entries with one number are the same
  intro left right member member' below above
  exact List.inj_on_of_nodup_map (ascending.imp Nat.ne_of_lt) (same.subset member) member'
    (Nat.le_antisymm (of_decide_eq_true below) (of_decide_eq_true above))

section Lists

variable {declared : List String} {numbers : String → Nat → Prop} {rulesOf : String → List Rule}

/-- The members of a list have their rules by number. -/
theorem memberRules_numbered {states : List Table.State}
    (single : ∀ name number, Numbers declared name number → ∃ state, states[number]? = some state ∧
      List.Forall₂ (Rule.Numbered numbers) (rulesOf name) state.rules)
    {members : List String} (known : ∀ name ∈ members, name ∈ declared) :
    ∃ rules, Table.memberRules declared.zipIdx states members = .ok rules ∧
      List.Forall₂ (Rule.Numbered numbers) (members.flatMap rulesOf) rules := by
  induction members with
  | nil => exact ⟨[], rfl, .nil⟩
  | cons name rest ih =>
    obtain ⟨here, others⟩ := List.forall_mem_cons.1 known
    obtain ⟨rules, found, same⟩ := ih others
    cases numbered : declared.zipIdx.lookup name with
    | none => exact absurd here (notMem_of_lookup_zipIdx numbered)
    | some number =>
      obtain ⟨state, found', same'⟩ := single name number (.of_lookup numbered)
      refine ⟨state.rules ++ rules, ?_, List.rel_append same' same⟩
      rw [Table.memberRules, numbered, Table.sure, bind_eq_ok]
      refine ⟨number, rfl, ?_⟩
      rw [found', Table.sure, bind_eq_ok]
      refine ⟨state, rfl, ?_⟩
      rw [found]
      rfl

/-- The state that is made for a list. -/
def combinedState (rulesOf : String → List Rule) (members : List String) : State :=
  ⟨combinedName members, members.flatMap rulesOf⟩

/-- **Lists.** Each state that is made last has the number that was given out for it. -/
theorem synthesize_numbered {named : List State} {states : List Table.State}
    (numbered : List.Forall₂ (State.Numbered numbers) named states)
    (single : ∀ name number, Numbers declared name number →
      ∃ state, named[number]? = some state ∧ state.rules = rulesOf name)
    {lists : List (List String)} (known : ∀ members ∈ lists, ∀ name ∈ members, name ∈ declared) :
    ∃ states', Table.synthesize declared.zipIdx states (lists.zipIdx states.length) = .ok states' ∧
      List.Forall₂ (State.Numbered numbers) (named ++ lists.map (combinedState rulesOf))
        states' := by
  induction lists generalizing named states with
  | nil => exact ⟨states, rfl, by simpa using numbered⟩
  | cons members rest ih =>
    obtain ⟨here, others⟩ := List.forall_mem_cons.1 known
    have single' : ∀ name number, Numbers declared name number →
        ∃ state, states[number]? = some state ∧
          List.Forall₂ (Rule.Numbered numbers) (rulesOf name) state.rules := by
      intro name number numbers
      obtain ⟨state, found, rules⟩ := single name number numbers
      obtain ⟨state', found', same⟩ := exists_getElem?_of_forall₂ numbered found
      exact ⟨state', found', rules ▸ same.rules⟩
    obtain ⟨rules, found, same⟩ := memberRules_numbered single' here
    -- the declared states stay where they are when one is added behind
    have grown : List.Forall₂ (State.Numbered numbers) (named ++ [combinedState rulesOf members])
        (states ++ [⟨combinedName members, rules⟩]) :=
      List.rel_append numbered (.cons ⟨rfl, same⟩ .nil)
    have later : ∀ name number, Numbers declared name number → ∃ state,
        (named ++ [combinedState rulesOf members])[number]? = some state ∧
          state.rules = rulesOf name := by
      intro name number numbers
      obtain ⟨state, found, rules⟩ := single name number numbers
      have lt := (List.getElem?_eq_some_iff.1 found).1
      exact ⟨state, (List.getElem?_append_left lt).trans found, rules⟩
    obtain ⟨states', all, same'⟩ := ih grown later others
    refine ⟨states', ?_, by simpa using same'⟩
    rw [List.length_append, List.length_singleton] at all
    rw [List.zipIdx_cons, Table.synthesize, found]
    show (if states.length = states.length then _ else _) = _
    rw [if_pos rfl]
    exact all

end Lists

/-! ## The table -/

/-- The declared states by number. -/
theorem declared_numbered (more : List String) {declared : List String}
    {numbers : String → Nat → Prop} {resolved : Resolved} {resolved' : Table.Resolved}
    (all : NumberedResolved declared numbers resolved resolved') :
    List.Forall₂ (State.Numbered numbers)
      (declared.map fun name => ⟨name, resolved.rulesOf name⟩)
      (List.zipWith (fun name rules => ⟨name, rules.getD []⟩) (declared ++ more) resolved') := by
  rw [List.forall₂_iff_get]
  refine ⟨by simp [all.length], ?_⟩
  intro place here here'
  have lt : place < declared.length := by simpa using here
  obtain ⟨entry, found, same⟩ := all.entry declared[place] place (List.getElem?_eq_getElem lt)
  obtain ⟨lt', found⟩ := List.getElem?_eq_some_iff.1 found
  simp only [List.get_eq_getElem, List.getElem_map, List.getElem_zipWith,
    List.getElem_append_left lt, found]
  refine ⟨rfl, ?_⟩
  show List.Forall₂ _ ((resolved.lookup declared[place]).getD []) (entry.getD [])
  cases known : resolved.lookup declared[place] with
  | none =>
    rw [known] at same
    cases same
    exact .nil
  | some rules =>
    rw [known] at same
    cases same with
    | some same => exact same

theorem map_name_eq {numbers : String → Nat → Prop} {named : List State}
    {states : List Table.State} (numbered : List.Forall₂ (State.Numbered numbers) named states) :
    states.map (·.name) = named.map (·.name) := by
  induction numbered with
  | nil => rfl
  | cons here _ ih => rw [List.map_cons, List.map_cons, ih, here.name]

/-- States with distinct names, one of which is the root, make a table. -/
theorem ofStates_tabulates {machine : Machine} (distinct : machine.stateNames.Nodup)
    (root : rootState ∈ machine.stateNames) {states : List Table.State}
    (numbered : List.Forall₂ (State.Numbered (Numbers machine.stateNames)) machine.states states) :
    ∃ table, Table.ofStates states = .ok table ∧ table.Tabulates machine := by
  have names : states.map (·.name) = machine.stateNames := map_name_eq numbered
  obtain ⟨number, lt, here⟩ := List.mem_iff_getElem.1 root
  have numbers : Numbers machine.stateNames rootState number := by
    rw [← here]
    exact List.getElem?_eq_getElem lt
  have tabulates : Table.Tabulates ⟨states, machine.stateNames.zipIdx.reverse, number⟩ machine :=
    ⟨numbered, rfl, numbers⟩
  have found : machine.stateNames.zipIdx.reverse.lookup rootState = some number :=
    (tabulates.lookup_eq_some_iff distinct).2 numbers
  refine ⟨_, ?_, tabulates⟩
  rw [Table.ofStates, names, found]
  rfl

namespace Table

variable {grammar : Grammar}

theorem builder_nil :
    (RuleContext.ofGrammar grammar).builder [] = Builder.ofGrammar grammar := by
  simp [RuleContext.builder, RuleContext.namesWith, RuleContext.ofGrammar, Builder.ofGrammar]

theorem numbers_range (names : List String) :
    List.Forall₂ (Numbers names) names (List.range names.length) := by
  rw [List.forall₂_iff_get]
  refine ⟨List.length_range.symm, ?_⟩
  intro place here here'
  rw [Numbers, List.get_eq_getElem, List.get_eq_getElem, List.getElem_range]
  exact List.getElem?_eq_getElem here

/-- What has been resolved and noted makes a table. -/
theorem assemble_tabulates (iteration : Iteration) {context : RuleContext}
    {noted : List (List String)} (well : context.WellNoted noted)
    (distinct : (context.namesWith noted).Nodup) (root : rootState ∈ context.declared)
    {resolved : GrammarLexer.Resolved} {resolved' : Resolved}
    (all : NumberedResolved context.declared (Numbers (context.namesWith noted)) resolved
      resolved') :
    ∃ table, assemble iteration (context.builder noted) resolved' = .ok table ∧
      table.Tabulates (.assemble context.declared resolved noted) := by
  have names : (Machine.assemble context.declared resolved noted).stateNames =
      context.namesWith noted := Machine.stateNames_assemble _ _ _
  rw [← names] at all distinct
  have single := declared_numbered (noted.map combinedName) all
  let owned (name : String) : GrammarLexer.State := ⟨name, resolved.rulesOf name⟩
  have found : ∀ name number, Numbers context.declared name number → ∃ state,
      (context.declared.map owned)[number]? = some state ∧
        state.rules = resolved.rulesOf name := by
    intro name number numbers
    rw [List.getElem?_map, numbers]
    exact ⟨_, rfl, rfl⟩
  obtain ⟨states, made, numbered⟩ := synthesize_numbered single found well.members
  have known : rootState ∈ (Machine.assemble context.declared resolved noted).stateNames := by
    rw [names]
    exact List.mem_append_left _ root
  obtain ⟨table, built, tabulates⟩ := ofStates_tabulates distinct known numbered
  refine ⟨table, ?_, tabulates⟩
  rw [← single.length_eq, List.length_map] at made
  show (synthesize context.declared.zipIdx _ ((iteration.order
    (noted.zipIdx context.declared.length)).mergeSort _) >>= ofStates) = .ok table
  rw [mergeSort_order]
  exact bind_eq_ok.2 ⟨states, made, built⟩

/-- **Tables.** A table is built where a machine is, and is a table of the states of that
machine; and a grammar is refused for the same reason. -/
theorem build_agree (iteration : Iteration) (grammar : Grammar) :
    Agree (fun machine table => table.Tabulates machine) grammar.build
      (build iteration grammar) := by
  unfold Grammar.build build
  refine (Agree.refusing grammar.check).bind_of_eq ?_
  rintro ⟨⟩ _ checked rfl
  obtain ⟨distinct, root, free, -⟩ := Grammar.check_eq_ok.1 checked
  rw [← builder_nil]
  refine (RuleContext.allItems_agree grammar.states).bind_of_eq ?_
  rintro ⟨items, noted⟩ ⟨bodies, builder⟩ found ⟨-, rfl, numbered⟩
  have compiles := (Grammar.allItems_eq_ok free).1 found
  have places := numbers_range grammar.stateNames
  have length : items.length = bodies.length := numbered.bodies.length_eq
  have length' : bodies.length = grammar.stateNames.length := by
    rw [← length, ← List.length_map (f := Prod.fst), numbered.names]
    rfl
  show Agree _ (GrammarLexer.resolveAll items [] grammar.stateNames >>= fun resolved =>
      .ok (Machine.assemble grammar.stateNames resolved noted))
    (resolveAll ((RuleContext.ofGrammar grammar).namesWith noted) bodies
        (List.replicate bodies.length none) (List.range bodies.length) >>=
      assemble iteration ((RuleContext.ofGrammar grammar).builder noted))
  rw [length']
  refine (resolveAll_agree distinct (fun _ _ numbers => numbers.append _)
    (fun _ _ numbers => numbered.items distinct numbers) length places .nil).bind ?_
  intro resolved resolved' all
  have well := compiles.well.mono
    fun members member => Grammar.mem_usedLists.1 (compiles.usedLists_eq ▸ member)
  obtain ⟨table, built, tabulates⟩ :=
    assemble_tabulates iteration well (compiles.nodup_names distinct) root all
  rw [built]
  exact .ok tabulates

end Table

end GrammarLexer
