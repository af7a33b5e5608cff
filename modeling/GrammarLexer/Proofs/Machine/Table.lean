import GrammarLexer.Proofs.Machine.Tabulation

/-!
# Tables are well formed

The numbers in a table are those of the states that the directives of the grammar name
(`build_wellFormed`): a list of states to be pushed as one has one state, whichever rules push
it, and no two lists share one. The table is the same in whatever order the lists come from
their map (`build_congr`).
-/

namespace GrammarLexer

namespace Table

/-! ## Numbers in rules -/

/-- The number of the state that a target refers to. -/
def Target.numbers : Target → List Nat
  | .current => []
  | .numbered state => [state]

/-- The number of the state that a group refers to. -/
def GroupAction.numbers : GroupAction → List Nat
  | .token _ => []
  | .delegate target => target.numbers

/-- The numbers of the states that an action refers to. -/
def Action.numbers : Action → List Nat
  | .groups actions => actions.flatMap GroupAction.numbers
  | .delegate target => target.numbers
  | _ => []

/-- The number of the state that a move refers to. -/
def Move.numbers : Move → List Nat
  | .push target => target.numbers
  | _ => []

/-- The numbers of the states that a rule refers to. -/
def Rule.numbers (rule : Rule) : List Nat := rule.action.numbers ++ rule.move.numbers

section Known

variable {numbers : String → Nat → Prop} {number : Nat}

theorem exists_of_target {left : GrammarLexer.Target} {right : Target}
    (numbered : left.Numbered numbers right) (member : number ∈ right.numbers) :
    ∃ name, numbers name number := by
  cases numbered with
  | current => exact absurd member List.not_mem_nil
  | named here =>
    obtain rfl := List.mem_singleton.1 member
    exact ⟨_, here⟩

theorem exists_of_group {left : GrammarLexer.GroupAction} {right : GroupAction}
    (numbered : left.Numbered numbers right) (member : number ∈ right.numbers) :
    ∃ name, numbers name number := by
  cases numbered with
  | token kind => exact absurd member List.not_mem_nil
  | delegate targets => exact exists_of_target targets member

theorem exists_of_action {left : GrammarLexer.Action} {right : Action}
    (numbered : left.Numbered numbers right) (member : number ∈ right.numbers) :
    ∃ name, numbers name number := by
  cases numbered with
  | nothing => exact absurd member List.not_mem_nil
  | token kind => exact absurd member List.not_mem_nil
  | groups actions =>
    obtain ⟨action, among, member⟩ := List.mem_flatMap.1 member
    obtain ⟨_, -, numbered⟩ := exists_of_forall₂ actions among
    exact exists_of_group numbered member
  | delegate targets => exact exists_of_target targets member

theorem exists_of_move {left : GrammarLexer.Move} {right : Move}
    (numbered : left.Numbered numbers right) (member : number ∈ right.numbers) :
    ∃ name, numbers name number := by
  cases numbered with
  | stay => exact absurd member List.not_mem_nil
  | push targets => exact exists_of_target targets member
  | pop depth => exact absurd member List.not_mem_nil

/-- Each number in a rule stands for the name of a state. -/
theorem exists_of_rule {left : GrammarLexer.Rule} {right : Rule}
    (numbered : left.Numbered numbers right) (member : number ∈ right.numbers) :
    ∃ name, numbers name number := by
  rcases List.mem_append.1 member with emitted | pushed
  · exact exists_of_action numbered.action emitted
  · exact exists_of_move numbered.move pushed

end Known

/-! ## What directives become -/

/-- What stands for the state that a directive names: the state on top of the stack, if it
names none, or else the number of the state of that name. -/
inductive Refers (table : Table) : Option String → Target → Prop
  | top {name : Option String} (top : ∀ given ∈ name, given = "" ∨ given = pushCurrent) :
      Refers table name .current
  | state {name : String} {number : Nat} (filled : name ≠ "") (other : name ≠ pushCurrent)
      (numbers : Numbers table.stateNames name number) :
      Refers table (some name) (.numbered number)

/-- What a group becomes. -/
inductive EmitsGroup (table : Table) : GroupDecl → GroupAction → Prop
  | token {name : String} {kind : Kind} (known : Kind.ofName? name = some kind) :
      EmitsGroup table (.token name) (.token kind)
  | delegate {delegate : Delegate} {target : Target} (refers : table.Refers delegate.state target) :
      EmitsGroup table (.delegate delegate) (.delegate target)

/-- What becomes of the directives of a rule that emit. -/
inductive Emits (table : Table) (rule : RuleDecl) : Action → Prop
  | token {name : String} {kind : Kind} (token : rule.token = some name)
      (known : Kind.ofName? name = some kind) : Emits table rule (.token kind)
  | groups {decls : List GroupDecl} {actions : List GroupAction} (token : rule.token = none)
      (groups : rule.groups = some decls) (each : List.Forall₂ (EmitsGroup table) decls actions) :
      Emits table rule (.groups actions)
  | delegate {decl : Delegate} {target : Target} (token : rule.token = none)
      (groups : rule.groups = none) (delegate : rule.delegate = some decl)
      (refers : table.Refers decl.state target) : Emits table rule (.delegate target)
  | nothing (token : rule.token = none) (groups : rule.groups = none)
      (delegate : rule.delegate = none) : Emits table rule .nothing

/-- What becomes of the directives of a rule that move. A list of states is pushed by the
number that its state has behind the declared ones. -/
inductive Moves (grammar : Grammar) (table : Table) (rule : RuleDecl) : Move → Prop
  | combined {members : List String} {place : Nat} (combined : rule.combined = some members)
      (used : grammar.usedLists[place]? = some members) :
      Moves grammar table rule (.push (.numbered (grammar.states.length + place)))
  | push {name : String} {target : Target} (combined : rule.combined = none)
      (push : rule.push = some name) (refers : table.Refers (some name) target) :
      Moves grammar table rule (.push target)
  | pop {depth : Nat} (combined : rule.combined = none) (push : rule.push = none)
      (pop : rule.pop = some depth) : Moves grammar table rule (.pop (max depth 1))
  | stay (combined : rule.combined = none) (push : rule.push = none) (pop : rule.pop = none) :
      Moves grammar table rule .stay

/-- What becomes of a rule. -/
structure Realizes (grammar : Grammar) (table : Table) (decl : RuleDecl) (rule : Rule) :
    Prop where
  own : decl.splice = none
  pattern : decl.pattern = rule.pattern
  program : Pattern.compile grammar.config.options.flags decl.pattern = .ok rule.program
  emits : table.Emits decl rule.action
  moves : table.Moves grammar decl rule.move

/-- A table has the declared states in order, then one state for each list in use, in the
order of first use. Numbers and names are inverse to each other, no number is without a state,
and rules refer to the states that their directives name. -/
structure WellFormed (grammar : Grammar) (table : Table) : Prop where
  names : table.stateNames = grammar.stateNames ++ grammar.usedLists.map combinedName
  distinct : table.stateNames.Nodup
  lookup : ∀ name number, table.lookup name = some number ↔
    table.stateNames[number]? = some name
  root : table.stateNames[table.root]? = some rootState
  closed : ∀ state ∈ table.states, ∀ rule ∈ state.rules, ∀ number ∈ rule.numbers,
    number < table.states.length
  rules : ∀ (number : Nat) state, grammar.allStates[number]? = some state → ∃ flat rules,
    grammar.Unfolds state.rules flat ∧ table.states[number]? = some ⟨state.name, rules⟩ ∧
      List.Forall₂ (table.Realizes grammar) flat rules
  shared : ∀ (decl decl' : RuleDecl) (rule rule' : Rule) (members members' : List String),
    table.Realizes grammar decl rule → table.Realizes grammar decl' rule' →
      decl.combined = some members → decl'.combined = some members' →
        (rule.move = rule'.move ↔ members = members')

section Realizing

variable {grammar : Grammar} {table : Table} {context : RuleContext}

theorem refers_of_target {name : Option String} {target : GrammarLexer.Target} {target' : Target}
    (found : context.target name = .ok target)
    (numbered : target.Numbered (Numbers table.stateNames) target') :
    table.Refers name target' := by
  obtain ⟨-, rfl⟩ := RuleContext.target_eq_ok.1 found
  cases name with
  | none =>
    cases numbered
    exact .top (by simp)
  | some name =>
    rw [GrammarLexer.Target.ofName] at numbered
    by_cases special : name = "" ∨ name = pushCurrent
    · rw [if_pos special] at numbered
      cases numbered
      exact .top (by simpa using special)
    · rw [if_neg special] at numbered
      obtain ⟨filled, other⟩ := not_or.1 special
      cases numbered with
      | named numbers => exact .state filled other numbers

theorem emitsGroup_of_groupActs {group : GroupDecl} {action : GrammarLexer.GroupAction}
    {action' : GroupAction} (acts : context.GroupActs group action)
    (numbered : action.Numbered (Numbers table.stateNames) action') :
    table.EmitsGroup group action' := by
  cases acts with
  | token known =>
    cases numbered
    exact .token known
  | delegate refers =>
    cases numbered with
    | delegate targets => exact .delegate (refers_of_target refers targets)

theorem emits_of_acts {rule : RuleDecl} {action : GrammarLexer.Action} {action' : Action}
    (acts : context.Acts rule.token rule.groups rule.delegate action)
    (numbered : action.Numbered (Numbers table.stateNames) action') :
    table.Emits rule action' := by
  generalize token : rule.token = token' at acts
  generalize groups : rule.groups = groups' at acts
  generalize delegate : rule.delegate = delegate' at acts
  cases acts with
  | token known =>
    cases numbered
    exact .token token known
  | groups each =>
    cases numbered with
    | groups actions =>
      refine .groups token groups ((forall₂_comp each actions).imp ?_)
      rintro group action ⟨_, acts, numbered⟩
      exact emitsGroup_of_groupActs acts numbered
  | delegate refers =>
    cases numbered with
    | delegate targets => exact .delegate token groups delegate (refers_of_target refers targets)
  | nothing =>
    cases numbered
    exact .nothing token groups delegate

/-- The number that stands for a list is that of its place behind the declared states. -/
theorem number_of_list (distinct : table.stateNames.Nodup)
    (names : table.stateNames = grammar.stateNames ++ grammar.usedLists.map combinedName)
    {members : List String} (used : members ∈ grammar.usedLists) {number : Nat}
    (numbers : Numbers table.stateNames (combinedName members) number) :
    ∃ place : Nat, grammar.usedLists[place]? = some members ∧
      grammar.states.length + place = number := by
  obtain ⟨place, found⟩ := List.mem_iff_getElem?.1 used
  have start : grammar.stateNames.length = grammar.states.length := List.length_map _
  refine ⟨place, found, Numbers.number_eq distinct ?_ numbers⟩
  rw [Numbers, names, ← start, List.getElem?_append_right (Nat.le_add_right _ _),
    Nat.add_sub_cancel_left, List.getElem?_map, found]
  rfl

theorem moves_of_moves {rule : RuleDecl} (member : rule ∈ grammar.rules)
    (distinct : table.stateNames.Nodup)
    (names : table.stateNames = grammar.stateNames ++ grammar.usedLists.map combinedName)
    {move : GrammarLexer.Move} {move' : Move}
    (moves : context.Moves rule.combined rule.push rule.pop move)
    (numbered : move.Numbered (Numbers table.stateNames) move') :
    table.Moves grammar rule move' := by
  generalize combined : rule.combined = combined' at moves
  generalize push : rule.push = push' at moves
  generalize pop : rule.pop = pop' at moves
  cases moves with
  | @combined members =>
    have used : members ∈ grammar.usedLists := Grammar.mem_usedLists.2
      (List.mem_flatMap.2 ⟨rule, member, Option.mem_toList.2 combined⟩)
    cases numbered with
    | push targets =>
      cases targets with
      | named numbers =>
        obtain ⟨place, found, rfl⟩ := number_of_list distinct names used numbers
        exact .combined combined found
  | push refers =>
    cases numbered with
    | push targets => exact .push combined push (refers_of_target refers targets)
  | pop =>
    cases numbered
    exact .pop combined push pop
  | stay =>
    cases numbered
    exact .stay combined push pop

/-- A list is pushed by the number of its place. -/
theorem Moves.eq_of_combined {rule : RuleDecl} {move : Move} (moves : table.Moves grammar rule move)
    {members : List String} (combined : rule.combined = some members) :
    ∃ place : Nat, grammar.usedLists[place]? = some members ∧
      move = .push (.numbered (grammar.states.length + place)) := by
  cases moves with
  | combined given used =>
    cases combined.symm.trans given
    exact ⟨_, used, rfl⟩
  | push none => exact nomatch combined.symm.trans none
  | pop none => exact nomatch combined.symm.trans none
  | stay none => exact nomatch combined.symm.trans none

/-- Lists have one number if and only if they are one. -/
theorem Moves.eq_iff (distinct : grammar.usedLists.Nodup) {rule rule' : RuleDecl}
    {move move' : Move} (moves : table.Moves grammar rule move)
    (moves' : table.Moves grammar rule' move') {members members' : List String}
    (combined : rule.combined = some members) (combined' : rule'.combined = some members') :
    move = move' ↔ members = members' := by
  obtain ⟨place, used, rfl⟩ := moves.eq_of_combined combined
  obtain ⟨place', used', rfl⟩ := moves'.eq_of_combined combined'
  rw [Move.push.injEq, Target.numbered.injEq, Nat.add_left_cancel_iff]
  constructor
  · rintro rfl
    exact Option.some.inj (used.symm.trans used')
  · rintro rfl
    exact (List.getElem?_inj (List.getElem?_eq_some_iff.1 used).1 distinct).1
      (used.trans used'.symm)

end Realizing

/-- Rules of a grammar become what the rules of its machine are by number. -/
theorem forall₂_realizes {grammar : Grammar} {table : Table}
    (distinct : table.stateNames.Nodup)
    (names : table.stateNames = grammar.stateNames ++ grammar.usedLists.map combinedName)
    {flat : List RuleDecl} {rules : List GrammarLexer.Rule} {rules' : List Rule}
    (subset : flat ⊆ grammar.rules) (yields : List.Forall₂ grammar.Yields flat rules)
    (numbered : List.Forall₂ (Rule.Numbered (Numbers table.stateNames)) rules rules') :
    List.Forall₂ (table.Realizes grammar) flat rules' := by
  have members := (List.forall₂_and_left _ _).2 ⟨subset, yields⟩
  refine (forall₂_comp members numbered).imp ?_
  rintro decl rule' ⟨rule, ⟨member, own, pattern, program, ⟨state, index, acts⟩, moves⟩, same⟩
  rw [RuleContext.action_iff] at acts
  rw [RuleContext.move_iff] at moves
  exact ⟨own, pattern.trans same.pattern, same.program ▸ program, emits_of_acts acts same.action,
    moves_of_moves member distinct names moves same.move⟩

/-- A table of the machine of a grammar is well formed. -/
theorem Tabulates.wellFormed {grammar : Grammar} {machine : Machine} {table : Table}
    (tabulates : table.Tabulates machine) (specifies : grammar.Specifies machine) :
    table.WellFormed grammar := by
  have same : table.stateNames = machine.stateNames := map_name_eq tabulates.states
  have names : table.stateNames = grammar.stateNames ++ grammar.usedLists.map combinedName := by
    rw [same, specifies.names, Grammar.map_name_allStates]
  have distinct : table.stateNames.Nodup := same ▸ specifies.distinct
  have states := tabulates.states
  rw [← same] at states
  refine ⟨names, distinct, ?_, ?_, ?_, ?_, ?_⟩
  · intro name number
    rw [tabulates.lookup_eq_some_iff specifies.distinct, same]
    rfl
  · rw [same]
    exact tabulates.root
  · intro state member rule within number named
    obtain ⟨place, found⟩ := List.mem_iff_getElem?.1 member
    obtain ⟨place', found'⟩ := List.mem_iff_getElem?.1 within
    obtain ⟨_, -, numbered⟩ := exists_getElem?_of_forall₂ states.flip found
    obtain ⟨_, -, numbered'⟩ := exists_getElem?_of_forall₂ numbered.rules.flip found'
    obtain ⟨name, numbers⟩ := exists_of_rule numbered' named
    have lt := numbers.lt
    rwa [stateNames, List.length_map] at lt
  · intro number state listed
    have member := List.mem_of_getElem? listed
    obtain ⟨flat, unfolds, yields⟩ := specifies.rules state member
    -- the state stands at the same place in the grammar, the machine and the table
    have named : (machine.states.map (·.name))[number]? = some state.name := by
      rw [← Machine.stateNames, specifies.names, List.getElem?_map, listed]
      rfl
    rw [List.getElem?_map, Option.map_eq_some_iff] at named
    obtain ⟨middle, found, here⟩ := named
    obtain ⟨⟨name, rules⟩, found', numbered⟩ := exists_getElem?_of_forall₂ states found
    have whole := Machine.rulesOf_eq specifies.distinct (List.mem_of_getElem? found)
    rw [here] at whole
    rw [whole] at yields
    refine ⟨flat, rules, unfolds, ?_,
      forall₂_realizes distinct names (unfolds.subset_rules member) yields numbered.rules⟩
    rw [found', ← here, numbered.name]
  · intro decl decl' rule rule' members members' realizes realizes' combined combined'
    rw [names] at distinct
    exact realizes.moves.eq_iff ((List.nodup_append.1 distinct).2.1.of_map _) realizes'.moves
      combined combined'

/-- Grammars with one machine have one table, in whatever order lists come from their map. -/
theorem build_congr {grammar grammar' : Grammar} (same : grammar.build = grammar'.build)
    (iteration iteration' : Iteration) : build iteration grammar = build iteration' grammar' := by
  cases built : grammar.build with
  | error error =>
    rw [(build_agree iteration grammar).eq_refused built,
      (build_agree iteration' grammar').eq_refused (same ▸ built)]
  | ok machine =>
    obtain ⟨table, made, tabulates⟩ := (build_agree iteration grammar).exists_ok built
    obtain ⟨table', made', tabulates'⟩ :=
      (build_agree iteration' grammar').exists_ok (same ▸ built)
    rw [made, made', tabulates.unique (Grammar.specifies_of_build built).distinct tabulates']

/-- **Tables.** A grammar is refused where no machine can be built, for the same reason. A
grammar that can be built has one table, in whatever order lists come from their map: nothing
is missing on the way, the table is that of the machine by number, and it is well formed. -/
theorem build_wellFormed (grammar : Grammar) :
    (∀ error, grammar.build = .error error →
        ∀ iteration, build iteration grammar = .error (.refused error)) ∧
      ∀ machine, grammar.build = .ok machine →
        ∃ table, (∀ iteration, build iteration grammar = .ok table) ∧
          table.Tabulates machine ∧ table.WellFormed grammar := by
  constructor
  · intro error refused iteration
    exact (build_agree iteration grammar).eq_refused refused
  · intro machine built
    have plain : Iteration := ⟨id, fun _ => .refl _⟩
    obtain ⟨table, made, tabulates⟩ := (build_agree plain grammar).exists_ok built
    refine ⟨table, ?_, tabulates, tabulates.wellFormed (Grammar.specifies_of_build built)⟩
    intro iteration
    rw [build_congr rfl iteration plain, made]

/-- The three lists of the grammar of brackets come from their map the other way round. -/
theorem build_wellFormed_brackets : ∃ machine table,
    Grammar.brackets.build = .ok machine ∧
      build ⟨List.reverse, List.reverse_perm⟩ Grammar.brackets = .ok table ∧
        table.stateNames = ["root", "words", "tags", "close", "__combined_words__close",
          "__combined_close", "__combined_close__words"] ∧
          table.Tabulates machine ∧ table.WellFormed Grammar.brackets := by
  obtain ⟨machine, built⟩ := Grammar.exists_brackets
  obtain ⟨table, made, tabulates, well⟩ := (build_wellFormed Grammar.brackets).2 machine built
  refine ⟨machine, table, built, made _, ?_, tabulates, well⟩
  rw [well.names]
  decide

end Table

end GrammarLexer
