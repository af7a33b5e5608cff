import GrammarLexer.Proofs.Lexer.Likeness
import GrammarLexer.Proofs.Machine.Specification
import Mathlib.Data.Set.Function

/-!
# Names of states do not matter

Two grammars whose states differ in their names and in their order only have lexers that run
alike (`rename_states`). The machines are alike where names are related as the declarations
are (`Renaming.Renamed`): each rule of the one unfolds to the rule of the other with its names
changed, and the state of a list goes with that of the list of the changed names, whenever
either has been used first.
-/

namespace GrammarLexer

/-! ## Other names -/

/-- The delegate with another name of its state. -/
def Delegate.rename (change : String → String) (delegate : Delegate) : Delegate :=
  ⟨delegate.state.map change⟩

/-- The group with another name of its state. -/
def GroupDecl.rename (change : String → String) : GroupDecl → GroupDecl
  | .token kind => .token kind
  | .delegate target => .delegate (target.rename change)

/-- The rule with other names of the states it refers to. -/
def RuleDecl.rename (change : String → String) (rule : RuleDecl) : RuleDecl :=
  { rule with
    push := rule.push.map change
    splice := rule.splice.map change
    combined := rule.combined.map (·.map change)
    groups := rule.groups.map (·.map (GroupDecl.rename change))
    delegate := rule.delegate.map (Delegate.rename change) }

/-- The state with another name, and other names of the states that its rules refer to. -/
def StateDecl.rename (change : String → String) (state : StateDecl) : StateDecl :=
  ⟨change state.name, state.rules.map (RuleDecl.rename change)⟩

/-- A renaming of the states of a grammar. It keeps apart what it changes, and leaves as they
are the root and what stands for the state on top of the stack. -/
structure Renaming (grammar : Grammar) where
  change : String → String
  injective : Set.InjOn change
    {name | name = "" ∨ name = pushCurrent ∨ name ∈ grammar.stateNames}
  root : change rootState = rootState
  empty : change "" = ""
  current : change pushCurrent = pushCurrent

namespace Renaming

open Grammar

variable {grammar : Grammar} (renames : Renaming grammar)

/-- The states of the one machine that go with those of the other: declared states by name,
and states of lists by the names of their members. -/
inductive Renamed : String → String → Prop
  | single {name : String} (declared : name ∈ grammar.stateNames) :
      Renamed name (renames.change name)
  | combined {members : List String} (used : members ∈ grammar.combinedLists) :
      Renamed (combinedName members) (combinedName (members.map renames.change))

/-- A grammar that is renamed, with its states in any order. -/
structure Gives (other : Grammar) : Prop where
  options : other.config.options = grammar.config.options
  states : other.states.Perm (grammar.states.map (StateDecl.rename renames.change))

variable {renames}

/-! ## Rules -/

section Compiling

variable {context : RuleContext}

/-- No other name stands for the state on top of the stack. -/
theorem special_iff {name : String} (declared : name ∈ grammar.stateNames) :
    renames.change name = "" ∨ renames.change name = pushCurrent ↔
      name = "" ∨ name = pushCurrent := by
  have apart {fixed : String} (fixed' : fixed = "" ∨ fixed = pushCurrent) :
      renames.change name = renames.change fixed ↔ name = fixed :=
    renames.injective.eq_iff (.inr (.inr declared)) (fixed'.imp_right .inl)
  rw [← apart (.inl rfl), ← apart (.inr rfl), renames.empty, renames.current]

theorem target_alike {name : Option String} {target target' : Target}
    (found : (RuleContext.ofGrammar grammar).target name = .ok target)
    (found' : context.target (name.map renames.change) = .ok target') :
    target.Alike renames.Renamed target' := by
  obtain ⟨refers, rfl⟩ := RuleContext.target_eq_ok.1 found
  obtain ⟨-, rfl⟩ := RuleContext.target_eq_ok.1 found'
  cases name with
  | none => exact .current
  | some name =>
    rw [Option.map_some, Target.ofName, Target.ofName]
    rcases refers name rfl with rfl | rfl | declared
    · rw [if_pos (.inl rfl), if_pos (.inl renames.empty)]
      exact .current
    · rw [if_pos (.inr rfl), if_pos (.inr renames.current)]
      exact .current
    · simp only [special_iff declared]
      split
      · exact .current
      · exact .named (.single declared)

theorem groupActs_alike {group : GroupDecl} {action action' : GroupAction}
    (acts : (RuleContext.ofGrammar grammar).GroupActs group action)
    (acts' : context.GroupActs (group.rename renames.change) action') :
    action.Alike renames.Renamed action' := by
  cases acts with
  | token known =>
    obtain ⟨known'⟩ := acts'
    cases known.symm.trans known'
    exact .token _
  | delegate refers =>
    cases acts' with
    | delegate refers' => exact .delegate (target_alike refers refers')

theorem acts_alike {token : Option String} {groups : Option (List GroupDecl)}
    {delegate : Option Delegate} {action action' : Action}
    (acts : (RuleContext.ofGrammar grammar).Acts token groups delegate action)
    (acts' : context.Acts token (groups.map (·.map (GroupDecl.rename renames.change)))
      (delegate.map (Delegate.rename renames.change)) action') :
    action.Alike renames.Renamed action' := by
  cases acts with
  | token known =>
    obtain ⟨known'⟩ := acts'
    cases known.symm.trans known'
    exact .token _
  | groups each =>
    cases acts' with
    | groups each' =>
      -- both lists of actions come from one list of groups
      refine .groups ((forall₂_comp each.flip (List.forall₂_map_left_iff.1 each')).imp ?_)
      rintro _ _ ⟨group, here, there⟩
      exact groupActs_alike here there
  | delegate refers =>
    cases acts' with
    | delegate refers' => exact .delegate (target_alike refers refers')
  | nothing =>
    cases acts'
    exact .nothing

theorem moves_alike {combined : Option (List String)} {push : Option String} {pop : Option Nat}
    {move move' : Move} (used : ∀ members ∈ combined, members ∈ grammar.combinedLists)
    (moves : (RuleContext.ofGrammar grammar).Moves combined push pop move)
    (moves' : context.Moves (combined.map (·.map renames.change)) (push.map renames.change) pop
      move') :
    move.Alike renames.Renamed move' := by
  cases moves with
  | combined =>
    cases moves'
    exact .push (.named (.combined (used _ rfl)))
  | push refers =>
    cases moves' with
    | push refers' => exact .push (target_alike refers refers')
  | pop =>
    cases moves'
    exact .pop _
  | stay =>
    cases moves'
    exact .stay

end Compiling

variable {other : Grammar}

/-- Rules that are the same but for names become rules that are alike. -/
theorem yields_alike (gives : renames.Gives other) {decl : RuleDecl}
    (member : decl ∈ grammar.rules) {rule rule' : Rule} (yields : grammar.Yields decl rule)
    (yields' : other.Yields (decl.rename renames.change) rule') :
    rule.Alike renames.Renamed rule' := by
  obtain ⟨-, -, program, ⟨_, _, acts⟩, moves⟩ := yields
  obtain ⟨-, -, program', ⟨_, _, acts'⟩, moves'⟩ := yields'
  have flags : (RuleContext.ofGrammar other).flags = (RuleContext.ofGrammar grammar).flags :=
    congrArg PatternOptions.flags gives.options
  have used : ∀ members ∈ decl.combined, members ∈ grammar.combinedLists := fun _ combined =>
    List.mem_flatMap.2 ⟨decl, member, Option.mem_toList.2 combined⟩
  rw [flags] at program'
  rw [RuleContext.action_iff] at acts acts'
  rw [RuleContext.move_iff] at moves moves'
  exact ⟨Except.ok.inj (program.symm.trans program'), acts_alike acts acts',
    moves_alike used moves moves'⟩

/-! ## Machines -/

theorem Gives.mem_states (gives : renames.Gives other) {state : StateDecl}
    (declared : state ∈ grammar.states) : state.rename renames.change ∈ other.states :=
  gives.states.mem_iff.2 (List.mem_map.2 ⟨state, declared, rfl⟩)

/-- Includes are unfolded alike. -/
theorem Gives.unfolds (gives : renames.Gives other) {rules flat : List RuleDecl}
    (unfolds : grammar.Unfolds rules flat) :
    other.Unfolds (rules.map (RuleDecl.rename renames.change))
      (flat.map (RuleDecl.rename renames.change)) := by
  induction unfolds with
  | nil => exact .nil
  | @own rule _ _ own _ ih =>
    have own' : (rule.rename renames.change).splice = none := by simp [RuleDecl.rename, own]
    exact .own own' ih
  | @splice rule state _ _ _ includes declared _ _ within others =>
    have includes' : (rule.rename renames.change).splice =
        some (state.rename renames.change).name := by
      simp [RuleDecl.rename, StateDecl.rename, includes]
    rw [List.map_append]
    exact .splice includes' (gives.mem_states declared) within others

theorem forall₂_alike (gives : renames.Gives other) {flat : List RuleDecl}
    {rules rules' : List Rule} (subset : flat ⊆ grammar.rules)
    (yields : List.Forall₂ grammar.Yields flat rules)
    (yields' : List.Forall₂ other.Yields (flat.map (RuleDecl.rename renames.change)) rules') :
    List.Forall₂ (Rule.Alike renames.Renamed) rules rules' := by
  have members := (List.forall₂_and_left _ _).2 ⟨subset, yields⟩
  refine (forall₂_comp members.flip (List.forall₂_map_left_iff.1 yields')).imp ?_
  rintro rule rule' ⟨decl, ⟨member, here⟩, there⟩
  exact yields_alike gives member here there

/-- States that go with each other have the same rules but for names. -/
theorem Gives.exists_allStates (gives : renames.Gives other) {name name' : String}
    (related : renames.Renamed name name') : ∃ state ∈ grammar.allStates, state.name = name ∧
      ∃ state' ∈ other.allStates, state'.name = name' ∧
        state'.rules = state.rules.map (RuleDecl.rename renames.change) := by
  cases related with
  | single declared =>
    obtain ⟨state, member, rfl⟩ := List.mem_map.1 declared
    exact ⟨state, List.mem_append_left _ member, rfl, state.rename renames.change,
      List.mem_append_left _ (gives.mem_states member), rfl, rfl⟩
  | @combined members used =>
    -- the rule that uses the list uses the list of the changed names in the other grammar
    obtain ⟨rule, member, combined⟩ := List.mem_flatMap.1 used
    obtain ⟨state, declared, within⟩ := List.mem_flatMap.1 member
    have used' : members.map renames.change ∈ other.combinedLists := by
      refine List.mem_flatMap.2 ⟨rule.rename renames.change, ?_, ?_⟩
      · exact List.mem_flatMap.2 ⟨_, gives.mem_states declared,
          List.mem_map.2 ⟨rule, within, rfl⟩⟩
      · rw [Option.mem_toList] at combined ⊢
        exact Option.mem_map_of_mem _ combined
    refine ⟨.including members, mem_allStates.2 (.inr ⟨members, used, rfl⟩), rfl,
      .including (members.map renames.change), mem_allStates.2 (.inr ⟨_, used', rfl⟩), rfl, ?_⟩
    rw [StateDecl.including, StateDecl.including, List.map_map, List.map_map]
    rfl

/-- **Machines.** The machines are alike. -/
theorem Gives.machine_alike (gives : renames.Gives other) {machine machine' : Machine}
    (specifies : grammar.Specifies machine) (specifies' : other.Specifies machine') :
    machine.Alike renames.Renamed machine' := by
  intro name name' related
  obtain ⟨state, listed, rfl, state', listed', rfl, rules⟩ := gives.exists_allStates related
  obtain ⟨flat, unfolds, yields⟩ := specifies.rules state listed
  have unfolds' := gives.unfolds unfolds
  rw [← rules] at unfolds'
  exact forall₂_alike gives (unfolds.subset_rules listed) yields
    (specifies'.forall₂_rulesOf listed' unfolds')

theorem renamed_root (root : rootState ∈ grammar.stateNames) :
    renames.Renamed rootState rootState := by
  have related : renames.Renamed rootState (renames.change rootState) := .single root
  rwa [renames.root] at related

/-- Runs that begin in a declared state begin in states that go with each other. -/
theorem Gives.startStack_alike (gives : renames.Gives other) {lexer lexer' : Lexer}
    (specifies : grammar.Specifies lexer.machine) (specifies' : other.Specifies lexer'.machine)
    (root : rootState ∈ grammar.stateNames) {name : String} (declared : name ∈ grammar.stateNames) :
    (lexer.startStack (some name)).Alike renames.Renamed
      (lexer'.startStack (some (renames.change name))) := by
  obtain ⟨state, listed, named, state', listed', named', -⟩ :=
    gives.exists_allStates (.single declared)
  have known : lexer.machine.knows name = true :=
    Machine.knows_iff.2 (specifies.mem_stateNames.2 ⟨state, listed, named⟩)
  have known' : lexer'.machine.knows (renames.change name) = true :=
    Machine.knows_iff.2 (specifies'.mem_stateNames.2 ⟨state', listed', named'⟩)
  unfold Lexer.startStack
  by_cases atRoot : name = rootState
  · subst atRoot
    simp only [renames.root, bne_self_eq_false, Bool.and_false, Bool.false_eq_true, if_false]
    exact ⟨renamed_root root, .nil⟩
  · have apart : renames.change name ≠ rootState := by
      intro same
      rw [← renames.root] at same
      exact atRoot (renames.injective (.inr (.inr declared)) (.inr (.inr root)) same)
    simp only [known, known', bne_iff_ne.2 atRoot, bne_iff_ne.2 apart, Bool.and_self, if_true]
    exact ⟨.single declared, .cons (renamed_root root) .nil⟩

end Renaming

namespace Lexer

/-- **Names of states.** Of two grammars that can be built, where one has the states of the
other under other names and in any order, and patterns are read alike, the lexers make the
same tokens of each text from states that go with each other. Their snapshots after any number
of calls are the same but for the states on the stack, which go with each other one by one. -/
theorem rename_states {grammar other : Grammar} (renames : Renaming grammar)
    (gives : renames.Gives other) {lexer lexer' : Lexer} (built : ofGrammar grammar = .ok lexer)
    (built' : ofGrammar other = .ok lexer') {name : String} (declared : name ∈ grammar.stateNames)
    (text : String) (merging : Bool) :
    lexer.tokens text ⟨merging, some name⟩ =
        lexer'.tokens text ⟨merging, some (renames.change name)⟩ ∧
      ∀ count, ((lexer.start text ⟨merging, some name⟩).after count).snapshot.Alike renames.Renamed
        ((lexer'.start text ⟨merging, some (renames.change name)⟩).after count).snapshot := by
  have specifies : grammar.Specifies lexer.machine := by
    obtain ⟨machine, builds, rfl⟩ := map_eq_ok.1 built
    exact Grammar.specifies_of_build builds
  have specifies' : other.Specifies lexer'.machine := by
    obtain ⟨machine, builds, rfl⟩ := map_eq_ok.1 built'
    exact Grammar.specifies_of_build builds
  have root : rootState ∈ grammar.stateNames := by
    obtain ⟨machine, builds, -⟩ := map_eq_ok.1 built
    exact (Grammar.acceptable_of_build builds).root
  have merges : (⟨merging, some name⟩ : Options).merging =
      (⟨merging, some (renames.change name)⟩ : Options).merging := rfl
  have alike := alike_start (gives.machine_alike specifies specifies') text merges
    (gives.startStack_alike specifies specifies' root declared)
  exact ⟨alike.drain_eq, fun count => (alike.after count).snapshot⟩

/-- Two states of the grammar of brackets change places. -/
def swapBrackets : Renaming Grammar.brackets where
  change name := if name = "words" then "tags" else if name = "tags" then "words" else name
  injective := by
    intro left _ right _ same
    grind
  root := by decide
  empty := by decide
  current := by decide

/-- The grammar of brackets with these names, and its states in the reverse order. -/
def swappedBrackets : Grammar :=
  { Grammar.brackets with
    states := (Grammar.brackets.states.map (.rename swapBrackets.change)).reverse }

/-- In the reverse order the lists of states are used in another order, too. -/
theorem rename_states_brackets : ∃ lexer lexer',
    swapBrackets.Gives swappedBrackets ∧ ofGrammar Grammar.brackets = .ok lexer ∧
      ofGrammar swappedBrackets = .ok lexer' ∧
      Grammar.brackets.usedLists = [["words", "close"], ["close"], ["close", "words"]] ∧
      swappedBrackets.usedLists = [["close", "tags"], ["close"], ["tags", "close"]] ∧
      ∀ text merging, lexer.tokens text ⟨merging, some "words"⟩ =
          lexer'.tokens text ⟨merging, some "tags"⟩ ∧
        ∀ count, ((lexer.start text ⟨merging, some "words"⟩).after count).snapshot.Alike
          swapBrackets.Renamed
            ((lexer'.start text ⟨merging, some "tags"⟩).after count).snapshot := by
  obtain ⟨machine, builds⟩ := Grammar.exists_brackets
  have built : ofGrammar Grammar.brackets = .ok _ := map_eq_ok.2 ⟨machine, builds, rfl⟩
  have succeeds : (ofGrammar swappedBrackets).toOption.isSome = true := by decide +kernel
  obtain ⟨lexer', built'⟩ := exists_ok_of_isSome succeeds
  have gives : swapBrackets.Gives swappedBrackets := ⟨rfl, List.reverse_perm _⟩
  exact ⟨_, lexer', gives, built, built', by decide, by decide,
    rename_states swapBrackets gives built built' (by decide)⟩

end Lexer

end GrammarLexer
