import GrammarLexer.Machine.Build
import GrammarLexer.Proofs.Grammar.Check
import Mathlib.Logic.Basic

/-!
# What a rule compiles to

A rule becomes an item wherever it stands (`Compiled`): its place matters for errors only,
and for the list of states that it pushes as one, which is left to the pass over all
rules. Each function that reads a part of a rule is described by when it succeeds and
with what, so that none of them is opened again; `exists_compiled` sums up which rules
become an item.
-/

namespace GrammarLexer

/-! ## Sequences of steps that can fail -/

section Except

variable {ε α β : Type}

/-- Steps one after the other succeed if each one does. -/
theorem bind_eq_ok {first : Except ε α} {next : α → Except ε β} {result : β} :
    (first >>= next) = .ok result ↔ ∃ value, first = .ok value ∧ next value = .ok result := by
  cases first with
  | error error =>
    constructor
    · intro found
      exact nomatch found
    · rintro ⟨_, found, _⟩
      exact nomatch found
  | ok value =>
    constructor
    · intro found
      exact ⟨value, rfl, found⟩
    · rintro ⟨_, same, found⟩
      cases same
      exact found

/-- A changed result is the result of a success. -/
theorem map_eq_ok {step : Except ε α} {change : α → β} {result : β} :
    step.map change = .ok result ↔ ∃ value, step = .ok value ∧ change value = result := by
  cases step with
  | error error =>
    constructor
    · intro found
      exact nomatch found
    · rintro ⟨_, found, _⟩
      exact nomatch found
  | ok value =>
    constructor
    · intro found
      exact ⟨value, rfl, Except.ok.inj found⟩
    · rintro ⟨_, same, rfl⟩
      cases same
      rfl

/-- A changed step succeeds if the step does. -/
theorem exists_map_eq_ok {step : Except ε α} {change : α → β} :
    (∃ result, step.map change = .ok result) ↔ ∃ value, step = .ok value := by
  constructor
  · rintro ⟨_, found⟩
    obtain ⟨value, found, -⟩ := map_eq_ok.1 found
    exact ⟨value, found⟩
  · rintro ⟨value, found⟩
    exact ⟨change value, map_eq_ok.2 ⟨value, found, rfl⟩⟩

end Except

/-! ## Names in rules -/

/-- The target for a name. -/
def Target.ofName : Option String → Target
  | none => .current
  | some name => if name = "" ∨ name = pushCurrent then .current else .named name

namespace RuleDecl

/-- The names of token kinds among some groups. -/
def groupKindNames (groups : List GroupDecl) : List String :=
  groups.filterMap fun
    | .token name => some name
    | .delegate _ => none

/-- The names of token kinds in one group come before those in the others. -/
theorem groupKindNames_cons (group : GroupDecl) (rest : List GroupDecl) :
    groupKindNames (group :: rest) = groupKindNames [group] ++ groupKindNames rest :=
  List.filterMap_append (l := [group])

/-- So do the names of states. -/
theorem delegateNames_cons (group : GroupDecl) (rest : List GroupDecl) :
    delegateNames (group :: rest) = delegateNames [group] ++ delegateNames rest :=
  List.filterMap_append (l := [group])

/-- The names of token kinds that a rule uses. -/
def kindNames (rule : RuleDecl) : List String :=
  rule.token.toList ++ groupKindNames (rule.groups.getD [])

/-- The names of states that a rule hands text to. -/
def delegatedNames (rule : RuleDecl) : List String :=
  (rule.delegate.bind (·.state)).toList ++ delegateNames (rule.groups.getD [])

/-- The names of states that a rule pushes or hands text to. -/
def targetNames (rule : RuleDecl) : List String := rule.push.toList ++ rule.delegatedNames

/-- What a rule refers to is what it includes, combines, pushes and hands text to. -/
theorem mem_references {rule : RuleDecl} {name : String} : name ∈ rule.references ↔
    (name ∈ rule.splice ∨ (∃ members ∈ rule.combined, name ∈ members) ∨
      name ∈ rule.targetNames) ∧ name ≠ "" ∧ name ≠ pushCurrent := by
  have members : name ∈ rule.combined.getD [] ↔
      ∃ members, rule.combined = some members ∧ name ∈ members := by
    cases rule.combined <;> simp
  simp only [references, targetNames, delegatedNames, List.mem_filter, List.mem_append,
    Option.mem_toList, Option.mem_def, members, Bool.and_eq_true, bne_iff_ne]
  refine and_congr_left ?_
  intro _
  simp only [or_assoc, or_left_comm]

end RuleDecl

namespace RuleContext

variable {context : RuleContext}

/-- A name that stands for the state on top of the stack, or is declared. -/
def Refers (context : RuleContext) (name : String) : Prop :=
  name = "" ∨ name = pushCurrent ∨ name ∈ context.declared

/-- Only a declared state is found. -/
theorem declaredState_eq_ok {name found : String} :
    context.declaredState name = .ok found ↔ name ∈ context.declared ∧ name = found := by
  unfold declaredState
  by_cases declared : name ∈ context.declared <;> simp [declared]

/-- A name has a target if it refers to a state. -/
theorem target_eq_ok {name : Option String} {target : Target} :
    context.target name = .ok target ↔
      (∀ name' ∈ name, context.Refers name') ∧ Target.ofName name = target := by
  cases name with
  | none => simp [RuleContext.target, Target.ofName]
  | some name =>
    by_cases special : name = "" ∨ name = pushCurrent
    · have refers : context.Refers name := special.imp_right .inl
      simp [RuleContext.target, Target.ofName, special, refers]
    · have refers : context.Refers name ↔ name ∈ context.declared := by
        rw [not_or] at special
        rw [Refers, or_iff_right special.1, or_iff_right special.2]
      have found : context.target (some name) = .ok target ↔
          name ∈ context.declared ∧ Target.named name = target := by
        rw [RuleContext.target, if_neg (by simpa using special), map_eq_ok]
        constructor
        · rintro ⟨_, found, rfl⟩
          obtain ⟨declared, rfl⟩ := declaredState_eq_ok.1 found
          exact ⟨declared, rfl⟩
        · rintro ⟨declared, rfl⟩
          exact ⟨name, declaredState_eq_ok.2 ⟨declared, rfl⟩, rfl⟩
      simp only [found, Target.ofName, if_neg special, Option.mem_some_iff, forall_eq', refers]

/-- A name has a target if and only if it refers to a state. -/
theorem exists_target {name : Option String} :
    (∃ target, context.target name = .ok target) ↔ ∀ name' ∈ name, context.Refers name' := by
  constructor
  · rintro ⟨target, found⟩
    exact (target_eq_ok.1 found).1
  · intro refers
    exact ⟨_, target_eq_ok.2 ⟨refers, rfl⟩⟩

/-- A name of a kind must be known. -/
theorem kind_eq_ok {state name : String} {index : Nat} {kind : Kind} :
    RuleContext.kind state index name = .ok kind ↔ Kind.ofName? name = some kind := by
  unfold RuleContext.kind
  cases Kind.ofName? name <;> simp

/-! ## What is emitted -/

/-- A group has an action if its kind is known and its target refers to a state. -/
theorem exists_groupAction {state : String} {index : Nat} {group : GroupDecl} :
    (∃ action, context.groupAction state index group = .ok action) ↔
      (∀ name ∈ RuleDecl.groupKindNames [group], ∃ kind, Kind.ofName? name = some kind) ∧
        ∀ name ∈ RuleDecl.delegateNames [group], context.Refers name := by
  cases group with
  | token name =>
    rw [groupAction, exists_map_eq_ok]
    simp [kind_eq_ok, RuleDecl.groupKindNames, RuleDecl.delegateNames]
  | delegate delegate =>
    rw [groupAction, exists_map_eq_ok, exists_target]
    cases named : delegate.state <;>
      simp [RuleDecl.groupKindNames, RuleDecl.delegateNames, named]

/-- The same for the groups of a rule. -/
theorem exists_groupActions {state : String} {index : Nat} {groups : List GroupDecl} :
    (∃ actions, context.groupActions state index groups = .ok actions) ↔
      (∀ name ∈ RuleDecl.groupKindNames groups, ∃ kind, Kind.ofName? name = some kind) ∧
        ∀ name ∈ RuleDecl.delegateNames groups, context.Refers name := by
  induction groups with
  | nil => simp [groupActions, RuleDecl.groupKindNames, RuleDecl.delegateNames]
  | cons group rest ih =>
    have split : (∃ actions, context.groupActions state index (group :: rest) = .ok actions) ↔
        (∃ action, context.groupAction state index group = .ok action) ∧
          ∃ actions, context.groupActions state index rest = .ok actions := by
      simp only [groupActions, bind_eq_ok]
      constructor
      · rintro ⟨_, action, here, actions, there, -⟩
        exact ⟨⟨action, here⟩, actions, there⟩
      · rintro ⟨⟨action, here⟩, actions, there⟩
        exact ⟨_, action, here, actions, there, rfl⟩
    rw [split, ih, RuleDecl.groupKindNames_cons group rest,
      RuleDecl.delegateNames_cons group rest, List.forall_mem_append, List.forall_mem_append,
      exists_groupAction]
    exact and_and_and_comm

/-- A rule without conflicts has an action if its kinds are known and its targets refer
to states. -/
theorem exists_action {state : String} {index : Nat} {rule : RuleDecl}
    (free : rule.conflict? = none) :
    (∃ action, context.action state index rule = .ok action) ↔
      (∀ name ∈ rule.kindNames, ∃ kind, Kind.ofName? name = some kind) ∧
        ∀ name ∈ rule.delegatedNames, context.Refers name := by
  obtain ⟨-, -, token, -, -, delegate⟩ := RuleDecl.conflict?_eq_none.1 free
  cases tokenIs : rule.token with
  | some name =>
    -- a token goes with no groups and no delegate
    have groupsIs : rule.groups = none := (token.resolve_left (by simp [tokenIs])).2
    have delegateIs : rule.delegate = none :=
      delegate.resolve_right fun both => by simp [tokenIs] at both
    simp only [RuleContext.action, tokenIs, exists_map_eq_ok, kind_eq_ok]
    simp [RuleDecl.kindNames, RuleDecl.delegatedNames, tokenIs, groupsIs, delegateIs,
      RuleDecl.groupKindNames, RuleDecl.delegateNames]
  | none =>
    cases groupsIs : rule.groups with
    | some groups =>
      have delegateIs : rule.delegate = none :=
        delegate.resolve_right fun both => by simp [groupsIs] at both
      simp only [RuleContext.action, tokenIs, groupsIs, exists_map_eq_ok, exists_groupActions]
      simp [RuleDecl.kindNames, RuleDecl.delegatedNames, tokenIs, groupsIs, delegateIs]
    | none =>
      cases delegateIs : rule.delegate with
      | some delegate =>
        simp only [RuleContext.action, tokenIs, groupsIs, delegateIs, exists_map_eq_ok,
          exists_target]
        simp [RuleDecl.kindNames, RuleDecl.delegatedNames, tokenIs, groupsIs, delegateIs,
          RuleDecl.groupKindNames, RuleDecl.delegateNames]
      | none =>
        simp [RuleContext.action, RuleDecl.kindNames, RuleDecl.delegatedNames, tokenIs,
          groupsIs, delegateIs, RuleDecl.groupKindNames, RuleDecl.delegateNames]

/-- A rule without conflicts has a move if the state it pushes refers to one. -/
theorem exists_move {rule : RuleDecl} (free : rule.conflict? = none) :
    (∃ move, context.move rule = .ok move) ↔ ∀ name ∈ rule.push, context.Refers name := by
  cases combined : rule.combined with
  | some members =>
    have push := RuleDecl.push_eq_none_of_combined free (by simp [combined])
    simp [RuleContext.move, combined, push]
  | none =>
    cases push : rule.push with
    | some name =>
      simp only [RuleContext.move, combined, push, exists_map_eq_ok, exists_target]
    | none => cases pop : rule.pop <;> simp [RuleContext.move, combined, push, pop]

/-! ## Rules and the items they become -/

/-- The item that a rule becomes, wherever it stands. -/
def Compiled (context : RuleContext) (rule : RuleDecl) : Item → Prop
  | .splice target => rule.splice = some target ∧ target ∈ context.declared
  | .rule result =>
    rule.splice = none ∧ rule.pattern = result.pattern ∧
      Pattern.compile context.flags rule.pattern = .ok result.program ∧
      (∃ state index, context.action state index rule = .ok result.action) ∧
      context.move rule = .ok result.move

/-- A pattern must compile. -/
theorem program_eq_ok {state : String} {index : Nat} {rule : RuleDecl}
    {program : Pattern.Program} : context.program state index rule = .ok program ↔
      Pattern.compile context.flags rule.pattern = .ok program := by
  unfold RuleContext.program
  cases Pattern.compile context.flags rule.pattern <;> simp

/-- A rule without conflicts becomes an item if the state it includes is declared, or
else its pattern and the names in it are fine. -/
theorem exists_compiled {rule : RuleDecl} (free : rule.conflict? = none) :
    (∃ item, context.Compiled rule item) ↔
      (∀ name ∈ rule.splice, name ∈ context.declared) ∧
        (∀ name ∈ rule.targetNames, context.Refers name) ∧
          (rule.splice = none →
            (∃ program, Pattern.compile context.flags rule.pattern = .ok program) ∧
              ∀ name ∈ rule.kindNames, ∃ kind, Kind.ofName? name = some kind) := by
  cases splice : rule.splice with
  | some target =>
    obtain ⟨-, push, -, groups, delegate⟩ :=
      RuleDecl.eq_none_of_splice free (by simp [splice])
    have targets : rule.targetNames = [] := by
      simp [RuleDecl.targetNames, RuleDecl.delegatedNames, push, groups, delegate,
        RuleDecl.delegateNames]
    rw [targets]
    constructor
    · rintro ⟨item, compiled⟩
      cases item with
      | rule result => exact absurd (splice.symm.trans compiled.1) (by simp)
      | splice found =>
        obtain ⟨same, declared⟩ := compiled
        cases splice.symm.trans same
        exact ⟨by simpa using declared, by simp, fun none => (nomatch none)⟩
    · rintro ⟨declared, -, -⟩
      exact ⟨.splice target, splice, declared target rfl⟩
  | none =>
    have targets : (∀ name ∈ rule.targetNames, context.Refers name) ↔
        (∀ name ∈ rule.push, context.Refers name) ∧
          ∀ name ∈ rule.delegatedNames, context.Refers name := by
      simp only [RuleDecl.targetNames, List.forall_mem_append, Option.mem_toList]
      rfl
    rw [targets, ← exists_move free]
    constructor
    · rintro ⟨item, compiled⟩
      cases item with
      | splice target => exact absurd (splice.symm.trans compiled.1) (by simp)
      | rule result =>
        obtain ⟨-, -, program, ⟨state, index, acts⟩, moves⟩ := compiled
        obtain ⟨kinds, delegates⟩ := (exists_action free).1 ⟨_, acts⟩
        exact ⟨by simp, ⟨⟨_, moves⟩, delegates⟩, fun _ => ⟨⟨_, program⟩, kinds⟩⟩
    · rintro ⟨-, ⟨⟨move, moves⟩, delegates⟩, rest⟩
      obtain ⟨⟨program, compiles⟩, kinds⟩ := rest rfl
      obtain ⟨action, acts⟩ : ∃ action, context.action "" 0 rule = .ok action :=
        (exists_action free).2 ⟨kinds, delegates⟩
      exact ⟨.rule ⟨rule.pattern, program, action, move⟩, splice, rfl, compiles,
        ⟨_, _, acts⟩, moves⟩

end RuleContext

end GrammarLexer
