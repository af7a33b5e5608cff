import GrammarLexer.Proofs.Machine.Rule
import Mathlib.Data.List.Forall2
import Mathlib.Logic.Relation

/-!
# What the directives of a rule come to

The functions that compile the directives of a rule are read once, as relations with a case
for each way to succeed (`action_iff`, `move_iff`). The place of the rule, which matters for
errors only, is gone. Results about compiled rules go by these cases.
-/

namespace GrammarLexer

/-! ## Lists that go with each other -/

/-- With another item in place of one, a list has the items that it had but for that one. -/
theorem mem_append_cons_or {α : Type} {front back : List α} {old item : α} (new : α)
    (member : item ∈ front ++ old :: back) : item ∈ front ++ new :: back ∨ item = old := by
  rcases List.mem_append.1 member with earlier | rest
  · exact .inl (List.mem_append_left _ earlier)
  · rcases List.mem_cons.1 rest with here | later
    · exact .inr here
    · exact .inl (List.mem_append_right _ (List.mem_cons_of_mem _ later))

theorem exists_of_forall₂ {α β : Type} {related : α → β → Prop} {left : List α} {right : List β}
    (all : List.Forall₂ related left right) {item : β} (member : item ∈ right) :
    ∃ source ∈ left, related source item := by
  induction all with
  | nil => exact absurd member List.not_mem_nil
  | @cons first second _ _ here _ ih =>
    rcases List.mem_cons.1 member with rfl | later
    · exact ⟨first, List.mem_cons_self, here⟩
    · obtain ⟨source, member, there⟩ := ih later
      exact ⟨source, List.mem_cons_of_mem _ member, there⟩

theorem exists_getElem?_of_forall₂ {α β : Type} {related : α → β → Prop} {left : List α}
    {right : List β} (all : List.Forall₂ related left right) {place : Nat} {value : α}
    (found : left[place]? = some value) :
    ∃ value', right[place]? = some value' ∧ related value value' := by
  induction all generalizing place with
  | nil => simp at found
  | cons here _ ih =>
    cases place with
    | zero =>
      cases found
      exact ⟨_, rfl, here⟩
    | succ place => exact ih found

theorem forall₂_comp {α β γ : Type} {first : α → β → Prop} {second : β → γ → Prop}
    {left : List α} {middle : List β} {right : List γ} (one : List.Forall₂ first left middle)
    (other : List.Forall₂ second middle right) :
    List.Forall₂ (Relation.Comp first second) left right := by
  induction one generalizing right with
  | nil =>
    cases other
    exact .nil
  | cons here _ ih =>
    cases other with
    | cons there others => exact .cons ⟨_, here, there⟩ (ih others)

/-! ## Directives -/

namespace RuleContext

/-- What a group comes to. -/
inductive GroupActs (context : RuleContext) : GroupDecl → GroupAction → Prop
  | token {name : String} {kind : Kind} (known : Kind.ofName? name = some kind) :
      GroupActs context (.token name) (.token kind)
  | delegate {decl : Delegate} {target : Target} (refers : context.target decl.state = .ok target) :
      GroupActs context (.delegate decl) (.delegate target)

/-- What a token, groups and a delegate come to. The first of them that is there counts. -/
inductive Acts (context : RuleContext) :
    Option String → Option (List GroupDecl) → Option Delegate → Action → Prop
  | token {name : String} {groups : Option (List GroupDecl)} {delegate : Option Delegate}
      {kind : Kind} (known : Kind.ofName? name = some kind) :
      Acts context (some name) groups delegate (.token kind)
  | groups {decls : List GroupDecl} {delegate : Option Delegate} {actions : List GroupAction}
      (each : List.Forall₂ context.GroupActs decls actions) :
      Acts context none (some decls) delegate (.groups actions)
  | delegate {decl : Delegate} {target : Target} (refers : context.target decl.state = .ok target) :
      Acts context none none (some decl) (.delegate target)
  | nothing : Acts context none none none .nothing

/-- What a list of states to be pushed as one, a push and a pop come to. The first of them
that is there counts. -/
inductive Moves (context : RuleContext) :
    Option (List String) → Option String → Option Nat → Move → Prop
  | combined {members : List String} {push : Option String} {pop : Option Nat} :
      Moves context (some members) push pop (.push (.named (combinedName members)))
  | push {name : String} {pop : Option Nat} {target : Target}
      (refers : context.target (some name) = .ok target) :
      Moves context none (some name) pop (.push target)
  | pop {depth : Nat} : Moves context none none (some depth) (.pop (max depth 1))
  | stay : Moves context none none none .stay

variable {context : RuleContext}

theorem groupAction_iff {state : String} {index : Nat} {group : GroupDecl}
    {action : GroupAction} :
    context.groupAction state index group = .ok action ↔ context.GroupActs group action := by
  cases group with
  | token name =>
    rw [groupAction, map_eq_ok]
    constructor
    · rintro ⟨kind, known, rfl⟩
      exact .token (kind_eq_ok.1 known)
    · rintro ⟨known⟩
      exact ⟨_, kind_eq_ok.2 known, rfl⟩
  | delegate decl =>
    rw [groupAction, map_eq_ok]
    constructor
    · rintro ⟨target, refers, rfl⟩
      exact .delegate refers
    · rintro ⟨⟩
      exact ⟨_, ‹_›, rfl⟩

theorem groupActions_iff {state : String} {index : Nat} {groups : List GroupDecl}
    {actions : List GroupAction} :
    context.groupActions state index groups = .ok actions ↔
      List.Forall₂ context.GroupActs groups actions := by
  induction groups generalizing actions with
  | nil => simp [groupActions, eq_comm]
  | cons group rest ih =>
    simp only [groupActions, bind_eq_ok, List.forall₂_cons_left_iff, groupAction_iff, ih,
      Except.ok.injEq]
    constructor
    · rintro ⟨action, here, others, there, rfl⟩
      exact ⟨action, others, here, there, rfl⟩
    · rintro ⟨action, others, here, there, rfl⟩
      exact ⟨action, here, others, there, rfl⟩

/-- **Emitting.** -/
theorem action_iff {state : String} {index : Nat} {rule : RuleDecl} {action : Action} :
    context.action state index rule = .ok action ↔
      context.Acts rule.token rule.groups rule.delegate action := by
  unfold RuleContext.action
  cases rule.token with
  | some name =>
    rw [map_eq_ok]
    constructor
    · rintro ⟨kind, known, rfl⟩
      exact .token (kind_eq_ok.1 known)
    · rintro ⟨known⟩
      exact ⟨_, kind_eq_ok.2 known, rfl⟩
  | none =>
    cases rule.groups with
    | some decls =>
      rw [map_eq_ok]
      constructor
      · rintro ⟨actions, acts, rfl⟩
        exact .groups (groupActions_iff.1 acts)
      · rintro ⟨⟩
        exact ⟨_, groupActions_iff.2 ‹_›, rfl⟩
    | none =>
      cases rule.delegate with
      | some decl =>
        rw [map_eq_ok]
        constructor
        · rintro ⟨target, refers, rfl⟩
          exact .delegate refers
        · rintro ⟨⟩
          exact ⟨_, ‹_›, rfl⟩
      | none =>
        constructor
        · rintro ⟨⟩
          exact .nothing
        · rintro ⟨⟩
          rfl

/-- Where a rule stands matters for errors only. -/
theorem action_congr {state state' : String} {index index' : Nat} {rule : RuleDecl}
    {action : Action} (found : context.action state index rule = .ok action) :
    context.action state' index' rule = .ok action :=
  action_iff.2 (action_iff.1 found)

/-- **Moving.** -/
theorem move_iff {rule : RuleDecl} {move : Move} : context.move rule = .ok move ↔
    context.Moves rule.combined rule.push rule.pop move := by
  unfold RuleContext.move
  cases rule.combined with
  | some members =>
    constructor
    · rintro ⟨⟩
      exact .combined
    · rintro ⟨⟩
      rfl
  | none =>
    cases rule.push with
    | some name =>
      rw [map_eq_ok]
      constructor
      · rintro ⟨target, refers, rfl⟩
        exact .push refers
      · rintro ⟨⟩
        exact ⟨_, ‹_›, rfl⟩
    | none =>
      cases rule.pop with
      | some depth =>
        constructor
        · rintro ⟨⟩
          exact .pop
        · rintro ⟨⟩
          rfl
      | none =>
        constructor
        · rintro ⟨⟩
          exact .stay
        · rintro ⟨⟩
          rfl

end RuleContext

end GrammarLexer
