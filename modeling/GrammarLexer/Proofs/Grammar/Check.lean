import GrammarLexer.Grammar.Check

/-!
# What the checks on declarations ask for

A grammar passes the checks if and only if its state names are distinct and one of them
is the root, no rule has a conflict, and each state that a rule refers to is declared
(`check_eq_ok`). The searches for the first fault are described by when they find none.
-/

namespace GrammarLexer

/-! ## Directives -/

namespace RuleDecl

/-- Which directives of a rule exclude each other. -/
theorem conflict?_eq_none {rule : RuleDecl} : rule.conflict? = none ↔
    (rule.pattern ≠ "" ∨ rule.moves = true ∨ rule.splice ≠ none ∨ rule.combined ≠ none) ∧
      (rule.push = none ∨ rule.pop = none) ∧
      (rule.token = none ∨ rule.splice = none ∧ rule.groups = none) ∧
      (rule.splice = none ∨
        rule.groups = none ∧ rule.moves = false ∧ rule.delegate = none) ∧
      (rule.combined = none ∨ rule.moves = false ∧ rule.splice = none) ∧
      (rule.delegate = none ∨ rule.token = none ∧ rule.groups = none) := by
  have avoids {fault : Prop} [Decidable fault] {conflict : RuleConflict}
      {others : Option RuleConflict} :
      (if fault then some conflict else others) = none ↔ ¬ fault ∧ others = none := by
    by_cases holds : fault <;> simp [holds]
  simp only [conflict?, avoids, Bool.and_eq_true, Bool.or_eq_true, Option.isSome_iff_ne_none,
    Option.isNone_iff_eq_none, Bool.not_eq_true', decide_eq_true_eq]
  grind

variable {rule : RuleDecl}

/-- A rule that does not move does not push. -/
theorem push_eq_none_of_moves (still : rule.moves = false) : rule.push = none := by
  rw [moves, Bool.or_eq_false_iff] at still
  exact Option.isNone_iff_eq_none.1 (Option.isSome_eq_false_iff.1 still.1)

/-- A rule that is there for the rules of another state has no other directive. -/
theorem eq_none_of_splice (free : rule.conflict? = none) (splice : rule.splice ≠ none) :
    rule.token = none ∧ rule.push = none ∧ rule.combined = none ∧ rule.groups = none ∧
      rule.delegate = none := by
  obtain ⟨-, -, token, others, combined, -⟩ := conflict?_eq_none.1 free
  obtain ⟨groups, still, delegate⟩ := others.resolve_left splice
  refine ⟨?_, push_eq_none_of_moves still, ?_, groups, delegate⟩
  · exact token.resolve_right fun both => splice both.1
  · exact combined.resolve_right fun both => splice both.2

/-- A rule that pushes a list of states as one pushes nothing else. -/
theorem push_eq_none_of_combined (free : rule.conflict? = none)
    (combined : rule.combined ≠ none) : rule.push = none := by
  obtain ⟨-, -, -, -, others, -⟩ := conflict?_eq_none.1 free
  exact push_eq_none_of_moves (others.resolve_left combined).1

end RuleDecl

/-! ## Searches that find nothing -/

namespace Grammar

/-- The rules of all states. -/
def rules (grammar : Grammar) : List RuleDecl := grammar.states.flatMap (·.rules)

/-- No name is repeated if and only if the names are distinct and none was seen. -/
theorem firstRepeated?_eq_none {seen names : List String} :
    firstRepeated? seen names = none ↔ names.Nodup ∧ ∀ name ∈ names, name ∉ seen := by
  induction names generalizing seen with
  | nil => simp [firstRepeated?]
  | cons name rest ih =>
    rw [firstRepeated?, List.nodup_cons]
    by_cases known : name ∈ seen
    · rw [if_pos known]
      constructor
      · intro found
        exact absurd found (Option.some_ne_none name)
      · rintro ⟨-, unseen⟩
        exact absurd known (unseen name List.mem_cons_self)
    · rw [if_neg known, ih]
      constructor
      · rintro ⟨distinct, unseen⟩
        refine ⟨⟨fun later => unseen name later List.mem_cons_self, distinct⟩, ?_⟩
        rintro other member
        rcases List.mem_cons.1 member with rfl | later
        · exact known
        · exact fun seen => unseen other later (List.mem_cons_of_mem _ seen)
      · rintro ⟨⟨fresh, distinct⟩, unseen⟩
        refine ⟨distinct, ?_⟩
        intro other later seen
        rcases List.mem_cons.1 seen with rfl | seen
        · exact fresh later
        · exact unseen other (List.mem_cons_of_mem _ later) seen

/-- No rule of a state conflicts if and only if each one is free of conflicts. -/
theorem firstConflictFrom?_eq_none {index : Nat} {rules : List RuleDecl} :
    firstConflictFrom? index rules = none ↔ ∀ rule ∈ rules, rule.conflict? = none := by
  induction rules generalizing index with
  | nil => simp [firstConflictFrom?]
  | cons rule rest ih =>
    rw [firstConflictFrom?, List.forall_mem_cons]
    cases conflict : rule.conflict? with
    | some conflict => simp
    | none => simp [ih]

/-- The same for all states. -/
theorem firstConflict?_eq_none {states : List StateDecl} :
    firstConflict? states = none ↔
      ∀ state ∈ states, ∀ rule ∈ state.rules, rule.conflict? = none := by
  induction states with
  | nil => simp [firstConflict?]
  | cons state rest ih =>
    rw [firstConflict?, List.forall_mem_cons, ← firstConflictFrom?_eq_none, ← ih]
    cases conflict : firstConflictFrom? 0 state.rules with
    | some found => simp
    | none => simp

/-- Members kept one after the other, unless they have been kept before, are those kept at the
start and then what is new, once each. -/
theorem foldl_keep {α : Type} [BEq α] [LawfulBEq α] (members kept : List α) :
    members.foldl (fun kept member => if member ∈ kept then kept else kept ++ [member]) kept =
      kept ++ (members.removeAll kept).eraseDups := by
  induction members generalizing kept with
  | nil => simp [List.removeAll]
  | cons first rest ih =>
    rw [List.foldl_cons, ih]
    by_cases known : first ∈ kept
    · simp [known, List.removeAll]
    · have later : rest.removeAll (kept ++ [first]) =
          (rest.removeAll kept).filter (fun member => !member == first) := by
        rw [List.removeAll, List.removeAll, List.filter_filter]
        refine List.filter_congr ?_
        intro member _
        by_cases same : member = first <;> simp [same]
      have here : (first :: rest).removeAll kept = first :: rest.removeAll kept := by
        simp [List.removeAll, known]
      rw [if_neg known, later, here, List.eraseDups_cons, List.append_assoc]
      rfl

/-- What is kept of a list are its members, once each. -/
theorem distinct_eq (names : List String) : distinct names = names.eraseDups := by
  have all : names.removeAll [] = names := List.filter_eq_self.2 fun _ _ => rfl
  rw [distinct, foldl_keep, List.nil_append, all]

/-- A list has the members that it has when each is kept once. -/
theorem mem_distinct {names : List String} {name : String} :
    name ∈ distinct names ↔ name ∈ names := by
  rw [distinct_eq, List.mem_eraseDups]

/-- A name dangles if a rule refers to it and no state has it. -/
theorem mem_danglingNames {grammar : Grammar} {name : String} :
    name ∈ grammar.danglingNames ↔
      (∃ rule ∈ grammar.rules, name ∈ rule.references) ∧ name ∉ grammar.stateNames := by
  simp only [danglingNames, mem_distinct, List.mem_filter, List.mem_flatMap, rules,
    Bool.not_eq_true', List.contains_eq_mem, decide_eq_false_iff_not]
  refine and_congr_left ?_
  intro _
  constructor
  · rintro ⟨state, declared, rule, member, refers⟩
    exact ⟨rule, ⟨state, declared, member⟩, refers⟩
  · rintro ⟨rule, ⟨state, declared, member⟩, refers⟩
    exact ⟨state, declared, rule, member, refers⟩

/-- **The checks.** What a grammar must fulfil to pass them. -/
theorem check_eq_ok {grammar : Grammar} : grammar.check = .ok () ↔
    grammar.stateNames.Nodup ∧ rootState ∈ grammar.stateNames ∧
      (∀ rule ∈ grammar.rules, rule.conflict? = none) ∧
      ∀ rule ∈ grammar.rules, ∀ name ∈ rule.references, name ∈ grammar.stateNames := by
  have repeated : firstRepeated? [] grammar.stateNames = none ↔ grammar.stateNames.Nodup := by
    rw [firstRepeated?_eq_none]
    exact and_iff_left fun _ _ => List.not_mem_nil
  have conflict : firstConflict? grammar.states = none ↔
      ∀ rule ∈ grammar.rules, rule.conflict? = none := by
    rw [firstConflict?_eq_none, rules, List.forall_mem_flatMap]
  have dangling : grammar.danglingNames = [] ↔
      ∀ rule ∈ grammar.rules, ∀ name ∈ rule.references, name ∈ grammar.stateNames := by
    rw [List.eq_nil_iff_forall_not_mem]
    simp only [mem_danglingNames, not_and, Decidable.not_not]
    exact ⟨fun all rule member name refers => all name ⟨rule, member, refers⟩,
      fun all name ⟨rule, member, refers⟩ => all rule member name refers⟩
  rw [← repeated, ← conflict, ← dangling, check]
  cases firstRepeated? [] grammar.stateNames with
  | some name => simp
  | none =>
    by_cases root : rootState ∈ grammar.stateNames
    · cases firstConflict? grammar.states with
      | some error => simp [root]
      | none => cases grammar.danglingNames <;> simp [root]
    · simp [root]

end Grammar

end GrammarLexer
