import GrammarLexer.Proofs.Machine.Resolution

/-!
# States that no rule should refer to

`Grammar.undeclared` lists the states that the rules of a grammar refer to and that are not
declared. A build that fails for the sake of such states reports all of them but those whose
name is empty or `#push`; only where there are no others, it reports the first of these
(`build_dangling`). For the checks leave out such a name wherever it stands, while a rule that
includes or combines the state is compiled as with any other name.
-/

namespace GrammarLexer

/-! ## Steps that fail -/

section Except

variable {ε α β : Type}

/-- Steps one after the other fail if one of them does, after those before it. -/
theorem bind_eq_error {first : Except ε α} {next : α → Except ε β} {error : ε} :
    (first >>= next) = .error error ↔
      first = .error error ∨ ∃ value, first = .ok value ∧ next value = .error error := by
  cases first with
  | error cause =>
    constructor
    · intro failed
      cases failed
      exact .inl rfl
    · rintro (same | ⟨_, found, -⟩)
      · cases same
        rfl
      · exact nomatch found
  | ok value =>
    constructor
    · intro failed
      exact .inr ⟨value, rfl, failed⟩
    · rintro (same | ⟨_, found, failed⟩)
      · exact nomatch same
      · cases found
        exact failed

/-- A changed step fails as the step does. -/
theorem map_eq_error {step : Except ε α} {change : α → β} {error : ε} :
    step.map change = .error error ↔ step = .error error := by
  cases step <;> simp [Except.map]

end Except

/-! ## What is referred to -/

namespace RuleDecl

/-- True of the names that stand for a state wherever they are used. -/
def isPlain (name : String) : Bool := name != "" && name != pushCurrent

/-- Every state that a rule refers to, in the order of its directives. Where a state is pushed
or handed text to, the empty name and the target for the current state refer to none. -/
def referredNames (rule : RuleDecl) : List String :=
  rule.push.toList.filter isPlain ++ rule.splice.toList ++ rule.combined.getD [] ++
    rule.delegatedNames.filter isPlain

/-- The checks look at the plain names among them. -/
theorem references_eq (rule : RuleDecl) : rule.references = rule.referredNames.filter isPlain := by
  have twice (names : List String) :
      (names.filter isPlain).filter isPlain = names.filter isPlain := by
    simp [List.filter_filter]
  change List.filter isPlain _ = _
  simp only [referredNames, delegatedNames, List.filter_append, twice, List.append_assoc]

/-- A rule that is there for the rules of a state refers to that state. -/
theorem referredNames_of_splice {rule : RuleDecl} (free : rule.conflict? = none) {target : String}
    (splice : rule.splice = some target) : rule.referredNames = [target] := by
  obtain ⟨-, push, combined, groups, delegate⟩ := eq_none_of_splice free (by simp [splice])
  simp [referredNames, delegatedNames, delegateNames, splice, push, combined, groups, delegate]

end RuleDecl

namespace RuleContext

variable {context : RuleContext} {rule : RuleDecl} {error : GrammarError} {names : List String}

/-! ## What is wrong with a rule -/

/-- True of the names that no declared state has. -/
def isUndeclared (context : RuleContext) (name : String) : Bool := !context.declared.contains name

/-- Of some names in order, the first one that is not declared is the one reported. -/
def ReportsFirst (context : RuleContext) (referred names : List String) : Prop :=
  ∃ name, referred.find? context.isUndeclared = some name ∧ names = [name]

/-- A name that refers to a state has a target. -/
theorem target_ne_error {name : Option String} (refers : ∀ name' ∈ name, context.Refers name') :
    context.target name ≠ .error error := by
  obtain ⟨target, found⟩ := exists_target.2 refers
  intro failed
  exact nomatch found.symm.trans failed

/-- Only its name can be wrong with a kind. -/
theorem kind_eq_error {state name : String} {index : Nat}
    (failed : RuleContext.kind state index name = .error error) :
    error = .unknownKind state index name := by
  unfold RuleContext.kind at failed
  cases known : Kind.ofName? name with
  | some kind =>
    rw [known] at failed
    exact nomatch failed
  | none =>
    rw [known] at failed
    exact (Except.error.inj failed).symm

/-- Where targets refer to states, only the name of a kind can be wrong with some groups. -/
theorem groupActions_eq_error {state : String} {index : Nat} {groups : List GroupDecl}
    (refers : ∀ name ∈ RuleDecl.delegateNames groups, context.Refers name)
    (failed : context.groupActions state index groups = .error error) :
    ∃ name, error = .unknownKind state index name := by
  induction groups with
  | nil => cases failed
  | cons group rest ih =>
    rw [RuleDecl.delegateNames_cons, List.forall_mem_append] at refers
    rcases bind_eq_error.1 failed with here | ⟨action, -, failed⟩
    · cases group with
      | token name => exact ⟨name, kind_eq_error (map_eq_error.1 here)⟩
      | delegate delegate =>
        refine absurd (map_eq_error.1 here) (target_ne_error ?_)
        intro name named
        exact refers.1 name (by simp [RuleDecl.delegateNames, Option.mem_def.1 named])
    · rcases bind_eq_error.1 failed with there | ⟨actions, -, failed⟩
      · exact ih refers.2 there
      · cases failed

/-- The same for what a rule emits. -/
theorem action_eq_error {state : String} {index : Nat}
    (refers : ∀ name ∈ rule.delegatedNames, context.Refers name)
    (failed : context.action state index rule = .error error) :
    ∃ name, error = .unknownKind state index name := by
  unfold RuleContext.action at failed
  rw [RuleDecl.delegatedNames, List.forall_mem_append] at refers
  split at failed
  · exact ⟨_, kind_eq_error (map_eq_error.1 failed)⟩
  · rename_i groups _ grouped
    rw [grouped] at refers
    exact groupActions_eq_error refers.2 (map_eq_error.1 failed)
  · rename_i delegate delegated
    refine absurd (map_eq_error.1 failed) (target_ne_error ?_)
    intro name named
    exact refers.1 name (by simp [delegated, Option.mem_def.1 named])
  · cases failed

/-- A list of states that is not noted because of a state reports the first of them that is not
declared. -/
theorem note_eq_dangling {noted : List (List String)} {members : List String}
    (failed : context.note noted members = .error (.danglingStates names)) :
    context.ReportsFirst members names := by
  unfold RuleContext.note at failed
  split at failed
  · exact nomatch failed
  · split at failed
    · rename_i name found
      cases failed
      exact ⟨name, found, rfl⟩
    · dsimp only at failed
      split at failed <;> exact nomatch failed

variable {noted noted' : List (List String)} {state : String} {index : Nat}

/-- The first name that is reported of a rule is the first one that it refers to and that is not
declared, if all plain ones are. -/
theorem item_eq_dangling (free : rule.conflict? = none)
    (plain : ∀ name ∈ rule.references, name ∈ context.declared)
    (failed : context.item state index noted rule = .error (.danglingStates names)) :
    context.ReportsFirst rule.referredNames names := by
  have refers : ∀ name ∈ rule.targetNames, context.Refers name := by
    intro name target
    by_cases special : name = "" ∨ name = pushCurrent
    · exact special.imp_right .inl
    · exact .inr (.inr (plain name (RuleDecl.mem_references.2
        ⟨.inr (.inr target), not_or.1 special⟩)))
  obtain ⟨pushes, delegates⟩ := List.forall_mem_append.1 refers
  cases splice : rule.splice with
  | some target =>
    rw [RuleDecl.referredNames_of_splice free splice]
    simp only [RuleContext.item, splice] at failed
    rcases bind_eq_error.1 failed with here | ⟨_, -, failed⟩
    · unfold declaredState at here
      split at here
      · cases here
      · rename_i missing
        cases here
        exact ⟨target, by simpa [isUndeclared] using missing, rfl⟩
    · cases failed
  | none =>
    rw [item_of_splice_eq_none splice] at failed
    rcases bind_eq_error.1 failed with here | ⟨program, -, failed⟩
    · -- what is wrong with a pattern is no state
      unfold RuleContext.program at here
      split at here <;> cases here
    rcases bind_eq_error.1 failed with here | ⟨action, -, failed⟩
    · obtain ⟨name, same⟩ := action_eq_error delegates here
      cases same
    rcases bind_eq_error.1 failed with here | ⟨_, -, failed⟩
    · unfold noteRule at here
      split at here
      · rename_i members combined
        have push := RuleDecl.push_eq_none_of_combined free (by simp [combined])
        obtain ⟨name, first, rfl⟩ := note_eq_dangling here
        refine ⟨name, ?_, rfl⟩
        simp [RuleDecl.referredNames, push, splice, combined, List.find?_append, first]
      · cases here
    rcases bind_eq_error.1 failed with here | ⟨move, -, failed⟩
    · obtain ⟨move, moves⟩ := (exists_move free).2 fun name pushed =>
        pushes name (Option.mem_toList.2 pushed)
      cases moves.symm.trans here
    · cases failed

/-- What a rule refers to is declared, if it becomes an item. -/
theorem find?_of_compiled (free : rule.conflict? = none) {item : Item}
    (compiled : context.Compiled rule item)
    (members : context.WellNoted (rule.combined.toList ++ noted)) :
    rule.referredNames.find? context.isUndeclared = none := by
  obtain ⟨splices, targets, -⟩ := (exists_compiled free).1 ⟨item, compiled⟩
  have declared : ∀ name ∈ rule.referredNames, name ∈ context.declared := by
    obtain ⟨pushes, delegates⟩ := List.forall_mem_append.1 targets
    have plain {names : List String} (refers : ∀ name ∈ names, context.Refers name) :
        ∀ name ∈ names.filter RuleDecl.isPlain, name ∈ context.declared := by
      intro name member
      obtain ⟨among, ordinary⟩ := List.mem_filter.1 member
      simp only [RuleDecl.isPlain, Bool.and_eq_true, bne_iff_ne] at ordinary
      exact ((refers name among).resolve_left ordinary.1).resolve_left ordinary.2
    simp only [RuleDecl.referredNames, List.forall_mem_append]
    refine ⟨⟨⟨plain pushes, fun name member => splices name (Option.mem_toList.1 member)⟩, ?_⟩,
      plain delegates⟩
    intro name member
    cases combined : rule.combined with
    | none => simp [combined] at member
    | some list =>
      rw [combined] at member members
      exact members.members list List.mem_cons_self name member
  rw [List.find?_eq_none]
  intro name member
  simpa [isUndeclared] using declared name member

/-! ## All rules -/

/-- What is reported of the first of two lists is reported of both together. -/
theorem ReportsFirst.append_right {referred : List String}
    (reports : context.ReportsFirst referred names) (more : List String) :
    context.ReportsFirst (referred ++ more) names := by
  obtain ⟨name, first, rfl⟩ := reports
  exact ⟨name, by rw [List.find?_append, first, Option.some_or], rfl⟩

/-- What is reported of the second one is, too, if nothing is wrong with the first. -/
theorem ReportsFirst.append_left {referred more : List String}
    (none : referred.find? context.isUndeclared = none)
    (reports : context.ReportsFirst more names) :
    context.ReportsFirst (referred ++ more) names := by
  obtain ⟨name, first, rfl⟩ := reports
  exact ⟨name, by rw [List.find?_append, none, Option.none_or, first], rfl⟩

/-- The first name that is reported of the rules of a state. -/
theorem items_eq_dangling {rules : List RuleDecl} (free : ∀ rule ∈ rules, rule.conflict? = none)
    (plain : ∀ rule ∈ rules, ∀ name ∈ rule.references, name ∈ context.declared)
    (well : context.WellNoted noted)
    (failed : context.items state index noted rules = .error (.danglingStates names)) :
    context.ReportsFirst (rules.flatMap RuleDecl.referredNames) names := by
  induction rules generalizing noted index with
  | nil => exact nomatch failed
  | cons rule rest ih =>
    obtain ⟨free, frees⟩ := List.forall_mem_cons.1 free
    obtain ⟨plain, plains⟩ := List.forall_mem_cons.1 plain
    rw [List.flatMap_cons]
    rcases bind_eq_error.1 failed with here | ⟨⟨item, _⟩, found, failed⟩
    · exact (item_eq_dangling free plain here).append_right _
    · obtain ⟨compiled, members, rfl⟩ := (item_eq_ok free well).1 found
      rcases bind_eq_error.1 failed with there | ⟨_, -, failed⟩
      · exact (ih frees plains members.foldl there).append_left
          (find?_of_compiled free compiled members)
      · exact nomatch failed

/-- What the rules of a state refer to is declared, if they become items. -/
theorem find?_of_items {rules : List RuleDecl} (free : ∀ rule ∈ rules, rule.conflict? = none)
    {items : List Item} (compiled : List.Forall₂ context.Compiled rules items)
    (members : context.WellNoted (combinedLists rules ++ noted)) :
    (rules.flatMap RuleDecl.referredNames).find? context.isUndeclared = none := by
  rw [List.find?_flatMap, List.findSome?_eq_none_iff]
  intro rule member
  obtain ⟨item, compiled⟩ := exists_items.1 ⟨items, compiled⟩ rule member
  have fewer : rule.combined.toList ++ noted ⊆ combinedLists rules ++ noted := by
    refine List.append_subset.2 ⟨?_, List.subset_append_right _ _⟩
    intro list combined
    exact List.mem_append_left _ (List.mem_flatMap.2 ⟨rule, member, combined⟩)
  exact find?_of_compiled (free rule member) compiled (members.mono fewer)

/-- The first name that is reported of all rules. -/
theorem allItems_eq_dangling {states : List StateDecl}
    (free : ∀ state ∈ states, ∀ rule ∈ state.rules, rule.conflict? = none)
    (plain : ∀ state ∈ states, ∀ rule ∈ state.rules, ∀ name ∈ rule.references,
      name ∈ context.declared)
    (well : context.WellNoted noted)
    (failed : context.allItems noted states = .error (.danglingStates names)) :
    context.ReportsFirst ((states.flatMap (·.rules)).flatMap RuleDecl.referredNames) names := by
  induction states generalizing noted with
  | nil => exact nomatch failed
  | cons state rest ih =>
    obtain ⟨free, frees⟩ := List.forall_mem_cons.1 free
    obtain ⟨plain, plains⟩ := List.forall_mem_cons.1 plain
    rw [List.flatMap_cons, List.flatMap_append]
    rcases bind_eq_error.1 failed with here | ⟨⟨items, _⟩, found, failed⟩
    · exact (items_eq_dangling free plain well here).append_right _
    · obtain ⟨compiled, members, rfl⟩ := (items_eq_ok free well).1 found
      rcases bind_eq_error.1 failed with there | ⟨_, -, failed⟩
      · exact (ih frees plains members.foldl there).append_left (find?_of_items free compiled members)
      · exact nomatch failed

end RuleContext

/-! ## What is reported -/

/-- Whether members are picked before or after each is kept once makes no difference. -/
theorem eraseDups_filter {α : Type} [BEq α] [LawfulBEq α] (wanted : α → Bool) :
    ∀ members : List α, (members.filter wanted).eraseDups = members.eraseDups.filter wanted
  | [] => rfl
  | first :: rest => by
    have later := eraseDups_filter wanted (rest.filter fun member => !member == first)
    rw [List.filter_filter] at later
    by_cases here : wanted first = true
    · rw [List.filter_cons_of_pos here, List.eraseDups_cons, List.eraseDups_cons,
        List.filter_cons_of_pos here, ← later, List.filter_filter]
      simp only [Bool.and_comm]
    · have same : rest.filter (fun member => wanted member && !member == first) =
          rest.filter wanted := by
        refine List.filter_congr ?_
        intro member _
        by_cases equal : member = first <;> simp [equal, here]
      rw [List.filter_cons_of_neg here, List.eraseDups_cons, List.filter_cons_of_neg here, ← later,
        same]
termination_by members => members.length
decreasing_by exact Nat.lt_succ_of_le (List.length_filter_le _ _)

/-- The first member is kept. -/
theorem head?_eraseDups {α : Type} [BEq α] [LawfulBEq α] (members : List α) :
    members.eraseDups.head? = members.head? := by
  cases members with
  | nil => rfl
  | cons first rest => rw [List.eraseDups_cons, List.head?_cons, List.head?_cons]

namespace Grammar

/-- The states that rules refer to and that are not declared, each once, in the order of the
first reference. -/
def undeclared (grammar : Grammar) : List String :=
  ((grammar.rules.flatMap RuleDecl.referredNames).filter
    (RuleContext.ofGrammar grammar).isUndeclared).eraseDups

variable {grammar : Grammar} {names : List String}

/-- The checks look for the plain names among them. -/
theorem danglingNames_eq (grammar : Grammar) :
    grammar.danglingNames = grammar.undeclared.filter RuleDecl.isPlain := by
  have plain : (grammar.states.flatMap fun state => state.rules.flatMap RuleDecl.references) =
      (grammar.rules.flatMap RuleDecl.referredNames).filter RuleDecl.isPlain := by
    rw [rules, List.flatMap_assoc, List.filter_flatMap]
    refine List.flatMap_congr ?_
    intro state _
    rw [List.filter_flatMap]
    exact List.flatMap_congr fun rule _ => rule.references_eq
  rw [danglingNames, distinct_eq, undeclared, plain, ← eraseDups_filter, List.filter_filter,
    List.filter_filter]
  simp only [Bool.and_comm]
  rfl

/-- A rule whose directives do not go together is reported as such. -/
theorem firstConflict?_eq_some {states : List StateDecl} {error : GrammarError}
    (found : firstConflict? states = some error) :
    ∃ state index conflict, error = .conflictingRule state index conflict := by
  induction states with
  | nil => exact nomatch found
  | cons state rest ih =>
    rw [firstConflict?] at found
    split at found
    · exact ⟨_, _, _, (Option.some.inj found).symm⟩
    · exact ih found

/-- If the checks fail for the sake of states, they report all plain names. -/
theorem check_eq_dangling (failed : grammar.check = .error (.danglingStates names)) :
    names = grammar.undeclared.filter RuleDecl.isPlain ∧ names ≠ [] := by
  unfold check at failed
  split at failed
  · exact nomatch failed
  · split at failed
    · exact nomatch failed
    · split at failed
      · rename_i found
        cases failed
        obtain ⟨_, _, _, same⟩ := firstConflict?_eq_some found
        exact nomatch same
      · exact nomatch failed
      · rename_i reported
        cases failed
        rw [← danglingNames_eq]
        exact ⟨rfl, reported⟩

/-- If the checks pass, and compiling fails for the sake of a state, it is the first one. -/
theorem allItems_eq_dangling (checked : grammar.check = .ok ())
    (failed : (RuleContext.ofGrammar grammar).allItems [] grammar.states =
      .error (.danglingStates names)) :
    grammar.undeclared.filter RuleDecl.isPlain = [] ∧
      ∃ name, grammar.undeclared.head? = some name ∧ names = [name] := by
  obtain ⟨-, -, free, plain⟩ := check_eq_ok.1 checked
  refine ⟨?_, ?_⟩
  · rw [← danglingNames_eq, List.eq_nil_iff_forall_not_mem]
    intro name dangling
    obtain ⟨⟨rule, member, refers⟩, missing⟩ := mem_danglingNames.1 dangling
    exact missing (plain rule member name refers)
  · have nothing : (RuleContext.ofGrammar grammar).WellNoted [] := ⟨by simp, by simp, by simp⟩
    have plains : ∀ state ∈ grammar.states, ∀ rule ∈ state.rules, ∀ name ∈ rule.references,
        name ∈ (RuleContext.ofGrammar grammar).declared := List.forall_mem_flatMap.1 plain
    obtain ⟨name, first, rfl⟩ := RuleContext.allItems_eq_dangling
      (List.forall_mem_flatMap.1 free) plains nothing failed
    refine ⟨name, ?_, rfl⟩
    rw [undeclared, head?_eraseDups, List.head?_filter]
    exact first

/-- A build fails for the sake of states in the checks or when rules are compiled. -/
theorem build_eq_dangling (failed : grammar.build = .error (.danglingStates names)) :
    grammar.check = .error (.danglingStates names) ∨
      grammar.check = .ok () ∧ (RuleContext.ofGrammar grammar).allItems [] grammar.states =
        .error (.danglingStates names) := by
  rcases bind_eq_error.1 failed with here | ⟨⟨⟩, checked, later⟩
  · exact .inl here
  · refine .inr ⟨checked, ?_⟩
    rcases bind_eq_error.1 later with here | ⟨⟨items, noted⟩, compiled, -⟩
    · exact here
    · -- what is wrong with includes is a cycle
      obtain ⟨declared, -, free, -⟩ := check_eq_ok.1 checked
      have compiles := (allItems_eq_ok free).1 compiled
      rw [build_eq_map checked compiled] at failed
      obtain ⟨_, same, -⟩ := compiles.closesCycle_of_error declared (List.Subset.refl _)
        (map_eq_error.1 failed)
      exact nomatch same

/-- **Undeclared states.** A build that fails for the sake of states reports those that rules
refer to and that are not declared, each once and in the order of the first reference, but for
the names that do not stand for a state everywhere; of these it reports only the first one, and
only where there are no others. So the report is complete if and only if there are none of
them, or nothing else. -/
theorem build_reports (failed : grammar.build = .error (.danglingStates names)) :
    names ≠ [] ∧
      names = (if grammar.undeclared.any RuleDecl.isPlain
        then grammar.undeclared.filter RuleDecl.isPlain else grammar.undeclared.take 1) ∧
      (names = grammar.undeclared ↔
        grammar.undeclared.all RuleDecl.isPlain ∨ grammar.undeclared.length = 1) := by
  rcases build_eq_dangling failed with refused | ⟨checked, stuck⟩
  · obtain ⟨rfl, filled⟩ := check_eq_dangling refused
    have some : grammar.undeclared.any RuleDecl.isPlain = true := by
      obtain ⟨name, member⟩ := List.exists_mem_of_ne_nil _ filled
      exact List.any_eq_true.2 ⟨name, List.mem_filter.1 member⟩
    refine ⟨filled, (if_pos some).symm, ?_⟩
    rw [List.filter_eq_self, List.all_eq_true]
    refine ⟨.inl, ?_⟩
    rintro (all | single)
    · exact all
    · obtain ⟨name, only⟩ := List.length_eq_one_iff.1 single
      simpa [only] using some
  · obtain ⟨none, name, first, rfl⟩ := allItems_eq_dangling checked stuck
    have special : grammar.undeclared.any RuleDecl.isPlain = false := by
      rw [List.any_eq_false]
      exact List.filter_eq_nil_iff.1 none
    obtain ⟨rest, whole⟩ := List.head?_eq_some_iff.1 first
    refine ⟨List.cons_ne_nil _ _, ?_, ?_⟩
    · rw [special, if_neg Bool.false_ne_true, whole, List.take_succ_cons, List.take_zero]
    · rw [whole, List.any_cons, Bool.or_eq_false_iff] at special
      simp [whole, special.1, eq_comm]

/-- A root that pushes two states which are not declared, and includes two that could not be. -/
def strays : Grammar where
  config := ⟨"strays", [], [], [], .zero, ⟨false, false, false⟩⟩
  states := [⟨"root", [.including "", ⟨"a", none, some "one", none, none, none, none, none⟩,
    ⟨"b", none, some "two", none, none, none, none, some ⟨some "one"⟩⟩, .including pushCurrent]⟩]

/-- The states that are pushed are reported, those that are included are not. -/
theorem build_reports_strays :
    strays.build = .error (.danglingStates ["one", "two"]) ∧
      strays.undeclared = ["", "one", "two", pushCurrent] ∧
      ["one", "two"] = (if strays.undeclared.any RuleDecl.isPlain
        then strays.undeclared.filter RuleDecl.isPlain else strays.undeclared.take 1) := by
  have failed : strays.build = .error (.danglingStates ["one", "two"]) := by decide +kernel
  exact ⟨failed, by decide +kernel, (build_reports failed).2.1⟩

/-- The same root without the states that are pushed. -/
def specials : Grammar where
  config := ⟨"specials", [], [], [], .zero, ⟨false, false, false⟩⟩
  states := [⟨"root", [.including "", .including pushCurrent]⟩]

/-- Two states are not declared, and one is reported. -/
theorem not_reportsAll :
    specials.build = .error (.danglingStates [""]) ∧
      specials.undeclared = ["", pushCurrent] := by
  decide +kernel

end Grammar

end GrammarLexer
