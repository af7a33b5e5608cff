import GrammarLexer.Lexer.Run
import GrammarLexer.Proofs.Machine.Table

/-!
# Lists of states, spelled out

To push some states as one is to push a state that includes them one after the other. A
grammar may be written so, with a declared state for each list in use, and the lexer that is
built is the same (`ofGrammar_spellOut`). Nothing includes the new states, so they close no
cycle; and what they include unfolds to the rules of the members, which is what the state of
a list has.
-/

namespace GrammarLexer

theorem combinedName_ne_empty (members : List String) : combinedName members ≠ "" := by
  intro same
  simpa [combinedName] using congrArg String.toList same

theorem combinedName_ne_pushCurrent (members : List String) :
    combinedName members ≠ pushCurrent := by
  intro same
  simpa [combinedName, pushCurrent] using congrArg String.toList same

/-! ## What is written instead -/

namespace RuleDecl

/-- The rule with a push of one state, if it pushes some states as one. -/
def spellOut (rule : RuleDecl) : RuleDecl :=
  { rule with
    push := (rule.combined.map combinedName).or rule.push
    combined := none }

variable {rule : RuleDecl}

theorem spellOut_of_combined_eq_none (combined : rule.combined = none) :
    rule.spellOut = rule := by
  cases rule
  cases combined
  rfl

/-- A push excludes what a list of states excludes. -/
theorem conflict?_spellOut (free : rule.conflict? = none) : rule.spellOut.conflict? = none := by
  cases combined : rule.combined with
  | none => rw [spellOut_of_combined_eq_none combined, free]
  | some members =>
    rw [conflict?_eq_none] at free ⊢
    obtain ⟨-, -, token, -, others, delegate⟩ := free
    obtain ⟨still, splice⟩ := others.resolve_left (by simp [combined])
    rw [moves, Bool.or_eq_false_iff, Option.isSome_eq_false_iff, Option.isSome_eq_false_iff,
      Option.isNone_iff_eq_none, Option.isNone_iff_eq_none] at still
    refine ⟨.inr (.inl ?_), .inr still.2, token, .inl splice, .inl rfl, delegate⟩
    simp [moves, spellOut, combined]

/-- The states that are named as targets are those that were, and the one for the list. -/
theorem mem_targetNames_spellOut {name : String} (named : name ∈ rule.spellOut.targetNames) :
    name ∈ rule.targetNames ∨ ∃ members ∈ rule.combined, combinedName members = name := by
  rcases List.mem_append.1 named with pushed | delegated
  · cases combined : rule.combined with
    | none =>
      rw [spellOut_of_combined_eq_none combined] at pushed
      exact .inl (List.mem_append_left _ pushed)
    | some members =>
      have pushes : rule.spellOut.push = some (combinedName members) := by
        simp [spellOut, combined]
      rw [pushes, Option.toList_some, List.mem_singleton] at pushed
      exact .inr ⟨members, rfl, pushed.symm⟩
  · exact .inl (List.mem_append_right _ delegated)

end RuleDecl

/-- The state with a push of one state in place of each list of states. -/
def StateDecl.spellOut (state : StateDecl) : StateDecl :=
  ⟨state.name, state.rules.map RuleDecl.spellOut⟩

/-- The grammar with a declared state, behind the others, for each list of states that is
pushed as one. -/
def Grammar.spellOut (grammar : Grammar) : Grammar :=
  { grammar with
    states := grammar.states.map StateDecl.spellOut ++
      grammar.usedLists.map StateDecl.including }

/-! ## More states declared -/

namespace RuleContext

variable {context context' : RuleContext} (within : context.declared ⊆ context'.declared)
include within

theorem target_mono {name : Option String} {target : Target}
    (found : context.target name = .ok target) : context'.target name = .ok target := by
  obtain ⟨refers, same⟩ := target_eq_ok.1 found
  refine target_eq_ok.2 ⟨?_, same⟩
  intro name' named
  exact (refers name' named).imp_right (.imp_right (within ·))

theorem GroupActs.mono {group : GroupDecl} {action : GroupAction}
    (acts : context.GroupActs group action) : context'.GroupActs group action := by
  cases acts with
  | token known => exact .token known
  | delegate refers => exact .delegate (target_mono within refers)

theorem Acts.mono {token : Option String} {groups : Option (List GroupDecl)}
    {delegate : Option Delegate} {action : Action}
    (acts : context.Acts token groups delegate action) :
    context'.Acts token groups delegate action := by
  cases acts with
  | token known => exact .token known
  | groups each => exact .groups (each.imp fun _ _ => GroupActs.mono within)
  | delegate refers => exact .delegate (target_mono within refers)
  | nothing => exact .nothing

/-- The push of the state for a list does what the list did. -/
theorem Moves.spellOut {combined : Option (List String)} {push : Option String}
    {pop : Option Nat} {move : Move}
    (listed : ∀ members ∈ combined, combinedName members ∈ context'.declared)
    (moves : context.Moves combined push pop move) :
    context'.Moves none ((combined.map combinedName).or push) pop move := by
  cases moves with
  | @combined members =>
    refine .push (target_eq_ok.2 ⟨?_, ?_⟩)
    · rintro _ ⟨⟩
      exact .inr (.inr (listed members rfl))
    · rw [Target.ofName, if_neg]
      exact not_or.2 ⟨combinedName_ne_empty members, combinedName_ne_pushCurrent members⟩
  | push refers => exact .push (target_mono within refers)
  | pop => exact .pop
  | stay => exact .stay

/-- So the rule becomes what it became. -/
theorem Compiled.spellOut {decl : RuleDecl} {rule : Rule} (flags : context.flags = context'.flags)
    (listed : ∀ members ∈ decl.combined, combinedName members ∈ context'.declared)
    (compiled : context.Compiled decl (.rule rule)) :
    context'.Compiled decl.spellOut (.rule rule) := by
  obtain ⟨own, pattern, program, ⟨state, index, acts⟩, moves⟩ := compiled
  rw [action_iff] at acts
  rw [move_iff] at moves
  exact ⟨own, pattern, flags ▸ program, ⟨state, index, action_iff.2 (acts.mono within)⟩,
    move_iff.2 (moves.spellOut within listed)⟩

end RuleContext

namespace Grammar

variable {grammar : Grammar}

/-! ## What is declared -/

theorem stateNames_spellOut :
    grammar.spellOut.stateNames = grammar.stateNames ++ grammar.usedLists.map combinedName := by
  simp [stateNames, spellOut, StateDecl.spellOut, StateDecl.including, Function.comp_def]

theorem mem_stateNames_spellOut {name : String} (declared : name ∈ grammar.stateNames) :
    name ∈ grammar.spellOut.stateNames := by
  rw [stateNames_spellOut]
  exact List.mem_append_left _ declared

theorem spellOut_mem_states {state : StateDecl} (declared : state ∈ grammar.states) :
    state.spellOut ∈ grammar.spellOut.states :=
  List.mem_append_left _ (List.mem_map.2 ⟨state, declared, rfl⟩)

theorem combinedName_mem_spellOut {rule : RuleDecl} (member : rule ∈ grammar.rules)
    {members : List String} (combined : members ∈ rule.combined) :
    combinedName members ∈ grammar.spellOut.stateNames := by
  rw [stateNames_spellOut]
  refine List.mem_append_right _ (List.mem_map.2 ⟨members, mem_usedLists.2 ?_, rfl⟩)
  exact List.mem_flatMap.2 ⟨rule, member, Option.mem_toList.2 combined⟩

/-- The rules of the new grammar are those of the old one, spelled out, and includes. -/
theorem forall_rules_spellOut {fine : RuleDecl → Prop}
    (single : ∀ rule ∈ grammar.rules, fine rule.spellOut)
    (members : ∀ members ∈ grammar.combinedLists, ∀ name ∈ members, fine (.including name)) :
    ∀ rule ∈ grammar.spellOut.rules, fine rule := by
  intro rule member
  obtain ⟨state, declared, within⟩ := List.mem_flatMap.1 member
  rcases List.mem_append.1 declared with old | new
  · obtain ⟨owner, kept, rfl⟩ := List.mem_map.1 old
    obtain ⟨decl, among, rfl⟩ := List.mem_map.1 within
    exact single decl (List.mem_flatMap.2 ⟨owner, kept, among⟩)
  · obtain ⟨list, used, rfl⟩ := List.mem_map.1 new
    obtain ⟨name, among, rfl⟩ := List.mem_map.1 within
    exact members list (mem_usedLists.1 used) name among

theorem combinedLists_spellOut : grammar.spellOut.combinedLists = [] := by
  refine List.flatMap_eq_nil_iff.2 (forall_rules_spellOut ?_ ?_)
  · intro rule _
    rfl
  · intro members _ name _
    rfl

/-! ## Building -/

/-- Only declared states are included, and these include what they included. -/
theorem Acceptable.includes_spellOut (acceptable : grammar.Acceptable) {name target : String}
    (includes : grammar.spellOut.Includes name target) :
    target ∈ grammar.stateNames ∧
      (name ∈ grammar.stateNames → grammar.Includes name target) := by
  obtain ⟨state, declared, rfl, rule, within, splice⟩ := includes
  rcases List.mem_append.1 declared with old | new
  · obtain ⟨owner, kept, rfl⟩ := List.mem_map.1 old
    obtain ⟨decl, among, rfl⟩ := List.mem_map.1 within
    have member : decl ∈ grammar.rules := List.mem_flatMap.2 ⟨owner, kept, among⟩
    exact ⟨acceptable.splices decl member target splice,
      fun _ => ⟨owner, kept, rfl, decl, among, splice⟩⟩
  · obtain ⟨members, used, rfl⟩ := List.mem_map.1 new
    obtain ⟨member, among, rfl⟩ := List.mem_map.1 within
    obtain rfl : member = target := Option.some.inj splice
    rw [mem_usedLists] at used
    exact ⟨acceptable.members members used member among,
      fun known => absurd known (acceptable.fresh members used)⟩

theorem Acceptable.acyclic_spellOut (acceptable : grammar.Acceptable) (name : String) :
    ¬ Relation.TransGen grammar.spellOut.Includes name name := by
  intro cycle
  -- a state on a cycle is included, so it was declared, and the cycle was there
  obtain ⟨_, -, last⟩ := Relation.TransGen.tail'_iff.1 cycle
  have known := (acceptable.includes_spellOut last).1
  have old : ∀ target, Relation.TransGen grammar.spellOut.Includes name target →
      Relation.TransGen grammar.Includes name target ∧ target ∈ grammar.stateNames := by
    intro target way
    induction way with
    | single edge =>
      obtain ⟨declared, includes⟩ := acceptable.includes_spellOut edge
      exact ⟨.single (includes known), declared⟩
    | tail _ edge ih =>
      obtain ⟨declared, includes⟩ := acceptable.includes_spellOut edge
      exact ⟨.tail ih.1 (includes ih.2), declared⟩
  exact acceptable.acyclic name (old name cycle).1

/-- **Acceptance.** A grammar that is acceptable can be spelled out. -/
theorem Acceptable.spellOut (acceptable : grammar.Acceptable)
    (distinct : grammar.spellOut.stateNames.Nodup) : grammar.spellOut.Acceptable where
  names := distinct
  root := mem_stateNames_spellOut acceptable.root
  directives := forall_rules_spellOut
    (fun rule member => RuleDecl.conflict?_spellOut (acceptable.directives rule member))
    (fun _ _ _ _ => rfl)
  splices := forall_rules_spellOut
    (fun rule member name splice =>
      mem_stateNames_spellOut (acceptable.splices rule member name splice))
    (fun members used _ among _ splice => Option.some.inj splice ▸
      mem_stateNames_spellOut (acceptable.members members used _ among))
  members := by simp [combinedLists_spellOut]
  targets := by
    refine forall_rules_spellOut ?_ ?_
    · intro rule member name named
      rcases RuleDecl.mem_targetNames_spellOut named with old | ⟨members, combined, rfl⟩
      · exact (acceptable.targets rule member name old).imp_right
          (.imp_right mem_stateNames_spellOut)
      · exact .inr (.inr (combinedName_mem_spellOut member combined))
    · intro members _ name _ target named
      exact absurd named List.not_mem_nil
  patterns := forall_rules_spellOut
    (fun rule member own => acceptable.patterns rule member own)
    (fun _ _ _ _ own => nomatch own)
  kinds := forall_rules_spellOut
    (fun rule member own => acceptable.kinds rule member own)
    (fun _ _ _ _ own => nomatch own)
  fresh := by simp [combinedLists_spellOut]
  apart := by simp [combinedLists_spellOut]
  acyclic := acceptable.acyclic_spellOut

/-! ## The machine -/

/-- Rules that are spelled out unfold to what they unfolded to, spelled out. -/
theorem Unfolds.spellOut {rules flat : List RuleDecl} (unfolds : grammar.Unfolds rules flat) :
    grammar.spellOut.Unfolds (rules.map RuleDecl.spellOut) (flat.map RuleDecl.spellOut) := by
  induction unfolds with
  | nil => exact .nil
  | own own _ ih => exact .own own ih
  | @splice rule state _ _ _ includes declared _ _ within others =>
    have includes' : rule.spellOut.splice = some state.spellOut.name := includes
    rw [List.map_append]
    exact .splice includes' (spellOut_mem_states declared) within others

/-- The new grammar has the states of the old one, spelled out. -/
theorem allStates_spellOut :
    grammar.spellOut.allStates = grammar.allStates.map StateDecl.spellOut := by
  have nothing : grammar.spellOut.usedLists = [] := by
    rw [usedLists, combinedLists_spellOut]
    rfl
  have includes : ∀ members, (StateDecl.including members).spellOut = .including members := by
    intro members
    rw [StateDecl.spellOut, StateDecl.including, List.map_map]
    rfl
  rw [allStates, nothing, allStates, List.map_append, List.map_map, List.map_nil, List.append_nil]
  exact congrArg (_ ++ ·) (List.map_congr_left fun members _ => (includes members).symm)

/-- **Spelling out.** What is written instead specifies the same machine. -/
theorem Specifies.spellOut {machine : Machine} (specifies : grammar.Specifies machine) :
    grammar.spellOut.Specifies machine where
  names := by
    rw [specifies.names, allStates_spellOut, List.map_map]
    rfl
  distinct := specifies.distinct
  rules := by
    intro state listed
    rw [allStates_spellOut] at listed
    obtain ⟨owner, among, rfl⟩ := List.mem_map.1 listed
    obtain ⟨flat, unfolds, yields⟩ := specifies.rules owner among
    refine ⟨_, unfolds.spellOut, List.forall₂_map_left_iff.2 ?_⟩
    -- what is left of the includes are rules of the grammar, whose lists have been declared
    have members : ∀ decl ∈ flat, decl ∈ grammar.rules :=
      fun _ member => unfolds.subset_rules among member
    have within : (RuleContext.ofGrammar grammar).declared ⊆
        (RuleContext.ofGrammar grammar.spellOut).declared := fun _ => mem_stateNames_spellOut
    refine ((List.forall₂_and_left _ _).2 ⟨members, yields⟩).imp ?_
    rintro decl rule ⟨member, yields⟩
    exact RuleContext.Compiled.spellOut within rfl
      (fun _ combined => combinedName_mem_spellOut member combined) yields

theorem build_spellOut {machine : Machine} (built : grammar.build = .ok machine) :
    grammar.spellOut.build = .ok machine := by
  have acceptable := acceptable_of_build built
  have specifies := (specifies_of_build built).spellOut
  obtain ⟨written, built'⟩ := (acceptable.spellOut specifies.nodup_stateNames).exists_build
  rw [built', (specifies_of_build built').unique specifies]

end Grammar

namespace Lexer

/-- **Lists of states.** A grammar that can be built can be written with a declared state for
each list of states that is pushed as one, which includes the members. The machine is the
same, by name and by number, and with it the listing and the tokens of every text. -/
theorem ofGrammar_spellOut {grammar : Grammar} {lexer : Lexer}
    (built : ofGrammar grammar = .ok lexer) :
    ∃ written, ofGrammar grammar.spellOut = .ok written ∧ written.machine = lexer.machine ∧
      (∀ iteration iteration',
        Table.build iteration grammar.spellOut = Table.build iteration' grammar) ∧
      written.listing = lexer.listing ∧
      ∀ text options, written.tokens text options = lexer.tokens text options := by
  obtain ⟨machine, builds, rfl⟩ := map_eq_ok.1 built
  have builds' := Grammar.build_spellOut builds
  have built' : ofGrammar grammar.spellOut = .ok ⟨grammar.config, machine⟩ :=
    map_eq_ok.2 ⟨machine, builds', rfl⟩
  exact ⟨_, built', rfl, Table.build_congr (builds'.trans builds.symm), rfl, fun _ _ => rfl⟩

/-- The three lists of the grammar of brackets, spelled out. -/
theorem ofGrammar_spellOut_brackets : ∃ lexer, ofGrammar Grammar.brackets = .ok lexer ∧
    Grammar.brackets.spellOut.stateNames = ["root", "words", "tags", "close",
      "__combined_words__close", "__combined_close", "__combined_close__words"] ∧
      ∃ written, ofGrammar Grammar.brackets.spellOut = .ok written ∧
        written.machine = lexer.machine ∧
        (∀ iteration iteration', Table.build iteration Grammar.brackets.spellOut =
          Table.build iteration' Grammar.brackets) ∧
        written.listing = lexer.listing ∧
        ∀ text options, written.tokens text options = lexer.tokens text options := by
  obtain ⟨machine, builds⟩ := Grammar.exists_brackets
  have built : ofGrammar Grammar.brackets = .ok _ := map_eq_ok.2 ⟨machine, builds, rfl⟩
  exact ⟨_, built, by decide, ofGrammar_spellOut built⟩

end Lexer

end GrammarLexer
