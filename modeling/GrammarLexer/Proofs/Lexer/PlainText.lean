import GrammarLexer.Proofs.Lexer.Agreement
import GrammarLexer.Proofs.Machine.Parallel

/-!
# Three ways to say plain text

A rule that says nothing of what it emits makes plain text of its match. It may as well name the
kind of plain text, or have an empty list of groups, which leaves the whole match over
(`PlainText.emit`). The rules that come of this are not the same, but they agree: they match the
same, emit the same tokens and move alike (`Respelled.agrees`). So neither whether a grammar can be
built nor what its lexer does depends on the spelling (`respell_plain_text`).
-/

namespace GrammarLexer

namespace RuleDecl

/-- The ways to say that a match is plain text: nothing, the kind of plain text, no groups. -/
inductive PlainText : Option String → Option (List GroupDecl) → Prop
  | nothing : PlainText none none
  | token : PlainText (some "Text") none
  | groups : PlainText none (some [])

/-- A rule as it is, or one of its own whose match is plain text, with that said in any way. -/
inductive Respelled : RuleDecl → RuleDecl → Prop
  | same (rule : RuleDecl) : Respelled rule rule
  | text {rule : RuleDecl} {token : Option String} {groups : Option (List GroupDecl)}
      (own : rule.splice = none) (delegate : rule.delegate = none)
      (plain : PlainText rule.token rule.groups) (plain' : PlainText token groups) :
      Respelled rule { rule with token, groups }

section PlainText

variable {token : Option String} {groups : Option (List GroupDecl)}

/-- Whichever way it is said, the match is one token of plain text. -/
theorem PlainText.emit (plain : PlainText token groups) {context : RuleContext} {action : Action}
    (acts : context.Acts token groups none action) (place : Place) (nested : Delegated)
    (found : Pattern.Match) : place.emit nested found action = place.span .text 0 found.length := by
  cases plain with
  | nothing =>
    cases acts
    rfl
  | token =>
    obtain ⟨known⟩ := acts
    cases known
    rfl
  | groups =>
    obtain _ | ⟨⟨⟩⟩ := acts
    rfl

/-- Nothing that is said names a state. -/
theorem PlainText.delegateNames (plain : PlainText token groups) :
    delegateNames (groups.getD []) = [] := by
  cases plain <;> rfl

/-- Plain text is a kind. -/
theorem PlainText.kindNames (plain : PlainText token groups) :
    ∀ name ∈ token.toList ++ groupKindNames (groups.getD []),
      ∃ kind, Kind.ofName? name = some kind := by
  cases plain with
  | nothing => simp [groupKindNames]
  | token =>
    have known : ∃ kind, Kind.ofName? "Text" = some kind := ⟨.text, rfl⟩
    simp [groupKindNames, known]
  | groups => simp [groupKindNames]

/-- A token and groups are not said at once. -/
theorem PlainText.apart (plain : PlainText token groups) : token = none ∨ groups = none := by
  cases plain
  · exact .inl rfl
  · exact .inr rfl
  · exact .inl rfl

end PlainText

namespace Respelled

variable {rule rule' : RuleDecl}

/-! ## Declarations -/

theorem symm (respelled : Respelled rule rule') : Respelled rule' rule := by
  cases respelled with
  | same => exact .same rule
  | text own delegate plain plain' => exact .text own delegate plain' plain

theorem splice (respelled : Respelled rule rule') : rule.splice = rule'.splice := by
  cases respelled <;> rfl

theorem pattern (respelled : Respelled rule rule') : rule.pattern = rule'.pattern := by
  cases respelled <;> rfl

theorem combined (respelled : Respelled rule rule') : rule.combined = rule'.combined := by
  cases respelled <;> rfl

theorem targetNames (respelled : Respelled rule rule') : rule.targetNames = rule'.targetNames := by
  cases respelled with
  | same => rfl
  | text own delegate plain plain' =>
    simp only [RuleDecl.targetNames, delegatedNames, plain.delegateNames, plain'.delegateNames]

/-- What is said excludes nothing else that the rule may have. -/
theorem conflict?_eq_none (respelled : Respelled rule rule') :
    rule.conflict? = none ↔ rule'.conflict? = none := by
  cases respelled with
  | same => rfl
  | text own delegate plain plain' =>
    simp only [RuleDecl.conflict?_eq_none, moves, own, delegate, true_and, true_or, plain.apart,
      plain'.apart]

theorem kindNames (respelled : Respelled rule rule') :
    (∀ name ∈ rule.kindNames, ∃ kind, Kind.ofName? name = some kind) ↔
      ∀ name ∈ rule'.kindNames, ∃ kind, Kind.ofName? name = some kind := by
  cases respelled with
  | same => rfl
  | text own delegate plain plain' => exact iff_of_true plain.kindNames plain'.kindNames

/-- The other rule has all that is asked of the one. -/
theorem fits (respelled : Respelled rule rule') {context : RuleContext}
    (fits : context.Fits rule) : context.Fits rule' := by
  obtain ⟨free, splices, targets, patterns, kinds⟩ := fits
  refine ⟨respelled.conflict?_eq_none.1 free, respelled.splice ▸ splices,
    respelled.targetNames ▸ targets, respelled.splice ▸ respelled.pattern ▸ patterns, ?_⟩
  exact fun own => respelled.kindNames.1 (kinds (respelled.splice.trans own))

theorem fits_iff (respelled : Respelled rule rule') (context : RuleContext) :
    context.Fits rule ↔ context.Fits rule' :=
  ⟨respelled.fits, respelled.symm.fits⟩

/-! ## What the rules do -/

/-- **Agreement.** The rules that they become have the same program, emit the same and move
alike. -/
theorem agrees (respelled : Respelled rule rule') {grammar : Grammar} {left right : Rule}
    (yields : grammar.Yields rule left) (yields' : grammar.Yields rule' right) :
    left.program = right.program ∧ left.Agrees right := by
  cases respelled with
  | same =>
    rw [RuleContext.Compiled.unique yields yields']
    exact ⟨rfl, .refl right⟩
  | text own delegate plain plain' =>
    obtain ⟨-, -, program, ⟨_, _, acts⟩, moves⟩ := yields
    obtain ⟨-, -, program', ⟨_, _, acts'⟩, moves'⟩ := yields'
    rw [RuleContext.action_iff, delegate] at acts acts'
    refine ⟨Except.ok.inj (program.symm.trans program'), ?_,
      Except.ok.inj (moves.symm.trans moves')⟩
    intro place nested found
    rw [plain.emit acts, plain'.emit acts']

end Respelled

end RuleDecl

namespace Grammar

/-- A grammar with plain text said in other ways in some of its rules. -/
def Respelled (grammar other : Grammar) : Prop := grammar.Parallel RuleDecl.Respelled other

namespace Respelled

variable {grammar other : Grammar}

theorem splice_eq (rule rule' : RuleDecl) (here : rule.Respelled rule') :
    rule.splice = rule'.splice :=
  here.splice

/-- The lists that are pushed as one are the same. -/
theorem combinedLists (respelled : grammar.Respelled other) :
    grammar.combinedLists = other.combinedLists := by
  have lists : List.Forall₂ Eq grammar.combinedLists other.combinedLists := by
    refine List.rel_flatMap respelled.rules fun rule rule' here => ?_
    rw [RuleDecl.Respelled.combined here]
    exact List.forall₂_same.2 fun _ _ => rfl
  rwa [List.forall₂_eq_eq_eq] at lists

/-! ## Building -/

/-- The one grammar is acceptable if and only if the other is. -/
theorem acceptable_iff (respelled : grammar.Respelled other) :
    grammar.Acceptable ↔ other.Acceptable := by
  have rules := forall_mem_iff_of_forall₂ respelled.rules fun _ _ here =>
    RuleDecl.Respelled.fits_iff here (RuleContext.ofGrammar other)
  rw [acceptable_iff_fits, acceptable_iff_fits, respelled.stateNames, respelled.ofGrammar, rules,
    respelled.combinedLists, Parallel.includes splice_eq respelled]

/-! ## The two machines -/

variable {machine machine' : Machine}

theorem machine_stateNames (respelled : grammar.Respelled other)
    (specifies : grammar.Specifies machine) (specifies' : other.Specifies machine') :
    machine.stateNames = machine'.stateNames := by
  rw [specifies.names, specifies'.names, map_name_allStates, map_name_allStates, usedLists,
    respelled.stateNames, respelled.combinedLists, usedLists]

/-- The rules of each state have the same programs and agree one by one. -/
theorem forall₂_rulesOf (respelled : grammar.Respelled other) (acceptable : grammar.Acceptable)
    (specifies : grammar.Specifies machine) (specifies' : other.Specifies machine')
    (name : String) :
    List.Forall₂ (fun rule rule' => rule.program = rule'.program ∧ rule.Agrees rule')
      (machine.rulesOf name) (machine'.rulesOf name) := by
  have single : ∀ name ∈ grammar.stateNames,
      List.Forall₂ (fun rule rule' => rule.program = rule'.program ∧ rule.Agrees rule')
        (machine.rulesOf name) (machine'.rulesOf name) := by
    intro name declared
    refine (Parallel.forall₂_rulesOf splice_eq respelled specifies specifies' declared).imp ?_
    rintro rule rule' ⟨decl, -, decl', -, here, yields, yields'⟩
    exact here.agrees yields (respelled.yields ▸ yields')
  by_cases known : name ∈ machine.stateNames
  · obtain ⟨state, listed, rfl⟩ := specifies.mem_stateNames.1 known
    rcases mem_allStates.1 listed with declared | ⟨members, used, rfl⟩
    · exact single _ (List.mem_map.2 ⟨state, declared, rfl⟩)
    · -- the state of a list has the rules of the members in both machines
      have declared := acceptable.members members used
      have used' := respelled.combinedLists ▸ used
      have rules := specifies.rulesOf_combinedName used declared
      have rules' := specifies'.rulesOf_combinedName used' (respelled.stateNames ▸ declared)
      rw [StateDecl.including, rules, rules']
      exact forall₂_flatMap fun name member => single name (declared name member)
  · have unknown := known
    rw [respelled.machine_stateNames specifies specifies'] at unknown
    rw [Machine.rulesOf_eq_nil known, Machine.rulesOf_eq_nil unknown]
    exact .nil

end Respelled

end Grammar

namespace Lexer

/-- **Plain text.** Whether rules say nothing of what they emit, or name the kind of plain text, or
have no groups, matters neither for whether a grammar can be built nor for what its lexer does. -/
theorem respell_plain_text {grammar other : Grammar} (respelled : grammar.Respelled other) :
    ((∃ lexer, ofGrammar grammar = .ok lexer) ↔ ∃ lexer, ofGrammar other = .ok lexer) ∧
      ∀ lexer lexer', ofGrammar grammar = .ok lexer → ofGrammar other = .ok lexer' →
        lexer.RunsLike lexer' := by
  constructor
  · rw [ofGrammar, ofGrammar, exists_map_eq_ok, exists_map_eq_ok, Grammar.exists_build_iff,
      Grammar.exists_build_iff, respelled.acceptable_iff]
  · intro lexer lexer' built built'
    obtain ⟨acceptable, specifies⟩ := specifies_of_ofGrammar built
    obtain ⟨-, specifies'⟩ := specifies_of_ofGrammar built'
    refine runsLike_of_agrees (fun name => ?_) fun name cursor => ?_
    · rw [Machine.knows, Machine.knows, respelled.machine_stateNames specifies specifies']
    · exact Rule.agreeAt_of_forall₂ (respelled.forall₂_rulesOf acceptable specifies specifies' name)

/-- The grammar of brackets with its plain rules, all of which push, spelled in other ways. -/
def respelledBrackets : Grammar where
  config := Grammar.brackets.config
  states := Grammar.brackets.states.take 1 ++ [
    ⟨"words", [
      ⟨"[a-z]+", some "Name", none, none, none, none, none, none⟩,
      ⟨"!", some "Text", none, none, none, some ["close"], none, none⟩]⟩,
    ⟨"tags", [
      ⟨"<", none, none, none, none, some ["close", "words"], some [], none⟩,
      ⟨"#", some "Text", some "#push", none, none, none, none, none⟩,
      ⟨"", none, none, none, some "words", none, none, none⟩]⟩] ++
    Grammar.brackets.states.drop 3

/-- Two of them push lists of states as one, and one the state on top of the stack. -/
theorem respell_plain_text_brackets : Grammar.brackets.Respelled respelledBrackets ∧
    ∃ lexer lexer', ofGrammar Grammar.brackets = .ok lexer ∧
      ofGrammar respelledBrackets = .ok lexer' ∧ lexer.RunsLike lexer' := by
  have respelled : Grammar.brackets.Respelled respelledBrackets := by
    have same (rules : List RuleDecl) : List.Forall₂ RuleDecl.Respelled rules rules :=
      List.forall₂_same.2 fun rule _ => .same rule
    have words : List.Forall₂ RuleDecl.Respelled Grammar.brackets.states[1].rules
        respelledBrackets.states[1].rules :=
      .cons (.same _) (.cons (.text rfl rfl .nothing .token) .nil)
    have tags : List.Forall₂ RuleDecl.Respelled Grammar.brackets.states[2].rules
        respelledBrackets.states[2].rules :=
      .cons (.text rfl rfl .nothing .groups) (.cons (.text rfl rfl .nothing .token) (same _))
    exact ⟨rfl, .cons ⟨rfl, same _⟩ (.cons ⟨rfl, words⟩ (.cons ⟨rfl, tags⟩
      (.cons ⟨rfl, same _⟩ .nil)))⟩
  obtain ⟨machine, builds⟩ := Grammar.exists_brackets
  have built : ofGrammar Grammar.brackets = .ok _ := map_eq_ok.2 ⟨machine, builds, rfl⟩
  obtain ⟨succeeds, runs⟩ := respell_plain_text respelled
  obtain ⟨lexer', built'⟩ := succeeds.1 ⟨_, built⟩
  exact ⟨respelled, _, lexer', built, built', runs _ _ built built'⟩

end Lexer

end GrammarLexer
