import GrammarLexer.Proofs.Catalog.Selection
import GrammarLexer.Proofs.Unicode.Lowercase

/-!
# Which lexer a name stands for

A name is looked up in rounds (`Answers`): the lexer registered last among those that a round
offers is the answer, and the next round is only for want of any. Since names and their lower case
share a table, the first round offers all lexers whose name is spelled so, as it is or in lower
case, and the second one does the same with aliases (`find_answers`). So a lexer that has the very
name may have to give way to one whose name is so in lower case (`not_answers_in_order`).
-/

namespace GrammarLexer

/-- True of the lexers with a name. -/
def Lexer.Named (name : String) (lexer : Lexer) : Prop := lexer.config.name = name

/-- True of the lexers with an alias. -/
def Lexer.Aliased (name : String) (lexer : Lexer) : Prop := name ∈ lexer.config.aliases

/-- True of the lexers whose name is the same in lower case. -/
def Lexer.NamedLike (name : String) (lexer : Lexer) : Prop :=
  Unicode.lowercase lexer.config.name = Unicode.lowercase name

/-- True of the lexers with an alias that is the same in lower case. -/
def Lexer.AliasedLike (name : String) (lexer : Lexer) : Prop :=
  ∃ other ∈ lexer.config.aliases, Unicode.lowercase other = Unicode.lowercase name

instance (name : String) (lexer : Lexer) : Decidable (lexer.Named name) :=
  inferInstanceAs (Decidable (_ = _))

instance (name : String) (lexer : Lexer) : Decidable (lexer.Aliased name) :=
  inferInstanceAs (Decidable (_ ∈ _))

instance (name : String) (lexer : Lexer) : Decidable (lexer.NamedLike name) :=
  inferInstanceAs (Decidable (_ = _))

instance (name : String) (lexer : Lexer) : Decidable (lexer.AliasedLike name) :=
  inferInstanceAs (Decidable (∃ other ∈ _, _ = _))

/-- The lower case of a text spells the names that are the same in lower case. -/
theorem spells_lowercase {text name : String} :
    Spells (Unicode.lowercase text) name ↔ Unicode.lowercase name = Unicode.lowercase text := by
  constructor
  · rintro (same | same)
    · rw [← same, Unicode.lowercase_lowercase]
    · exact same.symm
  · intro same
    exact .inr same.symm

theorem Lexer.goesBy_lowercase {name : String} {lexer : Lexer} :
    lexer.GoesBy (Unicode.lowercase name) ↔ lexer.NamedLike name :=
  spells_lowercase

theorem Lexer.goesByAlias_lowercase {name : String} {lexer : Lexer} :
    lexer.GoesByAlias (Unicode.lowercase name) ↔ lexer.AliasedLike name :=
  exists_congr fun _ => and_congr_right fun _ => spells_lowercase

namespace Catalog

/-! ## Rounds -/

/-- The lexer registered last among those with a property. -/
structure Latest (lexers : List Lexer) (wanted : Lexer → Prop) (place : Nat) : Prop where
  offers : Offers lexers wanted place
  last : ∀ other, Offers lexers wanted other → other ≤ place

/-- What looking in rounds answers, where a last resort is left after the last round. -/
inductive Answers (lexers : List Lexer) (resort : Option Nat) :
    List (Lexer → Prop) → Option Nat → Prop
  | resort : Answers lexers resort [] resort
  | found {wanted : Lexer → Prop} {rounds : List (Lexer → Prop)} {place : Nat}
      (latest : Latest lexers wanted place) : Answers lexers resort (wanted :: rounds) (some place)
  | next {wanted : Lexer → Prop} {rounds : List (Lexer → Prop)} {answer : Option Nat}
      (none : ∀ place, ¬ Offers lexers wanted place)
      (answers : Answers lexers resort rounds answer) :
      Answers lexers resort (wanted :: rounds) answer

/-- The answer of one round: the lexer registered last, if there is any. -/
structure Reads (lexers : List Lexer) (wanted : Lexer → Prop) (answer : Option Nat) : Prop where
  latest : ∀ place, answer = some place → Latest lexers wanted place
  none : answer = none → ∀ place, ¬ Offers lexers wanted place

variable {lexers : List Lexer} {wanted wanted' : Lexer → Prop} {answer resort : Option Nat}

theorem offers_congr (same : ∀ lexer ∈ lexers, wanted lexer ↔ wanted' lexer) :
    Offers lexers wanted = Offers lexers wanted' := by
  funext place
  exact propext (exists_congr fun lexer => and_congr_right fun here =>
    same lexer (List.mem_of_getElem? here))

theorem Reads.congr (reads : Reads lexers wanted answer)
    (same : ∀ lexer ∈ lexers, wanted lexer ↔ wanted' lexer) : Reads lexers wanted' answer := by
  have offered := offers_congr same
  refine ⟨fun place found => ?_, offered ▸ reads.none⟩
  obtain ⟨offers, last⟩ := reads.latest place found
  exact ⟨offered ▸ offers, offered ▸ last⟩

theorem not_offers (none : ∀ lexer ∈ lexers, ¬ wanted lexer) (place : Nat) :
    ¬ Offers lexers wanted place :=
  fun ⟨lexer, here, holds⟩ => none lexer (List.mem_of_getElem? here) holds

/-- There is one answer only. -/
theorem Answers.unique {rounds : List (Lexer → Prop)} {answer' : Option Nat}
    (answers : Answers lexers resort rounds answer)
    (answers' : Answers lexers resort rounds answer') : answer = answer' := by
  induction answers with
  | resort =>
    cases answers'
    rfl
  | found latest =>
    cases answers' with
    | found latest' =>
      rw [Nat.le_antisymm (latest'.last _ latest.offers) (latest.last _ latest'.offers)]
    | next none => exact absurd latest.offers (none _)
  | next none _ ih =>
    cases answers' with
    | found latest' => exact absurd latest'.offers (none _)
    | next _ others => exact ih others

/-- One round before others. -/
theorem Reads.answers (reads : Reads lexers wanted answer) {rounds : List (Lexer → Prop)}
    {answer' : Option Nat} (others : Answers lexers resort rounds answer') :
    Answers lexers resort (wanted :: rounds) (answer.or answer') := by
  cases found : answer with
  | some place => exact .found (reads.latest place found)
  | none => exact .next (reads.none found) others

/-! ## Tables -/

theorem offers_append_singleton {lexer : Lexer} {place : Nat} :
    Offers (lexers ++ [lexer]) wanted place ↔
      Offers lexers wanted place ∨ place = lexers.length ∧ wanted lexer := by
  rcases Nat.lt_trichotomy place lexers.length with before | rfl | behind
  · rw [Offers, List.getElem?_append_left before]
    exact (or_iff_left fun new => Nat.ne_of_lt before new.1).symm
  · have nothing : ¬ Offers lexers wanted lexers.length := by
      rintro ⟨_, here, -⟩
      rw [List.getElem?_eq_none (Nat.le_refl _)] at here
      exact nomatch here
    simp [Offers] at nothing ⊢
  · have beyond : lexers.length + 1 ≤ place := behind
    have nothing : lexers[place]? = none := List.getElem?_eq_none (Nat.le_of_lt behind)
    have nothing' : (lexers ++ [lexer])[place]? = none :=
      List.getElem?_eq_none (by simpa using beyond)
    simp [Offers, nothing, nothing', Nat.ne_of_gt behind]

/-- What each registration puts under a key if the lexer has a property is the lexer registered
last among those that have it. -/
theorem reads_ofLexers [DecidablePred wanted] (read : Catalog → Option Nat)
    (nothing : read empty = none) (register : ∀ catalog lexer, read (register catalog lexer) =
      if wanted lexer then some catalog.size else read catalog) (lexers : List Lexer) :
    Reads lexers wanted (read (ofLexers lexers)) := by
  -- from the end, since a later registration takes the place of an earlier one
  induction lexers using List.reverseRecOn with
  | nil =>
    have empty : read (ofLexers []) = none := nothing
    refine ⟨fun place found => (nomatch empty.symm.trans found), ?_⟩
    rintro - place ⟨lexer, absent, -⟩
    exact nomatch absent
  | append_singleton before lexer ih =>
    rw [ofLexers_append_singleton, register, size_ofLexers]
    by_cases new : wanted lexer
    · rw [if_pos new]
      refine ⟨?_, fun none => nomatch none⟩
      rintro _ ⟨⟩
      refine ⟨offers_append_singleton.2 (.inr ⟨rfl, new⟩), ?_⟩
      rintro other ⟨_, here, -⟩
      have within := (List.getElem?_eq_some_iff.1 here).1
      rw [List.length_append, List.length_singleton] at within
      exact Nat.le_of_lt_succ within
    · have same : ∀ place, Offers (before ++ [lexer]) wanted place ↔ Offers before wanted place :=
        fun place => offers_append_singleton.trans (or_iff_left fun last => new last.2)
      rw [if_neg new]
      refine ⟨fun place found => ?_, fun none place => (same place).not.2 (ih.none none place)⟩
      obtain ⟨offers, last⟩ := ih.latest place found
      exact ⟨(same place).2 offers, fun other old => last other ((same other).1 old)⟩

theorem reads_names (lexers : List Lexer) (text : String) :
    Reads lexers (Lexer.GoesBy text) ((ofLexers lexers).names.lookup text) :=
  reads_ofLexers (fun catalog => catalog.names.lookup text) rfl lookup_names_register lexers

theorem reads_aliases (lexers : List Lexer) (text : String) :
    Reads lexers (Lexer.GoesByAlias text) ((ofLexers lexers).aliases.lookup text) :=
  reads_ofLexers (fun catalog => catalog.aliases.lookup text) rfl lookup_aliases_register lexers

/-! ## File names as a last resort -/

/-- The first of two answers, unless there is none or its priority is not at least that of the
second. -/
def prefer (catalog : Catalog) (first second : Option Nat) : Option Nat :=
  match first, second with
  | none, answer => answer
  | some held, none => some held
  | some held, some other =>
    if (catalog.priorityOf held).atLeast (catalog.priorityOf other) then some held else some other

theorem best_append_toList (catalog : Catalog) (first second : Option Nat) :
    catalog.best (first.toList ++ second.toList) = catalog.prefer first second := by
  cases first <;> cases second <;> rfl

theorem prefer_eq_or (catalog : Catalog) {first second : Option Nat}
    (atLeast : ∀ held ∈ first, ∀ other ∈ second,
      (catalog.priorityOf held).atLeast (catalog.priorityOf other) = true) :
    catalog.prefer first second = first.or second := by
  cases first with
  | none => rfl
  | some held =>
    cases second with
    | none => rfl
    | some other => exact if_pos (atLeast held rfl other rfl)

/-- The rounds come one after the other, and then the file names. -/
theorem find_eq (catalog : Catalog) (name : String) :
    catalog.find name =
      (catalog.names.lookup name).or ((catalog.aliases.lookup name).or
        ((catalog.names.lookup (Unicode.lowercase name)).or
          ((catalog.aliases.lookup (Unicode.lowercase name)).or
            (catalog.prefer (catalog.byFileName ("filename." ++ name))
              (catalog.byFileName name))))) := by
  have resort : catalog.find name = (catalog.byName name).or
      (catalog.prefer (catalog.byFileName ("filename." ++ name)) (catalog.byFileName name)) := by
    unfold find
    rw [best_append_toList]
    cases catalog.byName name <;> rfl
  rw [resort, byName_eq, Option.or_assoc, Option.or_assoc, Option.or_assoc]

/-! ## Names -/

/-- The answer if what is spelled so came before what is so in lower case, and the file name with
the name as its extension before that which is the name. -/
def AnswersInOrder (lexers : List Lexer) (name : String) (answer : Option Nat) : Prop :=
  Answers lexers
    (((ofLexers lexers).byFileName ("filename." ++ name)).or ((ofLexers lexers).byFileName name))
    [Lexer.Named name, Lexer.Aliased name, Lexer.NamedLike name, Lexer.AliasedLike name] answer

/-- **Names.** After any registrations, a name stands for the lexer registered last among those
whose name it spells, as it is or in lower case; then for the last one with an alias that it spells;
then for the last one whose name is the same in lower case, or else an alias. If there is none, it
stands for the lexer for a file with the name as its extension, unless one for a file of that name
is of a higher priority. Where the name spells no other name or alias and the file names come in
order, so do the answers. -/
theorem find_answers (lexers : List Lexer) (name : String) :
    Answers lexers
        ((ofLexers lexers).prefer ((ofLexers lexers).byFileName ("filename." ++ name))
          ((ofLexers lexers).byFileName name))
        [Lexer.GoesBy name, Lexer.GoesByAlias name, Lexer.NamedLike name, Lexer.AliasedLike name]
        ((ofLexers lexers).find name) ∧
      ((∀ lexer ∈ lexers, lexer.GoesBy name → lexer.Named name) →
        (∀ lexer ∈ lexers, lexer.GoesByAlias name → lexer.Aliased name) →
        (∀ extension ∈ (ofLexers lexers).byFileName ("filename." ++ name),
          ∀ whole ∈ (ofLexers lexers).byFileName name,
            ((ofLexers lexers).priorityOf extension).atLeast
              ((ofLexers lexers).priorityOf whole) = true) →
        AnswersInOrder lexers name ((ofLexers lexers).find name)) := by
  have names := reads_names lexers name
  have aliases := reads_aliases lexers name
  have likeNames := (reads_names lexers (Unicode.lowercase name)).congr
    fun _ _ => Lexer.goesBy_lowercase
  have likeAliases := (reads_aliases lexers (Unicode.lowercase name)).congr
    fun _ _ => Lexer.goesByAlias_lowercase
  rw [find_eq]
  refine ⟨names.answers (aliases.answers (likeNames.answers (likeAliases.answers .resort))), ?_⟩
  intro named aliased inOrder
  rw [prefer_eq_or _ inOrder]
  have names' := names.congr fun lexer among =>
    ⟨named lexer among, fun same => .inl same.symm⟩
  have aliases' := aliases.congr fun lexer among =>
    ⟨aliased lexer among, fun same => ⟨name, same, .inl rfl⟩⟩
  exact names'.answers (aliases'.answers (likeNames.answers (likeAliases.answers .resort)))

/-- A lexer without rules. -/
def bare (config : Config) : Lexer := ⟨config, ⟨[⟨rootState, []⟩]⟩⟩

theorem ofGrammar_bare (config : Config) :
    Lexer.ofGrammar ⟨config, [⟨rootState, []⟩]⟩ = .ok (bare config) := rfl

/-- Two lexers whose names differ in case only. The first one is for files with an extension, the
second, of the priority two, for files whose name is that extension. -/
def letters : List Lexer :=
  [bare ⟨"c", ["h"], ["*.x"], [], .zero, ⟨false, false, false⟩⟩,
    bare ⟨"C", [], ["x"], [], ⟨0x40000000⟩, ⟨false, false, false⟩⟩]

/-- An alias that is looked up in capitals is found in the last round. -/
theorem find_answers_letters : (ofLexers letters).find "H" = some 0 ∧
    (∀ lexer ∈ letters, lexer.GoesBy "H" → lexer.Named "H") ∧
      (∀ lexer ∈ letters, lexer.GoesByAlias "H" → lexer.Aliased "H") ∧
        AnswersInOrder letters "H" ((ofLexers letters).find "H") := by
  have named : ∀ lexer ∈ letters, lexer.GoesBy "H" → lexer.Named "H" := by decide +kernel
  have aliased : ∀ lexer ∈ letters, lexer.GoesByAlias "H" → lexer.Aliased "H" := by
    decide +kernel
  have noFile : (ofLexers letters).byFileName "filename.H" = none := by decide +kernel
  refine ⟨by decide +kernel, named, aliased, (find_answers letters "H").2 named aliased ?_⟩
  intro extension found
  exact nomatch noFile.symm.trans found

/-- The small letter stands for the lexer that has the capital one as its name, and the extension
for the lexer that is not for it. -/
theorem not_answers_in_order :
    (∀ lexer ∈ letters, ∃ grammar, Lexer.ofGrammar grammar = .ok lexer) ∧
      (ofLexers letters).find "c" = some 1 ∧ AnswersInOrder letters "c" (some 0) ∧
        (ofLexers letters).find "x" = some 1 ∧ AnswersInOrder letters "x" (some 0) ∧
          ¬ ∀ lexers name, AnswersInOrder lexers name ((ofLexers lexers).find name) := by
  have found : (ofLexers letters).find "c" = some 1 := by decide +kernel
  have small : AnswersInOrder letters "c" (some 0) := by
    refine .found ⟨⟨_, rfl, rfl⟩, ?_⟩
    rintro (_ | _ | _) ⟨_, ⟨⟩, named⟩
    · exact Nat.le_refl _
    · exact absurd named (by decide)
  have extension : AnswersInOrder letters "x" (some 0) := by
    refine .next (not_offers (by decide +kernel)) (.next (not_offers (by decide +kernel))
      (.next (not_offers (by decide +kernel)) (.next (not_offers (by decide +kernel)) ?_)))
    have file : ((ofLexers letters).byFileName ("filename." ++ "x")).or
        ((ofLexers letters).byFileName "x") = some 0 := by decide +kernel
    rw [file]
    exact .resort
  refine ⟨?_, found, small, by decide +kernel, extension, fun inOrder => ?_⟩
  · exact List.forall_mem_cons.2
      ⟨⟨_, ofGrammar_bare _⟩, List.forall_mem_singleton.2 ⟨_, ofGrammar_bare _⟩⟩
  · have same := (inOrder letters "c").unique small
    rw [found] at same
    exact absurd same (by decide)

end Catalog

end GrammarLexer
