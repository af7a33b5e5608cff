import GrammarLexer.Proofs.Catalog.FileName
import GrammarLexer.Proofs.Catalog.Registration
import GrammarLexer.Proofs.Grammar.Priority
import Mathlib.Data.List.Induction

/-!
# Which of several lexers wins

The candidates are looked at in the order of registration, and each is held against the best so
far. Among numbers this finds the first one of the highest priority (`Wins`). A candidate whose
priority is no number is not at least any other, nor is any other at least it: it takes the place
of whatever came before, and the next candidate takes its place. So only candidates after the last
one of this kind count (`Prevails`), and one that does not may well be of a higher priority than
the answer.
-/

namespace GrammarLexer

/-! ## The best of some candidates -/

section Selection

variable {priority : Nat → Priority} {candidate : Nat → Prop} {place other entry : Nat}

/-- A candidate counts if its priority and those of all candidates after it are numbers. -/
def Counts (priority : Nat → Priority) (candidate : Nat → Prop) (place : Nat) : Prop :=
  candidate place ∧ ∀ later, place ≤ later → candidate later → (priority later).isNaN = false

/-- The first of the highest priority among the candidates that count, or the last candidate of
all if none does. -/
inductive Prevails (priority : Nat → Priority) (candidate : Nat → Prop) (place : Nat) : Prop where
  | highest (counts : Counts priority candidate place)
      (highest : ∀ rival, Counts priority candidate rival →
        ¬ (priority rival).Exceeds (priority place))
      (first : ∀ rival < place, Counts priority candidate rival →
        ¬ (priority rival).Equals (priority place))
  | last (none : ∀ rival, ¬ Counts priority candidate rival)
      (among : candidate place) (last : ∀ rival, candidate rival → rival ≤ place)

/-- The first of the highest priority among all candidates. -/
structure Wins (priority : Nat → Priority) (candidate : Nat → Prop) (place : Nat) : Prop where
  among : candidate place
  highest : ∀ rival, candidate rival → ¬ (priority rival).Exceeds (priority place)
  first : ∀ rival < place, candidate rival → ¬ (priority rival).Equals (priority place)

/-- The priority of a candidate that counts is a number. -/
theorem Counts.isNaN (counts : Counts priority candidate place) :
    (priority place).isNaN = false :=
  counts.2 place (Nat.le_refl _) counts.1

/-- What prevails is a candidate. -/
theorem Prevails.among (prevails : Prevails priority candidate place) : candidate place := by
  cases prevails with
  | highest counts _ _ => exact counts.1
  | last _ among _ => exact among

/-- Where all priorities are numbers, what prevails is what wins. -/
theorem prevails_iff_wins
    (numbers : ∀ rival, candidate rival → (priority rival).isNaN = false) :
    Prevails priority candidate place ↔ Wins priority candidate place := by
  have counts {rival : Nat} : Counts priority candidate rival ↔ candidate rival :=
    ⟨And.left, fun among => ⟨among, fun later _ => numbers later⟩⟩
  constructor
  · intro prevails
    cases prevails with
    | highest here highest first =>
      exact ⟨here.1, fun rival among => highest rival (counts.2 among),
        fun rival before among => first rival before (counts.2 among)⟩
    | last none among _ => exact absurd (counts.2 among) (none place)
  · intro wins
    exact .highest (counts.2 wins.among) (fun rival among => wins.highest rival among.1)
      fun rival before among => wins.first rival before among.1

/-- At most one candidate prevails. -/
theorem Prevails.unique (prevails : Prevails priority candidate place)
    (prevails' : Prevails priority candidate other) : place = other := by
  cases prevails with
  | highest counts highest first =>
    cases prevails' with
    | highest counts' highest' first' =>
      have number := counts.isNaN
      have number' := counts'.isNaN
      have notAbove := highest other counts'
      have notBelow := highest' place counts
      rcases Nat.lt_trichotomy place other with before | same | after
      · have apart := first' place before counts
        simp only [Priority.Exceeds, Priority.Equals, number, number', true_and] at *
        omega
      · exact same
      · have apart := first other after counts'
        simp only [Priority.Exceeds, Priority.Equals, number, number', true_and] at *
        omega
    | last none _ _ => exact absurd counts (none place)
  | last none among last =>
    cases prevails' with
    | highest counts' _ _ => exact absurd counts' (none other)
    | last _ among' last' => exact Nat.le_antisymm (last' place among) (last other among')

/-- The only candidate prevails. -/
theorem Prevails.only (only : ∀ rival, candidate rival ↔ rival = place) :
    Prevails priority candidate place := by
  have among : candidate place := (only place).2 rfl
  cases number : (priority place).isNaN with
  | true =>
    refine .last ?_ among fun rival old => Nat.le_of_eq ((only rival).1 old)
    intro rival counts
    obtain rfl := (only rival).1 counts.1
    exact nomatch counts.isNaN.symm.trans number
  | false =>
    refine .highest ⟨among, fun later _ old => (only later).1 old ▸ number⟩ ?_ ?_
    · intro rival counts exceeds
      obtain rfl := (only rival).1 counts.1
      exact Int.lt_irrefl _ exceeds.2.2
    · intro rival before counts
      exact absurd ((only rival).1 counts.1) (Nat.ne_of_lt before)

/-! ### One more candidate -/

variable (after : ∀ rival, candidate rival → rival < entry)

include after

/-- If one more candidate comes last and its priority is a number, the same ones count, and so
does it. Otherwise none does any more. -/
theorem counts_or :
    Counts priority (fun rival => candidate rival ∨ rival = entry) place ↔
      (priority entry).isNaN = false ∧ (Counts priority candidate place ∨ place = entry) := by
  constructor
  · rintro ⟨among, numbers⟩
    have reaches : place ≤ entry := among.elim (fun old => Nat.le_of_lt (after _ old)) Nat.le_of_eq
    refine ⟨numbers entry reaches (.inr rfl), among.imp_left fun old => ⟨old, ?_⟩⟩
    exact fun later behind old => numbers later behind (.inl old)
  · rintro ⟨number, counts | rfl⟩
    · refine ⟨.inl counts.1, fun later behind among => ?_⟩
      rcases among with old | rfl
      · exact counts.2 later behind old
      · exact number
    · refine ⟨.inr rfl, fun later behind among => ?_⟩
      rcases among with old | rfl
      · exact absurd (after later old) (Nat.not_lt_of_le behind)
      · exact number

/-- What prevails goes on to do so if it is at least the candidate that comes last. -/
theorem Prevails.keep (prevails : Prevails priority candidate place)
    (atLeast : (priority place).atLeast (priority entry) = true) :
    Prevails priority (fun rival => candidate rival ∨ rival = entry) place := by
  obtain ⟨here, number, reaches⟩ := Priority.atLeast_iff.1 atLeast
  cases prevails with
  | highest counts highest first =>
    refine .highest ((counts_or after).2 ⟨number, .inl counts⟩) ?_ ?_
    · intro rival among
      rcases ((counts_or after).1 among).2 with old | rfl
      · exact highest rival old
      · exact fun exceeds => absurd exceeds.2.2 (Int.not_lt.2 reaches)
    · intro rival before among
      rcases ((counts_or after).1 among).2 with old | rfl
      · exact first rival before old
      · exact absurd (after place counts.1) (Nat.lt_asymm before)
  | last none among last =>
    -- the last candidate would count
    refine absurd ⟨among, fun later behind old => ?_⟩ (none place)
    rw [Nat.le_antisymm (last later old) behind]
    exact here

/-- Otherwise the candidate that comes last prevails. -/
theorem Prevails.replace (prevails : Prevails priority candidate place)
    (less : ¬ (priority place).atLeast (priority entry) = true) :
    Prevails priority (fun rival => candidate rival ∨ rival = entry) entry := by
  cases number : (priority entry).isNaN with
  | true =>
    refine .last ?_ (.inr rfl) ?_
    · intro rival counts
      exact nomatch ((counts_or after).1 counts).1.symm.trans number
    · rintro rival (old | rfl)
      · exact Nat.le_of_lt (after rival old)
      · exact Nat.le_refl _
  | false =>
    -- all that count are at most what prevailed, which is below the one that comes last
    have below : ∀ rival, Counts priority candidate rival →
        (priority rival).value < (priority entry).value := by
      intro rival counts
      cases prevails with
      | highest here highest _ =>
        have above := highest rival counts
        simp only [Priority.Exceeds, Priority.atLeast_iff, here.isNaN, counts.isNaN, number,
          true_and] at above less
        omega
      | last none _ _ => exact absurd counts (none rival)
    refine .highest ((counts_or after).2 ⟨number, .inr rfl⟩) ?_ ?_
    · intro rival among exceeds
      rcases ((counts_or after).1 among).2 with old | rfl
      · exact Int.lt_asymm (below rival old) exceeds.2.2
      · exact Int.lt_irrefl _ exceeds.2.2
    · intro rival before among equals
      rcases ((counts_or after).1 among).2 with old | rfl
      · exact Int.ne_of_lt (below rival old) equals.2.2
      · exact Nat.lt_irrefl _ before

end Selection

namespace Catalog

/-- An answer is right if it is the candidate that prevails, and there is none just if there are
no candidates. -/
def Chooses (catalog : Catalog) (candidate : Nat → Prop) (answer : Option Nat) : Prop :=
  (answer = none ↔ ∀ place, ¬ candidate place) ∧
    ∀ place, answer = some place ↔ Prevails catalog.priorityOf candidate place

/-- The answer is right if what is found prevails. -/
theorem chooses_of {catalog : Catalog} {candidate : Nat → Prop} {answer : Option Nat}
    (empty : answer = none → ∀ place, ¬ candidate place)
    (found : ∀ place, answer = some place → Prevails catalog.priorityOf candidate place) :
    catalog.Chooses candidate answer := by
  refine ⟨⟨empty, fun none => ?_⟩, fun place => ⟨found place, fun prevails => ?_⟩⟩
  · cases answered : answer with
    | none => rfl
    | some place => exact absurd (found place answered).among (none place)
  · cases answered : answer with
    | none => exact absurd prevails.among (empty answered place)
    | some place' => rw [(found place' answered).unique prevails]

/-- **One candidate after the other.** The best of some candidates in the order of registration
prevails among them. -/
theorem best_chooses (catalog : Catalog) {candidates : List Nat}
    (ascending : candidates.Pairwise (· < ·)) :
    catalog.Chooses (· ∈ candidates) (catalog.best candidates) := by
  -- from the end, since the best so far is what prevails among the candidates before
  induction candidates using List.reverseRecOn with
  | nil => exact chooses_of (fun _ _ => List.not_mem_nil) fun _ none => nomatch none
  | append_singleton before entry ih =>
    obtain ⟨ascending, -, after⟩ := List.pairwise_append.1 ascending
    obtain ⟨empty, found⟩ := ih ascending
    have after : ∀ rival, rival ∈ before → rival < entry :=
      fun rival member => after rival member entry (List.mem_singleton.2 rfl)
    have members : (· ∈ before ++ [entry]) = fun rival => rival ∈ before ∨ rival = entry := by
      funext rival
      rw [List.mem_append, List.mem_singleton]
    have last : catalog.best (before ++ [entry]) = catalog.better (catalog.best before) entry := by
      rw [best, List.foldl_append]
      rfl
    rw [members, last]
    cases held : catalog.best before with
    | none =>
      refine chooses_of (fun none => nomatch none) fun _ same => ?_
      cases same
      exact .only fun rival => or_iff_right (empty.1 held rival)
    | some place =>
      have prevails := (found place).1 held
      unfold better
      dsimp only
      split
      · rename_i atLeast
        refine chooses_of (fun none => nomatch none) fun _ same => ?_
        cases same
        exact prevails.keep after atLeast
      · rename_i less
        refine chooses_of (fun none => nomatch none) fun _ same => ?_
        cases same
        exact prevails.replace after less

/-! ## Files and media types -/

/-- True of the places of the lexers with a property. -/
def Offers (lexers : List Lexer) (wanted : Lexer → Prop) (place : Nat) : Prop :=
  ∃ lexer, lexers[place]? = some lexer ∧ wanted lexer

/-- The candidates for the file at a path: the lexers for its name, or else those for its name
without the suffix of a copy. -/
inductive ForFile (lexers : List Lexer) (path : String) (place : Nat) : Prop where
  | name (offers : Offers lexers (Lexer.Matches (FileName.base path)) place)
  | copy {stem : String}
      (unnamed : ∀ other, ¬ Offers lexers (Lexer.Matches (FileName.base path)) other)
      (copies : FileName.IsStem (FileName.base path) stem)
      (offers : Offers lexers (Lexer.Matches stem) place)

variable {lexers : List Lexer} {wanted : Lexer → Prop} {test : Entry → Bool}

/-- The entries with a property come in the order of registration. -/
theorem entriesWith_pairwise (catalog : Catalog) (test : Entry → Bool) :
    (catalog.entriesWith test).Pairwise (· < ·) :=
  List.pairwise_lt_range.filter _

/-- They are those of the lexers with that property. -/
theorem mem_entriesWith_ofLexers
    (tests : ∀ lexer, test (Entry.ofLexer lexer) = true ↔ wanted lexer) {place : Nat} :
    place ∈ (ofLexers lexers).entriesWith test ↔ Offers lexers wanted place := by
  have holds : ((ofLexers lexers).entries[place]?.any test = true) ↔ Offers lexers wanted place := by
    rw [getElem?_entries_ofLexers, Option.any_map, Option.any_eq_true]
    exact exists_congr fun lexer => and_congr_right fun _ => tests lexer
  rw [entriesWith, List.mem_filter, holds, List.mem_range]
  refine and_iff_right_of_imp fun ⟨lexer, found, _⟩ => ?_
  have entry : (ofLexers lexers).entries[place]? = some (Entry.ofLexer lexer) := by
    rw [getElem?_entries_ofLexers, found, Option.map_some]
  exact (List.getElem?_eq_some_iff.1 entry).1

/-- The best of the entries with a property prevails among the lexers with it. -/
theorem entriesWith_chooses (tests : ∀ lexer, test (Entry.ofLexer lexer) = true ↔ wanted lexer) :
    (ofLexers lexers).Chooses (Offers lexers wanted)
      ((ofLexers lexers).best ((ofLexers lexers).entriesWith test)) := by
  have same : (· ∈ (ofLexers lexers).entriesWith test) = Offers lexers wanted := by
    funext place
    exact propext (mem_entriesWith_ofLexers tests)
  rw [← same]
  exact best_chooses _ (entriesWith_pairwise _ _)

/-- The answer for the name of a file. -/
theorem byGlob_chooses (lexers : List Lexer) (name : String) :
    (ofLexers lexers).Chooses (Offers lexers (Lexer.Matches name)) ((ofLexers lexers).byGlob name) :=
  entriesWith_chooses fun _ => Entry.any_isMatch_ofLexer

/-- The answer for a media type. -/
theorem byMimeType_chooses (lexers : List Lexer) (mimeType : String) :
    (ofLexers lexers).Chooses (Offers lexers (Lexer.Lists mimeType))
      ((ofLexers lexers).byMimeType mimeType) :=
  entriesWith_chooses fun _ => Entry.contains_mimeTypes_ofLexer

/-- The answer for the file at a path. -/
theorem byFileName_chooses (lexers : List Lexer) (path : String) :
    (ofLexers lexers).Chooses (ForFile lexers path) ((ofLexers lexers).byFileName path) := by
  have named := byGlob_chooses lexers (FileName.base path)
  unfold byFileName
  dsimp only
  cases found : (ofLexers lexers).byGlob (FileName.base path) with
  | some entry =>
    rw [found] at named
    have offered := ((named.2 entry).1 rfl).among
    have same : ForFile lexers path = Offers lexers (Lexer.Matches (FileName.base path)) := by
      funext place
      refine propext ⟨fun candidate => ?_, .name⟩
      cases candidate with
      | name offers => exact offers
      | copy unnamed _ _ => exact absurd offered (unnamed entry)
    rw [same]
    exact named
  | none =>
    have unnamed := named.1.1 found
    cases stem : FileName.stem? (FileName.base path) with
    | none =>
      refine chooses_of (fun _ place candidate => ?_) fun _ none => nomatch none
      cases candidate with
      | name offers => exact unnamed place offers
      | copy _ copies _ => exact nomatch stem.symm.trans (FileName.stem?_eq_some_iff.2 copies)
    | some stem' =>
      have same : ForFile lexers path = Offers lexers (Lexer.Matches stem') := by
        funext place
        refine propext ⟨fun candidate => ?_, .copy unnamed (FileName.stem?_eq_some_iff.1 stem)⟩
        cases candidate with
        | name offers => exact absurd offers (unnamed place)
        | copy _ copies offers =>
          cases stem.symm.trans (FileName.stem?_eq_some_iff.2 copies)
          exact offers
      rw [same, Option.bind_some]
      exact byGlob_chooses lexers stem'

/-- The priority of an entry is that of the lexer registered there, or one if it equals zero. -/
theorem priorityOf_ofLexers {place : Nat} {lexer : Lexer} (registered : lexers[place]? = some lexer) :
    (ofLexers lexers).priorityOf place =
      if lexer.config.priority.Equals .zero then .one else lexer.config.priority := by
  rw [priorityOf, getElem?_entries_ofLexers, registered]
  exact lexer.config.priority.effective_eq

/-- **Answers.** After any registrations, the answer for a file or a media type prevails among the
lexers that are candidates for it, and there is one if there are any. If all their priorities are
numbers, it is the first of those with the highest. -/
theorem answers_prevail (lexers : List Lexer) :
    (∀ path, (ofLexers lexers).Chooses (ForFile lexers path) ((ofLexers lexers).byFileName path)) ∧
      (∀ mimeType, (ofLexers lexers).Chooses (Offers lexers (Lexer.Lists mimeType))
        ((ofLexers lexers).byMimeType mimeType)) ∧
      (∀ candidate place,
        (∀ rival, candidate rival → ((ofLexers lexers).priorityOf rival).isNaN = false) →
          (Prevails (ofLexers lexers).priorityOf candidate place ↔
            Wins (ofLexers lexers).priorityOf candidate place)) ∧
      ∀ place lexer, lexers[place]? = some lexer → (ofLexers lexers).priorityOf place =
        if lexer.config.priority.Equals .zero then .one else lexer.config.priority :=
  ⟨byFileName_chooses lexers, byMimeType_chooses lexers, fun _ _ => prevails_iff_wins,
    fun _ _ => priorityOf_ofLexers⟩

/-- A grammar for one media type that has a priority. -/
def rival (name : String) (bits : UInt32) : Grammar where
  config := ⟨name, [], [], ["text/x"], ⟨bits⟩, ⟨false, false, false⟩⟩
  states := [⟨"root", []⟩]

/-- Where one lexer of the priority two is registered, then one whose priority is no number, and
then one of the priority one, the last is the answer. -/
theorem exists_answer_exceeded :
    ∃ high odd low, Lexer.ofGrammar (rival "High" 0x40000000) = .ok high ∧
      Lexer.ofGrammar (rival "Odd" 0x7FC00000) = .ok odd ∧
      Lexer.ofGrammar (rival "Low" 0x3F800000) = .ok low ∧
      (ofLexers [high, odd, low]).byMimeType "text/x" = some 2 ∧
      ¬ Wins (ofLexers [high, odd, low]).priorityOf
        (Offers [high, odd, low] (Lexer.Lists "text/x")) 2 := by
  have builds (name : String) (bits : UInt32) :
      ∃ machine, Lexer.ofGrammar (rival name bits) = .ok ⟨(rival name bits).config, machine⟩ :=
    ⟨_, rfl⟩
  obtain ⟨high, builtHigh⟩ := builds "High" 0x40000000
  obtain ⟨odd, builtOdd⟩ := builds "Odd" 0x7FC00000
  obtain ⟨low, builtLow⟩ := builds "Low" 0x3F800000
  refine ⟨_, _, _, builtHigh, builtOdd, builtLow, rfl, fun wins => ?_⟩
  refine wins.highest 0 ⟨_, rfl, List.mem_singleton.2 rfl⟩ ?_
  change Priority.Exceeds ⟨0x40000000⟩ ⟨0x3F800000⟩
  decide

end Catalog

end GrammarLexer
