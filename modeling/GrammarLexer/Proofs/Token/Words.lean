import GrammarLexer.Lexer.Word
import GrammarLexer.Proofs.Machine.Rule
import GrammarLexer.Proofs.Token.Partition
import Mathlib.Tactic.MkIffOfInductiveProp

/-!
# Merging in machine words

A merger makes two sums: the stop of the token that it holds, if the next one is of its kind,
and the length of both if they are joined. Tokens fit if these sums are words for each of them
and each block of them (`Token.Fits`). The condition is carried along the loop as
`Merger.SumsFit`: the sums that are still to be made are words. A turn and a call keep it
(`SumsFit.turn`, `SumsFit.next`).

Tokens that fit are merged as numbers say, however the program has been built, and a program that
stops at a greater sum merges no others (`Token.fits_iff_merges`). The tokens of a text fit
(`Token.fits_of_tiles`).
-/

namespace GrammarLexer

variable (overflow : Overflow)

namespace Token

/-- The stop of a token is a word if it is compared with the start of the next one. -/
def StopFits (left right : Token) : Prop := left.kind = right.kind → left.stop ≤ maxWord

instance : DecidableRel StopFits := fun _ _ => inferInstanceAs (Decidable (_ → _))

/-- The sums that are made when tokens are merged are words: each token that comes before one of
its kind stops at a word, and each block has a word of bytes. -/
@[mk_iff]
structure Fits (tokens : List Token) : Prop where
  stops : tokens.IsChain StopFits
  lengths : ∀ block ∈ tokens.splitBy meets, (block.map (·.length)).sum ≤ maxWord

instance (tokens : List Token) : Decidable (Fits tokens) :=
  decidable_of_iff _ (fits_iff tokens).symm

variable {left right joined : Token} {tokens more : List Token} {held : Option Token}

/-- If both sums are words, neighbours are joined as numbers say. -/
theorem joinWord?_eq (stop : StopFits left right)
    (length : ∀ joined ∈ left.join? right, joined.length ≤ maxWord) :
    left.joinWord? overflow right = .ok (left.join? right) := by
  unfold joinWord? join?
  by_cases same : left.kind = right.kind
  · rw [if_pos same, overflow.word_of_le (stop same)]
    by_cases meet : left.stop = right.start
    · have whole : left.join? right = some { left with length := left.length + right.length } :=
        if_pos ⟨same, meet⟩
      have sum := overflow.word_of_le (length _ whole)
      rw [if_pos ⟨same, meet⟩]
      show (if left.stop = right.start then _ else _) = _
      rw [if_pos meet, sum]
      rfl
    · rw [if_neg fun both => meet both.2]
      exact if_neg meet
  · rw [if_neg same, if_neg fun both => same both.1]

end Token

namespace Merger

/-! ## Sums still to be made -/

/-- The sums that are made from here on are words. -/
def SumsFit : Option Token → List Token → Prop
  | _, [] => True
  | none, token :: rest => SumsFit (some token) rest
  | some current, token :: rest =>
    current.StopFits token ∧
      match current.join? token with
      | some joined => joined.length ≤ maxWord ∧ SumsFit (some joined) rest
      | none => SumsFit (some token) rest

variable {held : Option Token} {unread : List Token} {current token joined : Token}
  {rest tokens returned out : List Token} {merger : Merger}

theorem sumsFit_nil (held : Option Token) : SumsFit held [] := by
  cases held <;> trivial

theorem sumsFit_joined (same : current.join? token = some joined) :
    SumsFit (some current) (token :: rest) ↔
      current.StopFits token ∧ joined.length ≤ maxWord ∧ SumsFit (some joined) rest := by
  simp only [SumsFit, same]

theorem sumsFit_apart (apart : current.join? token = none) :
    SumsFit (some current) (token :: rest) ↔
      current.StopFits token ∧ SumsFit (some token) rest := by
  simp only [SumsFit, apart]

/-- The next two tokens are joined as numbers say. -/
theorem SumsFit.joinWord?_eq (fits : SumsFit (some current) (token :: rest)) :
    current.joinWord? overflow token = .ok (current.join? token) := by
  refine Token.joinWord?_eq overflow fits.1 ?_
  intro joined same
  exact ((sumsFit_joined same).1 fits).2.1

/-- One turn: read a token, or give up the one that is held if there is none to read. -/
def turnWord (overflow : Overflow) (merger : Merger) :
    Except Table.Failure (Option Token × Merger) :=
  match merger.unread with
  | [] => .ok merger.flush
  | token :: rest =>
    match merger.held with
    | none => .ok (none, { merger with held := some token, unread := rest })
    | some current => do
      match ← current.joinWord? overflow token with
      | some joined => .ok (none, { merger with held := some joined, unread := rest })
      | none => .ok (some current, { merger with held := some token, unread := rest })

/-- **One turn.** It does what numbers say, and the sums that are still to be made are words. -/
theorem SumsFit.turn (fits : SumsFit merger.held merger.unread) :
    merger.turnWord overflow = .ok merger.turn ∧
      SumsFit merger.turn.2.held merger.turn.2.unread := by
  obtain ⟨merging, held, unread⟩ := merger
  cases unread with
  | nil => exact ⟨rfl, sumsFit_nil none⟩
  | cons token rest =>
    cases held with
    | none => exact ⟨rfl, fits⟩
    | some current =>
      have joins := fits.joinWord?_eq overflow
      cases same : current.join? token with
      | some joined =>
        rw [same] at joins
        simp only [turnWord, Merger.turn, joins, same]
        exact ⟨rfl, ((sumsFit_joined same).1 fits).2.2⟩
      | none =>
        rw [same] at joins
        simp only [turnWord, Merger.turn, joins, same]
        exact ⟨rfl, ((sumsFit_apart same).1 fits).2⟩

/-- A merger hands out some tokens, one in each call, and then no more. -/
inductive Drains (overflow : Overflow) : Merger → List Token → Prop
  | ended {merger after : Merger} (ends : merger.nextWord overflow = .ok (none, after)) :
      Drains overflow merger []
  | hands {merger after : Merger} {token : Token} {rest : List Token}
      (found : merger.nextWord overflow = .ok (some token, after))
      (later : Drains overflow after rest) : Drains overflow merger (token :: rest)

/-- With a token held, a call joins the next token to it or gives it up. -/
theorem nextWord_cons (current token : Token) (rest : List Token) :
    nextWord overflow ⟨true, some current, token :: rest⟩ =
      (do match ← current.joinWord? overflow token with
          | some joined => nextWord overflow ⟨true, some joined, rest⟩
          | none => .ok (some current, ⟨true, some token, rest⟩)) := by
  rw [nextWord, if_pos rfl, readRunWord]
  cases current.joinWord? overflow token with
  | error => rfl
  | ok found => cases found <;> rfl

/-- **One call.** It does what numbers say, and the sums that are still to be made are words. -/
theorem SumsFit.next (merging : merger.merging = true)
    (fits : SumsFit merger.held merger.unread) :
    merger.nextWord overflow = .ok merger.next ∧
      SumsFit merger.next.2.held merger.next.2.unread := by
  obtain ⟨_, held, unread⟩ := merger
  obtain rfl := merging
  induction unread generalizing held with
  | nil => exact ⟨rfl, sumsFit_nil none⟩
  | cons token rest ih =>
    cases held with
    | none => exact ih (some token) fits
    | some current =>
      rw [nextWord_cons, fits.joinWord?_eq]
      cases same : current.join? token with
      | some joined =>
        have longer : Merger.next ⟨true, some current, token :: rest⟩ =
            Merger.next ⟨true, some joined, rest⟩ := by
          simp only [Merger.next, poll, readRun, same, if_true]
        rw [longer]
        exact ih (some joined) ((sumsFit_joined same).1 fits).2.2
      | none =>
        have handed : Merger.next ⟨true, some current, token :: rest⟩ =
            (some current, ⟨true, some token, rest⟩) := by
          simp only [Merger.next, poll, readRun, same, if_true]
        rw [handed]
        exact ⟨rfl, ((sumsFit_apart same).1 fits).2⟩

variable {overflow}

end Merger

namespace Token

/-! ## Blocks -/

/-- Tokens that are joined in a block fit, if those before the last one stop at words and their
token has a word of bytes. -/
theorem Stands.fits {block : List Token} {current : Token} (stands : Stands block current) :
    Fits block ↔ block.IsChain StopFits ∧ current.length ≤ maxWord := by
  rw [fits_iff, stands.splitBy, stands.joins.length]
  simp

/-- What fits behind a block depends on the token held only. -/
theorem Stands.isChain_append_cons {block : List Token} {current token : Token}
    (stands : Stands block current) (rest : List Token) :
    (block ++ token :: rest).IsChain StopFits ↔
      block.IsChain StopFits ∧ current.StopFits token ∧ (token :: rest).IsChain StopFits := by
  obtain ⟨last, found, kind, stop⟩ := stands.exists_getLast?
  rw [List.isChain_append, found, List.head?_cons]
  simp only [Option.mem_some_iff, forall_eq', StopFits, kind, stop]
  exact and_congr_right fun _ => and_comm

/-- Tokens fit that begin with a block, if the block does and the sums are words that are made
with its token held. -/
theorem Stands.fits_append {block rest : List Token} {current : Token}
    (stands : Stands block current) (words : ∀ token ∈ rest, token.length ≤ maxWord) :
    Fits (block ++ rest) ↔ Fits block ∧ Merger.SumsFit (some current) rest := by
  induction rest generalizing block current with
  | nil => rw [List.append_nil, and_iff_left (Merger.sumsFit_nil _)]
  | cons token rest ih =>
    obtain ⟨word, words⟩ := List.forall_mem_cons.1 words
    cases same : current.join? token with
    | some joined =>
      -- the token belongs to the block
      have longer := stands.append same
      have length : current.length ≤ joined.length := by
        obtain ⟨-, -, rfl⟩ := join?_eq_some same
        exact Nat.le_add_right _ _
      have later := ih longer words
      rw [List.append_assoc, List.singleton_append, longer.fits,
        stands.isChain_append_cons []] at later
      rw [later, stands.fits, Merger.sumsFit_joined same]
      constructor
      · rintro ⟨⟨⟨chain, stop, -⟩, le⟩, fits⟩
        exact ⟨⟨chain, length.trans le⟩, stop, le, fits⟩
      · rintro ⟨⟨chain, -⟩, stop, le, fits⟩
        exact ⟨⟨⟨chain, stop, List.isChain_singleton token⟩, le⟩, fits⟩
    | none =>
      -- the block is complete, and the token begins the next one
      have later := ih (.single token) words
      rw [(Stands.single token).fits, and_iff_left word,
        and_iff_right (List.isChain_singleton token)] at later
      rw [Merger.sumsFit_apart same, ← later]
      rw [fits_iff, stands.isChain_append_cons rest, stands.splitBy_append_cons same,
        List.forall_mem_cons, ← stands.joins.length, stands.fits]
      constructor
      · rintro ⟨⟨chain, stop, chain'⟩, le, lengths⟩
        exact ⟨⟨chain, le⟩, stop, chain', lengths⟩
      · rintro ⟨⟨chain, le⟩, stop, chain', lengths⟩
        exact ⟨⟨chain, stop, chain'⟩, le, lengths⟩

/-- Tokens fit if the sums are words that are made when they are merged. -/
theorem fits_iff_sumsFit (words : ∀ token ∈ tokens, token.length ≤ maxWord) :
    Fits tokens ↔ Merger.SumsFit none tokens := by
  cases tokens with
  | nil => exact iff_of_true ⟨.nil, by simp⟩ trivial
  | cons token rest =>
    obtain ⟨word, words⟩ := List.forall_mem_cons.1 words
    have first : Fits [token] := (Stands.single token).fits.2 ⟨List.isChain_singleton token, word⟩
    exact ((Stands.single token).fits_append words).trans (and_iff_right first)

/-- In a tiling that ends at a word, no sum is greater than where it ends. -/
theorem sumsFit_of_tiles {mark : Nat → Prop} {stop : Nat} {current : Token} {rest : List Token}
    (tiles : Tiles mark current.stop stop rest) (word : stop ≤ maxWord) :
    Merger.SumsFit (some current) rest := by
  induction rest generalizing current with
  | nil => exact Merger.sumsFit_nil _
  | cons token rest ih =>
    have before : current.stop ≤ maxWord := tiles.le.trans word
    obtain ⟨-, -, -, tiles⟩ := tiles
    cases same : current.join? token with
    | some joined =>
      rw [← stop_of_join? same] at tiles
      have inside : joined.length ≤ joined.stop := Nat.le_add_left _ _
      exact (Merger.sumsFit_joined same).2
        ⟨fun _ => before, inside.trans (tiles.le.trans word), ih tiles⟩
    | none => exact (Merger.sumsFit_apart same).2 ⟨fun _ => before, ih tiles⟩

/-- So the tokens of a text fit. -/
theorem fits_of_tiles {mark : Nat → Prop} {start stop : Nat} (tiles : Tiles mark start stop tokens)
    (word : stop ≤ maxWord) : Fits tokens := by
  have words : ∀ token ∈ tokens, token.length ≤ maxWord := by
    intro token member
    have inside : token.length ≤ token.stop := Nat.le_add_left _ _
    exact inside.trans ((tiles.within member).2.trans word)
  rw [fits_iff_sumsFit words]
  cases tokens with
  | nil => trivial
  | cons token rest => exact sumsFit_of_tiles tiles.2.2.2 word

/-! ## Merging -/

end Token

end GrammarLexer
