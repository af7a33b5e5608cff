import GrammarLexer.Proofs.Token.Tiling
import Mathlib.Algebra.GroupWithZero.Nat
import Mathlib.Data.List.SplitBy

/-!
# Blocks of tokens

A merger that is given all its tokens hands out one for each block of them, where a block is
a run of tokens that each meet the next one: of one kind, and without a gap
(`forall₂_joinFrom`). The blocks are those of `List.splitBy`. Joining moves no byte to another
kind (`kindAt_joinFrom`) and makes no new ends (`offsets_joinFrom`), whatever the tokens are; in
a tiling, where there are no gaps, the blocks are the runs of one kind (`Tiles.splitBy_meets`).

What a merger hands out does not depend on when its tokens come: `Merger.remaining` is what is
still to come from a merger that will be supplied with certain tokens, and no call changes it
but for the token handed out.
-/

namespace GrammarLexer

namespace Token

/-- A token is joined to the next one if they are of one kind and the next one starts where
it stops. -/
def meets (left right : Token) : Bool := left.kind = right.kind && left.stop = right.start

/-- A token stands for a block: it starts where the first token of the block does, is as long
as all of them together, and of the kind that they all have. -/
structure Joins (block : List Token) (token : Token) : Prop where
  kind : ∀ part ∈ block, part.kind = token.kind
  start : block.head?.map (·.start) = some token.start
  length : token.length = (block.map (·.length)).sum

/-- The kind of the first token that covers a byte. -/
def kindAt (offset : Nat) : List Token → Option Kind
  | [] => none
  | token :: rest =>
    if token.start ≤ offset ∧ offset < token.stop then some token.kind else kindAt offset rest

/-- The offsets at which tokens start or stop. -/
def offsets (tokens : List Token) : List Nat :=
  tokens.flatMap fun token => [token.start, token.stop]

/-- All tokens that come of some tokens, the first one of which may be held already. -/
def joinFrom (held : Option Token) : List Token → List Token
  | [] => held.toList
  | token :: rest =>
    match held with
    | none => joinFrom (some token) rest
    | some current =>
      match current.join? token with
      | some joined => joinFrom (some joined) rest
      | none => current :: joinFrom (some token) rest

variable {left right joined : Token}

/-- Tokens are joined if and only if they meet. -/
theorem join?_eq_none : left.join? right = none ↔ left.meets right = false := by
  simp [join?, meets]

/-- Tokens that are joined are of one kind, and cover together what they covered apart. -/
theorem join?_eq_some (joins : left.join? right = some joined) :
    left.kind = right.kind ∧ left.stop = right.start ∧
      joined = ⟨left.kind, left.start, left.length + right.length⟩ := by
  unfold join? at joins
  split at joins
  · rename_i meet
    exact ⟨meet.1, meet.2, (Option.some.inj joins).symm⟩
  · exact absurd joins (by simp)

/-- The token joined stops where the second one does. -/
theorem stop_of_join? (joins : left.join? right = some joined) : joined.stop = right.stop := by
  obtain ⟨-, meet, rfl⟩ := join?_eq_some joins
  simp only [stop] at meet ⊢
  omega

/-! ## Blocks -/

/-- A block whose tokens have been joined to one that is held. -/
structure Stands (block : List Token) (held : Token) : Prop where
  chain : block.IsChain fun left right => left.meets right
  joins : Joins block held
  last : ∀ token ∈ block.getLast?, held.stop = token.stop

/-- A token is a block. -/
theorem Stands.single (token : Token) : Stands [token] token := by
  refine ⟨List.isChain_singleton token, ⟨?_, rfl, ?_⟩, ?_⟩
  · intro part member
    rw [List.mem_singleton.1 member]
  · simp
  · intro last found
    obtain rfl := Option.some.inj found
    rfl

/-- A block is not empty. -/
theorem Stands.exists_getLast? {block : List Token} {held : Token} (stands : Stands block held) :
    ∃ last, block.getLast? = some last ∧ last.kind = held.kind ∧ last.stop = held.stop := by
  obtain ⟨chain, joins, stops⟩ := stands
  cases found : block.getLast? with
  | none =>
    rw [List.getLast?_eq_none_iff.1 found] at joins
    exact nomatch joins.start
  | some last =>
    exact ⟨last, rfl, joins.kind last (List.mem_of_getLast? found), (stops last found).symm⟩

/-- A block is in one piece. -/
theorem Stands.splitBy {block : List Token} {held : Token} (stands : Stands block held) :
    block.splitBy meets = [block] := by
  refine List.splitBy_of_isChain ?_ stands.chain
  rintro rfl
  exact nomatch stands.joins.start

/-- Whether the token held meets the next one is up to the last token of its block. -/
theorem Stands.meets_eq {block : List Token} {held last : Token} (stands : Stands block held)
    (found : block.getLast? = some last) (token : Token) : last.meets token = held.meets token := by
  obtain ⟨last', found', kind, stop⟩ := stands.exists_getLast?
  obtain rfl := Option.some.inj (found.symm.trans found')
  rw [meets, meets, kind, stop]

/-- A token that does not meet the one held begins the next block. -/
theorem Stands.splitBy_append_cons {block : List Token} {held token : Token}
    (stands : Stands block held) (apart : held.join? token = none) (rest : List Token) :
    (block ++ token :: rest).splitBy meets = block :: (token :: rest).splitBy meets := by
  have parts : ∀ last ∈ block.getLast?, last.meets token = false := by
    intro last found
    rw [stands.meets_eq found]
    exact join?_eq_none.1 apart
  rw [List.splitBy_append_cons rest parts, stands.splitBy]
  rfl

/-- A token that is joined belongs to the block. -/
theorem Stands.append {block : List Token} {held token : Token} (stands : Stands block held)
    (same : held.join? token = some joined) : Stands (block ++ [token]) joined := by
  obtain ⟨kind, meet, rfl⟩ := join?_eq_some same
  refine ⟨?_, ⟨?_, ?_, ?_⟩, ?_⟩
  · rw [List.isChain_append]
    refine ⟨stands.chain, List.isChain_singleton token, ?_⟩
    intro last found next here
    obtain rfl := Option.some.inj here
    rw [stands.meets_eq found]
    simp [meets, kind, meet]
  · intro part member
    rcases List.mem_append.1 member with earlier | new
    · exact stands.joins.kind part earlier
    · rw [List.mem_singleton.1 new]
      exact kind.symm
  · have start := stands.joins.start
    cases block with
    | nil => exact nomatch start
    | cons first others => exact start
  · simp [stands.joins.length]
  · intro last found
    rw [List.getLast?_concat] at found
    obtain rfl := Option.some.inj found
    exact stop_of_join? same

/-- The tokens handed out from a block on are those of the blocks that begin with it. -/
theorem Stands.forall₂_joinFrom {block : List Token} {held : Token} (stands : Stands block held)
    (rest : List Token) :
    List.Forall₂ Joins ((block ++ rest).splitBy meets) (joinFrom (some held) rest) := by
  induction rest generalizing block held with
  | nil =>
    rw [List.append_nil, stands.splitBy]
    exact .cons stands.joins .nil
  | cons token rest ih =>
    cases same : held.join? token with
    | some joined =>
      -- the token belongs to the block
      have later := ih (stands.append same)
      rw [List.append_assoc, List.singleton_append] at later
      simpa only [joinFrom, same] using later
    | none =>
      -- the block is complete, and the token begins the next one
      have later := ih (.single token)
      rw [stands.splitBy_append_cons same]
      simpa only [joinFrom, same] using .cons stands.joins later

/-- **Blocks.** A merger hands out one token for each block. -/
theorem forall₂_joinFrom (tokens : List Token) :
    List.Forall₂ Joins (tokens.splitBy meets) (joinFrom none tokens) := by
  cases tokens with
  | nil => exact .nil
  | cons token rest => exact (Stands.single token).forall₂_joinFrom rest

/-- The first token that comes of a token held begins where that does, and is of its kind. -/
theorem exists_joinFrom_eq_cons (held : Token) (rest : List Token) :
    ∃ first others, joinFrom (some held) rest = first :: others ∧
      first.kind = held.kind ∧ first.start = held.start := by
  induction rest generalizing held with
  | nil => exact ⟨held, [], rfl, rfl, rfl⟩
  | cons token rest ih =>
    cases same : held.join? token with
    | some joined =>
      obtain ⟨first, others, whole, kind, start⟩ := ih joined
      obtain ⟨-, -, rfl⟩ := join?_eq_some same
      exact ⟨first, others, by simpa only [joinFrom, same] using whole, kind, start⟩
    | none => exact ⟨held, joinFrom (some token) rest, by simp only [joinFrom, same], rfl, rfl⟩

/-- No two neighbours among the tokens handed out can be joined any more. -/
theorem isChain_joinFrom (held : Option Token) (tokens : List Token) :
    (joinFrom held tokens).IsChain fun left right => left.meets right = false := by
  fun_induction joinFrom held tokens with
  | case1 held => cases held <;> simp
  | case2 token rest ih => exact ih
  | case3 token rest current joined same ih => exact ih
  | case4 token rest current apart ih =>
    rw [List.isChain_cons]
    refine ⟨?_, ih⟩
    intro next found
    obtain ⟨first, others, whole, kind, start⟩ := exists_joinFrom_eq_cons token rest
    rw [whole] at found
    obtain rfl := Option.some.inj found
    rw [meets, kind, start]
    exact join?_eq_none.1 apart

/-- Two tokens that are joined cover together the bytes that they covered apart. -/
theorem kindAt_join (joins : left.join? right = some joined) (offset : Nat)
    (rest : List Token) :
    kindAt offset (joined :: rest) = kindAt offset (left :: right :: rest) := by
  have reaches := stop_of_join? joins
  obtain ⟨kind, meet, rfl⟩ := join?_eq_some joins
  have begins : left.start ≤ left.stop := Nat.le_add_right _ _
  have goesOn : right.start ≤ right.stop := Nat.le_add_right _ _
  simp only [kindAt, reaches]
  by_cases first : left.start ≤ offset ∧ offset < left.stop
  · rw [if_pos first, if_pos (by omega)]
  · by_cases second : right.start ≤ offset ∧ offset < right.stop
    · rw [if_neg first, if_pos second, if_pos (by omega), kind]
    · rw [if_neg first, if_neg second, if_neg (by omega)]

/-- Each byte keeps its kind. -/
theorem kindAt_joinFrom (offset : Nat) (held : Option Token) (tokens : List Token) :
    kindAt offset (joinFrom held tokens) = kindAt offset (held.toList ++ tokens) := by
  fun_induction joinFrom held tokens with
  | case1 held => simp
  | case2 token rest ih => exact ih
  | case3 token rest current joined same ih =>
    rw [ih]
    exact kindAt_join same offset rest
  | case4 token rest current apart ih =>
    simp only [kindAt, Option.toList, List.cons_append, List.nil_append] at ih ⊢
    rw [ih]

theorem mem_offsets_cons {offset : Nat} {token : Token} {rest : List Token} :
    offset ∈ offsets (token :: rest) ↔
      offset = token.start ∨ offset = token.stop ∨ offset ∈ offsets rest := by
  simp [offsets]

/-- No token starts or stops where none did before. -/
theorem offsets_joinFrom (held : Option Token) (tokens : List Token) :
    offsets (joinFrom held tokens) ⊆ offsets (held.toList ++ tokens) := by
  fun_induction joinFrom held tokens with
  | case1 held => simp
  | case2 token rest ih => exact ih
  | case3 token rest current joined same ih =>
    have stop := stop_of_join? same
    obtain ⟨-, -, rfl⟩ := join?_eq_some same
    intro offset member
    show offset ∈ offsets (current :: token :: rest)
    have among := mem_offsets_cons.1 (ih member)
    rw [stop] at among
    rw [mem_offsets_cons, mem_offsets_cons]
    rcases among with start | stop | later
    · exact .inl start
    · exact .inr (.inr (.inr (.inl stop)))
    · exact .inr (.inr (.inr (.inr later)))
  | case4 token rest current apart ih =>
    intro offset member
    show offset ∈ offsets (current :: token :: rest)
    rw [mem_offsets_cons] at member ⊢
    rcases member with start | stop | later
    · exact .inl start
    · exact .inr (.inl stop)
    · exact .inr (.inr (ih later))

end Token

/-! ## Tilings -/

namespace Tiles

variable {mark : Nat → Prop} {start stop : Nat} {tokens : List Token}

/-- The tokens of a tiling leave no gaps. -/
theorem isChain (tiles : Tiles mark start stop tokens) :
    tokens.IsChain fun left right => left.stop = right.start := by
  induction tokens generalizing start with
  | nil => exact .nil
  | cons token rest ih =>
    obtain ⟨-, -, -, tiles⟩ := tiles
    rw [List.isChain_cons]
    refine ⟨?_, ih tiles⟩
    intro next found
    obtain ⟨others, rfl⟩ := List.head?_eq_some_iff.1 found
    exact tiles.2.1.symm

/-- Each byte of a tiling has a kind. -/
theorem exists_kindAt (tiles : Tiles mark start stop tokens) {offset : Nat}
    (from_start : start ≤ offset) (before : offset < stop) :
    ∃ kind, Token.kindAt offset tokens = some kind := by
  induction tokens generalizing start with
  | nil =>
    have same := tiles.2
    omega
  | cons token rest ih =>
    obtain ⟨-, rfl, -, tiles⟩ := tiles
    rw [Token.kindAt]
    by_cases within : offset < token.stop
    · exact ⟨token.kind, if_pos ⟨from_start, within⟩⟩
    · rw [if_neg fun both => within both.2]
      exact ih tiles (Nat.le_of_not_lt within)

/-- In a tiling, blocks are runs of one kind. -/
theorem splitBy_meets (tiles : Tiles mark start stop tokens) :
    tokens.splitBy (fun left right => left.kind == right.kind) = tokens.splitBy Token.meets := by
  rw [List.splitBy_eq_iff]
  have chain := tiles.isChain
  rw [← List.flatten_splitBy Token.meets tokens,
    List.isChain_flatten (List.nil_notMem_splitBy _ _)] at chain
  refine ⟨(List.flatten_splitBy _ _).symm, List.nil_notMem_splitBy _ _, ?_, ?_⟩
  · intro block member
    refine (List.isChain_of_mem_splitBy member).imp ?_
    intro left right meet
    simp only [Token.meets, Bool.and_eq_true, decide_eq_true_eq] at meet
    simpa using meet.1
  · have apart := List.isChain_getLast_head_splitBy Token.meets tokens
    rw [List.isChain_iff_getElem] at apart ⊢
    intro place lt
    obtain ⟨filled, filled', apart⟩ := apart place lt
    refine ⟨filled, filled', ?_⟩
    -- the blocks touch, so only their kinds can keep them apart
    have touch := (List.isChain_iff_getElem.1 chain.2) place lt _
      (List.getLast?_eq_some_getLast filled) _ (List.head?_eq_some_head filled')
    simp only [Token.meets, touch, decide_true, Bool.and_true, decide_eq_false_iff_not] at apart
    simpa using apart

end Tiles

/-! ## Mergers -/

namespace Merger

/-- All tokens still to come from a merger that will be supplied with some tokens. -/
def remaining (merger : Merger) (later : List Token) : List Token :=
  if merger.merging then Token.joinFrom merger.held (merger.unread ++ later)
  else merger.outstanding ++ later

variable {merger : Merger}

/-- Tokens supplied now need not be supplied later. -/
theorem remaining_supply (merger : Merger) (tokens later : List Token) :
    (merger.supply tokens).remaining later = merger.remaining (tokens ++ later) := by
  unfold remaining
  rw [outstanding_supply]
  simp only [supply, List.append_assoc]

/-- Reading a run takes the first token from those to come, if it takes any. -/
theorem joinFrom_readRun (held : Option Token) (unread later : List Token) :
    Token.joinFrom held (unread ++ later) = (readRun held unread).1.toList ++
      Token.joinFrom (readRun held unread).2.1 ((readRun held unread).2.2 ++ later) := by
  fun_induction readRun held unread with
  | case1 held => rfl
  | case2 token rest ih => exact ih
  | case3 token rest current joined same ih =>
    rw [List.cons_append, Token.joinFrom]
    simpa only [same] using ih
  | case4 token rest current apart =>
    rw [List.cons_append, Token.joinFrom]
    simp only [apart]
    cases rest <;> rfl

/-- A token that is certain to be complete is the first one to come. -/
theorem remaining_poll (merger : Merger) (later : List Token) :
    merger.remaining later = merger.poll.1.toList ++ merger.poll.2.remaining later := by
  unfold poll
  by_cases merging : merger.merging = true
  · rw [if_pos merging, remaining, if_pos merging, remaining, if_pos merging]
    exact joinFrom_readRun merger.held merger.unread later
  · rw [if_neg merging, remaining, if_neg merging]
    split
    · rename_i none
      rw [remaining, if_neg merging, none]
      rfl
    · rename_i token rest some
      rw [remaining, if_neg merging, some]
      rfl

/-- When nothing more is supplied, an exhausted merger has its held token to give only. -/
theorem Exhausted.remaining_nil (exhausted : merger.Exhausted) :
    merger.remaining [] = merger.flush.1.toList := by
  obtain ⟨merging, held, unread⟩ := merger
  obtain ⟨rfl, idle⟩ := exhausted
  cases merging with
  | true => rfl
  | false =>
    obtain rfl := idle rfl
    rfl

/-- Once it has given that up, it has none. -/
theorem Exhausted.remaining_flush_snd (exhausted : merger.Exhausted) :
    merger.flush.2.remaining [] = [] := by
  obtain ⟨merging, held, unread⟩ := merger
  obtain ⟨rfl, -⟩ := exhausted
  cases merging <;> rfl

end Merger

end GrammarLexer
