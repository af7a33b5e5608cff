import GrammarLexer.Lexer.Stream
import GrammarLexer.Proofs.Lexer.Merging
import GrammarLexer.Proofs.Lexer.Resume
import GrammarLexer.Proofs.Scan.Nesting
import Mathlib.Data.List.TakeWhile
import Mathlib.Order.Bounds.Defs

/-!
# Going on from any snapshot

A stream goes on from any snapshot without failing (`resume_safe`), be it of another text, of
another lexer, or of a run that went on from such a one. Its offset is moved to a boundary of
the folded text, the greatest one that it does not pass, and of its stack the states are kept
that the table has. Whatever its pending tokens are, they are not compared with the text.

Offsets of breakpoints are those of the offset map (`toSource_eq`, `toFolded_eq`), so no
difference is less than zero. A stream hands out the tokens of the run (`drains_of_runs`).
-/

namespace GrammarLexer

open Text

namespace Table

/-! ## Offsets -/

/-- Where a test holds up to a place, the first values that pass it are all of them. -/
theorem length_takeWhile {α : Type} {test : α → Bool} {values : List α}
    (ordered : values.Pairwise fun first later => test later = true → test first = true) :
    (values.takeWhile test).length = values.countP test := by
  induction ordered with
  | nil => rfl
  | @cons first rest before _ ih =>
    rw [List.takeWhile_cons]
    by_cases holds : test first = true
    · rw [if_pos holds, List.length_cons, ih, List.countP_cons_of_pos holds]
    · have none : (first :: rest).countP test = 0 := by
        rw [List.countP_eq_zero]
        intro value member
        rcases List.mem_cons.1 member with rfl | later
        · exact holds
        · exact fun passes => holds (before value later passes)
      rw [if_neg holds, none, List.length_nil]

section Offsets

variable {offsets : OffsetMap}

theorem getElem?_breaksOf (index : Nat) :
    (breaksOf offsets)[index]? = offsets.joins[index]?.map fun join => (join, index + 1) :=
  List.getElem?_mapIdx

theorem map_fst_breaksOf (offsets : OffsetMap) :
    (breaksOf offsets).map (·.1) = offsets.joins := by
  refine List.ext_getElem? fun index => ?_
  rw [List.getElem?_map, getElem?_breaksOf, Option.map_map]
  exact Option.map_id'

theorem map_sum_breaksOf (offsets : OffsetMap) :
    (breaksOf offsets).map (fun entry => entry.1 + entry.2) = offsets.sourceJoins := by
  refine List.ext_getElem? fun index => ?_
  rw [List.getElem?_map, getElem?_breaksOf, Option.map_map, OffsetMap.sourceJoins,
    List.getElem?_mapIdx]
  rfl

/-- Breakpoints ascend, and so do their shifts. -/
theorem pairwise_breaksOf (ascending : offsets.joins.Pairwise (· < ·)) :
    (breaksOf offsets).Pairwise fun first later => first.1 < later.1 ∧ first.2 < later.2 := by
  rw [List.pairwise_iff_getElem] at ascending ⊢
  intro first later lt lt' before
  simp only [breaksOf, List.getElem_mapIdx, List.length_mapIdx] at lt lt' ⊢
  exact ⟨ascending first later lt lt' before, Nat.succ_lt_succ before⟩

/-- The shift of a breakpoint is its number. -/
theorem shiftOf_eq {count : Nat} (le : count ≤ offsets.joins.length) :
    shiftOf (breaksOf offsets) count = .ok count := by
  cases count with
  | zero => rfl
  | succ index =>
    rw [shiftOf, getElem?_breaksOf, List.getElem?_eq_getElem le]
    rfl

theorem toSource_eq (ascending : offsets.joins.Pairwise (· < ·)) (folded : Nat) :
    toSource (breaksOf offsets) folded = .ok (offsets.toSource folded) := by
  have counted : ((breaksOf offsets).takeWhile fun entry => entry.1 ≤ folded).length =
      offsets.joins.countP (· ≤ folded) := by
    rw [length_takeWhile, ← map_fst_breaksOf offsets, List.countP_map]
    · rfl
    · refine (pairwise_breaksOf ascending).imp ?_
      intro first later less reached
      simp only [decide_eq_true_eq] at reached ⊢
      omega
  rw [toSource, counted]
  exact bind_eq_ok.2 ⟨_, shiftOf_eq List.countP_le_length, rfl⟩

/-- The breakpoints up to an offset of the source are no more than its bytes. -/
theorem length_takeWhile_le (offsets : OffsetMap) (offset : Nat) :
    ((breaksOf offsets).takeWhile fun entry => entry.1 + entry.2 ≤ offset).length ≤ offset := by
  cases count : ((breaksOf offsets).takeWhile fun entry => entry.1 + entry.2 ≤ offset).length with
  | zero => exact Nat.zero_le offset
  | succ index =>
    have lt : index < ((breaksOf offsets).takeWhile fun entry => entry.1 + entry.2 ≤ offset).length :=
      by omega
    have reached := List.mem_takeWhile_imp (List.getElem_mem lt)
    rw [(List.takeWhile_prefix _).getElem lt] at reached
    simp only [breaksOf, List.getElem_mapIdx, decide_eq_true_eq] at reached
    omega

theorem toFolded_eq (ascending : offsets.joins.Pairwise (· < ·)) (offset : Nat) :
    toFolded (breaksOf offsets) offset = .ok (offsets.toFolded offset) := by
  have counted : ((breaksOf offsets).takeWhile fun entry => entry.1 + entry.2 ≤ offset).length =
      offsets.sourceJoins.countP (· ≤ offset) := by
    rw [length_takeWhile, ← map_sum_breaksOf offsets, List.countP_map]
    · rfl
    · refine (pairwise_breaksOf ascending).imp ?_
      intro first later less reached
      simp only [decide_eq_true_eq] at reached ⊢
      omega
  have within : offsets.sourceJoins.countP (· ≤ offset) ≤ offsets.joins.length := by
    have le := List.countP_le_length (p := (· ≤ offset)) (l := offsets.sourceJoins)
    rwa [OffsetMap.sourceJoins, List.length_mapIdx] at le
  have le := length_takeWhile_le offsets offset
  rw [counted] at le
  rw [toFolded, counted]
  exact bind_eq_ok.2 ⟨_, shiftOf_eq within, minus_eq_ok le⟩

/-- A token is moved to the source, or stays as it is where nothing moves. -/
theorem sourceToken_eq (ascending : offsets.joins.Pairwise (· < ·)) (token : Token) :
    sourceToken (breaksOf offsets) token = .ok (offsets.sourceToken token) := by
  unfold sourceToken
  split
  · rename_i empty
    have none : offsets.joins = [] := by
      rw [← map_fst_breaksOf offsets, List.isEmpty_iff.1 empty, List.map_nil]
    obtain ⟨joins⟩ := offsets
    subst none
    rw [OffsetMap.sourceToken_plain]
  · exact bind_eq_ok.2 ⟨_, toSource_eq ascending token.start, bind_eq_ok.2
      ⟨_, toSource_eq ascending token.stop, bind_eq_ok.2
        ⟨_, minus_eq_ok (offsets.toSource_start_le token), rfl⟩⟩⟩

end Offsets

/-! ## Where to go on -/

section Place

variable {text : List Char} {position offset : Nat}

theorem isBoundary_iff : isBoundary text offset = true ↔ IsBoundary text offset := by
  unfold isBoundary
  rw [decide_eq_true_eq]
  constructor
  · intro split
    exact split ▸ isBoundary_splitAtByte offset text
  · rintro ⟨front, back, rfl, rfl⟩
    rw [splitAtByte_byteLength]

/-- Going back ends at the greatest boundary. -/
theorem backTo_eq (greatest : IsGreatest {boundary | IsBoundary text boundary ∧ boundary ≤ offset}
    position) : backTo text offset = .ok position := by
  obtain ⟨⟨boundary, le⟩, last⟩ := greatest
  induction offset with
  | zero =>
    obtain rfl : position = 0 := by omega
    rw [backTo, if_pos (isBoundary_iff.2 boundary)]
  | succ offset ih =>
    rw [backTo]
    by_cases here : IsBoundary text (offset + 1)
    · have same : offset + 1 = position := Nat.le_antisymm (last ⟨here, Nat.le_refl _⟩) le
      rw [if_pos (isBoundary_iff.2 here), same]
    · have less : position ≠ offset + 1 := by
        rintro rfl
        exact here boundary
      rw [if_neg (mt isBoundary_iff.1 here)]
      have closer : position ≤ offset := by omega
      exact ih (fun other within => last ⟨within.1, Nat.le_succ_of_le within.2⟩) closer

/-- A text is split at the greatest boundary that is not above an offset, nor above its end. -/
theorem isGreatest_splitAtByte (offset : Nat) (text : List Char) :
    IsGreatest {boundary | IsBoundary text boundary ∧ boundary ≤ min offset (byteLength text)}
      (byteLength (splitAtByte offset text).1) := by
  have boundary := isBoundary_splitAtByte offset text
  refine ⟨⟨boundary, ?_⟩, ?_⟩
  · exact Nat.le_min.2 ⟨byteLength_splitAtByte_le offset text, boundary.le⟩
  · rintro other ⟨isBoundary, le⟩
    exact isBoundary.le_splitAtByte (Nat.le_trans le (Nat.min_le_left _ _))

end Place

section Stacks

variable {table : Table} {machine : Machine}

/-- Of some names, those that are looked up are those that the machine knows. -/
theorem numbers_filterMap (tabulates : table.Tabulates machine)
    (distinct : machine.stateNames.Nodup) (names : List String) :
    List.Forall₂ (Numbers machine.stateNames) (names.filter machine.knows)
      (names.filterMap table.lookup) := by
  induction names with
  | nil => exact .nil
  | cons name rest ih =>
    cases found : table.lookup name with
    | some number =>
      have numbers := (tabulates.lookup_eq_some_iff distinct).1 found
      rw [List.filterMap_cons_some found,
        List.filter_cons_of_pos (Machine.knows_iff.2 numbers.mem)]
      exact .cons numbers ih
    | none =>
      have unknown : ¬ machine.knows name = true := by
        intro known
        obtain ⟨number, here⟩ := List.mem_iff_getElem?.1 (Machine.knows_iff.1 known)
        rw [(tabulates.lookup_eq_some_iff distinct).2 here] at found
        exact nomatch found
      rw [List.filterMap_cons_none found, List.filter_cons_of_neg unknown]
      exact ih

/-- The root stands for an empty stack. -/
theorem numbers_ofEntries (tabulates : table.Tabulates machine) {entries : List String}
    {numbers : List Nat} (stack : List.Forall₂ (Numbers machine.stateNames) entries numbers) :
    List.Forall₂ (Numbers machine.stateNames) (Stack.ofEntries rootState entries).entries
      (stackOf table.root numbers) := by
  cases stack with
  | nil => exact .cons tabulates.root .nil
  | cons here others =>
    rw [Stack.entries_ofEntries rootState (List.cons_ne_nil _ _)]
    exact .cons here others

end Stacks

/-! ## Draining -/

/-- Ticking from a stream to its end feeds some tokens to the merger and hands out others. -/
inductive Stream.Drains : Stream → List Token → List Token → Prop
  | ended {stream : Stream} (tick : stream.tick = .ok .ended) : Drains stream [] []
  | feeds {stream next : Stream} {tokens fed handed : List Token}
      (tick : stream.tick = .ok (.feeds tokens next)) (later : Drains next fed handed) :
      Drains stream (tokens ++ fed) handed
  | hands {stream next : Stream} {token : Token} {fed handed : List Token}
      (tick : stream.tick = .ok (.hands token next)) (later : Drains next fed handed) :
      Drains stream fed (token :: handed)

namespace Stream

variable {stream stream' : Stream} {fed handed : List Token}

theorem Drains.congr (drains : stream.Drains fed handed) (same : stream'.tick = stream.tick) :
    stream'.Drains fed handed := by
  cases drains with
  | ended tick => exact .ended (same.trans tick)
  | feeds tick later => exact .feeds (same.trans tick) later
  | hands tick later => exact .hands (same.trans tick) later

/-- Tokens that are complete are handed out first, so that it is enough to look at mergers that
have none. -/
theorem drains_of_exhausted (exhausted : ∀ buffer : Merger, buffer.Exhausted →
      Drains { stream with buffer } fed (buffer.remaining fed)) (buffer : Merger) :
    Drains { stream with buffer } fed (buffer.remaining fed) := by
  induction count : buffer.outstanding.length using Nat.strong_induction_on
    generalizing buffer with
  | _ count ih =>
    rw [buffer.remaining_poll fed]
    match polled : buffer.poll with
    | (some token, rest) =>
      have tick : tick { stream with buffer } = .ok (.hands token { stream with buffer := rest }) := by
        simp only [Stream.tick, polled]
      exact .hands tick (ih _ (count ▸ Merger.poll_shortens polled) rest rfl)
    | (none, rest) =>
      have waits := Merger.exhausted_of_poll polled
      refine (exhausted rest waits).congr ?_
      simp only [Stream.tick, polled, waits.poll_eq]

theorem tick_of_ended (ended : stream.nest.tick stream.table stream.text = .ok .ended)
    (exhausted : stream.buffer.Exhausted) : stream.tick = .ok stream.close := by
  simp only [tick, exhausted.poll_eq, ended]
  rfl

/-- A stream whose sessions have ended hands out the token that is held back, and ends. -/
theorem drains_of_ended (ended : stream.nest.tick stream.table stream.text = .ok .ended)
    (exhausted : stream.buffer.Exhausted) : stream.Drains [] (stream.buffer.remaining []) := by
  have tick := tick_of_ended ended exhausted
  rw [exhausted.remaining_nil]
  cases held : stream.buffer.held with
  | none =>
    have closed : stream.close = .ended := by simp only [close, Merger.flush, held]
    rw [closed] at tick
    rw [Merger.flush, held]
    exact .ended tick
  | some token =>
    let after : Stream := { stream with buffer := stream.buffer.flush.2 }
    have closed : stream.close = .hands token after := by simp only [close, Merger.flush, held, after]
    rw [closed] at tick
    rw [Merger.flush, held]
    have waits : after.buffer.Exhausted := ⟨exhausted.unread, fun _ => rfl⟩
    have last : after.tick = .ok .ended := tick_of_ended ended waits
    exact .hands tick (.ended last)

/-- **Draining.** When its sessions come to their end, so does a stream: it feeds their tokens,
moved to the source, to the merger, and hands out what the merger makes of them. -/
theorem drains_of_runs {table : Table} {text : List Char} {offsets : OffsetMap}
    (ascending : offsets.joins.Pairwise (· < ·)) {nest : Nest} {passed : List Nest}
    {tokens : List Token} (runs : nest.Runs table text passed tokens) (buffer : Merger) :
    Drains ⟨table, text, breaksOf offsets, nest, buffer⟩ (tokens.map offsets.sourceToken)
      (buffer.remaining (tokens.map offsets.sourceToken)) := by
  induction runs generalizing buffer with
  | @ended nest tick =>
    let stream : Stream := ⟨table, text, breaksOf offsets, nest, buffer⟩
    exact stream.drains_of_exhausted (fun buffer waits => drains_of_ended tick waits) buffer
  | @goes nest next passed tokens tick _ ih =>
    let stream : Stream := ⟨table, text, breaksOf offsets, nest, buffer⟩
    refine stream.drains_of_exhausted ?_ buffer
    intro buffer waits
    have feeds : Stream.tick { stream with buffer } = .ok (.feeds []
        { stream with nest := next, buffer := buffer.supply [] }) := by
      simp only [Stream.tick, waits.poll_eq, stream, tick]
      rfl
    have later := ih (buffer.supply [])
    rw [buffer.remaining_supply] at later
    exact .feeds feeds later
  | @hands nest next token passed tokens tick _ ih =>
    let stream : Stream := ⟨table, text, breaksOf offsets, nest, buffer⟩
    refine stream.drains_of_exhausted ?_ buffer
    intro buffer waits
    have feeds : Stream.tick { stream with buffer } = .ok (.feeds [offsets.sourceToken token]
        { stream with nest := next, buffer := buffer.supply [offsets.sourceToken token] }) := by
      simp only [Stream.tick, waits.poll_eq, stream, tick]
      exact bind_eq_ok.2 ⟨_, rfl, bind_eq_ok.2 ⟨_, sourceToken_eq ascending token, rfl⟩⟩
    have later := ih (buffer.supply [offsets.sourceToken token])
    rw [buffer.remaining_supply] at later
    exact .feeds feeds later

end Stream

end Table

/-! ## Going on -/

/-- What comes of going on from a snapshot over a text. The place is the greatest boundary of the
folded text that is neither above the offset of the snapshot nor above the end. The tokens ahead
tile the source from there on, and the pending ones come before them as they are: all of them are
handed out one by one, or joined where they meet. -/
structure Snapshot.GoesOn (text : String) (snapshot : Snapshot) (position : Nat)
    (ahead handed : List Token) : Prop where
  place : IsGreatest {boundary | IsBoundary (foldLineEndings text.toList) boundary ∧
    boundary ≤ min ((OffsetMap.ofText text.toList).toFolded snapshot.consumed)
      (byteLength (foldLineEndings text.toList))} position
  tiles : Tiles (IsCut text.toList) ((OffsetMap.ofText text.toList).toSource position)
    text.utf8ByteSize ahead
  single : snapshot.merging = false → handed = snapshot.pending ++ ahead
  merged : snapshot.merging = true →
    List.Forall₂ Token.Joins ((snapshot.pending ++ ahead).splitBy Token.meets) handed

/-- The tokens ahead of a run tile what it has still to scan. -/
theorem Run.Reads.ahead_tiles {text : List Char} {run : Run} (reads : run.Reads text) :
    Tiles (IsCut text) (run.offsets.toSource run.scan.position) (byteLength text) run.ahead := by
  have tiles : Tiles (IsBoundary (foldLineEndings text)) run.scan.position run.scan.limit
      (run.scan.drain (delegated run.machine maxNesting) run.machine) :=
    Scan.drain_tiles (delegated_tiles _ run.machine maxNesting) reads.stands.marked
  have moved := tiles.map_sourceToken run.offsets fun _ => reads.isCut_toSource
  have ends : run.offsets.toSource run.scan.limit = byteLength text := by
    rw [reads.stands.limit_eq, reads.offsets, OffsetMap.toSource_ofText_byteLength]
  rw [ends] at moved
  exact moved

namespace Lexer

variable (lexer : Lexer) (text : String) (snapshot : Snapshot)

/-- What a run hands out that goes on from any snapshot. -/
theorem goesOn_resume : snapshot.GoesOn text (lexer.resume text snapshot).scan.position
    (lexer.resume text snapshot).ahead (lexer.resume text snapshot).drain.1 := by
  have reads : (lexer.resume text snapshot).Reads text.toList := Run.reads_runFrom _ _ _ _ _
  have ahead := reads.ahead_tiles
  rw [byteLength_toList] at ahead
  refine ⟨Table.isGreatest_splitAtByte _ _, ahead, ?_, ?_⟩
  · intro single
    rw [Run.drain_eq]
    show (Merger.ofList snapshot.merging snapshot.pending).remaining _ = _
    rw [single]
    rfl
  · intro merging
    rw [Run.drain_eq]
    show List.Forall₂ _ _ ((Merger.ofList snapshot.merging snapshot.pending).remaining _)
    rw [merging]
    exact Token.forall₂_joinFrom _

end Lexer

namespace Table

/-- Over the table of a machine, going on from a snapshot does not fail, and the session shows
the scan of the run. -/
theorem exists_resume {lexer : Lexer} {table : Table} (tabulates : table.Tabulates lexer.machine)
    (distinct : lexer.machine.stateNames.Nodup) (text : String) (snapshot : Snapshot) :
    ∃ session : Session, resume table text snapshot = .ok
        ⟨table, foldLineEndings text.toList, breaksOf (.ofText text.toList), ⟨session, []⟩,
          .ofList snapshot.merging snapshot.pending⟩ ∧
      session.Shows lexer.machine (foldLineEndings text.toList)
        (lexer.resume text snapshot).scan ∧
      session.depth = 0 ∧ session.pieces = [] ∧ session.queue = [] := by
  have offset := toFolded_eq (OffsetMap.joinsFrom_ascending 0 text.toList) snapshot.consumed
  have position := backTo_eq (isGreatest_splitAtByte
    ((OffsetMap.ofText text.toList).toFolded snapshot.consumed) (foldLineEndings text.toList))
  have stack := numbers_ofEntries tabulates (numbers_filterMap tabulates distinct snapshot.stack)
  refine ⟨_, bind_eq_ok.2 ⟨_, offset, bind_eq_ok.2 ⟨_, position, rfl⟩⟩,
    ⟨stack, rfl, ?_, rfl⟩, rfl, rfl, rfl⟩
  -- the span reaches from the place where the text is split to its end
  have parts := splitAtByte_append ((OffsetMap.ofText text.toList).toFolded snapshot.consumed)
    (foldLineEndings text.toList)
  refine ⟨_, [], ?_, rfl, ?_, rfl, rfl⟩
  · rw [List.append_nil]
    exact parts.symm
  · have length := congrArg byteLength parts
    rw [byteLength_append] at length
    exact length.symm

/-- **Any snapshot will do.** Going on from a snapshot does not fail, nor does ticking from there
to the end, whatever run of whatever lexer over whatever text the snapshot was taken from. The
merger is fed the pending tokens as they are, and then tokens that tile the text from the place
on that goes with the offset of the snapshot. -/
theorem resume_safe {grammar : Grammar} {lexer : Lexer}
    (built : Lexer.ofGrammar grammar = .ok lexer) (iteration : Iteration) (text : String)
    (snapshot : Snapshot) :
    ∃ table stream position ahead handed,
      build iteration grammar = .ok table ∧
      resume table text snapshot = .ok stream ∧
      stream.buffer = .ofList snapshot.merging snapshot.pending ∧
      stream.Drains ahead handed ∧
      snapshot.GoesOn text position ahead handed ∧
      handed = (lexer.resume text snapshot).drain.1 := by
  obtain ⟨machine, made, rfl⟩ := map_eq_ok.1 built
  obtain ⟨table, tabled, tabulates⟩ := (build_agree iteration grammar).exists_ok made
  have distinct := (Grammar.specifies_of_build made).distinct
  let lexer : Lexer := ⟨grammar.config, machine⟩
  change table.Tabulates lexer.machine at tabulates
  obtain ⟨session, resumed, shows, depth, pieces, queue⟩ :=
    exists_resume tabulates distinct text snapshot
  have level : session.depth + maxNesting = maxNesting := by omega
  obtain ⟨passed, runs⟩ := shows.gives tabulates distinct pieces queue level [] _ rfl
  have drains := Stream.drains_of_runs (OffsetMap.joinsFrom_ascending 0 text.toList) runs
    (.ofList snapshot.merging snapshot.pending)
  have handed : (lexer.resume text snapshot).drain.1 = _ := Run.drain_eq _
  refine ⟨table, _, _, (lexer.resume text snapshot).ahead, _, tabled, resumed, rfl, ?_,
    lexer.goesOn_resume text snapshot, rfl⟩
  rw [handed]
  exact drains

/-- A snapshot of brackets, which goes back to one of quotations, and a text of quotations. -/
theorem resume_safe_quotations : ∃ lexer other snapshot,
    Lexer.ofGrammar .quotations = .ok lexer ∧ Lexer.ofGrammar .brackets = .ok other ∧
      snapshot = ((other.resume "(a\r\nb)"
        ((lexer.start "'é'" ⟨false, some "quoted"⟩).after 1).snapshot).after 2).snapshot ∧
      ∃ table stream position ahead handed,
        build ⟨id, fun _ => .refl _⟩ .quotations = .ok table ∧
          resume table "'é\r\n" snapshot = .ok stream ∧
          stream.buffer = .ofList snapshot.merging snapshot.pending ∧
          stream.Drains ahead handed ∧
          snapshot.GoesOn "'é\r\n" position ahead handed ∧
          handed = (lexer.resume "'é\r\n" snapshot).drain.1 := by
  obtain ⟨lexer, built⟩ := Lexer.exists_quotations
  obtain ⟨machine, made⟩ := Grammar.exists_brackets
  have other : Lexer.ofGrammar .brackets = .ok ⟨Grammar.brackets.config, machine⟩ :=
    map_eq_ok.2 ⟨machine, made, rfl⟩
  exact ⟨lexer, _, _, built, other, rfl, resume_safe built _ _ _⟩

end Table

end GrammarLexer
