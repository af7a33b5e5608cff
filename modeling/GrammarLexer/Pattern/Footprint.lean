import GrammarLexer.Pattern.Regex
import GrammarLexer.Text.ByteRange
import Std.Data.HashMap

/-!
# How much memory a pattern takes

A pattern is refused if an automaton that recognizes it byte by byte would take more
than `maxFootprint` bytes. Two automata count: one that reads forwards and notes the
bounds of groups, and one that reads backwards. Repetitions are written out in both.

The automata are measured here, not built. Each state takes `stateSize` bytes; one
that looks the next byte up in a table takes `entrySize` more for each entry, and a
fork takes `branchSize` more for each way to go on. What follows a part is attached to
its last state, and if that is a fork, it grows.

A class with other than ASCII characters takes several states, one for each byte of a
character. Those that are alike are shared, as far as a memory with a fixed number of
slots recalls them, and the slot of a state depends on the places of the states that
it leads to. So a measure counts the states before a class as well.
-/

namespace GrammarLexer.Pattern

open Text

/-- The most memory that an automaton may take, in bytes. -/
def maxFootprint : Nat := 0x400000

/-- The size of a state, in bytes. -/
def stateSize : Nat := 32

/-- The size of an entry in the table of a state, in bytes. -/
def entrySize : Nat := 8

/-- The size of one of the ways to go on from a fork, in bytes. -/
def branchSize : Nat := 4

/-- The direction in which an automaton reads a text. -/
inductive Reading where
  | forward
  | backward
deriving DecidableEq, Repr

/-- Parts in the order in which they are read. -/
def Reading.order {α : Type} : Reading → List α → List α
  | .forward, parts => parts
  | .backward, parts => parts.reverse

/-- The states of an automaton so far, and the memory that they take. -/
structure Footprint where
  states : Nat
  bytes : Nat
deriving DecidableEq, Repr

/-- A step of measuring, which fails once there is too much. -/
abbrev Measure := StateT Footprint Option

namespace Measure

/-- Take some memory. -/
def take (bytes : Nat) : Measure Unit := fun size =>
  let bytes := size.bytes + bytes
  if bytes ≤ maxFootprint then some ((), ⟨size.states, bytes⟩) else none

/-- Add states that have no table and are no forks. -/
def addStates (count : Nat) : Measure Unit := do
  take (count * stateSize)
  modify fun size => ⟨size.states + count, size.bytes⟩

/-- Add a state with a table of some entries. Yields its place. -/
def addTable (entries : Nat) : Measure Nat := do
  let place := (← get).states
  addStates 1
  take (entries * entrySize)
  return place

/-- Add some ways to go on to a fork. -/
def branch (count : Nat) : Measure Unit := take (count * branchSize)

end Measure

/-- What kind of state a part ends in. -/
inductive Exit where
  | state
  | fork
deriving DecidableEq, Repr

/-- Attach something to the last state of a part. -/
def Exit.attach : Exit → Measure Unit
  | .state => pure ()
  | .fork => Measure.branch 1

namespace Measure

/-- A part that is one state. -/
def single : Measure Exit := do
  addStates 1
  return .state

/-! ## Classes -/

/-- The slot of some numbers, out of a number of slots: each number is mixed into the
bits of the ones before it, which are then multiplied by a prime. -/
def slot (slots : UInt64) (numbers : List Nat) : UInt64 :=
  numbers.foldl (fun mixed number => (mixed ^^^ number.toUInt64) * 0x100000001B3)
    0xCBF29CE484222325 % slots

/-- An entry in the table of a state: where some bytes lead. -/
structure Entry where
  bytes : ByteRange
  target : Nat
deriving DecidableEq

/-- The tables that are recalled, by their slots, each with the place of its state. -/
abbrev TableMemory := Std.HashMap UInt64 (Array Entry × Nat)

/-- The number of tables that can be recalled. -/
def tableSlots : UInt64 := 10000

/-- Use the state with a table again, or add it. -/
def shareTable (table : Array Entry) (memory : TableMemory) : Measure (Nat × TableMemory) := do
  let slot := slot tableSlots (table.toList.flatMap fun entry =>
    [entry.bytes.first, entry.bytes.last, entry.target])
  match memory[slot]?.filter (·.1 = table) with
  | some known => return (known.2, memory)
  | none =>
    let place ← addTable table.size
    return (place, memory.insert slot (table, place))

/-- A table that is not finished: its entries so far, and the bytes of the last one, of
which it is not known yet where they lead. -/
structure OpenTable where
  entries : Array Entry
  last : Option ByteRange

/-- The entries of a table once it is known where the last one leads. -/
def OpenTable.close (table : OpenTable) (target : Nat) : Array Entry :=
  match table.last with
  | some bytes => table.entries.push ⟨bytes, target⟩
  | none => table.entries

/-- Finish the tables of a list, innermost first, down to a number of outer ones, and
say where the last entry of the next one leads. -/
def closeTables (keep : Nat) :
    List OpenTable → Nat → TableMemory → Measure (List OpenTable × TableMemory)
  | [], _, memory => return ([], memory)
  | table :: outer, target, memory =>
    if keep < outer.length then do
      let (place, memory) ← shareTable (table.close target) memory
      closeTables keep outer place memory
    else return (⟨table.close target, none⟩ :: outer, memory)

/-- How many of some byte ranges, from the first on, are the last entries of open
tables. -/
def commonDepth : List ByteRange → List OpenTable → Nat
  | bytes :: rest, table :: inner =>
    if table.last = some bytes then commonDepth rest inner + 1 else 0
  | _, _ => 0

/-- Open a table for each byte range after the first, which goes into the innermost
table. -/
def openTables (sequence : List ByteRange) : List OpenTable → List OpenTable
  | [] => []
  | table :: outer =>
    match sequence with
    | [] => table :: outer
    | bytes :: rest =>
      rest.foldl (fun tables bytes => ⟨#[], some bytes⟩ :: tables)
        (⟨table.entries, some bytes⟩ :: outer)

/-- Measure the tables for sequences of byte ranges in ascending order. -/
def forwardSequences (stop : Nat) :
    List (List ByteRange) → List OpenTable → TableMemory → Measure Unit
  | [], tables, memory => do
    let (tables, memory) ← closeTables 0 tables stop memory
    for root in tables do
      discard <| shareTable root.entries memory
  | sequence :: rest, tables, memory => do
    let keep := commonDepth sequence tables.reverse
    let (tables, memory) ← closeTables keep tables stop memory
    forwardSequences stop rest (openTables (sequence.drop keep) tables) memory

/-- The states that are recalled, by their slots, each with its bytes, where they lead,
and its place. -/
abbrev StateMemory := Std.HashMap UInt64 (Entry × Nat)

/-- The number of states that can be recalled. -/
def stateSlots : UInt64 := 1000

/-- Measure the states that lead to a place by the bytes of a sequence, last byte
first. -/
def backwardSequence : List ByteRange → Nat → StateMemory → Measure StateMemory
  | [], _, memory => return memory
  | bytes :: rest, target, memory => do
    let slot := slot stateSlots [target, bytes.first, bytes.last]
    match memory[slot]?.filter (·.1 = ⟨bytes, target⟩) with
    | some known => backwardSequence rest known.2 memory
    | none =>
      let place := (← get).states
      addStates 1
      backwardSequence rest place (memory.insert slot (⟨bytes, target⟩, place))

/-- Measure a class. Forwards it is a tree of tables; backwards it is a fork with a way
for each sequence of byte ranges. -/
def set (reading : Reading) (members : CharSet) : Measure Exit := do
  if members.isAscii then
    addStates 1
    discard <| addTable members.ranges.length
  else
    let sequences := members.byteSequences
    match reading with
    | .forward =>
      let stop := (← get).states
      addStates 1
      forwardSequences stop sequences [⟨#[], none⟩] ∅
    | .backward =>
      let stop := (← get).states + 1
      addStates 2
      branch sequences.length
      discard <| sequences.foldlM (fun memory sequence => backwardSequence sequence stop memory) ∅
  return .state

/-! ## Sequences and alternatives -/

/-- Measure a part a number of times, each time attached to the time before. -/
def again (part : Measure Exit) : Nat → Exit → Measure Exit
  | 0, exit => return exit
  | n + 1, exit => do
    let next ← part
    exit.attach
    again part n next

/-- Measure a part that is repeated a number of times. -/
def times (part : Measure Exit) : Nat → Measure Exit
  | 0 => single
  | n + 1 => do again part n (← part)

/-- Measure a part that may follow a number of times, with a fork before each time. -/
def optionally (part : Measure Exit) : Nat → Exit → Measure Exit
  | 0, exit => do
    exit.attach
    return .state
  | n + 1, exit => do
    addStates 1
    let next ← part
    exit.attach
    branch 2
    optionally part n next

/-- Measure a repetition, given whether each pass takes a character. -/
def repeated (part : Measure Exit) (taking : Bool) : Nat → Option Nat → Measure Exit
  | 0, some 1 => do
    addStates 1
    let exit ← part
    addStates 1
    branch 2
    exit.attach
    return .state
  | 0, none => do
    if taking then
      addStates 1
      let exit ← part
      branch 1
      exit.attach
      return .fork
    else
      let exit ← part
      exit.attach
      addStates 3
      branch 4
      return .state
  | n + 1, none => do
    let last ← if n = 0 then part else do
      let before ← times part n
      let last ← part
      before.attach
      pure last
    addStates 1
    last.attach
    branch 1
    return .fork
  | min, some max => do
    let exit ← times part min
    if min = max then return exit
    else
      addStates 1
      optionally part (max - min) exit

/-- Measure parts that follow each other. -/
def sequence : List (Measure Exit) → Measure Exit
  | [] => single
  | first :: rest => do
    rest.foldlM (fun exit part => do
      let next ← part
      exit.attach
      return next) (← first)

/-- Measure the ways to go on from a fork, all of which meet again. -/
def ways : List (Measure Exit) → Measure Exit
  | [] => return .state
  | way :: rest => do
    let exit ← way
    branch 1
    exit.attach
    ways rest

/-- Measure alternatives. -/
def alternatives : List (Measure Exit) → Measure Exit
  | [] => single
  | [only] => only
  | first :: second :: rest => do
    let firstExit ← first
    let secondExit ← second
    addStates 2
    branch 2
    firstExit.attach
    secondExit.attach
    ways rest

end Measure

/-! ## Alternatives that are texts -/

/-- A tree of texts. The edges from a node come in blocks: after a block a text ends at
the node, and is preferred to those that go on by a later block. The first field has
the blocks that are finished. -/
inductive WordTree where
  | node (blocks : List (List (Nat × WordTree))) (edges : List (Nat × WordTree))

namespace WordTree

/-- The tree without texts. -/
def empty : WordTree := .node [] []

/-- True of a node that no edge goes out from. -/
def isLeaf : WordTree → Bool
  | .node blocks edges => blocks.all List.isEmpty && edges.isEmpty

/-- Go along the edge of a byte, which is added at its place in the order of bytes if
it is not there. -/
def along (byte : Nat) (change : WordTree → WordTree) :
    List (Nat × WordTree) → List (Nat × WordTree)
  | [] => [(byte, change empty)]
  | edge :: rest =>
    if byte < edge.1 then (byte, change empty) :: edge :: rest
    else if byte = edge.1 then (byte, change edge.2) :: rest
    else edge :: along byte change rest

/-- Let a text end at a node. A text that ends where another did before adds nothing,
unless edges go out from there. -/
def finish : WordTree → WordTree
  | .node blocks edges =>
    if (node blocks edges).isLeaf && !blocks.isEmpty then .node blocks edges
    else .node (blocks ++ [edges]) []

/-- Add a text, given by its bytes. -/
def insert : List Nat → WordTree → WordTree
  | [], tree => tree.finish
  | byte :: rest, .node blocks edges => .node blocks (along byte (insert rest) edges)

mutual

/-- Measure a node and all below it: a state for each block of edges that is not
empty, with a table if it has several, and a fork with a way to each of these and to
the end of each text that ends here. -/
def measure : WordTree → Measure Unit
  | .node blocks edges => do
    measureBlocks blocks
    measureEdges edges
    measureTable edges
    Measure.addStates 1
    Measure.branch blocks.length

/-- Measure all edges of several blocks. -/
def measureBlocks : List (List (Nat × WordTree)) → Measure Unit
  | [] => return ()
  | edges :: rest => do
    measureEdges edges
    measureTable edges
    measureBlocks rest

/-- Measure what is below some edges. -/
def measureEdges : List (Nat × WordTree) → Measure Unit
  | [] => return ()
  | (_, tree) :: rest => do
    if !tree.isLeaf then tree.measure
    measureEdges rest

/-- Measure the state of a block of edges. -/
def measureTable : List (Nat × WordTree) → Measure Unit
  | [] => return ()
  | [_] => do
    Measure.addStates 1
    Measure.branch 1
  | edges => do
    discard <| Measure.addTable edges.length
    Measure.branch 1

end

end WordTree

/-- The text that a regular expression is, as bytes, if it is one. -/
def Regex.bytes? : Regex → Option (List Nat)
  | .literal chars => some (chars.flatMap fun c => utf8Bytes c.toNat)
  | _ => none

/-- Measure alternatives that are all texts. -/
def Measure.words (reading : Reading) (words : List (List Nat)) : Measure Exit := do
  addStates 1
  (words.foldl (fun tree word => tree.insert (reading.order word)) WordTree.empty).measure
  return .state

/-! ## Regular expressions -/

mutual

/-- Measure a regular expression. -/
def Regex.measure (reading : Reading) : Regex → Measure Exit
  | .empty => Measure.single
  | .literal chars => do
    Measure.addStates (chars.map Char.utf8Size).sum
    return .state
  | .set members => Measure.set reading members
  | .look _ => Measure.single
  | .repeated min max _ body =>
    Measure.repeated (body.measure reading) body.alwaysTakes min max
  | .capture _ body =>
    match reading with
    | .backward => body.measure reading
    | .forward => do
      Measure.addStates 1
      let exit ← body.measure reading
      Measure.addStates 1
      exit.attach
      return .state
  | .concat items => Measure.sequence (reading.order (Regex.measures reading items))
  | .alternation branches =>
    match branches.mapM Regex.bytes? with
    | some words => Measure.words reading words
    | none => Measure.alternatives (Regex.measures reading branches)

/-- The measures of several regular expressions. -/
def Regex.measures (reading : Reading) : List Regex → List (Measure Exit)
  | [] => []
  | item :: rest => item.measure reading :: Regex.measures reading rest

end

mutual

/-- True of a regular expression that matches at the beginning of the text only, or at
its end only, whichever is read first. -/
def Regex.isPinned (reading : Reading) : Regex → Bool
  | .look condition =>
    match reading with
    | .forward => condition = .textStart
    | .backward => condition = .textEnd
  | .repeated min _ _ body => 0 < min && body.isPinned reading
  | .capture _ body => body.isPinned reading
  | .concat items =>
    match reading with
    | .forward => Regex.startsPinned items
    | .backward => Regex.endsPinned items
  | .alternation branches => Regex.allPinned reading branches
  | _ => false

/-- True of a sequence that matches at the beginning of the text only. -/
def Regex.startsPinned : List Regex → Bool
  | [] => false
  | item :: rest => item.isPinned .forward || item.takesNothing && Regex.startsPinned rest

/-- True of a sequence that matches at the end of the text only. -/
def Regex.endsPinned : List Regex → Bool
  | [] => false
  | item :: rest =>
    Regex.endsPinned rest || Regex.allTakeNothing rest && item.isPinned .backward

/-- The same for all branches. -/
def Regex.allPinned (reading : Reading) : List Regex → Bool
  | [] => true
  | branch :: rest => branch.isPinned reading && Regex.allPinned reading rest

end

/-- Measure the automaton of a regular expression: what passes over the text before a
match, unless there can be none, the match as a group, and the final state. -/
def Regex.measureWhole (reading : Reading) (regex : Regex) : Measure Unit := do
  if regex.isPinned reading then Measure.addStates 1
  else
    Measure.addStates 2
    discard <| Measure.addTable 1
    Measure.branch 2
  let exit ← (Regex.capture 0 regex).measure reading
  Measure.addStates 1
  exit.attach

/-- From this number on, alternatives that are all texts are looked up without an
automaton. -/
def manyWords : Nat := 3000

/-- True of a long list of texts. -/
def Regex.isWordList : Regex → Bool
  | .alternation branches => manyWords ≤ branches.length && (branches.mapM Regex.bytes?).isSome
  | _ => false

/-- True if neither automaton takes too much memory. -/
def Regex.fits (regex : Regex) : Bool :=
  regex.isWordList ||
    ((regex.measureWhole .forward ⟨0, 0⟩).isSome && (regex.measureWhole .backward ⟨0, 0⟩).isSome)

end GrammarLexer.Pattern
