import GrammarLexer.Pattern.Expr
import GrammarLexer.Unicode.Current

/-!
# Reading patterns

`Expr.parse?` reads a pattern from its text, and is `none` on a text that is no
pattern, or one nested deeper than `maxDepth`.

Reading goes from left to right over a stack of open groups, and inside brackets
over a stack of open classes; each step takes at least one character, so the
length of the text bounds the steps. While the switch `ignoreSpace` is on, blanks
and comments between the parts of a pattern carry no meaning.
-/

namespace GrammarLexer.Pattern

open Unicode

/-- The deepest nesting of a pattern. -/
def maxDepth : Nat := 250

/-- The greatest count of a repetition. -/
def maxCount : Nat := 0xFFFFFFFF

/-! ## Blanks -/

/-- True of white space. -/
def isBlank (c : Char) : Bool := Property.whiteSpace.contains c

/-- Drop blanks and comments; a comment goes from `#` to the end of the line. -/
def dropBlanks (inComment : Bool) : List Char → List Char
  | [] => []
  | c :: cs =>
    if inComment then dropBlanks (c != '\n') cs
    else if isBlank c then dropBlanks false cs
    else if c = '#' then dropBlanks true cs
    else c :: cs

/-- Drop what carries no meaning between two parts. -/
def skip (ignoreSpace : Bool) (cs : List Char) : List Char :=
  if ignoreSpace then dropBlanks false cs else cs

/-- Read up to a closing brace, leaving out what carries no meaning. -/
def toBrace (ignoreSpace inComment : Bool) : List Char → Option (List Char × List Char)
  | [] => none
  | c :: cs =>
    if inComment then toBrace ignoreSpace (c != '\n') cs
    else if ignoreSpace && isBlank c then toBrace ignoreSpace false cs
    else if ignoreSpace && c = '#' then toBrace ignoreSpace true cs
    else if c = '}' then some ([], cs)
    else (toBrace ignoreSpace false cs).map fun found => (c :: found.1, found.2)

/-- Read the characters of a kind, leaving out what carries no meaning between
them. -/
def takeSpaced (ignoreSpace : Bool) (wanted : Char → Bool) (inComment : Bool) :
    List Char → List Char × List Char
  | [] => ([], [])
  | c :: cs =>
    if inComment then takeSpaced ignoreSpace wanted (c != '\n') cs
    else if wanted c then
      let found := takeSpaced ignoreSpace wanted false cs
      (c :: found.1, found.2)
    else if ignoreSpace && isBlank c then takeSpaced ignoreSpace wanted false cs
    else if ignoreSpace && c = '#' then takeSpaced ignoreSpace wanted true cs
    else ([], c :: cs)

/-- The first character that is neither a blank nor the mark of a comment. -/
def firstPastBlanks (seenMark : Bool) : List Char → Option Char
  | [] => none
  | c :: cs =>
    if isBlank c then firstPastBlanks seenMark cs
    else if c = '#' && !seenMark then firstPastBlanks true cs
    else some c

/-- The character that decides whether a dash makes a range, given what follows
the dash. -/
def peekPast (ignoreSpace : Bool) (cs : List Char) : Option Char :=
  if ignoreSpace then firstPastBlanks false cs <|> cs.head? else cs.head?

/-! ## Numbers -/

/-- The value of a digit of a hexadecimal number. -/
def hexValue? (c : Char) : Option Nat :=
  if '0' ≤ c && c ≤ '9' then some (c.toNat - '0'.toNat)
  else if 'a' ≤ c && c ≤ 'f' then some (c.toNat - 'a'.toNat + 10)
  else if 'A' ≤ c && c ≤ 'F' then some (c.toNat - 'A'.toNat + 10)
  else none

/-- The number that hexadecimal digits write. -/
def hexNumber? (digits : List Char) : Option Nat :=
  digits.foldlM (fun value c => (hexValue? c).map (16 * value + ·)) 0

/-- The character with a code point. -/
def charOfCode? (code : Nat) : Option Char :=
  if h : code.isValidChar then some (Char.ofNatAux code h) else none

/-- Read a count of a repetition: none if there are no digits, failure if the
number is too great. -/
def readCount (ignoreSpace : Bool) (cs : List Char) : Option (Option Nat × List Char) :=
  let found := takeSpaced ignoreSpace Char.isDigit false (cs.dropWhile isBlank)
  let value := found.1.foldl (fun value c => 10 * value + (c.toNat - '0'.toNat)) 0
  let rest := found.2.dropWhile isBlank
  if found.1.isEmpty then some (none, rest)
  else if value ≤ maxCount then some (some value, rest)
  else none

/-! ## Escapes -/

/-- A part of a pattern that is one character, one class or one place. -/
inductive Primitive where
  | literal (literal : Literal)
  | dot
  | assertion (assertion : Assertion)
  | property (query : PropertyQuery) (negated : Bool)
  | shorthand (shorthand : Shorthand) (negated : Bool)

/-- The part as a pattern. -/
def Primitive.toExpr : Primitive → Expr
  | .literal l => .literal l
  | .dot => .dot
  | .assertion a => .assertion a
  | .property query negated => .property query negated
  | .shorthand letters negated => .shorthand letters negated

/-- The part as an item of a class; a place is none. -/
def Primitive.toClassItem? : Primitive → Option ClassExpr
  | .literal l => some (.literal l)
  | .property query negated => some (.property query negated)
  | .shorthand letters negated => some (.shorthand letters negated)
  | .dot => none
  | .assertion _ => none

/-- Read the code point of a character: a number of digits, or any number of them
in braces. -/
def readCode? (ignoreSpace : Bool) (width : Nat) (cs : List Char) :
    Option (Primitive × List Char) := do
  match skip ignoreSpace cs with
  | '{' :: rest =>
    let (digits, rest) ← toBrace ignoreSpace false rest
    if digits.isEmpty then none
    else
      let c ← (← hexNumber? digits) |> charOfCode?
      some (.literal ⟨c, false⟩, skip ignoreSpace rest)
  | rest =>
    let (digits, rest) ← fixedDigits width rest
    let c ← (← hexNumber? digits) |> charOfCode?
    some (.literal ⟨c, width == 2⟩, rest)
where
  /-- Read a number of digits, leaving out what carries no meaning after each. -/
  fixedDigits : Nat → List Char → Option (List Char × List Char)
    | 0, cs => some ([], cs)
    | _, [] => none
    | n + 1, c :: cs => do
      let _ ← hexValue? c
      let (digits, rest) ← fixedDigits n (skip ignoreSpace cs)
      some (c :: digits, rest)

/-- Split a text at the first place where a mark of one or two characters stands. -/
def splitAtMark? (mark : List Char) : List Char → Option (List Char × List Char)
  | [] => none
  | c :: cs =>
    match mark.isPrefixOf? (c :: cs) with
    | some rest => some ([], rest)
    | none => (splitAtMark? mark cs).map fun parts => (c :: parts.1, parts.2)

/-- What the braces of a property class ask for, and whether it is turned round. -/
def readQuery (name : List Char) : PropertyQuery × Bool :=
  let valued (parts : List Char × List Char) : PropertyQuery :=
    .valued (String.ofList parts.1) (String.ofList parts.2)
  match splitAtMark? ['!', '='] name with
  | some parts => (valued parts, true)
  | none =>
    match splitAtMark? [':'] name <|> splitAtMark? ['='] name with
    | some parts => (valued parts, false)
    | none => (.named (String.ofList name), false)

/-- Read a property class: one letter, or a name in braces. -/
def readProperty? (ignoreSpace negated : Bool) (cs : List Char) :
    Option (Primitive × List Char) :=
  match skip ignoreSpace cs with
  | [] => none
  | '{' :: rest =>
    (toBrace ignoreSpace false rest).map fun (name, rest) =>
      let (query, reversed) := readQuery name
      (.property query (negated != reversed), rest)
  | c :: rest =>
    if c = '\\' then none
    else some (.property (.named (String.singleton c)) negated, skip ignoreSpace rest)

/-- Read the braces after a word boundary that say which one is meant; none if
what stands there is the count of a repetition. -/
def readBoundary? (ignoreSpace : Bool) (cs : List Char) :
    Option (Option (Assertion × List Char)) :=
  match skip ignoreSpace cs with
  | [] => none
  | c :: rest =>
    if c.isAlpha || c = '-' then do
      let (name, rest) ← toBrace ignoreSpace false (c :: rest)
      let boundary ← match String.ofList name with
        | "start" => some Assertion.wordStart
        | "end" => some .wordEnd
        | "start-half" => some .wordStartHalf
        | "end-half" => some .wordEndHalf
        | _ => none
      some (some (boundary, rest))
    else some none

/-- The characters with a meaning in patterns, which a backslash takes away. -/
def metaCharacters : List Char := "\\.+*?()|[]\x7b\x7d^$#&-~".toList

/-- The characters that stand for a control character after a backslash. -/
def controlOfLetter? : Char → Option Char
  | 'a' => some '\x07'
  | 'f' => some '\x0c'
  | 't' => some '\t'
  | 'n' => some '\n'
  | 'r' => some '\r'
  | 'v' => some '\x0b'
  | _ => none

/-- The characters that stand for a class after a backslash. -/
def shorthandOfLetter? : Char → Option (Shorthand × Bool)
  | 'd' => some (.digit, false)
  | 'D' => some (.digit, true)
  | 's' => some (.space, false)
  | 'S' => some (.space, true)
  | 'w' => some (.word, false)
  | 'W' => some (.word, true)
  | _ => none

/-- The characters that stand for a place after a backslash. -/
def assertionOfLetter? : Char → Option Assertion
  | 'A' => some .textStart
  | 'z' => some .textEnd
  | 'B' => some .notWordBoundary
  | '<' => some .wordStart
  | '>' => some .wordEnd
  | _ => none

/-- Read what follows a backslash. -/
def readEscape? (ignoreSpace : Bool) : List Char → Option (Primitive × List Char)
  | [] => none
  | 'x' :: cs => readCode? ignoreSpace 2 cs
  | 'u' :: cs => readCode? ignoreSpace 4 cs
  | 'U' :: cs => readCode? ignoreSpace 8 cs
  | 'p' :: cs => readProperty? ignoreSpace false cs
  | 'P' :: cs => readProperty? ignoreSpace true cs
  | 'b' :: '{' :: cs =>
    (readBoundary? ignoreSpace cs).map fun
      | some (boundary, rest) => (.assertion boundary, rest)
      | none => (.assertion .wordBoundary, '{' :: cs)
  | 'b' :: cs => some (.assertion .wordBoundary, cs)
  | c :: cs =>
    match shorthandOfLetter? c, assertionOfLetter? c, controlOfLetter? c with
    | some (letters, negated), _, _ => some (.shorthand letters negated, cs)
    | _, some place, _ => some (.assertion place, cs)
    | _, _, some control => some (.literal ⟨control, false⟩, cs)
    | none, none, none =>
      if metaCharacters.contains c || (c.toNat ≤ 0x7F && !c.isAlphanum) then
        some (.literal ⟨c, false⟩, cs)
      else none

/-! ## Classes -/

/-- A class whose closing bracket has not been read: its items so far in reverse,
and the operand and operator before them. -/
structure OpenClass where
  negated : Bool
  pending : Option (ClassOperator × ClassExpr)
  items : List ClassExpr

namespace OpenClass

/-- Add an item. -/
def add (level : OpenClass) (item : ClassExpr) : OpenClass :=
  { level with items := item :: level.items }

/-- All that has been read, as one operand. -/
def operand (level : OpenClass) : ClassExpr :=
  let right := ClassExpr.ofItems level.items.reverse
  match level.pending with
  | none => right
  | some (operator, left) => .combined operator left right

/-- Read an operator. -/
def operate (level : OpenClass) (operator : ClassOperator) : OpenClass :=
  { level with pending := some (operator, level.operand), items := [] }

end OpenClass

/-- Read what follows an opening bracket: the mark of negation, dashes, and a
closing bracket that comes first, which are all literal there. -/
def openClass? (ignoreSpace : Bool) (cs : List Char) : Option (OpenClass × List Char) :=
  let (negated, cs) := match skip ignoreSpace cs with
    | '^' :: rest => (true, skip ignoreSpace rest)
    | rest => (false, rest)
  let (dashes, rest) := takeSpaced ignoreSpace (· == '-') false cs
  let items := dashes.map fun c => ClassExpr.literal ⟨c, false⟩
  match rest with
  | [] => none
  | ']' :: rest =>
    if items.isEmpty then
      match skip ignoreSpace rest with
      | [] => none
      | rest => some (⟨negated, none, [.literal ⟨']', false⟩]⟩, rest)
    else some (⟨negated, none, items⟩, ']' :: rest)
  | rest => some (⟨negated, none, items⟩, rest)

/-- The names of the classes of ASCII characters. -/
def posixNames : List String :=
  ["alnum", "alpha", "ascii", "blank", "cntrl", "digit", "graph", "lower", "print", "punct",
   "space", "upper", "word", "xdigit"]

/-- Read a class of ASCII characters by name, after its opening bracket. -/
def readPosix? (cs : List Char) : Option (ClassExpr × List Char) :=
  match cs with
  | ':' :: rest =>
    let (negated, rest) := match rest with
      | '^' :: rest => (true, rest)
      | rest => (false, rest)
    let name := String.ofList (rest.takeWhile (· != ':'))
    match rest.dropWhile (· != ':') with
    | ':' :: ']' :: rest =>
      if posixNames.contains name then some (.posix name negated, rest) else none
    | _ => none
  | _ => none

/-- Read one character of a class, or an escape. -/
def readClassPart? (ignoreSpace : Bool) : List Char → Option (Primitive × List Char)
  | [] => none
  | '\\' :: cs => readEscape? ignoreSpace cs
  | c :: cs => some (.literal ⟨c, false⟩, cs)

/-- Read a range or a single item of a class. -/
def readClassItem? (ignoreSpace : Bool) (cs : List Char) : Option (ClassExpr × List Char) := do
  let (first, rest) ← readClassPart? ignoreSpace cs
  match skip ignoreSpace rest with
  | [] => none
  | '-' :: after =>
    let next := peekPast ignoreSpace after
    if next = some ']' || next = some '-' then
      some (← first.toClassItem?, '-' :: after)
    else
      let (last, rest) ← readClassPart? ignoreSpace (skip ignoreSpace after)
      match first, last with
      | .literal first, .literal last =>
        if first.char ≤ last.char then some (.range first last, rest) else none
      | _, _ => none
  | rest => some (← first.toClassItem?, rest)

/-- Read a class up to its closing bracket, over the classes open around it. -/
def readClass? (ignoreSpace : Bool) :
    Nat → OpenClass → List OpenClass → List Char → Option (Expr × List Char)
  | 0, _, _, _ => none
  | fuel + 1, level, outer, cs =>
    match skip ignoreSpace cs with
    | [] => none
    | '[' :: rest =>
      match readPosix? rest with
      | some (item, rest) => readClass? ignoreSpace fuel (level.add item) outer rest
      | none => do
        let (inner, rest) ← openClass? ignoreSpace rest
        readClass? ignoreSpace fuel inner (level :: outer) rest
    | ']' :: rest =>
      match outer with
      | [] => some (.bracketed level.negated level.operand, rest)
      | parent :: outer =>
        let closed := ClassExpr.bracketed level.negated level.operand
        readClass? ignoreSpace fuel (parent.add closed) outer rest
    | '&' :: '&' :: rest => readClass? ignoreSpace fuel (level.operate .intersection) outer rest
    | '-' :: '-' :: rest => readClass? ignoreSpace fuel (level.operate .difference) outer rest
    | '~' :: '~' :: rest =>
      readClass? ignoreSpace fuel (level.operate .symmetricDifference) outer rest
    | rest => do
      let (item, rest) ← readClassItem? ignoreSpace rest
      readClass? ignoreSpace fuel (level.add item) outer rest

/-! ## Groups -/

/-- A group whose closing parenthesis has not been read: what stands before it,
in reverse, and the switch to go back to. -/
structure OpenGroup where
  items : List Expr
  branches : List Expr
  kind : GroupKind
  ignoreSpace : Bool

/-- How far a pattern has been read: the items of the branch and the branches of
the group that are being read, in reverse, the groups around them, and the groups
that capture. -/
structure Reader where
  items : List Expr
  branches : List Expr
  outer : List OpenGroup
  ignoreSpace : Bool
  captures : Nat
  names : List String

namespace Reader

/-- Nothing has been read. -/
def start : Reader := ⟨[], [], [], false, 0, []⟩

/-- Add an item. -/
def add (reader : Reader) (item : Expr) : Reader := { reader with items := item :: reader.items }

/-- The branch being read. -/
def branch (reader : Reader) : Expr := .ofItems reader.items.reverse

/-- All that has been read of the innermost group. -/
def body (reader : Reader) : Expr := .ofBranches (reader.branch :: reader.branches).reverse

/-- Begin the next branch. -/
def alternate (reader : Reader) : Reader :=
  { reader with items := [], branches := reader.branch :: reader.branches }

/-- Begin a group. -/
def openGroup (reader : Reader) (kind : GroupKind) (ignoreSpace : Bool) : Reader :=
  { reader with
    items := []
    branches := []
    outer := ⟨reader.items, reader.branches, kind, reader.ignoreSpace⟩ :: reader.outer
    ignoreSpace := ignoreSpace }

/-- Begin a group that captures. -/
def openCapture (reader : Reader) : Reader :=
  { reader with captures := reader.captures + 1 }.openGroup
    (.capturing (reader.captures + 1)) reader.ignoreSpace

/-- End a group. -/
def closeGroup? (reader : Reader) : Option Reader :=
  match reader.outer with
  | [] => none
  | group :: outer =>
    some { reader with
      items := .group group.kind reader.body :: group.items
      branches := group.branches
      outer := outer
      ignoreSpace := group.ignoreSpace }

/-- The whole pattern, if no group is open. -/
def finish? (reader : Reader) : Option Expr :=
  if reader.outer.isEmpty then some reader.body else none

/-- Repeat the last item. -/
def repeatLast? (reader : Reader) (min : Nat) (max : Option Nat) (greedy : Bool) :
    Option Reader :=
  match reader.items with
  | [] => none
  | .empty :: _ => none
  | .setFlags _ :: _ => none
  | item :: before => some { reader with items := .repeated min max greedy item :: before }

end Reader

/-- The switch of a letter. -/
def flagOfLetter? : Char → Option Flag
  | 'i' => some .caseInsensitive
  | 'm' => some .multiLine
  | 's' => some .dotMatchesNewline
  | 'U' => some .swapGreed
  | 'u' => some .unicode
  | 'R' => some .crlf
  | 'x' => some .ignoreSpace
  | _ => none

/-- Read switches up to the colon or parenthesis after them. Each may stand once,
those after a dash are turned off, and something must follow the dash. -/
def readFlags? (change : FlagChange) (negating dangling : Bool) :
    List Char → Option (FlagChange × Char × List Char)
  | [] => none
  | c :: cs =>
    if c = ':' || c = ')' then
      if dangling then none else some (change.reverse, c, cs)
    else if c = '-' then
      if negating then none else readFlags? change true true cs
    else
      match flagOfLetter? c with
      | none => none
      | some flag =>
        if change.any (·.1 = flag) then none
        else readFlags? ((flag, !negating) :: change) negating false cs

/-- The value that a change gives to a switch. -/
def FlagChange.value (change : FlagChange) (flag : Flag) (old : Bool) : Bool :=
  match change.find? (·.1 = flag) with
  | some (_, new) => new
  | none => old

/-- True if a name may stand for a group: a letter or underscore, then letters,
numbers, underscores, dots and brackets. -/
def isGroupName : List Char → Bool
  | [] => false
  | c :: cs =>
    (c = '_' || Current.alphabetic.contains c) &&
      cs.all fun c =>
        c = '_' || c = '.' || c = '[' || c = ']' || Current.alphanumeric.contains c

/-- Read the name of a group and begin it; no two groups have one name. -/
def readNamedGroup? (reader : Reader) (cs : List Char) : Option (Reader × List Char) :=
  match cs.dropWhile (· != '>') with
  | [] => none
  | _ :: rest =>
    let chars := cs.takeWhile (· != '>')
    let name := String.ofList chars
    if isGroupName chars && !reader.names.contains name then
      some ({ reader with names := name :: reader.names }.openCapture, rest)
    else none

/-- Read what follows an opening parenthesis: a group, or switches for the rest
of the group around it. Looking ahead or behind is not supported. -/
def readGroup? (reader : Reader) (cs : List Char) : Option (Reader × List Char) :=
  match skip reader.ignoreSpace cs with
  | '?' :: '=' :: _ => none
  | '?' :: '!' :: _ => none
  | '?' :: '<' :: '=' :: _ => none
  | '?' :: '<' :: '!' :: _ => none
  | '?' :: 'P' :: '<' :: rest => readNamedGroup? reader rest
  | '?' :: '<' :: rest => readNamedGroup? reader rest
  | '?' :: rest => do
    let (change, closing, rest) ← readFlags? [] false false rest
    let ignoreSpace := change.value .ignoreSpace reader.ignoreSpace
    if closing = ':' then some (reader.openGroup (.plain change) ignoreSpace, rest)
    else if change.isEmpty then none
    else some ({ reader with ignoreSpace := ignoreSpace }.add (.setFlags change), rest)
  | rest => some (reader.openCapture, rest)

/-! ## Repetitions -/

/-- Read the mark that makes a repetition prefer few. -/
def readGreed (cs : List Char) : Bool × List Char :=
  match cs with
  | '?' :: rest => (false, rest)
  | rest => (true, rest)

/-- Read a repetition with counts, after its opening brace. -/
def readCounts? (reader : Reader) (cs : List Char) : Option (Reader × List Char) := do
  let ignoreSpace := reader.ignoreSpace
  let (min, rest) ← readCount ignoreSpace (skip ignoreSpace cs)
  let min ← min
  let (max, rest) ← match rest with
    | ',' :: rest =>
      match skip ignoreSpace rest with
      | '}' :: rest => some (none, '}' :: rest)
      | rest => do
        let (max, rest) ← readCount ignoreSpace rest
        some (some (← max), rest)
    | rest => some (some min, rest)
  match rest with
  | '}' :: rest =>
    let (greedy, rest) := readGreed (skip ignoreSpace rest)
    if max.all (min ≤ ·) then some (← reader.repeatLast? min max greedy, rest) else none
  | _ => none

/-- Read a repetition without counts. -/
def readRepetition? (reader : Reader) (min : Nat) (max : Option Nat) (cs : List Char) :
    Option (Reader × List Char) :=
  let (greedy, rest) := readGreed cs
  (reader.repeatLast? min max greedy).map (·, rest)

/-! ## Patterns -/

/-- Read the next part of a pattern, which begins with a given character. -/
def readPart? (reader : Reader) (c : Char) (cs : List Char) : Option (Reader × List Char) :=
  match c with
  | '(' => readGroup? reader cs
  | ')' => reader.closeGroup?.map (·, cs)
  | '|' => some (reader.alternate, cs)
  | '[' => do
    let (level, rest) ← openClass? reader.ignoreSpace cs
    let (item, rest) ← readClass? reader.ignoreSpace (cs.length + 1) level [] rest
    some (reader.add item, rest)
  | '?' => readRepetition? reader 0 (some 1) cs
  | '*' => readRepetition? reader 0 none cs
  | '+' => readRepetition? reader 1 none cs
  | '{' => readCounts? reader cs
  | '\\' => do
    let (part, rest) ← readEscape? reader.ignoreSpace cs
    some (reader.add part.toExpr, rest)
  | '.' => some (reader.add .dot, cs)
  | '^' => some (reader.add (.assertion .lineStart), cs)
  | '$' => some (reader.add (.assertion .lineEnd), cs)
  | c => some (reader.add (.literal ⟨c, false⟩), cs)

/-- Read parts until the text ends. -/
def readAll? : Nat → Reader → List Char → Option Expr
  | 0, _, _ => none
  | fuel + 1, reader, cs =>
    match skip reader.ignoreSpace cs with
    | [] => reader.finish?
    | c :: rest => do
      let (reader, rest) ← readPart? reader c rest
      readAll? fuel reader rest

/-- The pattern that a text writes. -/
def Expr.parse? (text : List Char) : Option Expr := do
  let expr ← readAll? (text.length + 1) .start text
  if expr.depth ≤ maxDepth then some expr else none

end GrammarLexer.Pattern
