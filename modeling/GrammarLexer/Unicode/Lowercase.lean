import GrammarLexer.Unicode.CaseFolding
import GrammarLexer.Unicode.Current

/-!
# Lower case of a text

Lower-casing goes character by character with two exceptions: a capital i with a
dot becomes two characters, and a capital sigma becomes a final sigma at the end
of a word, that is, if the nearest character before it that case does not look
through has case, and the nearest one after it has none.
-/

namespace GrammarLexer.Unicode

/-- True if the first character that case does not look through has case. -/
def startsCased (cs : List Char) : Bool :=
  match cs.dropWhile Current.caseIgnorable.contains with
  | [] => false
  | c :: _ => Current.cased.contains c

/-- The lower case of one character that is no capital sigma. -/
def lowercaseChar (c : Char) : List Char :=
  if c = 'İ' then ['i', '\u0307']
  else
    match Current.lower.find? fun run => run.moves c.toNat with
    | some run => [Char.ofNat (run.image c.toNat)]
    | none => [c]

/-- Lower-case the rest of a text, given what stands before it in reverse. -/
def lowercaseFrom (before : List Char) : List Char → List Char
  | [] => []
  | c :: cs =>
    let lowered :=
      if c = 'Σ' then [if startsCased before && !startsCased cs then 'ς' else 'σ']
      else lowercaseChar c
    lowered ++ lowercaseFrom (c :: before) cs

/-- A text in lower case. -/
def lowercase (text : String) : String := String.ofList (lowercaseFrom [] text.toList)

end GrammarLexer.Unicode
