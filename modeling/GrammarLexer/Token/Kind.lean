import GrammarLexer.Text.Utf8

/-!
# Token kinds

The closed set of highlighting categories that a grammar may assign. Each kind
lies in a parent category, and a top-level kind is its own parent, so the kinds
form a forest whose trees grow downwards in the order of declaration.

Grammars name a kind by its canonical name. A name that carries `Literal` in
front of a canonical one, as in `LiteralStringDouble`, is read as that one.
-/

namespace GrammarLexer

/-- A highlighting category. -/
inductive Kind where
  | text
  | whitespace
  | error
  | other
  | keyword
  | keywordConstant
  | keywordDeclaration
  | keywordNamespace
  | keywordPseudo
  | keywordReserved
  | keywordType
  | name
  | nameAttribute
  | nameBuiltin
  | nameBuiltinPseudo
  | nameClass
  | nameConstant
  | nameDecorator
  | nameEntity
  | nameException
  | nameFunction
  | nameFunctionMagic
  | nameLabel
  | nameNamespace
  | nameOther
  | nameProperty
  | nameTag
  | nameVariable
  | nameVariableClass
  | nameVariableGlobal
  | nameVariableInstance
  | nameVariableMagic
  | literal
  | literalDate
  | string
  | stringAffix
  | stringBacktick
  | stringChar
  | stringDelimiter
  | stringDoc
  | stringDouble
  | stringEscape
  | stringHeredoc
  | stringInterpol
  | stringOther
  | stringRegex
  | stringSingle
  | stringSymbol
  | number
  | numberBin
  | numberFloat
  | numberHex
  | numberInteger
  | numberIntegerLong
  | numberOct
  | operator
  | operatorWord
  | punctuation
  | comment
  | commentHashbang
  | commentMultiline
  | commentPreproc
  | commentPreprocFile
  | commentSingle
  | commentSpecial
  | generic
  | genericDeleted
  | genericEmph
  | genericError
  | genericHeading
  | genericInserted
  | genericOutput
  | genericPrompt
  | genericStrong
  | genericSubheading
  | genericTraceback
  | genericUnderline
deriving DecidableEq, Repr

namespace Kind

/-- Every kind, in order of declaration. -/
def all : List Kind :=
  [.text, .whitespace, .error, .other, .keyword, .keywordConstant, .keywordDeclaration,
   .keywordNamespace, .keywordPseudo, .keywordReserved, .keywordType, .name, .nameAttribute,
   .nameBuiltin, .nameBuiltinPseudo, .nameClass, .nameConstant, .nameDecorator, .nameEntity,
   .nameException, .nameFunction, .nameFunctionMagic, .nameLabel, .nameNamespace, .nameOther,
   .nameProperty, .nameTag, .nameVariable, .nameVariableClass, .nameVariableGlobal,
   .nameVariableInstance, .nameVariableMagic, .literal, .literalDate, .string, .stringAffix,
   .stringBacktick, .stringChar, .stringDelimiter, .stringDoc, .stringDouble, .stringEscape,
   .stringHeredoc, .stringInterpol, .stringOther, .stringRegex, .stringSingle, .stringSymbol,
   .number, .numberBin, .numberFloat, .numberHex, .numberInteger, .numberIntegerLong,
   .numberOct, .operator, .operatorWord, .punctuation, .comment, .commentHashbang,
   .commentMultiline, .commentPreproc, .commentPreprocFile, .commentSingle, .commentSpecial,
   .generic, .genericDeleted, .genericEmph, .genericError, .genericHeading, .genericInserted,
   .genericOutput, .genericPrompt, .genericStrong, .genericSubheading, .genericTraceback,
   .genericUnderline]

/-- The canonical name. -/
def canonicalName : Kind → String
  | .text => "Text"
  | .whitespace => "Whitespace"
  | .error => "Error"
  | .other => "Other"
  | .keyword => "Keyword"
  | .keywordConstant => "KeywordConstant"
  | .keywordDeclaration => "KeywordDeclaration"
  | .keywordNamespace => "KeywordNamespace"
  | .keywordPseudo => "KeywordPseudo"
  | .keywordReserved => "KeywordReserved"
  | .keywordType => "KeywordType"
  | .name => "Name"
  | .nameAttribute => "NameAttribute"
  | .nameBuiltin => "NameBuiltin"
  | .nameBuiltinPseudo => "NameBuiltinPseudo"
  | .nameClass => "NameClass"
  | .nameConstant => "NameConstant"
  | .nameDecorator => "NameDecorator"
  | .nameEntity => "NameEntity"
  | .nameException => "NameException"
  | .nameFunction => "NameFunction"
  | .nameFunctionMagic => "NameFunctionMagic"
  | .nameLabel => "NameLabel"
  | .nameNamespace => "NameNamespace"
  | .nameOther => "NameOther"
  | .nameProperty => "NameProperty"
  | .nameTag => "NameTag"
  | .nameVariable => "NameVariable"
  | .nameVariableClass => "NameVariableClass"
  | .nameVariableGlobal => "NameVariableGlobal"
  | .nameVariableInstance => "NameVariableInstance"
  | .nameVariableMagic => "NameVariableMagic"
  | .literal => "Literal"
  | .literalDate => "LiteralDate"
  | .string => "String"
  | .stringAffix => "StringAffix"
  | .stringBacktick => "StringBacktick"
  | .stringChar => "StringChar"
  | .stringDelimiter => "StringDelimiter"
  | .stringDoc => "StringDoc"
  | .stringDouble => "StringDouble"
  | .stringEscape => "StringEscape"
  | .stringHeredoc => "StringHeredoc"
  | .stringInterpol => "StringInterpol"
  | .stringOther => "StringOther"
  | .stringRegex => "StringRegex"
  | .stringSingle => "StringSingle"
  | .stringSymbol => "StringSymbol"
  | .number => "Number"
  | .numberBin => "NumberBin"
  | .numberFloat => "NumberFloat"
  | .numberHex => "NumberHex"
  | .numberInteger => "NumberInteger"
  | .numberIntegerLong => "NumberIntegerLong"
  | .numberOct => "NumberOct"
  | .operator => "Operator"
  | .operatorWord => "OperatorWord"
  | .punctuation => "Punctuation"
  | .comment => "Comment"
  | .commentHashbang => "CommentHashbang"
  | .commentMultiline => "CommentMultiline"
  | .commentPreproc => "CommentPreproc"
  | .commentPreprocFile => "CommentPreprocFile"
  | .commentSingle => "CommentSingle"
  | .commentSpecial => "CommentSpecial"
  | .generic => "Generic"
  | .genericDeleted => "GenericDeleted"
  | .genericEmph => "GenericEmph"
  | .genericError => "GenericError"
  | .genericHeading => "GenericHeading"
  | .genericInserted => "GenericInserted"
  | .genericOutput => "GenericOutput"
  | .genericPrompt => "GenericPrompt"
  | .genericStrong => "GenericStrong"
  | .genericSubheading => "GenericSubheading"
  | .genericTraceback => "GenericTraceback"
  | .genericUnderline => "GenericUnderline"

/-- The enclosing category; a top-level kind is its own parent. -/
def parent : Kind → Kind
  | .whitespace => .text
  | .keywordConstant => .keyword
  | .keywordDeclaration => .keyword
  | .keywordNamespace => .keyword
  | .keywordPseudo => .keyword
  | .keywordReserved => .keyword
  | .keywordType => .keyword
  | .nameAttribute => .name
  | .nameBuiltin => .name
  | .nameBuiltinPseudo => .nameBuiltin
  | .nameClass => .name
  | .nameConstant => .name
  | .nameDecorator => .name
  | .nameEntity => .name
  | .nameException => .name
  | .nameFunction => .name
  | .nameFunctionMagic => .nameFunction
  | .nameLabel => .name
  | .nameNamespace => .name
  | .nameOther => .name
  | .nameProperty => .name
  | .nameTag => .name
  | .nameVariable => .name
  | .nameVariableClass => .nameVariable
  | .nameVariableGlobal => .nameVariable
  | .nameVariableInstance => .nameVariable
  | .nameVariableMagic => .nameVariable
  | .literalDate => .literal
  | .string => .literal
  | .stringAffix => .string
  | .stringBacktick => .string
  | .stringChar => .string
  | .stringDelimiter => .string
  | .stringDoc => .string
  | .stringDouble => .string
  | .stringEscape => .string
  | .stringHeredoc => .string
  | .stringInterpol => .string
  | .stringOther => .string
  | .stringRegex => .string
  | .stringSingle => .string
  | .stringSymbol => .string
  | .number => .literal
  | .numberBin => .number
  | .numberFloat => .number
  | .numberHex => .number
  | .numberInteger => .number
  | .numberIntegerLong => .numberInteger
  | .numberOct => .number
  | .operatorWord => .operator
  | .commentHashbang => .comment
  | .commentMultiline => .comment
  | .commentPreproc => .comment
  | .commentPreprocFile => .commentPreproc
  | .commentSingle => .comment
  | .commentSpecial => .comment
  | .genericDeleted => .generic
  | .genericEmph => .generic
  | .genericError => .generic
  | .genericHeading => .generic
  | .genericInserted => .generic
  | .genericOutput => .generic
  | .genericPrompt => .generic
  | .genericStrong => .generic
  | .genericSubheading => .generic
  | .genericTraceback => .generic
  | .genericUnderline => .generic
  | top => top

/-- Position in the order of declaration. -/
def index (kind : Kind) : Nat := kind.ctorIdx

/-- A parent is declared before its children. -/
theorem index_parent_lt (kind : Kind) (child : kind.parent ≠ kind) :
    kind.parent.index < kind.index := by
  revert child
  cases kind <;> decide

/-- True of a category and of every kind that descends from it. -/
def inCategory (kind category : Kind) : Bool :=
  if kind = category then true
  else if _child : kind.parent ≠ kind then kind.parent.inCategory category
  else false
termination_by kind.index
decreasing_by exact index_parent_lt kind _child

/-- The kind with a canonical name. -/
def ofCanonicalName? (name : String) : Option Kind :=
  all.find? fun kind => kind.canonicalName == name

/-- The kind that a grammar means by a name. A canonical name stands for itself,
any other may carry `Literal` in front of one. -/
def ofName? (name : String) : Option Kind :=
  ofCanonicalName? name <|> (Text.dropHead? "Literal" name).bind ofCanonicalName?

/-- The kinds in the order of declaration. -/
def sort (kinds : List Kind) : List Kind :=
  kinds.mergeSort fun a b => a.index ≤ b.index

end Kind

end GrammarLexer
