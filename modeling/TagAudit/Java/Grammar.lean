import TagAudit.Java.Phrase

/-!
The grammar of Java source files, as far as it decides what a file is made of. Expressions are read
without regard to the binding of operators, which no measure depends on. A word is a keyword only
where the keyword may stand; anywhere else it is a name.

`JavaParser.parse` leaves this to tree-sitter. The grammar here is assumed to accept the same texts.
-/

namespace TagAudit.Java

open Syntax (NodeKind Role)

inductive Nonterminal where
  | unit
  | statement
  | block
  | ifStatement
  | elseIf
  | tryStatement
  | forStatement
  | localDeclaration
  | typeDeclaration
  | moduleDeclaration
  | member
  | classBody
  | interfaceBody
  | method
  | constructor
  | enumBody
  | annotationBody
  | modifiers
  | annotationUse
  | elementValue
  | typeExpression
  | simpleType
  | typeArguments
  | typeParameters
  | dimensions
  | parameters
  | declarators
  | initializer
  | expression
  | extension
  | operand
  | labelExpression
  | plainOperand
  | chain
  | lambda
  | cast
  | creation
  | arguments
  | switchBlock
  | label
  | recordPattern
  | qualifiedName
  deriving DecidableEq, Repr

def Nonterminal.count : Nat := 42

namespace Grammar

open Phrase

abbrev P := Phrase Nonterminal

def kept (kind : NodeKind) (ps : List P) : P := .node kind .plain (all ps)

def parens (ps : List P) : P := all ([.sign "("] ++ ps ++ [.sign ")"])

def braces (ps : List P) : P := all ([.sign "\x7b"] ++ ps ++ [.sign "\x7d"])

def notAhead (p : P) : P := .ahead true p

def isAhead (p : P) : P := .ahead false p

/-- The types that are written with a word of their own. -/
def primitives : List String :=
  ["int", "long", "short", "byte", "char", "float", "double", "boolean", "void"]

/-- The words with a meaning of their own where an expression may start. -/
def valueWords : List String :=
  ["new", "this", "super", "true", "false", "null", "switch", "instanceof"] ++ primitives

def modifierWords : List String :=
  ["public", "protected", "private", "abstract", "static", "final", "strictfp", "default",
    "synchronized", "native", "transient", "volatile"]

/-- The words that start a statement which is neither a declaration of variables nor an expression.
-/
def statementWords : List String :=
  ["assert", "break", "class", "continue", "do", "enum", "for", "if", "import", "interface",
    "package", "return", "throw", "try", "while"]

/-- The words that start a declaration of a type. -/
def typeWords : List String := ["class", "interface", "enum"]

/-- A name where nothing else can stand. -/
def anyName : P := .name []

/-- A name where an expression may start. -/
def valueName : P := .name valueWords

def expression : P := .rule .expression

def type : P := .rule .typeExpression

def statement : P := .rule .statement

def block : P := .rule .block

/-- Type arguments, if there are any. -/
def typeArguments : P := opt (.rule .typeArguments)

def typeParameters : P := opt (.rule .typeParameters)

def modifiers : P := opt (.rule .modifiers)

def dimensions : P := opt (.rule .dimensions)

def annotations : P := .many (.rule .annotationUse)

/-- A condition in parentheses. -/
def condition : P := parens [expression]

/-- A sign right behind the token before it. -/
def glued (s : String) : P := .joined (.sign s)

def variableName : P := all [anyName, dimensions]

/-- The types after a word, if it is there. -/
def typesAfter (word : String) : P := opt (all [.word word, separated "," type])

def throwing : P := typesAfter "throws"

def unit : P := all [.many (first [statement, .rule .method]), .ending]

def blockPhrase : P := braces [.many statement]

/-- An `if` statement in a role. An `if` right behind `else` goes on with the chain. -/
def ifPhrase (role : Role) : P :=
  .node .ifStatement role (all [.word "if", condition, statement, opt (all [.word "else", first [
    all [isAhead (.word "if"), .rule .elseIf],
    all [notAhead (.word "if"), statement]]])])

def resource : P :=
  first [all [modifiers, type, variableName, .sign "=", expression], .rule .chain]

def catchClause : P :=
  kept .catchClause [.word "catch", parens [modifiers, separated "|" type, variableName], block]

def finallyClause : P := all [.word "finally", block]

/-- A `try` statement. Without resources it has a `catch` or a `finally` clause. -/
def tryPhrase : P :=
  kept .tryStatement [.word "try", first [
    all [parens [separated ";" resource, opt (.sign ";")], block, .many catchClause,
      opt finallyClause],
    all [block, first [all [repeated catchClause, opt finallyClause], finallyClause]]]]

def forPhrase : P :=
  kept .loop [.word "for", .sign "(", first [
    all [modifiers, type, variableName, .sign ":", expression],
    all [first [.rule .localDeclaration, all [commas expression, .sign ";"]], opt expression,
      .sign ";", commas expression]], .sign ")", statement]

/-- A declaration of variables inside a block. -/
def localPhrase : P :=
  all [modifiers, notAhead (words (typeWords ++ ["new", "this", "super", "true", "false", "null",
    "switch"])), type, .rule .declarators, .sign ";"]

def packagePhrase : P := all [annotations, .word "package", .rule .qualifiedName, .sign ";"]

def importPhrase : P :=
  all [.word "import", opt (.word "static"), .rule .qualifiedName,
    opt (all [.sign ".", .sign "*"]), .sign ";"]

def statementPhrase : P :=
  first [
    block,
    .sign ";",
    .rule .ifStatement,
    kept .loop [.word "while", condition, statement],
    .rule .forStatement,
    kept .loop [.word "do", statement, .word "while", condition, .sign ";"],
    .rule .tryStatement,
    kept .switch [.word "switch", condition, .rule .switchBlock],
    all [.word "synchronized", condition, block],
    all [.word "return", opt expression, .sign ";"],
    all [.word "break", opt anyName, .sign ";"],
    all [.word "continue", opt anyName, .sign ";"],
    all [.word "throw", expression, .sign ";"],
    all [.word "assert", expression, opt (all [.sign ":", expression]), .sign ";"],
    all [.word "yield", expression, .sign ";"],
    importPhrase,
    packagePhrase,
    .rule .typeDeclaration,
    .rule .moduleDeclaration,
    all [notAhead (words (statementWords ++ ["switch"])), first [
      all [.name (valueWords ++ modifierWords), .sign ":", statement],
      .rule .localDeclaration,
      all [notAhead (words modifierWords), expression, .sign ";"]]]]

def typeDeclarationPhrase : P :=
  all [modifiers, first [
    all [.word "class", anyName, typeParameters, opt (all [.word "extends", type]),
      typesAfter "implements", typesAfter "permits", .rule .classBody],
    all [.word "interface", anyName, typeParameters, typesAfter "extends", typesAfter "permits",
      .rule .interfaceBody],
    all [.word "enum", anyName, typesAfter "implements", .rule .enumBody],
    all [.word "record", anyName, typeParameters, .rule .parameters, typesAfter "implements",
      .rule .classBody],
    all [.sign "@", .joined (.word "interface"), anyName, .rule .annotationBody]]]

/-- Names of modules or packages. -/
def names : P := separated "," (.rule .qualifiedName)

def modulePhrase : P :=
  all [annotations, opt (.word "open"), .word "module", .rule .qualifiedName, braces [.many (first [
    all [.word "requires", .many (words ["transitive", "static"]), .rule .qualifiedName, .sign ";"],
    all [words ["exports", "opens"], .rule .qualifiedName, opt (all [.word "to", names]),
      .sign ";"],
    all [.word "uses", .rule .qualifiedName, .sign ";"],
    all [.word "provides", .rule .qualifiedName, .word "with", names, .sign ";"]])]]

/-- A declaration of fields, behind its modifiers. -/
def fieldPhrase : P :=
  all [notAhead (words typeWords), type, .rule .declarators, .sign ";"]

def memberPhrase : P :=
  first [
    .sign ";",
    block,
    all [.word "static", block],
    .rule .typeDeclaration,
    .rule .constructor,
    all [modifiers, .name (typeWords ++ primitives), block],
    .rule .method,
    all [modifiers, fieldPhrase]]

def interfacePhrase : P :=
  braces [.many (first [
    .sign ";",
    .rule .typeDeclaration,
    .rule .method,
    all [modifiers, fieldPhrase]])]

def methodPhrase : P :=
  kept .method [modifiers, notAhead (words typeWords),
    opt (all [.rule .typeParameters, annotations]), type, anyName, .rule .parameters, dimensions,
    throwing, first [block, .sign ";"]]

/-- The call of another constructor at the start of one. -/
def constructorCall : P :=
  all [first [all [typeArguments, words ["this", "super"]],
      all [valueName, .many (all [.sign ".", .name ["super"]]), .sign ".", typeArguments,
        .word "super"]],
    .rule .arguments, .sign ";"]

def constructorPhrase : P :=
  kept .method [modifiers, typeParameters, .name (typeWords ++ primitives), .rule .parameters,
    throwing, braces [opt constructorCall, .many statement]]

def enumPhrase : P :=
  braces [commas (all [modifiers, anyName, opt (.rule .arguments), opt (.rule .classBody)]),
    opt (.sign ","), opt (all [.sign ";", .many (.rule .member)])]

/-- The body of an annotation type. Its elements are no methods. -/
def annotationBodyPhrase : P :=
  braces [.many (first [
    .sign ";",
    .rule .typeDeclaration,
    all [modifiers, type, anyName, parens [], dimensions,
      opt (all [.word "default", .rule .elementValue]), .sign ";"],
    all [modifiers, fieldPhrase]])]

def modifiersPhrase : P :=
  repeated (first [.rule .annotationUse, words modifierWords, .word "sealed",
    all [.word "non", glued "-", .joined (.word "sealed")]])

def annotationPhrase : P :=
  all [.sign "@", notAhead (.joined (.word "interface")), .rule .qualifiedName,
    opt (parens [first [
      all [isAhead (all [anyName, .sign "="]),
        commas (all [anyName, .sign "=", .rule .elementValue])],
      opt (.rule .elementValue)]])]

def elementValuePhrase : P :=
  first [.rule .annotationUse, braces [commas (.rule .elementValue), opt (.sign ",")], expression]

/-- A type without dimensions. -/
def simpleTypePhrase : P :=
  all [annotations, first [
    words primitives,
    all [.name primitives, typeArguments, .many (all [.sign ".", annotations, .name ["class"],
      typeArguments])]]]

def typeArgumentsPhrase : P :=
  all [.sign "<", commas (first [
    all [annotations, .sign "?", opt (all [words ["extends", "super"], type])],
    type]), .sign ">"]

def typeParametersPhrase : P :=
  all [.sign "<", separated "," (all [annotations, anyName,
    opt (all [.word "extends", separated "&" type])]), .sign ">"]

def dimensionsPhrase : P := repeated (all [annotations, .sign "[", .sign "]"])

/-- A parameter: of the instance itself, with any number of values, or a plain one. -/
def parameter : P :=
  first [
    all [annotations, type, .many (all [anyName, .sign "."]), .word "this"],
    all [modifiers, type, .sign "...", annotations, variableName],
    all [modifiers, type, variableName]]

def parametersPhrase : P := parens [commas parameter]

/-- Variables with their initial values. -/
def declaratorsPhrase : P :=
  separated "," (all [variableName, opt (all [.sign "=", .rule .initializer])])

def initializerPhrase : P :=
  first [braces [commas (.rule .initializer), opt (.sign ",")], expression]

/-- An operator of short-circuit evaluation. -/
def shortCircuit : P :=
  .node .binary .plain (.node .shortCircuit .operator (oneSign ["&&", "||"]))

/-- Any other operator with two sides. -/
def binaryOperator : P :=
  first [
    all [.sign ">", glued ">", glued ">"],
    all [.sign ">", glued ">"],
    all [.sign ">", glued "="],
    oneSign [">", "<", "==", "!=", "<=", "<<", "+", "-", "*", "/", "%", "&", "|", "^"]]

def assignment : P :=
  first [
    oneSign ["=", "+=", "-=", "*=", "/=", "&=", "|=", "^=", "%=", "<<="],
    all [.sign ">", glued ">", glued ">", glued "="],
    all [.sign ">", glued ">", glued "="]]

/-- What goes on with an expression behind an operand. -/
def extensionPhrase : P :=
  first [
    all [shortCircuit, .rule .operand],
    all [.node .conditional .plain (.sign "?"), expression, .sign ":", expression],
    all [.word "instanceof", opt (.word "final"), first [
      .rule .recordPattern,
      all [type, opt (.name ["when"])]]],
    all [binaryOperator, .rule .operand]]

def expressionPhrase : P := all [.rule .operand, .many (.rule .extension)]

/-- An expression in the label of a `switch`, where an arrow does not belong to it. -/
def labelExpressionPhrase : P := all [.rule .plainOperand, .many (.rule .extension)]

def prefixSigns : P := oneSign ["+", "-", "!", "~", "++", "--"]

def operandPhrase : P :=
  first [.rule .lambda, .rule .plainOperand]

/-- An operand that is no lambda expression. -/
def plainOperandPhrase : P :=
  first [
    all [prefixSigns, .rule .operand],
    kept .switch [.word "switch", condition, .rule .switchBlock],
    .rule .cast,
    all [.rule .chain, first [
      all [.isAssignable, assignment, expression],
      .many (all [oneSign ["++", "--"], .assignable false])]]]

/-- What a method reference refers to. -/
def referred : P := all [typeArguments, first [.word "new", anyName]]

/-- A type in the place of a value: its class, or a method of it. -/
def typeValue : P :=
  all [.rule .simpleType, dimensions, first [
    all [.sign ".", .word "class"],
    all [.sign "::", referred]]]

/-- The start of a chain of accesses and calls. -/
def chainStart : P :=
  first [
    all [first [.literal, words ["true", "false", "null", "this"]], .assignable false],
    all [.word "super", isAhead (oneSign [".", "::"]), .assignable false],
    all [.rule .creation, .assignable false],
    all [parens [expression], .assignable false],
    all [typeValue, .assignable false],
    all [valueName, .rule .arguments, .assignable false],
    all [valueName, .assignable true]]

/-- One more access or call of a chain. -/
def chainLink : P :=
  first [
    all [.sign ".", first [
      all [.rule .creation, .assignable false],
      all [.word "this", .assignable true],
      all [.word "super", isAhead (oneSign [".", "::"]), .assignable false],
      all [typeArguments, .name ["new", "class", "super"], .rule .arguments, .assignable false],
      all [.name ["new", "class", "super"], .assignable true]]],
    all [.sign "[", expression, .sign "]", .assignable true],
    all [.sign "::", referred, .assignable false]]

def chainPhrase : P := all [chainStart, .many chainLink]

def lambdaPhrase : P :=
  all [first [
      valueName,
      parens [commas (all [valueName, isAhead (oneSign [",", ")"])])],
      .rule .parameters],
    .sign "->", first [block, expression], .assignable false]

def castPhrase : P :=
  all [parens [separated "&" type], .rule .operand, .assignable false]

def creationPhrase : P :=
  all [.word "new", typeArguments, .rule .simpleType, first [
    all [.rule .arguments, opt (.rule .classBody)],
    all [repeated (all [annotations, .sign "[", expression, .sign "]"]), dimensions],
    all [.rule .dimensions, isAhead (.sign "\x7b"), .rule .initializer]]]

def argumentsPhrase : P := parens [commas expression]

/-- What belongs to the labels of a `switch`. -/
def labelStart : P := words ["case", "default"]

/-- The body of a `switch`: rules with arrows, or groups of statements. -/
def switchBlockPhrase : P :=
  braces [first [
    all [repeated (all [.rule .label, .sign "->", first [
        block,
        all [.word "throw", expression, .sign ";"],
        all [notAhead (.word "throw"), expression, .sign ";"]]]), isAhead (.sign "\x7d")],
    .many (all [repeated (all [.rule .label, .sign ":"]),
      .many (all [notAhead labelStart, statement])])]]

def labelPhrase : P :=
  first [
    kept .switchLabel [.word "case", first [
      .rule .recordPattern,
      all [type, .name ["when"]],
      separated "," (.rule .labelExpression)], opt (all [.word "when", .rule .labelExpression])],
    kept .switchLabel [.word "default"]]

/-- A pattern that takes a record apart. -/
def recordPatternPhrase : P :=
  all [type, parens [commas (first [.rule .recordPattern, all [type, anyName], .word "_"])]]

/-- A name with dots. The last dot is left before a star. -/
def qualifiedNamePhrase : P := all [anyName, .many (all [.sign ".", anyName])]

end Grammar

open Grammar in
def grammar : Nonterminal → Phrase Nonterminal
  | .unit => unit
  | .statement => statementPhrase
  | .block => blockPhrase
  | .ifStatement => ifPhrase .plain
  | .elseIf => ifPhrase .alternative
  | .tryStatement => tryPhrase
  | .forStatement => forPhrase
  | .localDeclaration => localPhrase
  | .typeDeclaration => typeDeclarationPhrase
  | .moduleDeclaration => modulePhrase
  | .member => memberPhrase
  | .classBody => braces [.many (.rule .member)]
  | .interfaceBody => interfacePhrase
  | .method => methodPhrase
  | .constructor => constructorPhrase
  | .enumBody => enumPhrase
  | .annotationBody => annotationBodyPhrase
  | .modifiers => modifiersPhrase
  | .annotationUse => annotationPhrase
  | .elementValue => elementValuePhrase
  | .typeExpression => Phrase.all [.rule .simpleType, dimensions]
  | .simpleType => simpleTypePhrase
  | .typeArguments => typeArgumentsPhrase
  | .typeParameters => typeParametersPhrase
  | .dimensions => dimensionsPhrase
  | .parameters => parametersPhrase
  | .declarators => declaratorsPhrase
  | .initializer => initializerPhrase
  | .expression => expressionPhrase
  | .extension => extensionPhrase
  | .operand => operandPhrase
  | .labelExpression => labelExpressionPhrase
  | .plainOperand => plainOperandPhrase
  | .chain => chainPhrase
  | .lambda => lambdaPhrase
  | .cast => castPhrase
  | .creation => creationPhrase
  | .arguments => argumentsPhrase
  | .switchBlock => switchBlockPhrase
  | .label => labelPhrase
  | .recordPattern => recordPatternPhrase
  | .qualifiedName => qualifiedNamePhrase

end TagAudit.Java
