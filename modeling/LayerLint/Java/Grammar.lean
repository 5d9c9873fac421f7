import LayerLint.Syntax.Parser
import LayerLint.Java.Lexeme

/-! The grammar of Java. Statements and methods may stand at the top level, and a word is a keyword
only where the grammar expects it. -/

namespace LayerLint.Java

open Syntax Form

inductive Phrase where
  | statement | block | declaration | typeDeclaration | expression | ternary
  | binary (level : Nat) | unary | primary | lambda | type | simpleType | typeArguments
  | annotationUse | modifiers | elementValue | argumentList | parenthesized | classBody
  | classMember | switchBlock | text | variableValue | declarators | formalParameters
  | recordPattern | methodDeclaration | qualifiedName
  deriving DecidableEq

/-! ### Tokens -/

/-- The operators that contain other operators. -/
def operators : List String :=
  [">>>=", "<<=", ">>=", ">>>", "...", "->", "::", "++", "--", "&&", "||", "==", "!=", "<=", ">=",
   "+=", "-=", "*=", "/=", "&=", "|=", "^=", "%=", "<<", ">>", "@interface"]

/-- A word or an operator, read as far as it goes. -/
def tok (text : String) : Form Phrase :=
  if text.toList.head?.any isNameStart then .leaf (.token text) (scanWord isNamePart text)
  else .leaf (.token text) (scanOperator operators text)

instance : Coe String (Form Phrase) := ⟨tok⟩

/-- The characters of a mark, whatever follows. -/
def mark (text : String) : Form Phrase :=
  .leaf (.token text) (scanText text)

def anyOf (texts : List String) : Form Phrase :=
  .choice (texts.map tok)

/-- Words that are never names where a statement, an expression or a type begins. -/
def reserved : List String :=
  ["abstract", "assert", "boolean", "break", "byte", "case", "catch", "char", "class", "continue",
   "default", "do", "double", "else", "enum", "extends", "false", "final", "finally", "float",
   "for", "if", "implements", "import", "instanceof", "int", "interface", "long", "native", "new",
   "null", "package", "private", "protected", "public", "return", "short", "static", "strictfp",
   "super", "switch", "synchronized", "this", "throw", "throws", "transient", "true", "try",
   "void", "volatile", "while"]

/-- A name where keywords can stand as well. -/
def identifier : Form Phrase :=
  .leaf .identifier (scanName reserved)

/-- A name where only the words `except` are keywords. -/
def nameBut (except : List String) : Form Phrase :=
  .leaf .identifier (scanName except)

def typeName : Form Phrase :=
  .leaf .typeIdentifier (scanName reserved)

def thisWord : Form Phrase :=
  .leaf .this (scanWord isNamePart "this")

def superWord : Form Phrase :=
  .leaf .super (scanWord isNamePart "super")

def commaSep1 (form : Form Phrase) : Form Phrase :=
  .sepBy1 form ","

def commaSep (form : Form Phrase) : Form Phrase :=
  .optional (commaSep1 form)

/-! ### Literals -/

/-- A string literal or a text block, in pieces. -/
def text : Form Phrase :=
  let interpolation : Form Phrase :=
    .node .interpolation (.seq [.inner (some (.token "\\\x7b")) (scanText "\\\x7b"),
      .rule .expression, "\x7d"])
  let escape : Form Phrase := .inner (some .textEscape) scanEscape
  let part : Form Phrase := .inner (some .textPart) scanTextPart
  .node .text (.choice [
    .seq [mark "\"\"\"",
      .many (.choice [interpolation, part,
        .seq [.forbid (.inner none (scanText "\"\"\"")), .inner (some .textPart) scanQuotedPart],
        .inner none scanSilentEscape, escape]),
      .inner (some (.token "\"\"\"")) (scanText "\"\"\"")],
    .seq [mark "\"", .many (.choice [interpolation, part, escape]),
      .inner (some (.token "\"")) (scanText "\"")]])

def literal : Form Phrase :=
  .choice [
    .choice (numberScanners.map fun (kind, scan) => .leaf kind (scanNumber scan)),
    .leaf .boolean (scanFirst [scanWord isNamePart "true", scanWord isNamePart "false"]),
    .leaf .character scanCharacter,
    .rule .text,
    .leaf .null (scanWord isNamePart "null")]

/-! ### Names and types -/

def qualifiedName : Form Phrase :=
  .grow (nameBut []) (.onto .scopedIdentifier none (.seq [".", nameBut []]))

def annotations : Form Phrase :=
  .many (.rule .annotationUse)

def dimensions : Form Phrase :=
  .node .dimensions (.many1 (.seq [annotations, "[", "]"]))

def primitiveType : Form Phrase :=
  .choice [
    .leaf .voidType (scanWord isNamePart "void"),
    .leaf .integralType (scanFirst (["byte", "short", "int", "long", "char"].map
      (scanWord isNamePart))),
    .leaf .floatingType (scanFirst (["float", "double"].map (scanWord isNamePart))),
    .leaf .booleanType (scanWord isNamePart "boolean")]

def simpleType : Form Phrase :=
  .choice [primitiveType,
    .grow typeName (.choice [
      .onto .scopedTypeIdentifier none (.seq [".", annotations, typeName]),
      .onto .genericType none (.rule .typeArguments)])]

/-- A type without annotations in front. -/
def type : Form Phrase :=
  .grow (.rule .simpleType) (.onto .arrayType none dimensions)

/-- A type, with or without annotations. -/
def anyType : Form Phrase :=
  .choice [.rule .type, .node .annotatedType (.seq [.many1 (.rule .annotationUse), .rule .type])]

def typeArguments : Form Phrase :=
  let wildcard : Form Phrase :=
    .node .wildcard (.seq [annotations, mark "?",
      .optional (.choice [.seq ["extends", anyType], .seq [superWord, anyType]])])
  .node .typeArguments (.seq [mark "<", commaSep (.choice [anyType, wildcard]), mark ">"])

def typeParameters : Form Phrase :=
  let bound : Form Phrase := .node .typeBound (.seq ["extends", .sepBy1 anyType "&"])
  .node .typeParameters (.seq [mark "<",
    commaSep1 (.node .typeParameter (.seq [annotations, typeName, .optional bound])), mark ">"])

/-! ### Annotations and modifiers -/

def annotationUse : Form Phrase :=
  let head : List (Form Phrase) := ["@", .label .name (.rule .qualifiedName)]
  let pair : Form Phrase := .node .elementValuePair (.seq [nameBut [], "=", .rule .elementValue])
  let arguments : Form Phrase :=
    .node .annotationArguments (.choice [
      .seq ["(", commaSep pair, ")"],
      .seq ["(", .rule .elementValue, ")"]])
  .choice [.node .annotationCall (.seq (head ++ [arguments])), .node .annotationMark (.seq head)]

def elementValue : Form Phrase :=
  .choice [
    .node .elementValueArray (.seq ["\x7b", commaSep (.rule .elementValue), .optional ",", "\x7d"]),
    .rule .annotationUse, .rule .expression]

def modifiers : Form Phrase :=
  .node .modifiers (.many1 (.choice [.rule .annotationUse,
    anyOf ["public", "protected", "private", "abstract", "static", "final", "strictfp", "default",
      "synchronized", "native", "transient", "volatile", "sealed", "non-sealed"]]))

def someModifiers : Form Phrase :=
  .optional (.rule .modifiers)

/-! ### Expressions -/

def argumentList : Form Phrase :=
  .node .argumentList (.seq ["(", commaSep (.rule .expression), ")"])

def parenthesized : Form Phrase :=
  .node .parenthesizedExpression (.seq ["(", .rule .expression, ")"])

def arguments : Form Phrase :=
  .label .arguments (.rule .argumentList)

def memberName : Form Phrase :=
  nameBut ["new", "class", "this", "super"]

def creation : List (Form Phrase) :=
  ["new", annotations, .optional (.rule .typeArguments), annotations,
    .label .type (.rule .simpleType), arguments, .optional (.rule .classBody)]

def arrayCreation : Form Phrase :=
  let sized : Form Phrase :=
    .node .dimensionsExpression (.seq [annotations, "[", .rule .expression, "]"])
  let initializer : Form Phrase :=
    .node .arrayInitializer
      (.seq ["\x7b", commaSep (.rule .variableValue), .optional ",", "\x7d"])
  .node .arrayCreation (.seq ["new", annotations, .rule .simpleType,
    .choice [.seq [.many1 sized, .optional dimensions], .seq [dimensions, initializer]]])

def afterColons : Form Phrase :=
  .seq ["::", .optional (.rule .typeArguments), .choice ["new", nameBut ["new"]]]

def qualifiedCall : List (Form Phrase) :=
  [".", .optional (.seq [superWord, "."]), .optional (.rule .typeArguments),
    .label .name memberName, arguments]

def fieldPart : List (Form Phrase) :=
  [.optional (.seq [".", superWord]), ".", .label .field (.choice [memberName, thisWord])]

def primary : Form Phrase :=
  .grow
    (.choice [
      literal,
      .node .classLiteral (.seq [.rule .type, ".", "class"]),
      .node .methodReference (.seq [.only [.genericType, .arrayType, .integralType, .floatingType,
        .booleanType, .voidType] (.rule .type), afterColons]),
      .node .methodInvocation (.seq [.label .name identifier, arguments]),
      thisWord,
      .node .methodInvocation (.seq (.label .object superWord :: qualifiedCall)),
      .node .fieldAccess (.seq (.label .object superWord :: fieldPart)),
      .node .methodReference (.seq [superWord, afterColons]),
      identifier,
      .rule .parenthesized,
      .node .objectCreation (.seq creation),
      arrayCreation])
    (.choice [
      .onto .methodInvocation (some .object) (.seq qualifiedCall),
      .onto .objectCreation none (.seq (tok "." :: creation)),
      .onto .templateExpression none (.seq [".", .rule .text]),
      .onto .fieldAccess (some .object) (.seq fieldPart),
      .onto .arrayAccess (some .array) (.seq ["[", .rule .expression, "]"]),
      .onto .methodReference none afterColons])

def cast : Form Phrase :=
  .choice [
    .node .castExpression (.seq ["(", anyType, ")", .choice [.rule .lambda, .rule .unary]]),
    .node .castExpression (.seq ["(", .sepBy1 anyType "&", ")",
      .choice [.rule .lambda, .rule .primary]])]

def switchExpression : Form Phrase :=
  .node .switchExpression (.seq ["switch", .rule .parenthesized, .label .body (.rule .switchBlock)])

def unary : Form Phrase :=
  .grow
    (.choice [
      .node .updateExpression (.seq [anyOf ["++", "--"], .rule .unary]),
      .node .unaryExpression (.seq [anyOf ["+", "-", "!", "~"], .rule .unary]),
      cast, switchExpression, .rule .primary])
    (.onto .updateExpression none (anyOf ["++", "--"]))

/-- The binary operators by level, from the loosest. -/
def binaryOperators : List (List String) :=
  [["||"], ["&&"], ["|"], ["^"], ["&"], ["==", "!="], ["<", "<=", ">", ">="],
   ["<<", ">>", ">>>"], ["+", "-"], ["*", "/", "%"]]

/-- The level of `instanceof`, which stands with the comparisons. -/
def comparisonLevel : Nat := 6

/-- The operand to the right of an operator holds only tighter operators. -/
def binaryStep (level : Nat) : Form Phrase :=
  .onto .binaryExpression none
    (.seq [anyOf (binaryOperators.getD level []), .rule (.binary (level + 1))])

def instanceofStep : Form Phrase :=
  .onto .instanceofExpression none (.seq ["instanceof", .optional "final",
    .choice [.rule .recordPattern, .seq [anyType, .optional identifier]]])

def binaryFrom (level : Nat) : Form Phrase :=
  let steps := (List.range binaryOperators.length).filter (level ≤ ·) |>.map binaryStep
  .grow (.rule .unary)
    (.choice (steps ++ if level ≤ comparisonLevel then [instanceofStep] else []))

def binaryForms : Array (Form Phrase) :=
  (List.range (binaryOperators.length + 1)).map binaryFrom |>.toArray

def ternary : Form Phrase :=
  .grow (.rule (.binary 0)) (.onto .ternaryExpression none
    (.seq ["?", .rule .expression, ":", .rule .expression]))

def lambda : Form Phrase :=
  let inferred : Form Phrase := .node .inferredParameters (.seq ["(", commaSep1 identifier, ")"])
  .node .lambdaExpression (.seq [.choice [identifier, inferred, .rule .formalParameters], "->",
    .choice [.rule .block, .rule .expression]])

def expression : Form Phrase :=
  .choice [
    .rule .lambda,
    .node .assignmentExpression (.seq [
      .only [.identifier, .fieldAccess, .arrayAccess] (.rule .primary),
      anyOf ["=", "+=", "-=", "*=", "/=", "&=", "|=", "^=", "%=", "<<=", ">>=", ">>>="],
      .rule .expression]),
    .rule .ternary]

/-! ### Switches and patterns -/

def recordPattern : Form Phrase :=
  let component : Form Phrase :=
    .node .recordPatternComponent (.choice [.seq [.rule .type, nameBut []],
      .leaf .underscorePattern (scanWord isNamePart "_")])
  .node .recordPattern (.seq [
    .only [.typeIdentifier, .scopedTypeIdentifier, .genericType] (.rule .simpleType),
    .node .recordPatternBody (.seq ["(", commaSep (.choice [.rule .recordPattern, component]),
      ")"])])

def switchLabel : Form Phrase :=
  let pattern : Form Phrase :=
    .choice [.rule .recordPattern,
      .node .typePattern (.seq [.rule .type, nameBut ["when", "instanceof"]])]
  let guard : Form Phrase := .node .guard (.seq ["when", .rule .ternary])
  .node .switchLabel (.choice [
    .seq ["case", pattern, .optional guard],
    .seq ["case", commaSep1 (.rule .ternary), .optional guard],
    "default"])

def switchBlock : Form Phrase :=
  let rule : Form Phrase :=
    .node .switchRule (.seq [switchLabel, "->",
      .choice [.node .throwStatement (.seq ["throw", .rule .expression, ";"]), .rule .block,
        .node .expressionStatement (.seq [.rule .expression, ";"])]])
  let group : Form Phrase :=
    .node .switchGroup (.seq [.many1 (.seq [switchLabel, ":"]), .many (.rule .statement)])
  .node .switchBlock (.choice [
    .seq ["\x7b", .many1 rule, "\x7d"],
    .seq ["\x7b", .many group, "\x7d"]])

/-! ### Variables and parameters -/

def declaratorName : Form Phrase :=
  .seq [.label .name (nameBut ["instanceof", "this"]), .optional dimensions]

def variableValue : Form Phrase :=
  .choice [
    .node .arrayInitializer
      (.seq ["\x7b", commaSep (.rule .variableValue), .optional ",", "\x7d"]),
    .rule .expression]

def declarator : Form Phrase :=
  .node .variableDeclarator
    (.seq [declaratorName, .optional (.seq ["=", .rule .variableValue])])

def declarators : Form Phrase :=
  commaSep1 declarator

def formalParameters : Form Phrase :=
  let plain : Form Phrase :=
    .node .formalParameter (.seq [someModifiers, .rule .type, declaratorName])
  let spread : Form Phrase :=
    .node .spreadParameter (.seq [someModifiers, .rule .type, annotations, "...", declarator])
  let receiver : Form Phrase :=
    .node .receiverParameter
      (.seq [annotations, .rule .type, .many (.seq [identifier, "."]), thisWord])
  .node .formalParameters (.seq ["(", commaSep (.choice [receiver, spread, plain]), ")"])

def throws : Form Phrase :=
  .node .throws (.seq ["throws", commaSep1 anyType])

/-! ### Statements -/

def body (form : Form Phrase) : Form Phrase :=
  .label .body form

def labelName : Form Phrase :=
  .optional (nameBut [])

def catchClause : Form Phrase :=
  .node .catchClause (.seq ["catch", "(",
    .node .catchParameter (.seq [someModifiers, .node .catchType (.sepBy1 (.rule .type) "|"),
      declaratorName]),
    ")", body (.rule .block)])

def finallyClause : Form Phrase :=
  .node .finallyClause (.seq ["finally", .rule .block])

def resource : Form Phrase :=
  .node .resource (.choice [
    .seq [someModifiers, .rule .type, declaratorName, "=", .rule .expression],
    .only [.identifier, .fieldAccess] (.rule .primary)])

def tryStatement : Form Phrase :=
  .choice [
    .node .tryWithResources (.seq ["try",
      .node .resources (.seq ["(", .sepBy1 resource ";", .optional ";", ")"]),
      body (.rule .block), .many catchClause, .optional finallyClause]),
    .node .tryStatement (.seq ["try", body (.rule .block),
      .choice [.seq [.many1 catchClause, .optional finallyClause], finallyClause]])]

def localVariable : Form Phrase :=
  .node .localVariableDeclaration
    (.seq [someModifiers, .label .type (.rule .type), .rule .declarators, ";"])

def forStatement : Form Phrase :=
  .choice [
    .node .enhancedForStatement (.seq ["for", "(", someModifiers, .rule .type, declaratorName,
      ":", .rule .expression, ")", body (.rule .statement)]),
    .node .forStatement (.seq ["for", "(",
      .choice [localVariable, .seq [commaSep (.rule .expression), ";"]],
      .optional (.rule .expression), ";", commaSep (.rule .expression), ")",
      body (.rule .statement)])]

def statement : Form Phrase :=
  .choice [
    .rule .block,
    ";",
    .node .ifStatement (.seq ["if", .rule .parenthesized, .rule .statement,
      .optional (.seq ["else", .rule .statement])]),
    .node .whileStatement (.seq ["while", .rule .parenthesized, body (.rule .statement)]),
    forStatement,
    .node .doStatement (.seq ["do", body (.rule .statement), "while", .rule .parenthesized, ";"]),
    .node .breakStatement (.seq ["break", labelName, ";"]),
    .node .continueStatement (.seq ["continue", labelName, ";"]),
    .node .returnStatement (.seq ["return", .optional (.rule .expression), ";"]),
    .node .yieldStatement (.seq ["yield", .rule .expression, ";"]),
    .node .synchronizedStatement (.seq ["synchronized", .rule .parenthesized,
      body (.rule .block)]),
    .node .throwStatement (.seq ["throw", .rule .expression, ";"]),
    tryStatement,
    .node .assertStatement (.seq ["assert", .rule .expression,
      .optional (.seq [":", .rule .expression]), ";"]),
    switchExpression,
    .rule .declaration,
    .node .labeledStatement (.seq [identifier, ":", .rule .statement]),
    localVariable,
    .node .expressionStatement (.seq [.rule .expression, ";"])]

def block : Form Phrase :=
  .node .block (.seq ["\x7b", .many (.rule .statement), "\x7d"])

/-! ### Declarations -/

def typeList : Form Phrase :=
  .node .typeList (commaSep1 anyType)

def declaredName : Form Phrase :=
  .label .name (nameBut [])

def superInterfaces : Form Phrase :=
  .node .superInterfaces (.seq ["implements", typeList])

def permits : Form Phrase :=
  .node .permits (.seq ["permits", typeList])

def classDeclaration : Form Phrase :=
  .node .classDeclaration (.seq [someModifiers, "class", declaredName, .optional typeParameters,
    .optional (.node .superclass (.seq ["extends", anyType])), .optional superInterfaces,
    .optional permits, body (.rule .classBody)])

def recordDeclaration : Form Phrase :=
  .node .recordDeclaration (.seq [someModifiers, "record", declaredName, .optional typeParameters,
    .rule .formalParameters, .optional superInterfaces, body (.rule .classBody)])

def fieldDeclaration (kind : Kind) : Form Phrase :=
  .node kind (.seq [someModifiers, .label .type (.rule .type), .rule .declarators, ";"])

def interfaceBody : Form Phrase :=
  .node .interfaceBody (.seq ["\x7b",
    .many (.choice [";", .rule .typeDeclaration, .rule .methodDeclaration,
      fieldDeclaration .constantDeclaration]), "\x7d"])

def interfaceDeclaration : Form Phrase :=
  .node .interfaceDeclaration (.seq [someModifiers, "interface", declaredName,
    .optional typeParameters, .optional (.node .extendsInterfaces (.seq ["extends", typeList])),
    .optional permits, body interfaceBody])

def annotationTypeDeclaration : Form Phrase :=
  let element : Form Phrase :=
    .node .annotationElement (.seq [someModifiers, .label .type (.rule .type), declaredName, "(",
      ")", .optional dimensions, .optional (.seq ["default", .rule .elementValue]), ";"])
  .node .annotationTypeDeclaration (.seq [someModifiers, "@interface", declaredName,
    body (.node .annotationTypeBody (.seq ["\x7b",
      .many (.choice [";", .rule .typeDeclaration, element,
        fieldDeclaration .constantDeclaration]),
      "\x7d"]))])

def enumDeclaration : Form Phrase :=
  let constant : Form Phrase :=
    .node .enumConstant (.seq [someModifiers, declaredName, .optional arguments,
      .optional (body (.rule .classBody))])
  .node .enumDeclaration (.seq [someModifiers, "enum", declaredName, .optional superInterfaces,
    body (.node .enumBody (.seq ["\x7b", commaSep constant, .optional ",",
      .optional (.node .enumBodyDeclarations (.seq [";", .many (.rule .classMember)])),
      "\x7d"]))])

def moduleDeclaration : Form Phrase :=
  let names : Form Phrase := commaSep1 (.rule .qualifiedName)
  let directive (forms : List (Form Phrase)) : Form Phrase :=
    .node .moduleDirective (.seq (forms ++ [tok ";"]))
  .node .moduleDeclaration (.seq [annotations, .optional "open", "module",
    .label .name (.rule .qualifiedName),
    body (.node .moduleBody (.seq ["\x7b",
      .many (.choice [
        directive ["requires", .many (anyOf ["transitive", "static"]), .rule .qualifiedName],
        directive ["exports", .rule .qualifiedName, .optional (.seq ["to", names])],
        directive ["opens", .rule .qualifiedName, .optional (.seq ["to", names])],
        directive ["uses", .rule .qualifiedName],
        directive ["provides", .rule .qualifiedName, "with", names]]),
      "\x7d"]))])

def importDeclaration : Form Phrase :=
  .node .importDeclaration (.seq ["import",
    .choice [
      .seq ["static", .rule .qualifiedName],
      .rule .qualifiedName],
    .optional (.seq [".", .leaf .asterisk (scanText "*")]), ";"])

/-- The declarations that a type may have among its members. -/
def typeDeclaration : Form Phrase :=
  .choice [classDeclaration, recordDeclaration, interfaceDeclaration, annotationTypeDeclaration,
    enumDeclaration]

def declaration : Form Phrase :=
  .choice [
    .node .packageDeclaration (.seq [annotations, "package", .rule .qualifiedName, ";"]),
    importDeclaration, .rule .typeDeclaration, moduleDeclaration]

def methodDeclaration : Form Phrase :=
  .node .methodDeclaration (.seq [someModifiers,
    .optional (.seq [typeParameters, annotations]),
    .label .type (.rule .type), .label .name (nameBut []), .rule .formalParameters,
    .optional dimensions, .optional throws, .choice [body (.rule .block), ";"]])

def constructorDeclaration : Form Phrase :=
  let call : Form Phrase :=
    .node .constructorCall (.choice [
      .seq [.optional (.rule .typeArguments), .choice [thisWord, superWord], arguments, ";"],
      .seq [.label .object (.rule .primary), ".", .optional (.rule .typeArguments), superWord,
        arguments, ";"]])
  .node .constructorDeclaration (.seq [someModifiers, .optional typeParameters,
    .label .name identifier, .rule .formalParameters, .optional throws,
    body (.node .constructorBody (.seq ["\x7b", .optional call, .many (.rule .statement),
      "\x7d"]))])

def classMember : Form Phrase :=
  .choice [
    ";", .rule .block,
    .node .staticInitializer (.seq ["static", .rule .block]),
    constructorDeclaration,
    .node .compactConstructorDeclaration
      (.seq [someModifiers, .label .name identifier, body (.rule .block)]),
    .rule .typeDeclaration,
    .rule .methodDeclaration,
    fieldDeclaration .fieldDeclaration]

def classBody : Form Phrase :=
  .node .classBody (.seq ["\x7b", .many (.rule .classMember), "\x7d"])

def form : Phrase → Form Phrase
  | .statement => statement
  | .block => block
  | .declaration => declaration
  | .typeDeclaration => typeDeclaration
  | .expression => expression
  | .ternary => ternary
  | .binary level => binaryForms.getD level (.rule .unary)
  | .unary => unary
  | .primary => primary
  | .lambda => lambda
  | .type => type
  | .simpleType => simpleType
  | .typeArguments => typeArguments
  | .annotationUse => annotationUse
  | .modifiers => modifiers
  | .elementValue => elementValue
  | .argumentList => argumentList
  | .parenthesized => parenthesized
  | .classBody => classBody
  | .classMember => classMember
  | .switchBlock => switchBlock
  | .text => text
  | .variableValue => variableValue
  | .declarators => declarators
  | .formalParameters => formalParameters
  | .recordPattern => recordPattern
  | .methodDeclaration => methodDeclaration
  | .qualifiedName => qualifiedName

def grammar : Grammar Phrase where
  root := .many (.choice [.rule .methodDeclaration, .rule .statement])
  form := form
  isBlank := Text.isBlank
  extra := extra
  token := scanFirst ([scanName []] ++ numberScanners.map (scanNumber ·.2) ++
    [scanCharacter, scanStringToken] ++ operators.map (scanOperator operators))

end LayerLint.Java
