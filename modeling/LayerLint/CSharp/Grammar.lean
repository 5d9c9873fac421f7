import LayerLint.Syntax.Parser
import LayerLint.CSharp.Lexeme

/-! The grammar of C#. Statements may stand at the top level, and the branches of conditional
directives are all read. -/

namespace LayerLint.CSharp

open Syntax Form

inductive Phrase where
  | topLevelItem | statement | block | typeDeclaration | member | memberList | expression
  | conditional | binary (level : Nat) | switchLevel | range | unary | primary | lambda | query
  | queryBody | type | plainType | simpleType | typeArguments | attributeList | argumentList
  | bracketedArguments | initializer | pattern | patternOperand | parameterList | functionBody
  | tuplePattern | condition | qualifiedName
  | itemBranches | statementBranches | memberBranches | constantBranches
  deriving DecidableEq

/-! ### Tokens -/

/-- The operators that contain other operators. -/
def operators : List String :=
  [">>>=", "<<=", ">>=", ">>>", "??=", "=>", "->", "::", "..", "++", "--", "&&", "||", "??", "==",
   "!=", "<=", ">=", "+=", "-=", "*=", "/=", "%=", "&=", "|=", "^=", "<<", ">>"]

/-- A word or an operator, read as far as it goes. -/
def tok (text : String) : Form Phrase :=
  if text.toList.head?.any isNameStart then .leaf (.token text) (scanWord isNamePart text)
  else .leaf (.token text) (scanOperator operators text)

instance : Coe String (Form Phrase) := ⟨tok⟩

/-- The characters of a mark, whatever follows. -/
def mark (text : String) : Form Phrase :=
  .leaf (.token text) (scanText text)

def anyOf (texts : List String) : Form Phrase :=
  .choice (texts.map tok)

def directive (word : String) : Form Phrase :=
  .leaf (.token ("#" ++ word)) (scanDirective word)

/-- Words that are never names where a statement, an expression or a type begins. -/
def reserved : List String :=
  ["abstract", "as", "await", "base", "bool", "break", "byte", "case", "catch", "char", "checked",
   "const", "continue", "decimal", "default", "delegate", "do", "double", "else", "extern",
   "false", "finally", "fixed", "float", "for", "foreach", "goto", "if", "in", "int", "internal",
   "is", "lock", "long", "new", "null", "object", "out", "override", "params", "private",
   "protected", "public", "readonly", "ref", "return", "sbyte", "sealed", "short", "sizeof",
   "stackalloc", "static", "string", "switch", "this", "throw", "true", "try", "typeof", "uint",
   "ulong", "unchecked", "unsafe", "ushort", "using", "virtual", "void", "volatile", "while"]

def identifier : Form Phrase :=
  .leaf .identifier (scanName reserved)

/-- A name where only the words `except` are keywords. -/
def nameBut (except : List String) : Form Phrase :=
  .leaf .identifier (scanName except)

/-- A name after a type: only the words that can go on after an expression are keywords. -/
def newName : Form Phrase :=
  nameBut ["is", "as", "switch", "with", "in", "when", "and", "or", "this", "operator"]

/-- A name for what a pattern matches. -/
def designation : Form Phrase :=
  .leaf .identifier (scanName (reserved ++ ["and", "or", "when", "not", "with"]))

def commaSep1 (form : Form Phrase) : Form Phrase :=
  .sepBy1 form ","

def commaSep (form : Form Phrase) : Form Phrase :=
  .optional (commaSep1 form)

/-- A token that is never taken to be merely missing at the end of its phrase. -/
def required (text : String) : Form Phrase :=
  .seq [tok text, .seq []]

/-- Items between braces, with or without a comma after the last. -/
def braced (item : Form Phrase) : List (Form Phrase) :=
  ["\x7b", commaSep item, .optional ",", "\x7d"]

/-! ### Conditional directives -/

def condition : Form Phrase :=
  let operand : Form Phrase :=
    .choice [
      .node .unaryExpression (.seq ["!", .rule .condition]),
      .node .parenthesizedExpression (.seq ["(", .rule .condition, ")"]),
      nameBut []]
  .grow operand (.onto .binaryExpression none
    (.seq [anyOf ["&&", "||", "==", "!="], .rule .condition]))

/-- Items under a conditional directive; `branches` is the rule of its further branches. -/
def conditionalOf (item : Form Phrase) (branches : Phrase) : Form Phrase :=
  .node .conditionalDirective (.seq [directive "if", .rule .condition, .many item,
    .optional (.rule branches), directive "endif"])

def branchesOf (item : Form Phrase) (branches : Phrase) : Form Phrase :=
  .choice [
    .node .alternativeDirective (.seq [directive "elif", .rule .condition, .many item,
      .optional (.rule branches)]),
    .node .alternativeDirective (.seq [directive "else", .many item])]

/-! ### Literals -/

def direct (kind : Kind) (scan : Scanner) : Form Phrase :=
  .inner (some kind) scan

def plainString : Form Phrase :=
  .node .text (.seq [mark "\"",
    .many (.choice [direct .textPart scanTextPart, direct .textEscape scanEscape,
      direct .textPart scanLooseEscape]),
    direct (.token "\"") (scanText "\""), .optional (direct .textBorder scanEncoding)])

/-- A raw string between `n` quotes. -/
def rawString (n : Nat) : Form Phrase :=
  .node .rawText (.seq [.leaf .textBorder (scanQuotes n), direct .textPart (scanRawPart n),
    direct .textBorder (scanClosingQuotes n), .optional (direct .textBorder scanEncoding)])

def interpolation (style : Style) : Form Phrase :=
  .node .interpolation (.seq [
    direct .textBorder (scanBraces '\x7b' style.braces),
    .rule .expression,
    .optional (.node .interpolationAlignment (.seq [",", .rule .expression])),
    .optional (.node .interpolationFormat (.seq [":", .inner (some (.token "")) scanFormat])),
    .leaf .textBorder (scanBraces '\x7d' style.braces)])

/-- An interpolated string has at least one piece. -/
def interpolated (start : String) (style : Style) : Form Phrase :=
  let quotes := match style with
    | .raw n _ => n
    | _ => 1
  let openQuotes := match style with
    | .raw n _ => scanQuotes n
    | _ => scanText "\""
  let escape : List (Form Phrase) := match style with
    | .regular => [direct .textEscape scanEscape, direct .textPart scanLooseEscape]
    | _ => []
  .node .interpolatedText (.seq [
    .leaf .textBorder (scanText start), direct .textBorder openQuotes,
    .many1 (.choice ([direct .textPart (scanInterpolatedPart style)] ++ escape ++
      [interpolation style])),
    direct .textBorder (scanClosingQuotes quotes)])

/-- A raw string has three quotes or more on each side. It is interpolated if a dollar or more
stand in front, and then as many braces open an interpolation. -/
def anyRawString : Form Phrase :=
  .depending fun src i =>
    let dollars := runLength '$' src i
    let quotes := runLength '"' src (i + dollars)
    if quotes < 3 then .choice []
    else if dollars == 0 then rawString quotes
    else interpolated (String.ofList (List.replicate dollars '$')) (.raw quotes dollars)

def stringLiteral : Form Phrase :=
  .choice [
    .leaf .verbatimText scanVerbatim, anyRawString, interpolated "$@" .verbatim,
    interpolated "@$" .verbatim, interpolated "$" .regular, plainString]

def literal : Form Phrase :=
  .choice [
    .leaf .integer scanInteger,
    .leaf .real scanProperReal,
    .leaf .character scanCharacter,
    stringLiteral,
    .leaf .boolean (scanFirst [scanWord isNamePart "true", scanWord isNamePart "false"]),
    .leaf .null (scanWord isNamePart "null")]

/-! ### Names and types -/

def typeArguments : Form Phrase :=
  .node .typeArguments (.choice [
    .seq [mark "<", commaSep1 (.rule .type), mark ">"],
    .seq [mark "<", .many ",", mark ">"]])

def genericName : Form Phrase :=
  .node .genericName (.seq [identifier, .rule .typeArguments])

/-- A name in a type: with or without type arguments. -/
def simpleTypeName : Form Phrase :=
  .choice [genericName, identifier]

def aliasQualified : Form Phrase :=
  .node .aliasQualifiedName (.seq [identifier, "::", simpleTypeName])

def qualifiedName : Form Phrase :=
  .grow (.choice [aliasQualified, simpleTypeName])
    (.onto .qualifiedName none (.seq [".", simpleTypeName]))

def predefinedType : Form Phrase :=
  .leaf .predefinedType (scanFirst (["bool", "byte", "char", "decimal", "double", "float", "int",
    "long", "nint", "nuint", "object", "sbyte", "short", "string", "uint", "ulong", "ushort",
    "void"].map (scanWord isNamePart)))

def tupleType : Form Phrase :=
  let element : Form Phrase := .node .tupleElement (.seq [.rule .type, .optional identifier])
  .node .tupleType (.seq ["(", element, .many1 (.seq [",", element]), ")"])

def functionPointer : Form Phrase :=
  .node .functionPointerType (.seq ["delegate", mark "*",
    .optional (anyOf ["managed", "unmanaged"]), mark "<", commaSep1 (.rule .type), mark ">"])

/-- A type without brackets, stars or question marks after it. -/
def simpleType : Form Phrase :=
  .choice [predefinedType, tupleType, functionPointer, .rule .qualifiedName]

def rank : Form Phrase :=
  .node .arrayRank (.seq ["[", .optional (.rule .expression),
    .many (.seq [",", .optional (.rule .expression)]), "]"])

/-- A type that does not end in a question mark. -/
def plainType : Form Phrase :=
  .grow (.rule .simpleType) (.choice [
    .onto .arrayType none rank,
    .onto .pointerType none (mark "*")])

def type : Form Phrase :=
  .choice [
    .node .refType (.seq ["ref", .optional "readonly", .rule .type]),
    .node .scopedType (.seq ["scoped", .rule .type]),
    .grow (.rule .simpleType) (.choice [
      .onto .arrayType none rank,
      .onto .nullableType none "?",
      .onto .pointerType none (mark "*")])]

/-- Marks after which a name with type arguments is no comparison. -/
def afterGeneric : Form Phrase :=
  .ahead (.choice (["(", ")", "]", "\x7d", ":", ";", ",", ".", "?", "[", "==", "!=", "|", "^",
    "&&", "||", "&"].map mark))

def simpleName : Form Phrase :=
  .choice [.seq [genericName, afterGeneric], identifier]

def memberName : Form Phrase :=
  .choice [.seq [genericName, afterGeneric], nameBut []]

/-! ### Attributes, parameters and arguments -/

def attributeUse : Form Phrase :=
  let argument : Form Phrase :=
    .node .attributeArgument (.seq [.optional (.choice [.seq [identifier, "="],
      .seq [identifier, ":"]]), .rule .expression])
  .node .attributeUse (.seq [.label .name (.rule .qualifiedName),
    .optional (.node .attributeArguments (.seq ["(", commaSep argument, ")"]))])

def attributeList : Form Phrase :=
  let target : Form Phrase := .node .attributeTarget (.seq [nameBut [], ":"])
  .node .attributeList (.seq ["[", .optional target, commaSep1 attributeUse, .optional ",", "]"])

def attributes : Form Phrase :=
  .many (.rule .attributeList)

def parameter : Form Phrase :=
  let value : Form Phrase := .optional (.seq ["=", .rule .expression])
  .node .parameter (.seq [attributes,
    .many (anyOf ["ref", "out", "in", "this", "params", "scoped", "readonly"]),
    .choice [.seq [.rule .type, .label .name identifier, value],
      .seq [.label .name identifier, value]]])

def parameterList : Form Phrase :=
  .node .parameterList (.seq ["(", commaSep parameter, ")"])

/-- A variable declared where an expression could stand. -/
def declaredVariable : Form Phrase :=
  .node .declarationExpression (.seq [.rule .type, identifier, .ahead (anyOf [",", ")"])])

def nameColon : Form Phrase :=
  .optional (.seq [identifier, ":"])

def argument : Form Phrase :=
  .node .argument (.seq [nameColon,
    .choice [
      .seq ["out", .choice [declaredVariable, .rule .expression]],
      .seq [anyOf ["ref", "in"], .rule .expression],
      .rule .expression]])

def argumentList : Form Phrase :=
  .node .argumentList (.seq ["(", commaSep argument, ")"])

def bracketedArguments : Form Phrase :=
  .node .bracketedArgumentList (.seq ["[", commaSep1 argument, "]"])

/-! ### Patterns -/

def patternOperand : Form Phrase :=
  let subpattern : Form Phrase :=
    .node .subpattern (.seq [.optional (.seq [.rule .primary, ":"]), .rule .pattern])
  let properties : Form Phrase := .node .propertyPatternClause (.seq (braced subpattern))
  let positions : Form Phrase :=
    .node .positionalPatternClause (.seq ["(", commaSep subpattern, ")"])
  let slice : Form Phrase :=
    .node .listPattern (.seq ["..", .optional (.rule .patternOperand)])
  .choice [
    .node .negatedPattern (.seq ["not", .rule .patternOperand]),
    .node .relationalPattern (.seq [anyOf ["<=", ">=", "<", ">"], .rule (.binary 8)]),
    .node .listPattern (.seq ["[", commaSep (.choice [slice, .rule .pattern]), .optional ",", "]",
      .optional designation]),
    .node .recursivePattern (.seq [.rule .plainType, .choice [.seq [positions, properties],
      positions, properties], .optional designation]),
    .node .recursivePattern (.seq [properties, .optional designation]),
    .node .parenthesizedPattern (.seq ["(", .rule .pattern, ")"]),
    .node .recursivePattern (.seq [positions, .optional properties, .optional designation]),
    .node .varPattern (.seq ["var", .choice [designation, .rule .tuplePattern]]),
    .node .declarationPattern (.seq [.rule .plainType, designation]),
    .leaf .discard (scanWord isNamePart "_"),
    .node .constantPattern (.rule (.binary 8)),
    .node .typePattern (.rule .plainType)]

def pattern : Form Phrase :=
  .grow
    (.grow (.rule .patternOperand) (.onto .andPattern none
      (.seq ["and", .rule .patternOperand])))
    (.onto .orPattern none (.seq ["or",
      .grow (.rule .patternOperand) (.onto .andPattern none
        (.seq ["and", .rule .patternOperand]))]))

def tuplePattern : Form Phrase :=
  .node .tuplePattern (.seq ["(", commaSep1 (.choice [identifier, .rule .tuplePattern]), ")"])

/-! ### Expressions -/

def initializer : Form Phrase :=
  let value : Form Phrase := .choice [.rule .initializer, .rule .expression]
  let target : Form Phrase :=
    .choice [.node .elementBinding (.rule .bracketedArguments), .rule .unary]
  .node .initializer (.seq (braced (.choice [
    .node .assignmentExpression (.seq [target, "=", value]), value])))

def arguments : Form Phrase :=
  .label .arguments (.rule .argumentList)

def arrayWithRanks : Form Phrase :=
  .grow (.node .arrayType (.seq [.rule .simpleType, .optional "?", .many (mark "*"), rank]))
    (.choice [.onto .arrayType none rank])

def creation : Form Phrase :=
  let member : Form Phrase := .choice [.seq [identifier, "=", .rule .expression], .rule .expression]
  .choice [
    .node .implicitObjectCreation (.seq ["new", .rule .argumentList,
      .optional (.rule .initializer)]),
    .node .implicitArrayCreation (.seq ["new", "[", .many ",", "]", .rule .initializer]),
    .node .anonymousObjectCreation (.seq (tok "new" :: braced member)),
    .node .arrayCreation (.seq ["new", arrayWithRanks, .optional (.rule .initializer)]),
    .node .objectCreation (.seq ["new", .label .type (.rule .simpleType),
      .choice [.seq [arguments, .optional (.rule .initializer)], .rule .initializer]])]

def ofType (kind : Kind) (word : String) : Form Phrase :=
  .node kind (.seq [word, "(", .rule .type, ")"])

def tuple : Form Phrase :=
  let element : Form Phrase :=
    .node .argument (.seq [nameColon, .choice [declaredVariable, .rule .expression]])
  .node .tupleExpression (.seq ["(", element, .many1 (.seq [",", element]), ")"])

def primary : Form Phrase :=
  .grow
    (.choice [
      literal,
      .seq [predefinedType, .ahead "."],
      aliasQualified,
      simpleName,
      "this", "base",
      .node .parenthesizedExpression (.seq ["(", .rule .expression, ")"]),
      tuple,
      creation,
      ofType .typeofExpression "typeof",
      ofType .sizeofExpression "sizeof",
      .node .defaultExpression (.seq ["default", .optional (.seq ["(", .rule .type, ")"])]),
      .node .checkedExpression (.seq [anyOf ["checked", "unchecked"], "(", .rule .expression, ")"]),
      .node .anonymousMethod (.seq [.many (anyOf ["async", "static"]), "delegate",
        .optional (.rule .parameterList), .rule .block]),
      .node .stackallocExpression (.seq ["stackalloc", arrayWithRanks,
        .optional (.rule .initializer)]),
      .node .implicitStackalloc (.seq ["stackalloc", "[", "]", .rule .initializer])])
    (.choice [
      .onto .memberAccess (some .expression)
        (.seq [anyOf [".", "->"], .label .name memberName]),
      .onto .invocation (some .function) arguments,
      .onto .elementAccess (some .expression) (.rule .bracketedArguments),
      .onto .conditionalAccess (some .condition) (.seq ["?", .choice [
        .node .memberBinding (.seq [".", .label .name memberName]),
        .node .elementBinding (.rule .bracketedArguments)]]),
      .onto .postfixUnary none (anyOf ["++", "--", "!"])])

def unary : Form Phrase :=
  .choice [
    .node .prefixUnary (.seq [anyOf ["++", "--", "+", "-", "!", "~", "^", "&", "*"],
      .rule .unary]),
    .node .awaitExpression (.seq ["await", .rule .unary]),
    .node .castExpression (.seq ["(", .rule .type, ")", .rule .unary]),
    .node .throwExpression (.seq ["throw", .rule .expression]),
    .node .refExpression (.seq ["ref", .rule .expression]),
    .rule .primary]

def range : Form Phrase :=
  .choice [
    .node .rangeExpression (.seq ["..", .optional (.rule .unary)]),
    .grow (.rule .unary) (.onto .rangeExpression none (.seq ["..", .optional (.rule .unary)]))]

def switchLevel : Form Phrase :=
  let guard : Form Phrase := .node .guard (.seq ["when", .rule .expression])
  let arm : Form Phrase :=
    .node .switchArm (.seq [.rule .pattern, .optional guard, "=>", .rule .expression])
  let setting : Form Phrase :=
    .node .withInitializer (.seq [.rule .primary, "=", .rule .expression])
  .grow (.rule .range) (.choice [
    .onto .switchExpression none (.seq (tok "switch" :: braced arm)),
    .onto .withExpression none (.seq (tok "with" :: braced setting))])

/-- The binary operators by level, from the loosest. -/
def binaryOperators : List (List String) :=
  [["??"], ["||"], ["&&"], ["|"], ["^"], ["&"], ["==", "!="], ["<", "<=", ">", ">="],
   ["<<", ">>", ">>>"], ["+", "-"], ["*", "/", "%"]]

/-- The level of the type tests, which stand with the comparisons. -/
def comparisonLevel : Nat := 7

/-- The operand to the right of an operator holds only tighter operators; `??` groups to the
right. -/
def binaryStep (level : Nat) : Form Phrase :=
  .onto .binaryExpression none (.seq [anyOf (binaryOperators.getD level []),
    .rule (.binary (if level == 0 then 0 else level + 1))])

def typeTests : List (Form Phrase) :=
  [.onto .isPattern none (.seq ["is", .rule .pattern]),
   .onto .asExpression none (.seq ["as", .rule .plainType])]

def binaryFrom (level : Nat) : Form Phrase :=
  let steps := (List.range binaryOperators.length).filter (level ≤ ·) |>.map binaryStep
  .grow (.rule .switchLevel) (.choice (steps ++ if level ≤ comparisonLevel then typeTests else []))

def binaryForms : Array (Form Phrase) :=
  (List.range (binaryOperators.length + 1)).map binaryFrom |>.toArray

def conditional : Form Phrase :=
  .grow (.rule (.binary 0)) (.onto .ternaryExpression none
    (.seq ["?", .rule .expression, ":", .rule .expression]))

def lambda : Form Phrase :=
  .node .lambdaExpression (.seq [attributes, .many (anyOf ["async", "static"]),
    .choice [.rule .parameterList, identifier], "=>", .choice [.rule .block, .rule .expression]])

def rangeVariable : Form Phrase :=
  .choice [.seq [.rule .type, identifier, "in"], .seq [identifier, "in"]]

def queryBody : Form Phrase :=
  let clause (forms : List (Form Phrase)) : Form Phrase := .node .queryClause (.seq forms)
  .seq [
    .many (.choice [
      clause ["from", rangeVariable, .rule .expression],
      clause ["let", identifier, "=", .rule .expression],
      clause ["where", .rule .expression],
      clause ["join", rangeVariable, .rule .expression, "on", .rule .expression, "equals",
        .rule .expression, .optional (.seq ["into", identifier])],
      clause ["orderby", commaSep1 (.seq [.rule .expression,
        .optional (anyOf ["ascending", "descending"])])]]),
    .choice [
      clause ["select", .rule .expression],
      clause ["group", .rule .expression, "by", .rule .expression]],
    .optional (.seq ["into", identifier, .rule .queryBody])]

def query : Form Phrase :=
  .node .queryExpression (.seq [
    .node .queryClause (.seq ["from", rangeVariable, .rule .expression]), .rule .queryBody])

def expression : Form Phrase :=
  .choice [
    .rule .lambda,
    .rule .query,
    .node .assignmentExpression (.seq [.rule .unary,
      anyOf ["=", "+=", "-=", "*=", "/=", "%=", "&=", "^=", "|=", "<<=", ">>=", ">>>=", "??="],
      .rule .expression]),
    .rule .conditional]

/-! ### Statements -/

def modifier : Form Phrase :=
  .node .modifier (anyOf ["abstract", "async", "const", "extern", "file", "fixed", "internal",
    "new", "override", "partial", "private", "protected", "public", "readonly", "required",
    "sealed", "static", "unsafe", "virtual", "volatile"])

def modifiers : Form Phrase :=
  .many modifier

def variableDeclaration : Form Phrase :=
  let value : Form Phrase := .seq ["=", .choice [.rule .initializer, .rule .expression]]
  let declarator : Form Phrase :=
    .node .variableDeclarator (.seq [.label .name newName,
      .optional (.rule .bracketedArguments), .optional value])
  .choice [
    .node .variableDeclaration (.seq [.leaf .implicitType (scanWord isNamePart "var"),
      .node .variableDeclarator (.seq [.rule .tuplePattern, value])]),
    .node .variableDeclaration (.seq [.rule .type, commaSep1 declarator])]

def typeParameters : Form Phrase :=
  .node .typeParameters (.seq [mark "<", commaSep1 (.node .typeParameter (.seq [attributes,
    .optional (anyOf ["in", "out"]), .label .name identifier])), mark ">"])

def typeConstraints : Form Phrase :=
  .node .typeConstraints (.seq ["where", identifier, ":",
    commaSep1 (.node .typeConstraint (.choice [
      .seq ["class", .optional "?"], "struct", .seq ["new", "(", ")"], "default", .rule .type]))])

def arrowClause : Form Phrase :=
  .node .arrowClause (.seq ["=>", .rule .expression])

def functionBody : Form Phrase :=
  .choice [.label .body (.rule .block), .seq [.label .body arrowClause, ";"], ";"]

def localFunction : Form Phrase :=
  .node .localFunction (.seq [attributes, modifiers, .label .type (.rule .type),
    .label .name identifier, .optional typeParameters, .rule .parameterList,
    .many typeConstraints, .rule .functionBody])

def localDeclaration : Form Phrase :=
  .node .localDeclarationStatement (.seq [.optional "await", .optional "using", modifiers,
    variableDeclaration, ";"])

def catchClause : Form Phrase :=
  .node .catchClause (.seq ["catch",
    .optional (.node .catchDeclaration (.seq ["(", .rule .type, .optional identifier, ")"])),
    .optional (.node .catchFilter (.seq ["when", "(", .rule .expression, ")"])),
    .label .body (.rule .block)])

def switchStatement : Form Phrase :=
  let guard : Form Phrase := .node .guard (.seq ["when", .rule .expression])
  let head : Form Phrase := .choice [.seq ["case", .rule .pattern, .optional guard], "default"]
  let section_ : Form Phrase := .node .switchSection (.seq [head, ":", .many (.rule .statement)])
  .node .switchStatement (.seq ["switch", "(", commaSep1 (.rule .expression), ")",
    .label .body (.node .switchBody (.seq ["\x7b", .many section_, "\x7d"]))])

def foreachStatement : Form Phrase :=
  .node .foreachStatement (.seq [.optional "await", "foreach", "(",
    .choice [
      .seq [.rule .type, .choice [identifier, .rule .tuplePattern], "in"],
      .seq [.rule .expression, "in"]],
    .rule .expression, ")", .label .body (.rule .statement)])

/-- What an expression has to be to stand as a statement. -/
def statementKinds : List Kind :=
  [.assignmentExpression, .invocation, .postfixUnary, .prefixUnary, .awaitExpression,
   .objectCreation, .parenthesizedExpression]

def statement : Form Phrase :=
  .choice [
    .rule .block,
    .node .emptyStatement ";",
    .node .ifStatement (.seq ["if", "(", .rule .expression, ")", .rule .statement,
      .optional (.seq ["else", .rule .statement])]),
    .node .whileStatement (.seq ["while", "(", .rule .expression, ")",
      .label .body (.rule .statement)]),
    .node .doStatement (.seq ["do", .label .body (.rule .statement), "while", "(",
      .rule .expression, ")", ";"]),
    .node .forStatement (.seq ["for", "(",
      .choice [.seq [variableDeclaration, ";"], .seq [commaSep (.rule .expression), ";"]],
      .optional (.rule .expression), ";", commaSep (.rule .expression), ")",
      .label .body (.rule .statement)]),
    foreachStatement,
    switchStatement,
    .node .returnStatement (.seq ["return", .optional (.rule .expression), ";"]),
    .node .breakStatement (.seq ["break", ";"]),
    .node .continueStatement (.seq ["continue", ";"]),
    .node .gotoStatement (.seq ["goto", .choice [.seq ["case", .rule .expression], "default",
      identifier], ";"]),
    .node .throwStatement (.seq ["throw", .optional (.rule .expression), ";"]),
    .node .tryStatement (.seq ["try", .label .body (.rule .block), .many catchClause,
      .optional (.node .finallyClause (.seq ["finally", .rule .block]))]),
    .node .lockStatement (.seq ["lock", "(", .rule .expression, ")", .rule .statement]),
    .node .usingStatement (.seq [.optional "await", "using", "(",
      .choice [.seq [variableDeclaration, ")"], .seq [.rule .expression, ")"]],
      .label .body (.rule .statement)]),
    .node .fixedStatement (.seq ["fixed", "(", variableDeclaration, ")", .rule .statement]),
    .node .unsafeStatement (.seq ["unsafe", .rule .block]),
    .node .checkedStatement (.seq [anyOf ["checked", "unchecked"], .rule .block]),
    .node .yieldStatement (.choice [.seq ["yield", "return", .rule .expression, ";"],
      .seq ["yield", "break", ";"]]),
    .node .labeledStatement (.seq [identifier, ":", .rule .statement]),
    conditionalOf (.rule .statement) .statementBranches,
    localFunction,
    localDeclaration,
    .node .expressionStatement (.seq [.only statementKinds (.rule .expression), ";"])]

def block : Form Phrase :=
  .node .block (.seq ["\x7b", .many (.rule .statement), "\x7d"])

/-! ### Declarations -/

def declaredName : Form Phrase :=
  .label .name (nameBut [])

def baseList : Form Phrase :=
  .node .baseList (.seq [":", commaSep1 (.seq [.rule .type, .optional (.rule .argumentList)])])

/-- The head of a type declaration after its keyword, and its body. -/
def typeRest : List (Form Phrase) :=
  [declaredName, .optional typeParameters, .optional (.rule .parameterList), .optional baseList,
    .many typeConstraints,
    .choice [.seq [.label .body (.rule .memberList), .optional ";"], ";"]]

def enumDeclaration : Form Phrase :=
  let constant : Form Phrase :=
    .node .enumConstant (.seq [attributes, declaredName,
      .optional (.seq ["=", .rule .expression])])
  .node .enumDeclaration (.seq [attributes, modifiers, "enum", declaredName, .optional baseList,
    .label .body (.node .enumMemberList (.seq ["\x7b",
      .many (.choice [conditionalOf (.seq [constant, .optional ","]) .constantBranches,
        .seq [constant, .choice [",", .ahead "\x7d", .ahead (directive "if")]]]),
      required "\x7d"])), .optional ";"])

def delegateDeclaration : Form Phrase :=
  .node .delegateDeclaration (.seq [attributes, modifiers, "delegate", .rule .type, declaredName,
    .optional typeParameters, .rule .parameterList, .many typeConstraints, ";"])

def typeDeclaration : Form Phrase :=
  let declared (kind : Kind) (keywords : List (Form Phrase)) : Form Phrase :=
    .node kind (.seq ([attributes, modifiers] ++ keywords ++ typeRest))
  .choice [
    declared .classDeclaration ["class"],
    declared .structDeclaration [.optional "ref", .optional "partial", "struct"],
    declared .interfaceDeclaration ["interface"],
    declared .recordDeclaration ["record", anyOf ["class", "struct"]],
    declared .recordDeclaration ["record"],
    enumDeclaration,
    delegateDeclaration]

def usingDirective : Form Phrase :=
  .node .usingDirective (.seq [.optional "global", "using",
    .choice [
      .seq [.optional "unsafe", identifier, "=", .rule .type, ";"],
      .seq [.optional "static", .optional "unsafe", .rule .qualifiedName, ";"]]])

def namespaceDeclaration : Form Phrase :=
  .node .namespaceDeclaration (.seq ["namespace", .label .name (.rule .qualifiedName),
    .label .body (.rule .memberList), .optional ";"])

/-- The interface that a member belongs to explicitly. -/
def explicitInterface : Form Phrase :=
  .optional (.node .explicitInterface (.many1 (.seq [simpleTypeName, "."])))

def accessors : Form Phrase :=
  .node .accessorList (.seq ["\x7b",
    .many (.node .accessorDeclaration (.seq [attributes, modifiers,
      anyOf ["get", "set", "init", "add", "remove"], .rule .functionBody])),
    "\x7d"])

def constructorDeclaration : Form Phrase :=
  let chained : Form Phrase :=
    .node .constructorInitializer (.seq [":", anyOf ["base", "this"], .rule .argumentList])
  .node .constructorDeclaration (.seq [attributes, modifiers, .label .name identifier,
    .rule .parameterList, .optional chained, .rule .functionBody])

def methodDeclaration : Form Phrase :=
  .node .methodDeclaration (.seq [attributes, modifiers, .label .type (.rule .type),
    explicitInterface, .label .name identifier, .optional typeParameters, .rule .parameterList,
    .many typeConstraints, .rule .functionBody])

def propertyDeclaration : Form Phrase :=
  .node .propertyDeclaration (.seq [attributes, modifiers, .label .type (.rule .type),
    explicitInterface, .label .name identifier,
    .choice [
      .seq [accessors, .optional (.seq ["=", .rule .expression, ";"])],
      .seq [arrowClause, ";"]]])

def indexerDeclaration : Form Phrase :=
  .node .indexerDeclaration (.seq [attributes, modifiers, .label .type (.rule .type),
    explicitInterface, "this",
    .node .bracketedParameterList (.seq ["[", commaSep1 parameter, "]"]),
    .choice [accessors, .seq [arrowClause, ";"]]])

def eventDeclaration : Form Phrase :=
  .choice [
    .node .eventDeclaration (.seq [attributes, modifiers, "event", .rule .type, explicitInterface,
      .label .name identifier, accessors]),
    .node .eventFieldDeclaration (.seq [attributes, modifiers, "event", variableDeclaration, ";"])]

def operatorDeclaration : Form Phrase :=
  let sign := anyOf ["!", "~", "++", "--", "true", "false", "+", "-", "*", "/", "%", "^", "|",
    "&", "<<", ">>", ">>>", "==", "!=", ">", "<", ">=", "<="]
  .choice [
    .node .operatorDeclaration (.seq [attributes, modifiers, .rule .type, explicitInterface,
      "operator", .optional "checked", sign, .rule .parameterList, .rule .functionBody]),
    .node .conversionDeclaration (.seq [attributes, modifiers, anyOf ["implicit", "explicit"],
      explicitInterface, "operator", .optional "checked", .rule .type, .rule .parameterList,
      .rule .functionBody])]

def member : Form Phrase :=
  .choice [
    conditionalOf (.rule .member) .memberBranches,
    .rule .typeDeclaration,
    namespaceDeclaration,
    usingDirective,
    constructorDeclaration,
    .node .destructorDeclaration (.seq [attributes, .optional "extern", "~",
      .label .name identifier, .rule .parameterList, .rule .functionBody]),
    eventDeclaration,
    operatorDeclaration,
    indexerDeclaration,
    methodDeclaration,
    propertyDeclaration,
    .node .fieldDeclaration (.seq [attributes, modifiers, variableDeclaration, ";"])]

def memberList : Form Phrase :=
  .node .declarationList (.seq ["\x7b", .many (.rule .member), required "\x7d"])

def topLevelItem : Form Phrase :=
  .choice [
    .node .externAlias (.seq ["extern", "alias", .label .name identifier, ";"]),
    usingDirective,
    .node .globalAttribute (.seq ["[", anyOf ["assembly", "module"], ":", commaSep1 attributeUse,
      .optional ",", "]"]),
    conditionalOf (.rule .topLevelItem) .itemBranches,
    namespaceDeclaration,
    .node .fileNamespaceDeclaration (.seq ["namespace", .label .name (.rule .qualifiedName), ";"]),
    .rule .typeDeclaration,
    .node .globalStatement (.rule .statement)]

def form : Phrase → Form Phrase
  | .topLevelItem => topLevelItem
  | .statement => statement
  | .block => block
  | .typeDeclaration => typeDeclaration
  | .member => member
  | .memberList => memberList
  | .expression => expression
  | .conditional => conditional
  | .binary level => binaryForms.getD level (.rule .switchLevel)
  | .switchLevel => switchLevel
  | .range => range
  | .unary => unary
  | .primary => primary
  | .lambda => lambda
  | .query => query
  | .queryBody => queryBody
  | .type => type
  | .plainType => plainType
  | .simpleType => simpleType
  | .typeArguments => typeArguments
  | .attributeList => attributeList
  | .argumentList => argumentList
  | .bracketedArguments => bracketedArguments
  | .initializer => initializer
  | .pattern => pattern
  | .patternOperand => patternOperand
  | .parameterList => parameterList
  | .functionBody => functionBody
  | .tuplePattern => tuplePattern
  | .condition => condition
  | .qualifiedName => qualifiedName
  | .itemBranches => branchesOf (.rule .topLevelItem) .itemBranches
  | .statementBranches => branchesOf (.rule .statement) .statementBranches
  | .memberBranches => branchesOf (.rule .member) .memberBranches
  | .constantBranches => branchesOf (.seq [identifier, .optional ","]) .constantBranches

def grammar : Grammar Phrase where
  root := .many (.rule .topLevelItem)
  form := form
  isBlank := isSpace
  extra := extra
  token := scanFirst ([scanName [], scanProperReal, scanInteger, scanCharacter, scanStringToken] ++
    operators.map (scanOperator operators))

end LayerLint.CSharp
