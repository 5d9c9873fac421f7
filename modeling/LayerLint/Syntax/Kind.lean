/-! The kinds of syntax tree nodes of the two source languages, and the labels under which a node
holds some of its children. -/

namespace LayerLint.Syntax

/-- What a node of a syntax tree is. Punctuation and keywords are `token`s; every other kind is
named. A kind that both languages have stands once. -/
inductive Kind where
  | token (text : String)
  -- texts as a whole and names
  | compilationUnit | identifier | typeIdentifier | scopedIdentifier | scopedTypeIdentifier
  | qualifiedName | aliasQualifiedName | genericName | asterisk
  -- extras
  | lineComment | blockComment | comment | directive | directiveArgument
  -- literals
  | decimalInteger | hexInteger | octalInteger | binaryInteger | decimalFloat | hexFloat
  | integer | real | boolean | character | null | text | verbatimText | rawText
  | textPart | textEscape | textBorder | interpolation | interpolatedText | interpolationFormat
  | interpolationAlignment
  -- types
  | voidType | integralType | floatingType | booleanType | genericType | arrayType | annotatedType
  | typeArguments | typeParameters | typeParameter | typeBound | wildcard | dimensions
  | predefinedType | nullableType | pointerType | functionPointerType | tupleType | tupleElement
  | refType | scopedType | implicitType | arrayRank
  -- declarations
  | packageDeclaration | importDeclaration | moduleDeclaration | moduleBody | moduleDirective
  | usingDirective | externAlias | namespaceDeclaration | fileNamespaceDeclaration
  | classDeclaration | interfaceDeclaration | enumDeclaration | recordDeclaration
  | annotationTypeDeclaration | structDeclaration | recordStructDeclaration | delegateDeclaration
  | classBody | interfaceBody | enumBody | enumBodyDeclarations | annotationTypeBody
  | declarationList | enumMemberList | enumConstant | modifiers | modifier | annotationMark
  | annotationCall | annotationArguments | elementValuePair | elementValueArray | superclass
  | superInterfaces | extendsInterfaces | permits | typeList | fieldDeclaration
  | constantDeclaration | annotationElement | methodDeclaration | constructorDeclaration
  | compactConstructorDeclaration | constructorBody | constructorCall | staticInitializer
  | formalParameters | formalParameter | spreadParameter | receiverParameter | inferredParameters
  | throws | variableDeclarator | variableDeclaration | destructorDeclaration
  | propertyDeclaration | indexerDeclaration | eventDeclaration | eventFieldDeclaration
  | operatorDeclaration | conversionDeclaration | accessorList | accessorDeclaration
  | constructorInitializer | parameterList | bracketedParameterList | parameter | baseList
  | primaryConstructorBase | typeConstraints | typeConstraint | constructorConstraint
  | explicitInterface | attributeList | attributeUse | attributeTarget | attributeArguments
  | attributeArgument | globalAttribute | globalStatement | arrowClause
  -- statements
  | block | expressionStatement | labeledStatement | ifStatement | whileStatement | forStatement
  | enhancedForStatement | foreachStatement | doStatement | breakStatement | continueStatement
  | returnStatement | yieldStatement | gotoStatement | throwStatement | assertStatement
  | synchronizedStatement | tryStatement | tryWithResources | resources | resource | catchClause
  | catchParameter | catchType | catchDeclaration | catchFilter | finallyClause
  | localVariableDeclaration | localDeclarationStatement | localFunction | switchStatement
  | switchBlock | switchBody | switchGroup | switchRule | switchLabel | switchSection | guard
  | lockStatement | usingStatement | fixedStatement | unsafeStatement | checkedStatement
  | emptyStatement | conditionalDirective | alternativeDirective
  -- expressions
  | this | super | argumentList | bracketedArgumentList | argument | parenthesizedExpression
  | assignmentExpression | binaryExpression | unaryExpression | updateExpression
  | ternaryExpression | castExpression | instanceofExpression | lambdaExpression
  | switchExpression | switchArm | methodInvocation | fieldAccess | arrayAccess
  | methodReference | objectCreation | arrayCreation | dimensionsExpression | arrayInitializer
  | classLiteral | templateExpression | invocation | memberAccess | elementAccess
  | conditionalAccess | memberBinding | elementBinding | postfixUnary | prefixUnary
  | awaitExpression | asExpression | isExpression | isPattern | rangeExpression
  | withExpression | withInitializer | tupleExpression | declarationExpression | refExpression
  | throwExpression | checkedExpression | defaultExpression | typeofExpression
  | sizeofExpression | stackallocExpression | implicitStackalloc | implicitArrayCreation
  | implicitObjectCreation | anonymousObjectCreation | anonymousMethod | initializer
  | interpolatedExpression | queryExpression | queryClause | collectionExpression
  | collectionElement | refValueExpression
  -- patterns
  | typePattern | recordPattern | recordPatternBody | recordPatternComponent | underscorePattern
  | constantPattern | declarationPattern | varPattern | discard | recursivePattern
  | propertyPatternClause | positionalPatternClause | subpattern | relationalPattern
  | negatedPattern | andPattern | orPattern | listPattern | parenthesizedPattern
  | tuplePattern
  -- a part of the text that fits nowhere
  | fault
  deriving DecidableEq, Repr

/-- Punctuation and keywords have no name. -/
def Kind.isNamed : Kind → Bool
  | .token _ => false
  | _ => true

/-- Kinds that open a nesting level: bodies, blocks and bracketed groups. -/
def Kind.opensScope : Kind → Bool
  | .classBody | .interfaceBody | .enumBody | .annotationTypeBody | .declarationList | .block
  | .constructorBody | .switchBlock | .switchBody | .argumentList | .parenthesizedExpression
  | .arrayInitializer | .initializer | .lambdaExpression => true
  | _ => false

/-- The roles a child can have in its parent, as far as they are asked for. -/
inductive Label where
  | name | body | object | field | arguments | type | function | expression | array | condition
  deriving DecidableEq, Repr

end LayerLint.Syntax
