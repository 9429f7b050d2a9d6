/-!
The closed set of node kinds that a parsed file is made of, with the tag that each is written as.
-/

namespace StyleFold

inductive Kind where
  | moduleUnit | scriptUnit | invalid
  | blockStatement | emptyStatement | debuggerStatement | withStatement | returnStatement
  | labeledStatement | breakStatement | continueStatement | ifStatement | switchStatement
  | switchCase | throwStatement | tryStatement | catchClause | whileStatement | doWhileStatement
  | forStatement | forInStatement | forOfStatement | expressionStatement
  | classDeclaration | functionDeclaration | variableDeclaration | variableDeclarator
  | usingDeclaration
  | importDeclaration | importSpecifier | importDefaultSpecifier | importNamespaceSpecifier
  | exportDeclaration | exportNamedDeclaration | exportDefaultDeclaration
  | exportDefaultExpression | exportAllDeclaration | exportSpecifier | exportNamespaceSpecifier
  | exportDefaultSpecifier
  | thisExpression | arrayExpression | objectExpression | functionExpression
  | arrowFunctionExpression | classExpression | unaryExpression | updateExpression
  | binaryExpression | assignmentExpression | memberExpression | superPropExpression
  | conditionalExpression | callExpression | newExpression | sequenceExpression | templateLiteral
  | templateElement | taggedTemplateExpression | yieldExpression | awaitExpression | metaProperty
  | parenthesisExpression | optionalChainingExpression | privateName | superBase | importCall
  | identifier
  | stringLiteral | numericLiteral | booleanLiteral | nullLiteral | bigIntLiteral | regExpLiteral
  | spreadElement | keyValueProperty | assignmentProperty | getterProperty | setterProperty
  | methodProperty | computed | objectPattern | arrayPattern | restElement | assignmentPattern
  | keyValuePatternProperty | assignmentPatternProperty
  | parameter | decorator | classMethod | classProperty | privateMethod | privateProperty
  | classConstructor | staticBlock | autoAccessor
  | jsxElement | jsxFragment | jsxText | jsxEmptyExpression | jsxMemberExpression
  | jsxNamespacedName | jsxOpeningElement | jsxClosingElement | jsxOpeningFragment
  | jsxClosingFragment | jsxAttribute | jsxSpreadChild | jsxExpressionContainer
  | tsAsExpression | tsSatisfiesExpression | tsNonNullExpression | tsConstAssertion
  | tsTypeAssertion | tsInstantiation
  | tsInterfaceDeclaration | tsInterfaceBody | tsTypeAliasDeclaration | tsEnumDeclaration
  | tsEnumMember | tsModuleDeclaration | tsModuleBlock | tsNamespaceDeclaration
  | tsImportEqualsDeclaration | tsExternalModuleReference | tsExportAssignment
  | tsNamespaceExportDeclaration | tsTypeMark | tsTypeParameterDeclaration | tsTypeParameter
  | tsTypeParameterInstantiation | tsParameterProperty | tsQualifiedName | tsIndexSignature
  | tsKeywordType | tsThisType | tsFunctionType | tsConstructorType | tsTypeReference
  | tsTypeQuery | tsTypeLiteral | tsArrayType | tsTupleType | tsTupleElement | tsOptionalType
  | tsRestType | tsUnionType | tsIntersectionType | tsConditionalType | tsInferType
  | tsParenthesizedType | tsTypeOperator | tsIndexedAccessType | tsMappedType | tsLiteralType
  | tsTypePredicate | tsImportType | tsPropertySignature | tsGetterSignature | tsSetterSignature
  | tsMethodSignature | tsCallSignatureDeclaration | tsConstructSignatureDeclaration
  | tsExpressionWithTypeArguments | tsTemplateLiteralType
  deriving DecidableEq, Repr

namespace Kind

def all : List Kind :=
  [.moduleUnit, .scriptUnit, .invalid, .blockStatement, .emptyStatement, .debuggerStatement,
   .withStatement, .returnStatement, .labeledStatement, .breakStatement, .continueStatement,
   .ifStatement, .switchStatement, .switchCase, .throwStatement, .tryStatement, .catchClause,
   .whileStatement, .doWhileStatement, .forStatement, .forInStatement, .forOfStatement,
   .expressionStatement, .classDeclaration, .functionDeclaration, .variableDeclaration,
   .variableDeclarator, .usingDeclaration, .importDeclaration, .importSpecifier,
   .importDefaultSpecifier, .importNamespaceSpecifier, .exportDeclaration,
   .exportNamedDeclaration, .exportDefaultDeclaration, .exportDefaultExpression,
   .exportAllDeclaration, .exportSpecifier, .exportNamespaceSpecifier, .exportDefaultSpecifier,
   .thisExpression, .arrayExpression, .objectExpression, .functionExpression,
   .arrowFunctionExpression, .classExpression, .unaryExpression, .updateExpression,
   .binaryExpression, .assignmentExpression, .memberExpression, .superPropExpression,
   .conditionalExpression, .callExpression, .newExpression, .sequenceExpression, .templateLiteral,
   .templateElement, .taggedTemplateExpression, .yieldExpression, .awaitExpression, .metaProperty,
   .parenthesisExpression, .optionalChainingExpression, .privateName, .superBase, .importCall,
   .identifier, .stringLiteral, .numericLiteral, .booleanLiteral, .nullLiteral, .bigIntLiteral,
   .regExpLiteral, .spreadElement, .keyValueProperty, .assignmentProperty, .getterProperty,
   .setterProperty, .methodProperty, .computed, .objectPattern, .arrayPattern, .restElement,
   .assignmentPattern, .keyValuePatternProperty, .assignmentPatternProperty, .parameter,
   .decorator, .classMethod, .classProperty, .privateMethod, .privateProperty, .classConstructor,
   .staticBlock, .autoAccessor, .jsxElement, .jsxFragment, .jsxText, .jsxEmptyExpression,
   .jsxMemberExpression, .jsxNamespacedName, .jsxOpeningElement, .jsxClosingElement,
   .jsxOpeningFragment, .jsxClosingFragment, .jsxAttribute, .jsxSpreadChild,
   .jsxExpressionContainer, .tsAsExpression, .tsSatisfiesExpression, .tsNonNullExpression,
   .tsConstAssertion, .tsTypeAssertion, .tsInstantiation, .tsInterfaceDeclaration,
   .tsInterfaceBody, .tsTypeAliasDeclaration, .tsEnumDeclaration, .tsEnumMember,
   .tsModuleDeclaration, .tsModuleBlock, .tsNamespaceDeclaration, .tsImportEqualsDeclaration,
   .tsExternalModuleReference, .tsExportAssignment, .tsNamespaceExportDeclaration,
   .tsTypeMark, .tsTypeParameterDeclaration, .tsTypeParameter,
   .tsTypeParameterInstantiation, .tsParameterProperty, .tsQualifiedName, .tsIndexSignature,
   .tsKeywordType, .tsThisType, .tsFunctionType, .tsConstructorType, .tsTypeReference,
   .tsTypeQuery, .tsTypeLiteral, .tsArrayType, .tsTupleType, .tsTupleElement, .tsOptionalType,
   .tsRestType, .tsUnionType, .tsIntersectionType, .tsConditionalType, .tsInferType,
   .tsParenthesizedType, .tsTypeOperator, .tsIndexedAccessType, .tsMappedType, .tsLiteralType,
   .tsTypePredicate, .tsImportType, .tsPropertySignature, .tsGetterSignature, .tsSetterSignature,
   .tsMethodSignature, .tsCallSignatureDeclaration, .tsConstructSignatureDeclaration,
   .tsExpressionWithTypeArguments, .tsTemplateLiteralType]

def tag : Kind → String
  | .moduleUnit => "Module"
  | .scriptUnit => "Script"
  | .invalid => "Invalid"
  | .blockStatement => "BlockStatement"
  | .emptyStatement => "EmptyStatement"
  | .debuggerStatement => "DebuggerStatement"
  | .withStatement => "WithStatement"
  | .returnStatement => "ReturnStatement"
  | .labeledStatement => "LabeledStatement"
  | .breakStatement => "BreakStatement"
  | .continueStatement => "ContinueStatement"
  | .ifStatement => "IfStatement"
  | .switchStatement => "SwitchStatement"
  | .switchCase => "SwitchCase"
  | .throwStatement => "ThrowStatement"
  | .tryStatement => "TryStatement"
  | .catchClause => "CatchClause"
  | .whileStatement => "WhileStatement"
  | .doWhileStatement => "DoWhileStatement"
  | .forStatement => "ForStatement"
  | .forInStatement => "ForInStatement"
  | .forOfStatement => "ForOfStatement"
  | .expressionStatement => "ExpressionStatement"
  | .classDeclaration => "ClassDeclaration"
  | .functionDeclaration => "FunctionDeclaration"
  | .variableDeclaration => "VariableDeclaration"
  | .variableDeclarator => "VariableDeclarator"
  | .usingDeclaration => "UsingDeclaration"
  | .importDeclaration => "ImportDeclaration"
  | .importSpecifier => "ImportSpecifier"
  | .importDefaultSpecifier => "ImportDefaultSpecifier"
  | .importNamespaceSpecifier => "ImportNamespaceSpecifier"
  | .exportDeclaration => "ExportDeclaration"
  | .exportNamedDeclaration => "ExportNamedDeclaration"
  | .exportDefaultDeclaration => "ExportDefaultDeclaration"
  | .exportDefaultExpression => "ExportDefaultExpression"
  | .exportAllDeclaration => "ExportAllDeclaration"
  | .exportSpecifier => "ExportSpecifier"
  | .exportNamespaceSpecifier => "ExportNamespaceSpecifier"
  | .exportDefaultSpecifier => "ExportDefaultSpecifier"
  | .thisExpression => "ThisExpression"
  | .arrayExpression => "ArrayExpression"
  | .objectExpression => "ObjectExpression"
  | .functionExpression => "FunctionExpression"
  | .arrowFunctionExpression => "ArrowFunctionExpression"
  | .classExpression => "ClassExpression"
  | .unaryExpression => "UnaryExpression"
  | .updateExpression => "UpdateExpression"
  | .binaryExpression => "BinaryExpression"
  | .assignmentExpression => "AssignmentExpression"
  | .memberExpression => "MemberExpression"
  | .superPropExpression => "SuperPropExpression"
  | .conditionalExpression => "ConditionalExpression"
  | .callExpression => "CallExpression"
  | .newExpression => "NewExpression"
  | .sequenceExpression => "SequenceExpression"
  | .templateLiteral => "TemplateLiteral"
  | .templateElement => "TemplateElement"
  | .taggedTemplateExpression => "TaggedTemplateExpression"
  | .yieldExpression => "YieldExpression"
  | .awaitExpression => "AwaitExpression"
  | .metaProperty => "MetaProperty"
  | .parenthesisExpression => "ParenthesisExpression"
  | .optionalChainingExpression => "OptionalChainingExpression"
  | .privateName => "PrivateName"
  | .superBase => "Super"
  | .importCall => "Import"
  | .identifier => "Identifier"
  | .stringLiteral => "StringLiteral"
  | .numericLiteral => "NumericLiteral"
  | .booleanLiteral => "BooleanLiteral"
  | .nullLiteral => "NullLiteral"
  | .bigIntLiteral => "BigIntLiteral"
  | .regExpLiteral => "RegExpLiteral"
  | .spreadElement => "SpreadElement"
  | .keyValueProperty => "KeyValueProperty"
  | .assignmentProperty => "AssignmentProperty"
  | .getterProperty => "GetterProperty"
  | .setterProperty => "SetterProperty"
  | .methodProperty => "MethodProperty"
  | .computed => "Computed"
  | .objectPattern => "ObjectPattern"
  | .arrayPattern => "ArrayPattern"
  | .restElement => "RestElement"
  | .assignmentPattern => "AssignmentPattern"
  | .keyValuePatternProperty => "KeyValuePatternProperty"
  | .assignmentPatternProperty => "AssignmentPatternProperty"
  | .parameter => "Parameter"
  | .decorator => "Decorator"
  | .classMethod => "ClassMethod"
  | .classProperty => "ClassProperty"
  | .privateMethod => "PrivateMethod"
  | .privateProperty => "PrivateProperty"
  | .classConstructor => "Constructor"
  | .staticBlock => "StaticBlock"
  | .autoAccessor => "AutoAccessor"
  | .jsxElement => "JSXElement"
  | .jsxFragment => "JSXFragment"
  | .jsxText => "JSXText"
  | .jsxEmptyExpression => "JSXEmptyExpression"
  | .jsxMemberExpression => "JSXMemberExpression"
  | .jsxNamespacedName => "JSXNamespacedName"
  | .jsxOpeningElement => "JSXOpeningElement"
  | .jsxClosingElement => "JSXClosingElement"
  | .jsxOpeningFragment => "JSXOpeningFragment"
  | .jsxClosingFragment => "JSXClosingFragment"
  | .jsxAttribute => "JSXAttribute"
  | .jsxSpreadChild => "JSXSpreadChild"
  | .jsxExpressionContainer => "JSXExpressionContainer"
  | .tsAsExpression => "TsAsExpression"
  | .tsSatisfiesExpression => "TsSatisfiesExpression"
  | .tsNonNullExpression => "TsNonNullExpression"
  | .tsConstAssertion => "TsConstAssertion"
  | .tsTypeAssertion => "TsTypeAssertion"
  | .tsInstantiation => "TsInstantiation"
  | .tsInterfaceDeclaration => "TsInterfaceDeclaration"
  | .tsInterfaceBody => "TsInterfaceBody"
  | .tsTypeAliasDeclaration => "TsTypeAliasDeclaration"
  | .tsEnumDeclaration => "TsEnumDeclaration"
  | .tsEnumMember => "TsEnumMember"
  | .tsModuleDeclaration => "TsModuleDeclaration"
  | .tsModuleBlock => "TsModuleBlock"
  | .tsNamespaceDeclaration => "TsNamespaceDeclaration"
  | .tsImportEqualsDeclaration => "TsImportEqualsDeclaration"
  | .tsExternalModuleReference => "TsExternalModuleReference"
  | .tsExportAssignment => "TsExportAssignment"
  | .tsNamespaceExportDeclaration => "TsNamespaceExportDeclaration"
  | .tsTypeMark => "TsTypeAnnotation"
  | .tsTypeParameterDeclaration => "TsTypeParameterDeclaration"
  | .tsTypeParameter => "TsTypeParameter"
  | .tsTypeParameterInstantiation => "TsTypeParameterInstantiation"
  | .tsParameterProperty => "TsParameterProperty"
  | .tsQualifiedName => "TsQualifiedName"
  | .tsIndexSignature => "TsIndexSignature"
  | .tsKeywordType => "TsKeywordType"
  | .tsThisType => "TsThisType"
  | .tsFunctionType => "TsFunctionType"
  | .tsConstructorType => "TsConstructorType"
  | .tsTypeReference => "TsTypeReference"
  | .tsTypeQuery => "TsTypeQuery"
  | .tsTypeLiteral => "TsTypeLiteral"
  | .tsArrayType => "TsArrayType"
  | .tsTupleType => "TsTupleType"
  | .tsTupleElement => "TsTupleElement"
  | .tsOptionalType => "TsOptionalType"
  | .tsRestType => "TsRestType"
  | .tsUnionType => "TsUnionType"
  | .tsIntersectionType => "TsIntersectionType"
  | .tsConditionalType => "TsConditionalType"
  | .tsInferType => "TsInferType"
  | .tsParenthesizedType => "TsParenthesizedType"
  | .tsTypeOperator => "TsTypeOperator"
  | .tsIndexedAccessType => "TsIndexedAccessType"
  | .tsMappedType => "TsMappedType"
  | .tsLiteralType => "TsLiteralType"
  | .tsTypePredicate => "TsTypePredicate"
  | .tsImportType => "TsImportType"
  | .tsPropertySignature => "TsPropertySignature"
  | .tsGetterSignature => "TsGetterSignature"
  | .tsSetterSignature => "TsSetterSignature"
  | .tsMethodSignature => "TsMethodSignature"
  | .tsCallSignatureDeclaration => "TsCallSignatureDeclaration"
  | .tsConstructSignatureDeclaration => "TsConstructSignatureDeclaration"
  | .tsExpressionWithTypeArguments => "TsExpressionWithTypeArguments"
  | .tsTemplateLiteralType => "TsTemplateLiteralType"

def ofTag? (text : String) : Option Kind := all.find? fun kind => kind.tag == text

end Kind

end StyleFold
