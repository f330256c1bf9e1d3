/-
**The grammar of Python sources.**

The rules cover Python 3 and the statements of Python 2 that differ from it. They are written so
that a source with errors can still be read in part: a block may be empty, and what may stand
where is a little wider than the language allows.

* `ruleDefs` is the list of all rules, the first one being the rule for a whole source.
-/

import TagAudit.Grammar.Rule

namespace TagAudit.Grammar

open Rule

private def shown (name : String) (body : Rule) : RuleDef := ⟨name, .shown, body⟩
private def hidden (name : String) (body : Rule) : RuleDef := ⟨name, .hidden, body⟩
private def family (name : String) (body : Rule) : RuleDef := ⟨name, .family, body⟩
private def inlined (name : String) (body : Rule) : RuleDef := ⟨name, .inlined, body⟩

/-- Statements on a single line. -/
def statementRules : List RuleDef :=
  [ shown "module" (many (ref "statement")),
    hidden "statement" (choice [ref "simpleStatements", ref "compoundStatement"]),
    hidden "simpleStatements"
     (seq [sepBy ";" (ref "simpleStatement"), opt (tok ";"), term .newline]),
    inlined "simpleStatement" (choice
       [ref "futureImportStatement", ref "importStatement", ref "importFromStatement",
        ref "printStatement", ref "assertStatement", ref "expressionStatement",
        ref "returnStatement", ref "deleteStatement", ref "raiseStatement", ref "passStatement",
        ref "breakStatement", ref "continueStatement", ref "globalStatement",
        ref "nonlocalStatement", ref "execStatement", ref "typeAliasStatement"]),
    shown "importStatement" (seq [tok "import", ref "importList"]),
    shown "importPrefix" (many1 (tok ".")),
    shown "relativeImport" (seq [ref "importPrefix", opt (ref "dottedName")]),
    shown "futureImportStatement" (seq
       [tok "from", tok "__future__", tok "import",
        choice [ref "importList", seq [tok "(", ref "importList", tok ")"]]]),
    shown "importFromStatement" (seq
       [tok "from", field "moduleName" (choice [ref "relativeImport", ref "dottedName"]),
        tok "import",
        choice
          [ref "wildcardImport", ref "importList", seq [tok "(", ref "importList", tok ")"]]]),
    hidden "importList" (seq
       [sepBy "," (field "name" (choice [ref "dottedName", ref "aliasedImport"])),
        opt (tok ",")]),
    shown "aliasedImport"
     (seq [field "name" (ref "dottedName"), tok "as", field "alias" (term .word)]),
    shown "wildcardImport" (tok "*"),
    shown "printStatement" (choice
       [atLevel 1 (seq
          [tok "print", ref "chevron",
           many (seq [tok ",", field "argument" (ref "expression")]), opt (tok ",")]),
        atLevel (-3) (weigh (-1) (seq
          [tok "print", sepBy "," (field "argument" (ref "expression")), opt (tok ",")]))]),
    shown "chevron" (seq [tok ">>", ref "expression"]),
    shown "assertStatement" (seq [tok "assert", sepBy "," (ref "expression")]),
    shown "expressionStatement" (choice
       [ref "expression", seq [sepBy "," (ref "expression"), opt (tok ",")], ref "assignment",
        ref "augmentedAssignment", ref "yield"]),
    shown "namedExpression" (seq
       [field "name" (ref "namedExpressionLhs"), tok ":=", field "value" (ref "expression")]),
    hidden "namedExpressionLhs" (choice [term .word, ref "keywordIdentifier"]),
    shown "returnStatement" (seq [tok "return", opt (ref "expressions")]),
    shown "deleteStatement" (seq [tok "del", ref "expressions"]),
    inlined "expressions" (choice [ref "expression", ref "expressionList"]),
    shown "raiseStatement" (seq
       [tok "raise", opt (ref "expressions"),
        opt (seq [tok "from", field "cause" (ref "expression")])]),
    shown "passStatement" (leftward 0 (tok "pass")) ]

/-- Statements with blocks. -/
def blockRules : List RuleDef :=
  [ shown "breakStatement" (leftward 0 (tok "break")),
    shown "continueStatement" (leftward 0 (tok "continue")),
    inlined "compoundStatement" (choice
       [ref "ifStatement", ref "forStatement", ref "whileStatement", ref "tryStatement",
        ref "withStatement", ref "functionDefinition", ref "classDefinition",
        ref "decoratedDefinition", ref "matchStatement"]),
    shown "ifStatement" (seq
       [tok "if", field "condition" (ref "expression"), tok ":",
        field "consequence" (ref "suite"), many (field "alternative" (ref "elifClause")),
        opt (field "alternative" (ref "elseClause"))]),
    shown "elifClause" (seq
       [tok "elif", field "condition" (ref "expression"), tok ":",
        field "consequence" (ref "suite")]),
    shown "elseClause" (seq [tok "else", tok ":", field "body" (ref "suite")]),
    shown "matchStatement" (seq
       [tok "match", sepBy "," (field "subject" (ref "expression")), opt (tok ","), tok ":",
        field "body" (shownAs "block" (ref "matchBlock"))]),
    hidden "matchBlock" (choice
       [seq [term .indent, many (field "alternative" (ref "caseClause")), term .dedent],
        term .newline]),
    shown "caseClause" (seq
       [tok "case", sepBy "," (ref "casePattern"), opt (tok ","),
        opt (field "guard" (ref "ifClause")), tok ":", field "consequence" (ref "suite")]),
    shown "forStatement" (seq
       [opt (tok "async"), tok "for", field "left" (ref "leftHandSide"), tok "in",
        field "right" (ref "expressions"), tok ":", field "body" (ref "suite"),
        field "alternative" (opt (ref "elseClause"))]),
    shown "whileStatement" (seq
       [tok "while", field "condition" (ref "expression"), tok ":", field "body" (ref "suite"),
        opt (field "alternative" (ref "elseClause"))]),
    shown "tryStatement" (seq
       [tok "try", tok ":", field "body" (ref "suite"), many (ref "exceptClause"),
        opt (ref "elseClause"), opt (ref "finallyClause")]),
    shown "exceptClause" (seq
       [tok "except", opt (term .handlerStar),
        opt (sepBy "," (field "value" (ref "expression"))), tok ":", ref "suite"]),
    shown "finallyClause" (seq [tok "finally", tok ":", ref "suite"]) ]

/-- Definitions, decorators and the statements around them. -/
def definitionRules : List RuleDef :=
  [ shown "withStatement" (seq
       [opt (tok "async"), tok "with", ref "withClause", tok ":", field "body" (ref "suite")]),
    shown "withClause" (choice
       [seq [sepBy "," (ref "withItem"), opt (tok ",")],
        seq [tok "(", sepBy "," (ref "withItem"), opt (tok ","), tok ")"]]),
    shown "withItem" (weigh 1 (field "value" (ref "expression"))),
    shown "functionDefinition" (seq
       [opt (tok "async"), tok "def", field "name" (term .word),
        field "typeParameters" (opt (ref "typeParameter")),
        field "parameters" (ref "parameters"),
        opt (seq [tok "->", field "returnType" (ref "type")]), tok ":",
        field "body" (ref "suite")]),
    shown "parameters" (seq [tok "(", opt (ref "parameterList"), tok ")"]),
    shown "lambdaParameters" (ref "parameterList"),
    shown "listSplat" (seq [tok "*", ref "expression"]),
    shown "dictionarySplat" (seq [tok "**", ref "expression"]),
    shown "globalStatement" (seq [tok "global", sepBy "," (term .word)]),
    shown "nonlocalStatement" (seq [tok "nonlocal", sepBy "," (term .word)]),
    shown "execStatement" (seq
       [tok "exec", field "code" (choice [ref "string", term .word]),
        opt (seq [tok "in", sepBy "," (ref "expression")])]),
    shown "typeAliasStatement"
     (weigh 1 (seq [tok "type", field "left" (ref "type"), tok "=", field "right" (ref "type")])),
    shown "classDefinition" (seq
       [tok "class", field "name" (term .word),
        field "typeParameters" (opt (ref "typeParameter")),
        field "superclasses" (opt (ref "argumentList")), tok ":", field "body" (ref "suite")]),
    shown "typeParameter" (seq [tok "[", sepBy "," (ref "type"), opt (tok ","), tok "]"]),
    shown "parenthesizedListSplat" (atLevel 1 (seq
       [tok "(",
        choice
          [shownAs "parenthesizedExpression" (ref "parenthesizedListSplat"), ref "listSplat"],
        tok ")"])),
    shown "argumentList" (seq
       [tok "(",
        opt (sepBy "," (choice
          [ref "expression", ref "listSplat", ref "dictionarySplat",
           shownAs "parenthesizedExpression" (ref "parenthesizedListSplat"),
           ref "keywordArgument"])),
        opt (tok ","), tok ")"]),
    shown "decoratedDefinition" (seq
       [many1 (ref "decorator"),
        field "definition" (choice [ref "classDefinition", ref "functionDefinition"])]),
    shown "decorator" (seq [tok "@", ref "expression", term .newline]),
    inlined "suite" (choice
       [shownAs "block" (ref "simpleStatements"), seq [term .indent, ref "block"],
        shownAs "block" (term .newline)]),
    shown "block" (seq [many (ref "statement"), term .dedent]) ]

/-- Lists of expressions, dotted names and the patterns of `case`. -/
def caseRules : List RuleDef :=
  [ shown "expressionList" (rightward 0 (seq
       [ref "expression",
        choice [tok ",", seq [many1 (seq [tok ",", ref "expression"]), opt (tok ",")]]])),
    shown "dottedName" (atLevel 1 (sepBy "." (term .word))),
    shown "casePattern" (atLevel 1 (choice
       [shownAs "asPattern" (ref "caseAsPattern"), ref "keywordPattern", ref "simplePattern"])),
    hidden "simplePattern" (atLevel 1 (choice
       [ref "classPattern", ref "splatPattern", ref "unionPattern",
        shownAs "listPattern" (ref "caseListPattern"),
        shownAs "tuplePattern" (ref "caseTuplePattern"), ref "dictPattern", ref "string",
        ref "concatenatedString", tok "True", tok "False", tok "None",
        seq [opt (tok "-"), choice [term .integer, term .float]], ref "complexPattern",
        ref "dottedName", tok "_"])),
    hidden "caseAsPattern" (seq [ref "casePattern", tok "as", term .word]),
    shown "unionPattern"
     (rightward 0 (seq
       [ref "simplePattern", many1 (leftward 0 (seq [tok "|", ref "simplePattern"]))])),
    hidden "caseListPattern"
     (seq [tok "[", opt (seq [sepBy "," (ref "casePattern"), opt (tok ",")]), tok "]"]),
    hidden "caseTuplePattern"
     (seq [tok "(", opt (seq [sepBy "," (ref "casePattern"), opt (tok ",")]), tok ")"]),
    shown "dictPattern" (seq
       [tok "\x7b",
        opt (seq [sepBy "," (choice [ref "keyValuePattern", ref "splatPattern"]), opt (tok ",")]),
        tok "\x7d"]),
    hidden "keyValuePattern"
     (seq [field "key" (ref "simplePattern"), tok ":", field "value" (ref "casePattern")]),
    shown "keywordPattern" (seq [term .word, tok "=", ref "simplePattern"]),
    shown "splatPattern"
     (atLevel 1 (seq [choice [tok "*", tok "**"], choice [term .word, tok "_"]])),
    shown "classPattern" (seq
       [ref "dottedName", tok "(", opt (seq [sepBy "," (ref "casePattern"), opt (tok ",")]),
        tok ")"]),
    shown "complexPattern" (atLevel 1 (seq
       [opt (tok "-"), choice [term .integer, term .float], choice [tok "+", tok "-"],
        choice [term .integer, term .float]])) ]

/-- Parameters and the targets of assignments. -/
def targetRules : List RuleDef :=
  [ hidden "parameterList" (seq [sepBy "," (ref "parameter"), opt (tok ",")]),
    hidden "patterns" (seq [sepBy "," (ref "pattern"), opt (tok ",")]),
    family "parameter" (choice
       [term .word, ref "typedParameter", ref "defaultParameter", ref "typedDefaultParameter",
        ref "listSplatPattern", ref "tuplePattern", ref "keywordSeparator",
        ref "positionalSeparator", ref "dictionarySplatPattern"]),
    family "pattern" (choice
       [term .word, ref "keywordIdentifier", ref "subscript", ref "attribute",
        ref "listSplatPattern", ref "tuplePattern", ref "listPattern"]),
    shown "tuplePattern" (seq [tok "(", opt (ref "patterns"), tok ")"]),
    shown "listPattern" (seq [tok "[", opt (ref "patterns"), tok "]"]),
    shown "defaultParameter" (seq
       [field "name" (choice [term .word, ref "tuplePattern"]), tok "=",
        field "value" (ref "expression")]),
    shown "typedDefaultParameter" (atLevel (-1) (seq
       [field "name" (term .word), tok ":", field "type" (ref "type"), tok "=",
        field "value" (ref "expression")])),
    shown "listSplatPattern" (seq
       [tok "*", choice [term .word, ref "keywordIdentifier", ref "subscript", ref "attribute"]]),
    shown "dictionarySplatPattern" (seq
       [tok "**",
        choice [term .word, ref "keywordIdentifier", ref "subscript", ref "attribute"]]),
    shown "asPattern" (leftward 0 (seq
       [ref "expression", tok "as",
        field "alias" (shownAs "asPatternTarget" (ref "expression"))])) ]

/-- Operators. -/
def operatorRules : List RuleDef :=
  [ hidden "expressionWithinForInClause"
     (choice [ref "expression", shownAs "lambda" (ref "lambdaWithinForInClause")]),
    family "expression" (choice
       [ref "comparisonOperator", ref "notOperator", ref "booleanOperator", ref "lambda",
        ref "primaryExpression", ref "conditionalExpression", ref "namedExpression",
        ref "asPattern"]),
    family "primaryExpression" (choice
       [ref "await", ref "binaryOperator", term .word, ref "keywordIdentifier", ref "string",
        ref "concatenatedString", term .integer, term .float, tok "True", tok "False",
        tok "None", ref "unaryOperator", ref "attribute", ref "subscript", ref "call",
        ref "list", ref "listComprehension", ref "dictionary", ref "dictionaryComprehension",
        ref "set", ref "setComprehension", ref "tuple", ref "parenthesizedExpression",
        ref "generatorExpression", tok "...", shownAs "listSplat" (ref "listSplatPattern")]),
    shown "notOperator" (atLevel 12 (seq [tok "not", field "argument" (ref "expression")])),
    shown "booleanOperator" (choice
       [leftward 11 (seq
          [field "left" (ref "expression"), field "operator" (tok "and"),
           field "right" (ref "expression")]),
        leftward 10 (seq
          [field "left" (ref "expression"), field "operator" (tok "or"),
           field "right" (ref "expression")])]),
    shown "binaryOperator" (choice
       [leftward 18 (seq
          [field "left" (ref "primaryExpression"), field "operator" (tok "+"),
           field "right" (ref "primaryExpression")]),
        leftward 18 (seq
          [field "left" (ref "primaryExpression"), field "operator" (tok "-"),
           field "right" (ref "primaryExpression")]),
        leftward 19 (seq
          [field "left" (ref "primaryExpression"), field "operator" (tok "*"),
           field "right" (ref "primaryExpression")]),
        leftward 19 (seq
          [field "left" (ref "primaryExpression"), field "operator" (tok "@"),
           field "right" (ref "primaryExpression")]),
        leftward 19 (seq
          [field "left" (ref "primaryExpression"), field "operator" (tok "/"),
           field "right" (ref "primaryExpression")]),
        leftward 19 (seq
          [field "left" (ref "primaryExpression"), field "operator" (tok "%"),
           field "right" (ref "primaryExpression")]),
        leftward 19 (seq
          [field "left" (ref "primaryExpression"), field "operator" (tok "//"),
           field "right" (ref "primaryExpression")]),
        rightward 21 (seq
          [field "left" (ref "primaryExpression"), field "operator" (tok "**"),
           field "right" (ref "primaryExpression")]),
        leftward 14 (seq
          [field "left" (ref "primaryExpression"), field "operator" (tok "|"),
           field "right" (ref "primaryExpression")]),
        leftward 15 (seq
          [field "left" (ref "primaryExpression"), field "operator" (tok "&"),
           field "right" (ref "primaryExpression")]),
        leftward 16 (seq
          [field "left" (ref "primaryExpression"), field "operator" (tok "^"),
           field "right" (ref "primaryExpression")]),
        leftward 17 (seq
          [field "left" (ref "primaryExpression"), field "operator" (tok "<<"),
           field "right" (ref "primaryExpression")]),
        leftward 17 (seq
          [field "left" (ref "primaryExpression"), field "operator" (tok ">>"),
           field "right" (ref "primaryExpression")])]),
    shown "unaryOperator" (atLevel 20 (seq
       [field "operator" (choice [tok "+", tok "-", tok "~"]),
        field "argument" (ref "primaryExpression")])),
    hidden "notIn" (seq [tok "not", tok "in"]),
    hidden "isNot" (seq [tok "is", tok "not"]),
    shown "comparisonOperator" (leftward 13 (seq
       [ref "primaryExpression",
        many1 (seq
          [field "operators" (choice
             [tok "<", tok "<=", tok "==", tok "!=", tok ">=", tok ">", tok "<>", tok "in",
              tokenAs "not in" (ref "notIn"), tok "is", tokenAs "is not" (ref "isNot")]),
           ref "primaryExpression"])])) ]

/-- Assignments, calls, subscripts and types. -/
def expressionRules : List RuleDef :=
  [ shown "lambda" (atLevel (-2) (seq
       [tok "lambda", field "parameters" (opt (ref "lambdaParameters")), tok ":",
        field "body" (ref "expression")])),
    shown "lambdaWithinForInClause" (seq
       [tok "lambda", field "parameters" (opt (ref "lambdaParameters")), tok ":",
        field "body" (ref "expressionWithinForInClause")]),
    shown "assignment" (seq
       [field "left" (ref "leftHandSide"),
        choice
          [seq [tok "=", field "right" (ref "rightHandSide")],
           seq [tok ":", field "type" (ref "type")],
           seq
             [tok ":", field "type" (ref "type"), tok "=", field "right" (ref "rightHandSide")]]]),
    shown "augmentedAssignment" (seq
       [field "left" (ref "leftHandSide"),
        field "operator" (choice
          [tok "+=", tok "-=", tok "*=", tok "/=", tok "@=", tok "//=", tok "%=", tok "**=",
           tok ">>=", tok "<<=", tok "&=", tok "^=", tok "|="]),
        field "right" (ref "rightHandSide")]),
    inlined "leftHandSide" (choice [ref "pattern", ref "patternList"]),
    shown "patternList" (seq
       [ref "pattern",
        choice [tok ",", seq [many1 (seq [tok ",", ref "pattern"]), opt (tok ",")]]]),
    hidden "rightHandSide" (choice
       [ref "expression", ref "expressionList", ref "assignment", ref "augmentedAssignment",
        ref "patternList", ref "yield"]),
    shown "yield"
     (rightward 0 (seq
       [tok "yield", opt (choice [seq [tok "from", ref "expression"], ref "expressions"])])),
    shown "attribute"
     (atLevel 22 (seq
       [field "object" (ref "primaryExpression"), tok ".", field "attribute" (term .word)])),
    shown "subscript" (atLevel 22 (seq
       [field "value" (ref "primaryExpression"), tok "[",
        sepBy "," (field "subscript" (choice [ref "expression", ref "slice"])), opt (tok ","),
        tok "]"])),
    shown "slice" (seq
       [opt (ref "expression"), tok ":", opt (ref "expression"),
        opt (seq [tok ":", opt (ref "expression")])]),
    shown "call" (atLevel 22 (seq
       [field "function" (ref "primaryExpression"),
        field "arguments" (choice [ref "generatorExpression", ref "argumentList"])])),
    shown "typedParameter" (atLevel (-1) (seq
       [choice [term .word, ref "listSplatPattern", ref "dictionarySplatPattern"], tok ":",
        field "type" (ref "type")])),
    shown "type" (choice
       [atLevel 1 (ref "expression"), ref "splatType", ref "genericType", ref "unionType",
        ref "constrainedType", ref "memberType"]),
    shown "splatType" (atLevel 1 (seq [choice [tok "*", tok "**"], term .word])),
    shown "genericType"
     (atLevel 1
       (seq [choice [term .word, shownAs "identifier" (tok "type")], ref "typeParameter"])),
    shown "unionType" (leftward 0 (seq [ref "type", tok "|", ref "type"])),
    shown "constrainedType" (rightward 0 (seq [ref "type", tok ":", ref "type"])),
    shown "memberType" (seq [ref "type", tok ".", term .word]),
    shown "keywordArgument" (seq
       [field "name" (choice [term .word, ref "keywordIdentifier"]), tok "=",
        field "value" (ref "expression")]) ]

/-- Collections and comprehensions. -/
def collectionRules : List RuleDef :=
  [ shown "list" (seq [tok "[", opt (ref "collectionElements"), tok "]"]),
    shown "set" (seq [tok "\x7b", ref "collectionElements", tok "\x7d"]),
    shown "tuple" (seq [tok "(", opt (ref "collectionElements"), tok ")"]),
    shown "dictionary" (seq
       [tok "\x7b", opt (sepBy "," (choice [ref "pair", ref "dictionarySplat"])), opt (tok ","),
        tok "\x7d"]),
    shown "pair"
     (seq [field "key" (ref "expression"), tok ":", field "value" (ref "expression")]),
    shown "listComprehension"
     (seq [tok "[", field "body" (ref "expression"), ref "comprehensionClauses", tok "]"]),
    shown "dictionaryComprehension"
     (seq [tok "\x7b", field "body" (ref "pair"), ref "comprehensionClauses", tok "\x7d"]),
    shown "setComprehension" (seq
       [tok "\x7b", field "body" (ref "expression"), ref "comprehensionClauses", tok "\x7d"]),
    shown "generatorExpression"
     (seq [tok "(", field "body" (ref "expression"), ref "comprehensionClauses", tok ")"]),
    hidden "comprehensionClauses"
     (seq [ref "forInClause", many (choice [ref "forInClause", ref "ifClause"])]),
    shown "parenthesizedExpression"
     (atLevel 1 (seq [tok "(", choice [ref "expression", ref "yield"], tok ")"])),
    hidden "collectionElements" (seq
       [sepBy "," (choice
          [ref "expression", ref "yield", ref "listSplat", ref "parenthesizedListSplat"]),
        opt (tok ",")]),
    shown "forInClause" (leftward 0 (seq
       [opt (tok "async"), tok "for", field "left" (ref "leftHandSide"), tok "in",
        field "right" (sepBy "," (ref "expressionWithinForInClause")), opt (tok ",")])),
    shown "ifClause" (seq [tok "if", ref "expression"]),
    shown "conditionalExpression"
     (rightward (-1) (seq
       [ref "expression", tok "if", ref "expression", tok "else", ref "expression"])) ]

/-- Strings and the names that are words elsewhere. -/
def literalRules : List RuleDef :=
  [ shown "concatenatedString" (seq [ref "string", many1 (ref "string")]),
    shown "string" (seq
       [term .stringStart, many (choice [ref "interpolation", ref "stringContent"]),
        term .stringEnd]),
    shown "stringContent" (rightward 0 (many1 (choice
       [term .escapedBrace, term .escapeSequence, term .bareBackslash, term .stringContent]))),
    shown "interpolation" (seq
       [tok "\x7b", field "expression" (ref "fExpression"), opt (tok "="),
        opt (field "typeConversion" (term .conversion)),
        opt (field "formatSpecifier" (ref "formatSpecifier")), tok "\x7d"]),
    hidden "fExpression"
     (choice [ref "expression", ref "expressionList", ref "patternList", ref "yield"]),
    shown "formatSpecifier" (seq
       [tok ":",
        many (choice [term .formatText, shownAs "formatExpression" (ref "interpolation")])]),
    inlined "keywordIdentifier" (choice
       [atLevel (-3) (shownAs "identifier"
          (choice [tok "print", tok "exec", tok "async", tok "await"])),
        shownAs "identifier" (choice [tok "type", tok "match"])]),
    shown "await" (atLevel 20 (seq [tok "await", ref "primaryExpression"])),
    shown "positionalSeparator" (tok "/"),
    shown "keywordSeparator" (tok "*") ]

/-- All rules; the first one is for a whole source. -/
def ruleDefs : List RuleDef :=
  statementRules ++ blockRules ++ definitionRules ++ caseRules ++ targetRules ++ operatorRules ++
    expressionRules ++ collectionRules ++ literalRules

end TagAudit.Grammar
