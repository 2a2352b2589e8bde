-- SUMMARY: Why a script is refused: the causes, their wording and their position.
import Unbundle.Source.Span

/-!
# Problems of a script

A `Problem` is a cause together with the byte position it is reported at. Parsing stops at a fatal
problem; lesser ones are noted and parsing goes on. A fatal problem is reported in preference to a
noted one, and of several noted ones the first.
-/

namespace Unbundle.Script

inductive Reason where
  | eof
  | expected (wanted got : String)
  | unexpected (got wanted : String)
  | unexpectedChar (c : Char)
  | expectedSemicolonAfterExpr
  | expectedSemicolon
  | expressionExpected
  | expectedIdent
  | trailingComma
  | trailingCommaAfterRest
  | returnOutsideFunction
  | breakOutsideLoop
  | breakUnknownLabel
  | continueOutsideLoop
  | jumpCrossesFunction
  | duplicateLabel (name : String)
  | lineBreakAfterThrow
  | multipleDefaults
  | catchOrFinallyExpected
  | declarationNotAllowed
  | labelledGeneratorOrAsync
  | notAssignable
  | notSimpleTarget
  | invalidTarget
  | notAPattern
  | restNotFinal
  | restParamNotLast
  | restWithInitializer
  | restWithoutIdent
  | initializedProperty
  | reservedShorthand
  | destructuringWithoutInit
  | manyBindingsInForHead
  | initializerInForHead
  | awaitForStatement
  | asyncInForOf
  | duplicateConstructor
  | generatorConstructor
  | asyncConstructor
  | accessorConstructor
  | fieldNamedConstructor
  | privateConstructor
  | getterParams
  | setterParams
  | restInSetter
  | unterminatedString
  | unterminatedRegex
  | unterminatedBlockComment
  | duplicatedRegexFlag (flag : Char)
  | identAfterNumber
  | expectedDigit (kind : String)
  | exponentWithoutDigits
  | misplacedNumericSeparator
  | badEscape (wanted : String)
  | invalidUnicodeEscape
  | expectedUnicodeEscape
  | invalidIdentChar
  | escapeInReservedWord (word : String)
  | legacyOctalInStrict
  | legacyDecimalInStrict
  | importExportInScript
  | importMetaInScript
  | topLevelAwait
  | awaitInFunction
  | awaitStar
  | reservedInAsync
  | newTargetOutsideFunction
  | useStrictWithComplexParams
  | optionalChainInNew
  | optionalChainTemplate
  | mixedCoalesce
  | unaryBeforeExponent
  | emptyParen
  | spreadInParen
  | lineBreakBeforeArrow
  | arrowNotAllowed
  | invalidSuper
  | invalidSuperCall
  | importArguments
  /-- The input is nested more deeply than its length allows, which never happens. -/
  | tooDeep
deriving DecidableEq, Repr, Inhabited

namespace Reason

def message : Reason → String
  | .eof => "Unexpected eof"
  | .expected wanted got => s!"Expected '{wanted}', got '{got}'"
  | .unexpected got wanted => s!"Unexpected token `{got}`. Expected {wanted}"
  | .unexpectedChar c => s!"Unexpected character '{c}'"
  | .expectedSemicolonAfterExpr => "Expected ';', '\x7d' or <eof>"
  | .expectedSemicolon => "Expected a semicolon"
  | .expressionExpected => "Expression expected"
  | .expectedIdent => "Expected ident"
  | .trailingComma => "Trailing comma is not allowed"
  | .trailingCommaAfterRest => "Trailing comma isn't permitted after a rest element"
  | .returnOutsideFunction => "Return statement is not allowed here"
  | .breakOutsideLoop =>
    "A 'break' statement can only be used within an enclosing iteration or switch statement"
  | .breakUnknownLabel => "A 'break' statement can only jump to a label of an enclosing statement"
  | .continueOutsideLoop =>
    "A 'continue' statement can only jump to a label of an enclosing iteration statement"
  | .jumpCrossesFunction => "Jump target cannot cross function boundary"
  | .duplicateLabel name => s!"Label {name} is already declared"
  | .lineBreakAfterThrow => "LineBreak cannot follow 'throw'"
  | .multipleDefaults => "A switch block cannot have multiple defaults"
  | .catchOrFinallyExpected => "'catch' or 'finally' expected"
  | .declarationNotAllowed => "Declaration is not allowed"
  | .labelledGeneratorOrAsync => "Generator or async function cannot be labelled"
  | .notAssignable =>
    "The left-hand side of an assignment expression must be a variable or a property access."
  | .notSimpleTarget => "Cannot assign to this"
  | .invalidTarget => "Invalid assignment target"
  | .notAPattern => "Not a pattern"
  | .restNotFinal => "Rest element must be final element"
  | .restParamNotLast => "A rest parameter must be last in a parameter list"
  | .restWithInitializer => "A rest parameter cannot have an initializer"
  | .restWithoutIdent => "`...` must be followed by an identifier in declaration contexts"
  | .initializedProperty => "assignment property is invalid syntax"
  | .reservedShorthand => "Cannot use a reserved word as a shorthand property"
  | .destructuringWithoutInit => "Destructuring bindings require initializers"
  | .manyBindingsInForHead => "Expected one variable binding"
  | .initializerInForHead => "Unexpected initializer in for in/of loop"
  | .awaitForStatement => "for await syntax is valid only for for-of statement"
  | .asyncInForOf => "The left-hand side of a `for...of` statement may not be `async`"
  | .duplicateConstructor => "A class can only have one constructor"
  | .generatorConstructor => "A constructor cannot be generator"
  | .asyncConstructor => "A constructor cannot be async"
  | .accessorConstructor => "Class constructor can't be an accessor"
  | .fieldNamedConstructor => "Classes may not have a non-static field named 'constructor'"
  | .privateConstructor => "Classes can't have a private field named '#constructor'."
  | .getterParams => "A `get` accessor cannot have parameters"
  | .setterParams => "A `set` accessor must have exactly one parameter"
  | .restInSetter => "Rest pattern is not allowed in setter"
  | .unterminatedString => "Unterminated string constant"
  | .unterminatedRegex => "Unterminated regexp literal"
  | .unterminatedBlockComment => "Unterminated block comment"
  | .duplicatedRegexFlag flag => s!"Duplicated regular expression flag '{flag}'."
  | .identAfterNumber => "Identifier cannot follow number"
  | .expectedDigit kind => s!"Expected {kind} digit"
  | .exponentWithoutDigits => "Expected +, - or decimal digit after e"
  | .misplacedNumericSeparator => "A numeric separator is only allowed between two digits"
  | .badEscape wanted => s!"Bad character escape sequence, expected {wanted}"
  | .invalidUnicodeEscape => "Invalid unicode escape"
  | .expectedUnicodeEscape => "Expected unicode escape"
  | .invalidIdentChar => "Invalid character in identifier"
  | .escapeInReservedWord word => s!"Unexpected escape sequence in reserved word: {word}"
  | .legacyOctalInStrict => "Legacy octal escape is not permitted in strict mode"
  | .legacyDecimalInStrict => "Legacy decimal escape is not permitted in strict mode"
  | .importExportInScript => "'import', and 'export' cannot be used outside of module code"
  | .importMetaInScript => "'import.meta' cannot be used outside of module code."
  | .topLevelAwait => "top level await is only allowed in module"
  | .awaitInFunction => "await isn't allowed in non-async function"
  | .awaitStar => "await* has been removed from the async functions proposal. Use Promise.all() instead."
  | .reservedInAsync => "`await` cannot be used as an identifier in an async context"
  | .newTargetOutsideFunction =>
    "'new.target' is only allowed in the body of a function declaration, function expression, or class."
  | .useStrictWithComplexParams =>
    "Illegal 'use strict' directive in function with non-simple parameter list."
  | .optionalChainInNew => "Constructor in/after an optional chaining is not allowed."
  | .optionalChainTemplate => "Tagged template literal is not allowed in optional chain"
  | .mixedCoalesce =>
    "Nullish coalescing operator(??) requires parens when mixing with logical operators"
  | .unaryBeforeExponent => "'**' cannot be applied to unary/await expression."
  | .emptyParen => "Parenthesized expression cannot be empty"
  | .spreadInParen => "Parenthesized expression cannot contain spread operator"
  | .lineBreakBeforeArrow => "Unexpected line break between arrow head and arrow"
  | .arrowNotAllowed => "An arrow function is not allowed here"
  | .invalidSuper => "Invalid access to super"
  | .invalidSuperCall => "Invalid super call"
  | .importArguments => "`import()` requires exactly one or two arguments"
  | .tooDeep => "Input is nested too deeply"

end Reason

/-- A cause and the byte position it is reported at. -/
structure Problem where
  reason : Reason
  pos : Nat
deriving DecidableEq, Repr, Inhabited

/-- A refused script: its name, where it is wrong and why. -/
structure SyntaxError where
  file : String
  location : Location
  reason : Reason
deriving DecidableEq, Repr, Inhabited

namespace SyntaxError

def message (e : SyntaxError) : String :=
  s!"{e.file}:{e.location.line}:{e.location.column}: {e.reason.message}"

end SyntaxError
end Unbundle.Script
