import ComponentCensus.Text.Quoted

/-!
# Faults in literals

* `ParameterFault` — what can be wrong with the parameters of a function without a name.
* `FillingFault` — what can be wrong with a text in which values are filled in.
* `Fault` — what can be wrong with the text of a literal.
* `Fault.isSyntax` — whether the text cannot be read at all, or is read but has no value.
* `Fault.isPressing` — whether the text cannot even be cut into words and signs.
-/

set_option autoImplicit false

namespace ComponentCensus
namespace Literal

/-- What is wrong with the parameters of a function without a name. -/
inductive ParameterFault where
  /-- A parameter without a default follows one that has a default. -/
  | defaultFirst
  | parenthesized
  /-- No parameter stands before the slash. -/
  | slashFirst
  | slashTwice
  | slashAfterStar
  /-- A star follows the slash directly. -/
  | starAtSlash
  /-- No value follows the sign that asks for a default. -/
  | noDefault
  /-- No parameter follows a star that stands alone. -/
  | loneStar
  | starTwice
  | starDefault
  | doubleStarDefault
  | afterDoubleStar
deriving Repr, DecidableEq, Inhabited

/-- What is wrong, in words. -/
def ParameterFault.message : ParameterFault → String
  | defaultFirst => "non-default argument follows default argument"
  | parenthesized => "Lambda expression parameters cannot be parenthesized"
  | slashFirst => "at least one argument must precede /"
  | slashTwice => "/ may appear only once"
  | slashAfterStar => "/ must be ahead of *"
  | starAtSlash => "expected comma between / and *"
  | noDefault => "expected default value expression"
  | loneStar => "named arguments must follow bare *"
  | starTwice => "* argument may appear only once"
  | starDefault => "var-positional argument cannot have default value"
  | doubleStarDefault => "var-keyword argument cannot have default value"
  | afterDoubleStar => "arguments cannot follow var-keyword argument"

/-- What is wrong with a text in which values are filled in. -/
inductive FillingFault where
  /-- A value has no closing brace. -/
  | notEnded
  /-- A closing brace stands alone. -/
  | loneBrace
  | tooDeep
  | backslash
  | comment
  | tooManyBrackets
  | unmatched (bracket : Char)
  | mismatched (closing opening : Char)
  | openText
  | badConversion
  /-- No value stands in front of a sign. -/
  | noValueBefore (sign : Char)
  | noValue
deriving Repr, DecidableEq, Inhabited

/-- What is wrong, in words. -/
def FillingFault.message : FillingFault → String
  | notEnded => "f-string: expecting '\x7d'"
  | loneBrace => "f-string: single '\x7d' is not allowed"
  | tooDeep => "f-string: expressions nested too deeply"
  | backslash => "f-string expression part cannot include a backslash"
  | comment => "f-string expression part cannot include '#'"
  | tooManyBrackets => "f-string: too many nested parenthesis"
  | unmatched bracket => "f-string: unmatched '" ++ bracket.toString ++ "'"
  | mismatched closing opening =>
    "f-string: closing parenthesis '" ++ closing.toString ++
      "' does not match opening parenthesis '" ++ opening.toString ++ "'"
  | openText => "f-string: unterminated string"
  | badConversion => "f-string: invalid conversion character: expected 's', 'r', or 'a'"
  | noValueBefore sign => "f-string: expression required before '" ++ sign.toString ++ "'"
  | noValue => "f-string: empty expression not allowed"

/-- What is wrong with the text of a literal. -/
inductive Fault where
  /-- A word or a sign stands where it may not stand. -/
  | misplaced
  /-- A line is indented. -/
  | indented
  /-- Two values stand side by side within brackets. -/
  | missingComma
  /-- A condition has no alternative. -/
  | missingAlternative
  /-- A name is set to a value. -/
  | assignsName
  /-- Something that is no name is set to a value. -/
  | assigns (what : String)
  /-- An argument that is no name is set to a value. -/
  | assignsArgument
  /-- Something takes values in turn, or names an argument, that cannot. -/
  | assignsTo (what : String)
  /-- Something that is no name is given to a value. -/
  | names (what : String)
  /-- A star stands in front of the only value between parentheses. -/
  | starred
  /-- Two stars stand in front of the only value between parentheses. -/
  | doubleStarred
  /-- A star stands alone. -/
  | loneStar
  /-- A star stands in front of a value that is made for each member of something. -/
  | starredEach
  /-- Two stars stand in front of a table that is made for each member of something. -/
  | doubleStarredEach
  /-- Values with commas between them are made for each member of something. -/
  | bareEach
  /-- Values made for each member of something are an argument beside others. -/
  | bareGenerator
  /-- An argument without a name follows one with a name. -/
  | unnamedAfterNamed
  /-- An argument without a name follows a table of arguments. -/
  | unnamedAfterTable
  /-- A starred argument follows a table of arguments. -/
  | starredAfterTable
  /-- A key of a table has no colon. -/
  | keyWithoutColon
  /-- A key of a table has no value. -/
  | keyWithoutValue
  /-- A key of a table has a starred value. -/
  | starredTableValue
  /-- What follows the name of a command stands without parentheses. -/
  | command (name : String)
  | parameters (fault : ParameterFault)
  | filling (fault : FillingFault)
  /-- Something is wrong with a value that is filled in. -/
  | filled (fault : Fault)
  | notClosed (bracket : Char)
  | unmatched (bracket : Char)
  /-- A bracket of one kind closes one of another kind; the line of the opening one is told if it is
  another line. -/
  | mismatched (closing opening : Char) (line : Option Nat)
  | tooManyBrackets
  | openText (line : Nat)
  | openLongText (line : Nat)
  | badNumber (kind : String)
  | badDigit (digit : Char) (kind : String)
  | leadingZeros
  /-- Something stands behind a backslash that ends a line. -/
  | afterBackslash
  /-- Nothing comes after a backslash that ends a line. -/
  | endAfterBackslash
  /-- A line goes back to an indentation that no line before it has. -/
  | unevenIndentation
  | badCharacter (c : Char)
  | noCharacter
  /-- A text of bytes has a character that is none. -/
  | wideBytes
  /-- A text of bytes and one of characters stand side by side. -/
  | mixedTexts
  | badEscape (first last : Nat) (problem : String)
  | badByteEscape (position : Nat)
  /-- A set or a table is a member of a set or a key of a table. -/
  | unhashable (kind : String)
  /-- A table is spread into another one. -/
  | spread
  /-- The text is no literal, though it may be read as something else. -/
  | noLiteral
deriving Repr, DecidableEq, Inhabited

/-- The code point of a character, in four hexadecimal digits or more. -/
def codeText (c : Char) : String :=
  let n := c.toNat
  let width := if n < 0x10000 then 4 else if n < 0x100000 then 5 else 6
  String.ofList ((Text.hexDigits width n).map Char.toUpper)

namespace Fault

/-- What is wrong, in words. -/
def message : Fault → String
  | misplaced => "invalid syntax"
  | indented => "unexpected indent"
  | missingComma => "invalid syntax. Perhaps you forgot a comma?"
  | missingAlternative => "expected 'else' after 'if' expression"
  | assignsName => "invalid syntax. Maybe you meant '==' or ':=' instead of '='?"
  | assigns what => "cannot assign to " ++ what ++ " here. Maybe you meant '==' instead of '='?"
  | assignsArgument =>
    "expression cannot contain assignment, perhaps you meant \"==\"?"
  | assignsTo what => "cannot assign to " ++ what
  | names what => "cannot use assignment expressions with " ++ what
  | starred => "cannot use starred expression here"
  | doubleStarred => "cannot use double starred expression here"
  | loneStar => "Invalid star expression"
  | starredEach => "iterable unpacking cannot be used in comprehension"
  | doubleStarredEach => "dict unpacking cannot be used in dict comprehension"
  | bareEach => "did you forget parentheses around the comprehension target?"
  | bareGenerator => "Generator expression must be parenthesized"
  | unnamedAfterNamed => "positional argument follows keyword argument"
  | unnamedAfterTable => "positional argument follows keyword argument unpacking"
  | starredAfterTable => "iterable argument unpacking follows keyword argument unpacking"
  | keyWithoutColon => "':' expected after dictionary key"
  | keyWithoutValue => "expression expected after dictionary key and ':'"
  | starredTableValue => "cannot use a starred expression in a dictionary value"
  | command name =>
    "Missing parentheses in call to '" ++ name ++ "'. Did you mean " ++ name ++ "(...)?"
  | parameters fault => fault.message
  | filling fault => fault.message
  | filled fault => "f-string: " ++ fault.message
  | notClosed bracket => "'" ++ bracket.toString ++ "' was never closed"
  | unmatched bracket => "unmatched '" ++ bracket.toString ++ "'"
  | mismatched closing opening line =>
    "closing parenthesis '" ++ closing.toString ++ "' does not match opening parenthesis '" ++
      opening.toString ++ "'" ++ (line.map fun n => " on line " ++ toString n).getD ""
  | tooManyBrackets => "too many nested parentheses"
  | openText line => "unterminated string literal (detected at line " ++ toString line ++ ")"
  | openLongText line =>
    "unterminated triple-quoted string literal (detected at line " ++ toString line ++ ")"
  | badNumber kind => "invalid " ++ kind ++ " literal"
  | badDigit digit kind => "invalid digit '" ++ digit.toString ++ "' in " ++ kind ++ " literal"
  | leadingZeros =>
    "leading zeros in decimal integer literals are not permitted; " ++
      "use an 0o prefix for octal integers"
  | afterBackslash => "unexpected character after line continuation character"
  | endAfterBackslash => "unexpected EOF while parsing"
  | unevenIndentation => "unindent does not match any outer indentation level"
  | badCharacter c =>
    if Text.isPrintable c then
      "invalid character '" ++ c.toString ++ "' (U+" ++ codeText c ++ ")"
    else "invalid non-printable character U+" ++ codeText c
  | noCharacter => "source code string cannot contain null bytes"
  | wideBytes => "bytes can only contain ASCII literal characters"
  | mixedTexts => "cannot mix bytes and nonbytes literals"
  | badEscape first last problem =>
    "(unicode error) 'unicodeescape' codec can't decode bytes in position " ++ toString first ++
      "-" ++ toString last ++ ": " ++ problem
  | badByteEscape position =>
    "(value error) invalid \\x escape at position " ++ toString position
  | unhashable kind => "unhashable type: '" ++ kind ++ "'"
  | spread => "malformed node or string: None"
  | noLiteral => "malformed node or string on line 1"

/-- Whether the text cannot be read at all. -/
def isSyntax : Fault → Bool
  | unhashable _ => false
  | spread => false
  | noLiteral => false
  | _ => true

/-- Whether the text cannot be cut into words and signs: such a fault counts before all others,
wherever it stands. -/
def isPressing : Fault → Bool
  | unmatched _ => true
  | mismatched _ _ _ => true
  | tooManyBrackets => true
  | openText _ => true
  | openLongText _ => true
  | badNumber _ => true
  | badDigit _ _ => true
  | leadingZeros => true
  | badCharacter _ => true
  | noCharacter => true
  | _ => false

/-- A fault in a value that is filled in, told as one if it was found by reading the value. -/
def within : Fault → Fault
  | filled fault => filled fault
  | fault => if fault.isPressing then fault else filled fault

end Fault

end Literal
end ComponentCensus
