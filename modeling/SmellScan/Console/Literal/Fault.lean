import SmellScan.Text.Printable

/-!
# Faults of literals

Why a text is no literal. A fault of form is one of how the text is written: its tokens, their
order, or what stands between quotes. A fault of value is one of a text that is well formed, but
whose value cannot be made.
-/

namespace SmellScan.Console.Literal

open Text

/-- Why the fields in a text cannot be read. -/
inductive FieldFault where
  /-- A field is not closed. -/
  | unclosed
  /-- There is nothing in a field. -/
  | empty
  /-- There is nothing in a field before a mark. -/
  | nothingBefore (mark : Char)
  /-- A closing brace closes no field. -/
  | strayBrace
  /-- A field in the format of a field has a format with a field. -/
  | tooDeep
  /-- A field holds a backslash. -/
  | backslash
  /-- A field holds a comment. -/
  | comment
  /-- A text in a field is not closed. -/
  | unterminated
  /-- Too many brackets are open in a field. -/
  | tooManyBrackets
  /-- A bracket has no partner. -/
  | unmatched (bracket : Char)
  /-- A closing bracket is not of the kind of the opening one. -/
  | mismatched (closer opener : Char)
  /-- The letter behind an exclamation mark is not known. -/
  | conversion
  deriving DecidableEq, Repr

/-- The text of a fault in a field. -/
def FieldFault.message : FieldFault → String
  | .unclosed => "f-string: expecting '\x7d'"
  | .empty => "f-string: empty expression not allowed"
  | .nothingBefore mark => s!"f-string: expression required before '{mark}'"
  | .strayBrace => "f-string: single '\x7d' is not allowed"
  | .tooDeep => "f-string: expressions nested too deeply"
  | .backslash => "f-string expression part cannot include a backslash"
  | .comment => "f-string expression part cannot include '#'"
  | .unterminated => "f-string: unterminated string"
  | .tooManyBrackets => "f-string: too many nested parenthesis"
  | .unmatched bracket => s!"f-string: unmatched '{bracket}'"
  | .mismatched closer opener =>
    s!"f-string: closing parenthesis '{closer}' does not match opening parenthesis '{opener}'"
  | .conversion => "f-string: invalid conversion character: expected 's', 'r', or 'a'"

/-- Why a text is badly formed. -/
inductive FormFault where
  /-- A token stands where it may not. -/
  | unexpected
  /-- A line is indented. -/
  | indented
  /-- A value follows another one inside brackets. -/
  | missingComma
  /-- A condition has no alternative. -/
  | missingElse
  /-- Something follows a name that is to be called. -/
  | missingCall (name : String)
  /-- A text has no closing quote; it was opened by one quote or by three. -/
  | unterminated (triple : Bool) (line : Nat)
  /-- A closing bracket closes nothing. -/
  | unmatched (closer : Char)
  /-- A closing bracket is not of the kind of the opening one, which stands on an earlier line if
  one is given. -/
  | mismatched (closer opener : Char) (line : Option Nat)
  /-- A bracket is not closed. -/
  | neverClosed (opener : Char)
  /-- Too many brackets are open. -/
  | tooManyBrackets
  /-- A number of a kind is badly formed. -/
  | badNumber (kind : String)
  /-- A digit is too great for its kind of number. -/
  | badDigit (digit : Char) (kind : String)
  /-- A decimal integer begins with a zero. -/
  | leadingZero
  /-- A decimal integer has too many digits. -/
  | tooManyDigits (limit digits : Nat)
  /-- A character has no meaning. -/
  | badCharacter (c : Char)
  /-- A backslash does not end its line. -/
  | strayBackslash
  /-- A line is indented less than the one before, but as no other. -/
  | badDedent
  /-- Tabs and spaces before a line are mixed in another way than before. -/
  | mixedIndent
  /-- Lines are indented in too many ways. -/
  | tooManyIndents
  /-- Texts of characters and of bytes stand next to each other. -/
  | mixedTexts
  /-- A text of bytes has a character beyond ASCII. -/
  | notAscii
  /-- An escape in a text of characters, from a place to a place, is badly formed. -/
  | badEscape (first last : Nat) (cause : String)
  /-- An escape in a text of bytes is badly formed. -/
  | badByteEscape (place : Nat)
  /-- The fields in a text cannot be read. -/
  | field (fault : FieldFault)
  /-- What stands in a field is badly formed. -/
  | inField (fault : FormFault)
  /-- A key has no value behind its colon. -/
  | missingValue
  /-- A key has no colon. -/
  | missingColon
  /-- A key has a starred value. -/
  | starredValue
  /-- A star stands before a value in brackets. -/
  | starred
  /-- Two stars stand before a value in brackets. -/
  | doubleStarred
  /-- A star stands before the value of a comprehension. -/
  | starredComprehension
  /-- Two stars stand before the value of a comprehension. -/
  | doubleStarredComprehension
  /-- The values of a comprehension are not in brackets. -/
  | bareComprehension
  /-- A comprehension among arguments is not in brackets. -/
  | bareGenerator
  /-- A starred argument follows one with two stars. -/
  | starredArgument
  /-- An argument without a name follows one with a name, or one with two stars. -/
  | unnamedArgument (unpacked : Bool)
  /-- An equals sign follows a name. -/
  | assignedName
  /-- An equals sign follows something else than a name. -/
  | assigned (what : String)
  /-- An equals sign follows a constant among arguments. -/
  | assignedConstant (name : String)
  /-- An equals sign follows an expression among arguments. -/
  | assignedArgument
  /-- A value is bound to something else than a name. -/
  | bound (what : String)
  /-- A loop runs over something else than a name. -/
  | loopTarget (what : String)
  /-- A parameter without a default follows one with a default. -/
  | missingDefault
  /-- A default is missing behind its equals sign. -/
  | emptyDefault
  /-- Parameters are in brackets. -/
  | bracketedParameters
  /-- Nothing precedes the slash among parameters. -/
  | nothingBeforeSlash
  /-- There are two slashes among parameters. -/
  | secondSlash
  /-- The slash follows the star among parameters. -/
  | slashBehindStar
  /-- There is no comma between the slash and the star. -/
  | slashAtStar
  /-- No parameter follows the star. -/
  | nothingBehindStar
  /-- There are two stars among parameters. -/
  | secondStar
  /-- The parameter with a star has a default. -/
  | starDefault
  /-- The parameter with two stars has a default. -/
  | doubleStarDefault
  /-- A parameter follows the one with two stars. -/
  | behindDoubleStar
  deriving DecidableEq, Repr

/-- A code point in at least four digits of base sixteen, in capital letters. -/
def codePoint (c : Char) : String :=
  let digits := (Nat.toDigits 16 c.toNat).map Char.toUpper
  String.ofList (List.replicate (4 - digits.length) '0' ++ digits)

/-- The text of a fault of form. -/
def FormFault.message : FormFault → String
  | .unexpected => "invalid syntax"
  | .indented => "unexpected indent"
  | .missingComma => "invalid syntax. Perhaps you forgot a comma?"
  | .missingElse => "expected 'else' after 'if' expression"
  | .missingCall name =>
    s!"Missing parentheses in call to '{name}'. Did you mean {name}(...)?"
  | .unterminated triple line =>
    let kind := if triple then "triple-quoted string" else "string"
    s!"unterminated {kind} literal (detected at line {line})"
  | .unmatched closer => s!"unmatched '{closer}'"
  | .mismatched closer opener line =>
    let place := match line with
      | some line => s!" on line {line}"
      | none => ""
    s!"closing parenthesis '{closer}' does not match opening parenthesis '{opener}'{place}"
  | .neverClosed opener => s!"'{opener}' was never closed"
  | .tooManyBrackets => "too many nested parentheses"
  | .badNumber kind => s!"invalid {kind} literal"
  | .badDigit digit kind => s!"invalid digit '{digit}' in {kind} literal"
  | .leadingZero => "leading zeros in decimal integer literals are not permitted; " ++
      "use an 0o prefix for octal integers"
  | .tooManyDigits limit digits =>
    s!"Exceeds the limit ({limit} digits) for integer string conversion: value has {digits} " ++
      "digits; use sys.set_int_max_str_digits() to increase the limit - Consider hexadecimal " ++
      "for huge integer literals to avoid decimal conversion limits."
  | .badCharacter c =>
    let code := codePoint c
    if isPrintable c then s!"invalid character '{c}' (U+{code})"
    else s!"invalid non-printable character U+{code}"
  | .strayBackslash => "unexpected character after line continuation character"
  | .badDedent => "unindent does not match any outer indentation level"
  | .mixedIndent => "inconsistent use of tabs and spaces in indentation"
  | .tooManyIndents => "too many levels of indentation"
  | .mixedTexts => "cannot mix bytes and nonbytes literals"
  | .notAscii => "bytes can only contain ASCII literal characters"
  | .badEscape first last cause =>
    s!"(unicode error) 'unicodeescape' codec can't decode bytes in position {first}-{last}: {cause}"
  | .badByteEscape place => s!"(value error) invalid \\x escape at position {place}"
  | .field fault => fault.message
  | .inField fault => "f-string: " ++ fault.message
  | .missingValue => "expression expected after dictionary key and ':'"
  | .missingColon => "':' expected after dictionary key"
  | .starredValue => "cannot use a starred expression in a dictionary value"
  | .starred => "cannot use starred expression here"
  | .doubleStarred => "cannot use double starred expression here"
  | .starredComprehension => "iterable unpacking cannot be used in comprehension"
  | .doubleStarredComprehension => "dict unpacking cannot be used in dict comprehension"
  | .bareComprehension => "did you forget parentheses around the comprehension target?"
  | .bareGenerator => "Generator expression must be parenthesized"
  | .starredArgument => "iterable argument unpacking follows keyword argument unpacking"
  | .unnamedArgument false => "positional argument follows keyword argument"
  | .unnamedArgument true => "positional argument follows keyword argument unpacking"
  | .assignedName => "invalid syntax. Maybe you meant '==' or ':=' instead of '='?"
  | .assigned what => s!"cannot assign to {what} here. Maybe you meant '==' instead of '='?"
  | .assignedConstant name => s!"cannot assign to {name}"
  | .assignedArgument => "expression cannot contain assignment, perhaps you meant \"==\"?"
  | .bound what => s!"cannot use assignment expressions with {what}"
  | .loopTarget what => s!"cannot assign to {what}"
  | .missingDefault => "non-default argument follows default argument"
  | .emptyDefault => "expected default value expression"
  | .bracketedParameters => "Lambda expression parameters cannot be parenthesized"
  | .nothingBeforeSlash => "at least one argument must precede /"
  | .secondSlash => "/ may appear only once"
  | .slashBehindStar => "/ must be ahead of *"
  | .slashAtStar => "expected comma between / and *"
  | .nothingBehindStar => "named arguments must follow bare *"
  | .secondStar => "* argument may appear only once"
  | .starDefault => "var-positional argument cannot have default value"
  | .doubleStarDefault => "var-keyword argument cannot have default value"
  | .behindDoubleStar => "arguments cannot follow var-keyword argument"

/-- Why a text has no value, though it may be well formed. -/
inductive ValueFault where
  /-- A value that may change cannot be a key or an element. -/
  | unhashable (kind : String)
  /-- A dictionary is unpacked in another. -/
  | unpacked
  /-- An expression is no constant. -/
  | notConstant
  /-- An integer is too great to be added to an imaginary number. -/
  | tooGreat
  /-- The text has a null character. -/
  | nullCharacter
  /-- Expressions are nested too deeply to be read. -/
  | tooDeep
  /-- Expressions are nested too deeply to be worked with. -/
  | tooHigh
  deriving DecidableEq, Repr

/-- The text of a fault of value. One that reading runs out of space for has none. -/
def ValueFault.message : ValueFault → String
  | .unhashable kind => s!"unhashable type: '{kind}'"
  | .unpacked => "malformed node or string: None"
  | .notConstant => "malformed node or string"
  | .tooGreat => "int too large to convert to float"
  | .nullCharacter => "source code string cannot contain null bytes"
  | .tooDeep => ""
  | .tooHigh => "maximum recursion depth exceeded during ast construction"

end Literal

/-- Why a text is no literal. -/
inductive LiteralFault where
  | form (fault : Literal.FormFault)
  | value (fault : Literal.ValueFault)
  deriving DecidableEq, Repr

end SmellScan.Console
