import SmellScan.Console.Literal.Fault
import SmellScan.Numeric.Digits
import SmellScan.Numeric.Numeral
import SmellScan.Text.Identifier

/-!
# Tokens of a literal

A literal is cut into numbers, texts in quotes, names and marks. Inside brackets the end of a line
does not count; outside, it is a token, and so is a change of the indentation. `scan` gives the
tokens up to the end of the text or to the first fault in them, with what is known of the brackets
at that place.
-/

namespace SmellScan.Console.Literal

open Text

/-- A number as far as it matters: the value of an integer, or its kind. -/
inductive Number where
  | whole (n : Nat)
  /-- An integer of too many digits. -/
  | long (digits : Nat)
  | real
  | imaginary
  deriving DecidableEq, Repr

/-- A text between quotes, with what the letters before the quotes say of it. -/
structure QuotedText where
  bytes : Bool
  raw : Bool
  /-- The text has fields in braces. -/
  fields : Bool
  body : List Char
  deriving DecidableEq, Repr

/-- What a token is. -/
inductive TokenKind where
  | number (n : Number)
  | text (t : QuotedText)
  | name (s : String)
  /-- An operator, a bracket or another mark, or a word with a meaning of its own. -/
  | mark (s : String)
  /-- The end of a line. -/
  | newline
  /-- A line is indented more than the one before. -/
  | indent
  /-- A line is indented less than the one before. -/
  | dedent
  /-- The end of the text. -/
  | finish
  deriving DecidableEq, Repr

/-- A token, with its line and the number of brackets that are open behind it. -/
structure Token where
  kind : TokenKind
  line : Nat
  level : Nat
  deriving DecidableEq, Repr

/-! ## Numbers -/

/-- A character that may stand in a name. Beyond ASCII all may, until the name is checked. -/
def inName (c : Char) : Bool :=
  c.isAlphanum || c == '_' || 0x80 ≤ c.toNat

/-- A word at the start, with nothing of a name behind it. -/
def startsWithWord (word : String) (cs : List Char) : Bool :=
  word.toList.isPrefixOf cs && !(cs.drop word.length).head?.any inName

/-- What may run into a number: a word that can follow a value. -/
def startsJoiner (cs : List Char) : Bool :=
  ["and", "else", "for", "or", "not"].any (startsWithWord · cs) ||
    ["if", "in", "is"].any fun word => word.toList.isPrefixOf cs

/-- What follows a number. No other letter of ASCII may run into it. -/
def endNumber (kind : String) (rest : List Char) : Except FormFault (List Char) :=
  match rest with
  | c :: _ =>
    if inName c && c.toNat < 0x80 && !startsJoiner rest then .error (.badNumber kind) else .ok rest
  | [] => .ok rest

/-- What follows digits of a kind, with single underscores between them; none if an underscore
stands elsewhere. -/
def skipDigits? (isDigit : Char → Bool) : List Char → Option (List Char)
  | [] => some []
  | '_' :: c :: cs => if isDigit c then skipDigits? isDigit cs else none
  | c :: cs =>
    if isDigit c then skipDigits? isDigit cs else if c == '_' then none else some (c :: cs)

/-- The characters of `cs` up to its end `rest`. -/
def consumed (cs rest : List Char) : List Char :=
  cs.take (cs.length - rest.length)

/-- The value of a digit of base sixteen or less. -/
def digitValue (c : Char) : Nat :=
  if isDigit c then c.toNat - 0x30 else c.toLower.toNat - 0x61 + 10

/-- What follows digits of a base, with single underscores between them. A digit is `owed` behind
an underscore and at the start. -/
def skipBased (kind : String) (isBaseDigit : Char → Bool) :
    (owed : Bool) → List Char → Except FormFault (List Char)
  | owed, [] => if owed then .error (.badNumber kind) else .ok []
  | owed, c :: cs =>
    if isBaseDigit c then skipBased kind isBaseDigit false cs
    else if c == '_' && !owed then skipBased kind isBaseDigit true cs
    else if isDigit c then .error (.badDigit c kind)
    else if owed then .error (.badNumber kind)
    else .ok (c :: cs)

/-- A number in another base than ten, and what follows it. -/
def readBased (kind : String) (base : Nat) (cs : List Char) :
    Except FormFault (Number × List Char) := do
  let isBaseDigit (c : Char) : Bool :=
    (isDigit c || ('a' ≤ c.toLower && c.toLower ≤ 'f')) && digitValue c < base
  let digits := if cs.head? == some '_' then cs.tail else cs
  let rest ← skipBased kind isBaseDigit true digits
  let value := ((consumed digits rest).filter (· != '_')).foldl
    (fun n c => base * n + digitValue c) 0
  return (.whole value, ← endNumber kind rest)

/-- What follows the fraction of a number, if it has one. -/
def skipFraction (cs : List Char) : Except FormFault (List Char) :=
  match cs with
  | '.' :: rest =>
    if rest.head?.any isDigit then
      match skipDigits? isDigit rest with
      | some rest => .ok rest
      | none => .error (.badNumber "decimal")
    else .ok rest
  | _ => .ok cs

/-- What follows the exponent of a number, if it has one. A word that can follow a value may begin
as an exponent does. -/
def skipExponent (cs : List Char) : Except FormFault (List Char) :=
  match cs with
  | e :: rest =>
    if e.toLower == 'e' then
      let digits := match rest with
        | c :: cs => if c == '+' || c == '-' then cs else rest
        | [] => rest
      if digits.head?.any isDigit then
        match skipDigits? isDigit digits with
        | some rest => .ok rest
        | none => .error (.badNumber "decimal")
      else if digits.length == rest.length && startsJoiner cs then .ok cs
      else .error (.badNumber "decimal")
    else .ok cs
  | [] => .ok cs

/-- A number of base ten, whose first character is a digit or a point, and what follows it. An
integer other than zero does not begin with a zero. -/
def readDecimal (cs : List Char) : Except FormFault (Number × List Char) := do
  let some afterWhole := skipDigits? isDigit cs | throw (.badNumber "decimal")
  let rest ← skipFraction afterWhole
  let rest ← skipExponent rest
  if rest.head?.any (·.toLower == 'j') then
    return (.imaginary, ← endNumber "imaginary" rest.tail)
  if rest.length < afterWhole.length then
    return (.real, ← endNumber "decimal" rest)
  let whole := (consumed cs afterWhole).filter (· != '_')
  if whole.head? == some '0' then
    if whole.any (· != '0') && !startsWithWord "else" rest then throw .leadingZero
    return (.whole 0, ← endNumber "decimal" rest)
  let rest ← endNumber "decimal" rest
  return (if Numeral.maxDigits < whole.length then .long whole.length
    else .whole (digitsValue whole), rest)

/-- A number, and what follows it. -/
def readNumber (cs : List Char) : Except FormFault (Number × List Char) :=
  match cs with
  | '0' :: x :: rest =>
    if x.toLower == 'x' then readBased "hexadecimal" 16 rest
    else if x.toLower == 'o' then readBased "octal" 8 rest
    else if x.toLower == 'b' then readBased "binary" 2 rest
    else readDecimal cs
  | _ => readDecimal cs

/-! ## Texts, names and marks -/

/-- The text up to `mark`, which closes it, and what follows. A backslash takes the next character
with it, and a text in single quotes ends with its line. -/
def takeText? (mark : List Char) : List Char → Option (List Char × List Char)
  | [] => none
  | '\\' :: c :: cs => (takeText? mark cs).map fun (body, rest) => ('\\' :: c :: body, rest)
  | c :: cs =>
    if mark.isPrefixOf (c :: cs) then some ([], cs.drop (mark.length - 1))
    else if c == '\n' && mark.length == 1 then none
    else (takeText? mark cs).map fun (body, rest) => (c :: body, rest)

/-- The number of line ends in a text. -/
def countLines (cs : List Char) : Nat :=
  cs.count '\n'

/-- The line on which a text without a closing quote is given up: the last one, or for a text in
single quotes the first one whose end has no backslash before it. -/
def lastLine (triple : Bool) : (line : Nat) → List Char → Nat
  | line, [] | line, ['\n'] | line, ['\\', '\n'] => line
  | line, '\\' :: c :: cs => lastLine triple (if c == '\n' then line + 1 else line) cs
  | line, c :: cs =>
    if c == '\n' then if triple then lastLine triple (line + 1) cs else line
    else lastLine triple line cs

/-- The text between quotes at the start, and what follows it. -/
def readText (line : Nat) (letters : List Char) (cs : List Char) :
    Except FormFault (QuotedText × List Char) :=
  let quote := cs.headD '"'
  let triple := [quote, quote, quote].isPrefixOf cs
  let mark := if triple then [quote, quote, quote] else [quote]
  let opened := cs.drop mark.length
  match takeText? mark opened with
  | some (body, rest) =>
    .ok (⟨letters.contains 'b', letters.contains 'r', letters.contains 'f', body⟩, rest)
  | none => .error (.unterminated triple (lastLine triple line opened))

/-- The letters that may stand before a text. -/
def textLetters : List String := ["r", "u", "b", "f", "br", "rb", "fr", "rf"]

/-- The words that are no names. -/
def keywords : List String :=
  ["False", "None", "True", "and", "as", "assert", "async", "await", "break", "class", "continue",
   "def", "del", "elif", "else", "except", "finally", "for", "from", "global", "if", "import", "in",
   "is", "lambda", "nonlocal", "not", "or", "pass", "raise", "return", "try", "while", "with",
   "yield"]

/-- A word is a name unless it has a meaning of its own. -/
def wordToken (s : String) : TokenKind :=
  if keywords.contains s then .mark s else .name s

/-- The marks of more than one character, longer ones first. -/
def longMarks : List String :=
  ["...", "**=", "//=", "<<=", ">>=", "**", "//", "==", "!=", "<>", "<=", ">=", "->", ":=", "<<",
   ">>", "+=", "-=", "*=", "/=", "%=", "&=", "|=", "^=", "@="]

/-- The mark at the start. -/
def takeMark (c : Char) (cs : List Char) : String :=
  (longMarks.find? fun m => m.toList.isPrefixOf (c :: cs)).getD (String.singleton c)

/-! ## Brackets and lines -/

/-- An open bracket, and its line. -/
structure Bracket where
  opener : Char
  line : Nat
  deriving DecidableEq, Repr

/-- The bracket that closes another. -/
def closerOf (opener : Char) : Char :=
  if opener == '(' then ')' else if opener == '{' then '}' else ']'

/-- The greatest number of brackets that may be open. -/
def maxBrackets : Nat := 200

/-- The open brackets after a mark. -/
def track (line : Nat) (opened : List Bracket) (c : Char) : Except FormFault (List Bracket) :=
  if c == '(' || c == '{' || c == '[' then
    if maxBrackets ≤ opened.length then .error .tooManyBrackets else .ok (⟨c, line⟩ :: opened)
  else if c == ')' || c == '}' || c == ']' then
    match opened with
    | [] => .error (.unmatched c)
    | b :: rest =>
      if closerOf b.opener == c then .ok rest
      else .error (.mismatched c b.opener (if b.line == line then none else some b.line))
  else .ok opened

/-- How far a line is indented, with tabs to the next eighth column and with tabs as one. -/
structure Indent where
  wide : Nat
  narrow : Nat
  deriving DecidableEq, Repr

/-- The indentation at the start of a line, the number of lines that it joins, and what follows it.
A form feed begins it anew. A line that goes on behind a backslash is indented as far as the first
of its lines that is indented at all. -/
def readIndent (i : Indent) (held lines : Nat) :
    List Char → Except FormFault (Indent × Nat × List Char)
  | ' ' :: cs => readIndent ⟨i.wide + 1, i.narrow + 1⟩ held lines cs
  | '\t' :: cs => readIndent ⟨(i.wide / 8 + 1) * 8, i.narrow + 1⟩ held lines cs
  | '\x0c' :: cs => readIndent ⟨0, 0⟩ held lines cs
  | '\\' :: '\n' :: cs => readIndent i (if held == 0 then i.wide else held) (lines + 1) cs
  | '\\' :: _ => .error .strayBackslash
  | cs => .ok (if held == 0 then i else ⟨held, held⟩, lines, cs)

/-- The tokens for the indentation of a line, and the indentations that hold behind them, the
innermost first. -/
def changeIndent (i : Indent) : List Indent → Except FormFault (List TokenKind × List Indent)
  | [] => .ok ([], [])
  | top :: outer =>
    if i.wide == top.wide then
      if i.narrow == top.narrow then .ok ([], top :: outer) else .error .mixedIndent
    else if top.wide < i.wide then
      if 99 ≤ outer.length then .error .tooManyIndents
      else if i.narrow ≤ top.narrow then .error .mixedIndent
      else .ok ([.indent], i :: top :: outer)
    else
      let left := outer.dropWhile (i.wide < ·.wide)
      match left with
      | next :: _ =>
        if i.wide != next.wide then .error .badDedent
        else if i.narrow != next.narrow then .error .mixedIndent
        else .ok (List.replicate (outer.length + 1 - left.length) .dedent, left)
      | [] => .error .badDedent

/-! ## All tokens -/

/-- The tokens of a text as far as they can be read. -/
structure Source where
  tokens : Array Token
  /-- The fault behind the last token, unless the text is read to its end. -/
  fault : Option FormFault
  /-- The fault counts even if no rule looks at the place where it is. -/
  certain : Bool
  /-- The innermost bracket that is open behind the last token. -/
  unclosed : Option Bracket
  /-- The end of the text was needed to tell where the last token ends. -/
  runsToEnd : Bool := false

/-- Where the reading of tokens is. -/
structure Scan where
  line : Nat
  opened : List Bracket
  indents : List Indent
  tokens : Array Token

namespace Scan

/-- One more token. -/
def push (s : Scan) (kind : TokenKind) : Scan :=
  { s with tokens := s.tokens.push ⟨kind, s.line, s.opened.length⟩ }

/-- The tokens end with a fault. -/
def fail (s : Scan) (fault : FormFault) (certain : Bool) : Source :=
  { tokens := s.tokens, fault, certain, unclosed := s.opened.head? }

/-- The end of the text. -/
def finish (s : Scan) : Source :=
  match s.opened with
  | b :: _ => s.fail (.neverClosed b.opener) false
  | [] => { tokens := (s.push .finish).tokens, fault := none, certain := true, unclosed := none }

/-- Where the last token ends is known without what follows it. -/
def endsSharply (s : Scan) : Bool :=
  match s.tokens.back?.map Token.kind with
  | some (.text _) => true
  | some (.mark mark) => mark.length == 3 && longMarks.contains mark
  | _ => false

/-- A text in quotes, with the letters before it. -/
def pushText (s : Scan) (letters cs : List Char) : Except FormFault (Scan × List Char) :=
  (readText s.line letters cs).map fun (t, rest) =>
    let s := s.push (.text t)
    ({ s with line := s.line + countLines (consumed cs rest) }, rest)

/-- A name, or a text with letters before it. -/
def pushWord (s : Scan) (cs : List Char) : Except FormFault (Scan × List Char) :=
  let word := cs.takeWhile inName
  let rest := cs.drop word.length
  let letters := word.map Char.toLower
  if (rest.head? == some '"' || rest.head? == some '\'') &&
      textLetters.contains (String.ofList letters) then s.pushText letters rest
  else
    match strayInIdentifier? word with
    | some c => .error (.badCharacter c)
    | none => .ok (s.push (wordToken (String.ofList word)), rest)

/-- A mark. -/
def pushMark (s : Scan) (c : Char) (cs : List Char) : Except FormFault (Scan × List Char) :=
  let mark := takeMark c cs
  if mark.length == 1 then
    match track s.line s.opened c with
    | .error fault => .error fault
    | .ok opened =>
      if isPrintable c then .ok ({ s with opened }.push (.mark mark), cs)
      else .error (.badCharacter c)
  else .ok (s.push (.mark mark), cs.drop (mark.length - 1))

/-- The token at the start of a text that begins neither with a blank nor with a line end. -/
def pushToken (s : Scan) (c : Char) (cs : List Char) : Except FormFault (Scan × List Char) :=
  if isDigit c || (c == '.' && cs.head?.any isDigit) then
    (readNumber (c :: cs)).map fun (n, rest) => (s.push (.number n), rest)
  else if c == '"' || c == '\'' then s.pushText [] (c :: cs)
  else if inName c then s.pushWord (c :: cs)
  else s.pushMark c cs

/-- The start of a line. Empty lines, and lines with nothing but a comment, do not count. -/
def startLine (s : Scan) (cs : List Char) : Except FormFault (Scan × List Char) := do
  let (indent, lines, rest) ← readIndent ⟨0, 0⟩ 0 0 cs
  let s := { s with line := s.line + lines }
  match rest with
  | [] | '\n' :: _ | '#' :: _ => return (s, rest)
  | _ =>
    if s.opened.isEmpty then
      let (kinds, indents) ← changeIndent indent s.indents
      return (kinds.foldl push { s with indents }, rest)
    else return (s, rest)

end Scan

/-- The tokens of a text from a place on. Every step takes a character, so the length of the text
bounds their number. A line that is `blank` so far gives no token at its end. -/
def scanFrom : (steps : Nat) → (blank : Bool) → Scan → List Char → Source
  | 0, _, s, _ => s.finish
  | _, _, s, [] => s.finish
  | steps + 1, blank, s, c :: cs =>
    if c == ' ' || c == '\t' || c == '\x0c' then scanFrom steps blank s cs
    else if c == '#' then scanFrom steps blank s (cs.dropWhile (· != '\n'))
    else if c == '\n' then
      let s := if blank || !s.opened.isEmpty then s else s.push .newline
      let s := { s with line := s.line + 1 }
      match s.startLine cs with
      | .ok (s, rest) => scanFrom steps true s rest
      | .error fault => s.fail fault false
    else if c == '\\' then
      match cs with
      | '\n' :: rest => scanFrom steps blank { s with line := s.line + 1 } rest
      | _ => s.fail .strayBackslash false
    else
      match s.pushToken c cs with
      | .ok (s, []) => { s.finish with runsToEnd := !s.endsSharply }
      | .ok (s, rest) => scanFrom steps false s rest
      | .error fault => s.fail fault true

/-- A text with every line end as one character. -/
def plainLines : List Char → List Char
  | [] => []
  | '\r' :: '\n' :: cs => '\n' :: plainLines cs
  | '\r' :: cs => '\n' :: plainLines cs
  | c :: cs => c :: plainLines cs

/-- The tokens of a text. -/
def scan (text : List Char) : Source :=
  let s : Scan := ⟨1, [], [⟨0, 0⟩], #[]⟩
  match s.startLine (plainLines text) with
  | .ok (s, rest) => scanFrom (text.length + 1) true s rest
  | .error fault => s.fail fault false

end SmellScan.Console.Literal
