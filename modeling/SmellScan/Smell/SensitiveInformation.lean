import SmellScan.Smell.Basic
import SmellScan.Text.Case
import SmellScan.Text.Word

/-!
# Hard-coded sensitive information

Five kinds of text that give away a secret: a keyword followed, behind a few marks, by a run of
characters long enough to be one, and look-ups of environment variables. Letters are compared
without regard to case.
-/

namespace SmellScan.Smell.SensitiveInformation

open Text

/-- The text behind `word` in any case, if it starts with it. -/
def stripWord? : List Char → List Char → Option (List Char)
  | [], cs => some cs
  | _ :: _, [] => none
  | w :: word, c :: cs => if sameLetter w c then stripWord? word cs else none

/-- A mark that may join the two halves of a keyword. -/
def isJoint (c : Char) : Bool :=
  c == '_' || c == '-' || isBlank c

/-- The text behind a keyword of two halves with at most one joint between them. -/
def stripPair? (first second : String) (cs : List Char) : Option (List Char) :=
  match stripWord? first.toList cs with
  | none => none
  | some (c :: rest) =>
    if isJoint c then stripWord? second.toList rest else stripWord? second.toList (c :: rest)
  | some [] => none

/-- A letter of the Latin alphabet without marks, in any case. -/
def isLatinLetter (c : Char) : Bool :=
  let n := (lowerChar c).toNat
  (0x61 ≤ n && n ≤ 0x7A) || n == 0x131 || n == 0x17F

/-- Such a letter, or a digit. -/
def isLatinOrDigit (c : Char) : Bool :=
  isLatinLetter c || (0x30 ≤ c.toNat && c.toNat ≤ 0x39)

/-- A character of a secret. -/
def isSecretChar (c : Char) : Bool :=
  isWord c || c == '-'

/-- The text starts with a secret of at least `count` characters. -/
def startsSecret (count : Nat) (cs : List Char) : Bool :=
  count ≤ (cs.takeWhile isSecretChar).length

/-- A secret stands behind any number of characters that are neither Latin letters nor digits. -/
def secretBehindMarks (count : Nat) : List Char → Bool
  | [] => startsSecret count []
  | c :: cs =>
    startsSecret count (c :: cs) || (!isLatinOrDigit c && secretBehindMarks count cs)

/-- The text without one leading character of a set. -/
def dropOne (marks : List Char) (cs : List Char) : List Char :=
  match cs with
  | c :: rest => if marks.contains c then rest else cs
  | [] => []

/-- A secret stands behind a quote or colon and a quote, each of which may be absent, with blanks
before each. -/
def secretAssigned (count : Nat) (cs : List Char) : Bool :=
  let behindFirst := dropOne ['\'', '"', ':'] (trimLeft cs)
  startsSecret count (dropOne ['\'', '"'] (trimLeft behindFirst))

/-- A keyword for keys, tokens and secrets at the start of the text, and a secret behind it. -/
def startsToken (cs : List Char) : Bool :=
  [stripPair? "api" "key" cs, stripWord? "token".toList cs, stripWord? "secret".toList cs].any
    fun rest => rest.any (secretBehindMarks 32)

/-- A password at the start of the text. -/
def startsPassword (cs : List Char) : Bool :=
  (stripWord? "password".toList cs).any (secretAssigned 6)

/-- A private key at the start of the text. -/
def startsPrivateKey (cs : List Char) : Bool :=
  (stripPair? "private" "key" cs).any (secretAssigned 32)

/-- An access key at the start of the text. -/
def startsAccessKey (cs : List Char) : Bool :=
  (stripPair? "access" "key" cs).any (secretAssigned 20)

/-- A look-up of an environment variable at the start of the text. -/
def startsEnvironment (cs : List Char) : Bool :=
  match stripWord? "process.env.".toList cs with
  | some (c :: _) => isLatinLetter c || c == '_'
  | _ => false

/-- What is looked for at each place of a line, with the description of each. -/
def patterns : List ((List Char → Bool) × String) :=
  [(startsToken, "Hard-coded API key, token, or secret detected."),
   (startsPassword, "Hard-coded password detected."),
   (startsPrivateKey, "Hard-coded private key detected."),
   (startsAccessKey, "Hard-coded access key detected."),
   (startsEnvironment, "Environment variable access detected.")]

/-- The lines of a unit with sensitive information, once for each kind. -/
def check (unit : SourceUnit) (_ : Config) : List Occurrence :=
  unit.numberedLines.flatMap fun (n, line) =>
    patterns.filterMap fun (test, description) =>
      if anywhere test line.toList then some { line := n, description } else none

end SmellScan.Smell.SensitiveInformation
