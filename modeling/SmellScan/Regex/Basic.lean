/-!
# Regular expressions

What a pattern is made of once it is read: pieces that are matched one after the other. Characters
are given by their code points, since a pattern can name one that no text holds.
-/

namespace SmellScan.Regex

/-! ## Flags -/

/-- What changes how a pattern, or a part of it, is read and matched. -/
inductive Flag where
  | ascii
  | ignoreCase
  | locale
  | multiline
  | dotAll
  | template
  | unicode
  | verbose
  deriving DecidableEq, Repr

/-- The flags that are set. -/
abbrev Flags := List Flag

namespace Flag

/-- The flag that a letter stands for. -/
def ofLetter? : Char → Option Flag
  | 'a' => some .ascii
  | 'i' => some .ignoreCase
  | 'L' => some .locale
  | 'm' => some .multiline
  | 's' => some .dotAll
  | 't' => some .template
  | 'u' => some .unicode
  | 'x' => some .verbose
  | _ => none

/-- The flag says which characters are letters, digits and blanks. One such flag excludes the
others. -/
def isKind (f : Flag) : Bool :=
  f == .ascii || f == .locale || f == .unicode

/-- The flag is for a whole pattern only. -/
def isGlobal (f : Flag) : Bool :=
  f == .template

end Flag

/-- The flags within a group that sets some and clears others. -/
def Flags.within (flags added cleared : Flags) : Flags :=
  let kept := if added.any Flag.isKind then flags.filter (!·.isKind) else flags
  (kept ++ added).filter (!cleared.contains ·)

/-! ## Pieces -/

/-- A class of characters with a letter of its own. -/
inductive Category where
  | digit
  | blank
  | word
  deriving DecidableEq, Repr

/-- One entry of a set of characters. -/
inductive SetItem where
  | literal (code : Nat)
  | range (first last : Nat)
  | category (category : Category) (negated : Bool)
  deriving DecidableEq, Repr

/-- A condition on the place between two characters. -/
inductive Anchor where
  | start
  | textStart
  | boundary
  | noBoundary
  | stop
  | textStop
  deriving DecidableEq, Repr

/-- How a repetition chooses among the numbers of turns. -/
inductive Mode where
  /-- As many turns as possible first. -/
  | greedy
  /-- As few turns as possible first. -/
  | lazy
  /-- As many turns as possible, and no fewer later. -/
  | possessive
  deriving DecidableEq, Repr

/-- A piece of a pattern. A part of a pattern is the list of its pieces. -/
inductive Node where
  | literal (code : Nat)
  | notLiteral (code : Nat)
  | any
  | anchor (anchor : Anchor)
  | set (negated : Bool) (items : List SetItem)
  /-- One of several parts, the first that leads to a match. -/
  | branch (parts : List (List Node))
  /-- A part so many times; there need not be a greatest number of turns. -/
  | loop (mode : Mode) (least : Nat) (most : Option Nat) (part : List Node)
  /-- A part in brackets. What it matched is kept under the number. -/
  | group (number : Option Nat) (added cleared : Flags) (part : List Node)
  /-- A part of which only the first match counts. -/
  | atomic (part : List Node)
  /-- What a group has matched. -/
  | backref (number : Nat)
  /-- One part or the other, by whether a group has matched. -/
  | conditional (number : Nat) (yes no : List Node)
  /-- A part that matches here, or before here, or that does not. -/
  | look (behind negated : Bool) (part : List Node)
  deriving Repr

namespace Node

/-- Both pieces are the same and hold no parts. -/
def sameSimple : Node → Node → Bool
  | .literal a, .literal b => a == b
  | .notLiteral a, .notLiteral b => a == b
  | .any, .any => true
  | .anchor a, .anchor b => a == b
  | .set n as, .set m bs => n == m && as == bs
  | .backref a, .backref b => a == b
  | _, _ => false

end Node

/-! ## Faults -/

/-- What is wrong with a pattern. -/
inductive Fault where
  /-- The pattern is malformed: the words for it, and the place where that is noticed. -/
  | malformed (words : String) (place : Option Nat)
  /-- A number of turns is too large. -/
  | hugeRepeat
  /-- A number of turns has too many digits. -/
  | manyDigits (count : Nat)
  /-- The pattern asks for letters of ASCII and for those of all scripts. -/
  | clashingFlags
  /-- Groups are nested too deeply to be read. -/
  | tooDeep
  deriving DecidableEq, Repr

namespace Fault

/-- Where a place of a pattern is, if the pattern has several lines: the line and the column. -/
def lineAndColumn (pattern : List Char) (place : Nat) : Nat × Nat :=
  let before := pattern.take place
  (before.count '\n' + 1, (before.reverse.takeWhile (· != '\n')).length + 1)

/-- The text of a fault of a pattern. -/
def message (pattern : String) : Fault → String
  | .malformed words none => words
  | .malformed words (some place) =>
    let (line, column) := lineAndColumn pattern.toList place
    let placed := s!"{words} at position {place}"
    if pattern.toList.contains '\n' then s!"{placed} (line {line}, column {column})" else placed
  | .hugeRepeat => "the repetition number is too large"
  | .manyDigits count =>
    s!"Exceeds the limit (4300 digits) for integer string conversion: value has {count} digits; " ++
      "use sys.set_int_max_str_digits() to increase the limit"
  | .clashingFlags => "ASCII and UNICODE flags are incompatible"
  | .tooDeep => "maximum recursion depth exceeded"

end Fault

end SmellScan.Regex
