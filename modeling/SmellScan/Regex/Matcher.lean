import SmellScan.Regex.Parser
import SmellScan.Text.Blank
import SmellScan.Text.Case
import SmellScan.Text.DecimalDigit
import SmellScan.Text.Word

/-!
# Matching patterns

Matching goes forward with what is to be matched behind a piece as a function of its own
(`Cont`): a piece tries its possibilities in order, and the first with which the rest succeeds
counts. The cursor stands between two characters of the text and knows those before it, the next one
first.

Under the flag for case a character of the text is compared by its small form. A set is then tested
with the small form too if one of its entries has a case, and as it is otherwise.
-/

namespace SmellScan.Regex

/-! ## Characters -/

/-- The first code point that does not fit into sixteen bits. -/
def wideStart : Nat := 0x10000

/-- A function of characters on code points. What is no character is left as it is. -/
def onCode (f : Char → Char) (n : Nat) : Nat :=
  if n.isValidChar then (f (Char.ofNat n)).toNat else n

/-- The small form of a letter of ASCII. -/
def asciiLower (n : Nat) : Nat :=
  if 0x41 ≤ n && n ≤ 0x5A then n + 0x20 else n

namespace Flags

variable (flags : Flags)

/-- The small form of a character. -/
def lower (n : Nat) : Nat :=
  if flags.contains .unicode then onCode Text.lowerChar n else asciiLower n

/-- A character has a small or a capital form other than itself. -/
def isCased (n : Nat) : Bool :=
  if flags.contains .unicode then
    n != onCode Text.lowerChar n || n != onCode Text.upperChar n
  else (0x41 ≤ n && n ≤ 0x5A) || (0x61 ≤ n && n ≤ 0x7A)

/-- The small forms that stand for the same letter as a small form. -/
def sameCase (n : Nat) : List Nat :=
  if flags.contains .unicode then n :: (Text.caseClasses.filter (·.contains n)).flatten else [n]

/-- A character belongs to a class. -/
def isIn (c : Category) (n : Nat) : Bool :=
  let ch := Char.ofNat n
  match c, flags.contains .unicode with
  | .digit, true => (Text.decimalDigit? ch).isSome
  | .digit, false => 0x30 ≤ n && n ≤ 0x39
  | .blank, true => Text.isBlank ch
  | .blank, false => (0x09 ≤ n && n ≤ 0x0D) || n == 0x20
  | .word, true => Text.isWord ch
  | .word, false => n < 0x80 && Text.isWord ch

/-- A character is one of an entry, as it is. -/
def inItem (n : Nat) : SetItem → Bool
  | .literal m => n == m
  | .range first last => first ≤ n && n ≤ last
  | .category c negated => flags.isIn c n != negated

/-- An entry has a character with a case. A wide character always counts as one. -/
def isCasedItem : SetItem → Bool
  | .literal m => flags.isCased m || wideStart ≤ m
  | .range first last =>
    wideStart ≤ last || (List.range' first (last + 1 - first)).any flags.isCased
  | .category .. => false

/-- A small form is one of an entry, up to case. Wide characters are compared with the entry as it
is written. -/
def inItemFolded (n : Nat) : SetItem → Bool
  | .literal m =>
    if wideStart ≤ flags.lower m then n == m else (flags.sameCase (flags.lower m)).contains n
  | .range first last =>
    (List.range' first (min (last + 1) wideStart - first)).any (fun m =>
        (flags.sameCase (flags.lower m)).contains n) ||
      wideStart ≤ last && ((first ≤ n && n ≤ last) ||
        (first ≤ onCode Text.upperChar n && onCode Text.upperChar n ≤ last))
  | .category c negated => flags.isIn c n != negated

/-- A character is one of a set. -/
def inSet (items : List SetItem) (n : Nat) : Bool :=
  if flags.contains .ignoreCase && items.any flags.isCasedItem then
    items.any (flags.inItemFolded (flags.lower n))
  else items.any (flags.inItem n)

/-- A character of the text matches a character of the pattern. -/
def sameChar (m n : Nat) : Bool :=
  if flags.contains .ignoreCase && flags.isCased m then
    (flags.sameCase (flags.lower m)).contains (flags.lower n)
  else n == m

/-- Two characters of the text are the same. -/
def sameText (m n : Nat) : Bool :=
  if flags.contains .ignoreCase then flags.lower m == flags.lower n else m == n

end Flags

/-! ## Cursors -/

/-- A place in a text that is matched, and where groups began and ended last. -/
structure Cursor where
  /-- The characters before the place, the nearest first. -/
  before : List Char
  /-- The characters behind it. -/
  rest : List Char
  /-- The place where a group began, by its number. -/
  opened : List (Nat × Nat) := []
  /-- The place where a group ended, by its number. -/
  closed : List (Nat × Nat) := []
  deriving Repr

/-- What is to be matched behind a piece. -/
abbrev Cont := Cursor → Option Cursor

namespace Cursor

/-- How many characters stand before the place. -/
def place (s : Cursor) : Nat :=
  s.before.length

/-- The whole text. -/
def text (s : Cursor) : List Char :=
  s.before.reverse ++ s.rest

/-- Goes over one character that passes a test. -/
def step (s : Cursor) (test : Nat → Bool) (k : Cont) : Option Cursor :=
  match s.rest with
  | [] => none
  | c :: rest =>
    if test c.toNat then k { s with before := c :: s.before, rest } else none

/-- Goes back so many characters, if there are as many. -/
def back? (s : Cursor) (count : Nat) : Option Cursor :=
  if count ≤ s.place then
    some { s with
      before := s.before.drop count, rest := (s.before.take count).reverse ++ s.rest }
  else none

/-- The cursor at a place, with the groups of another. -/
def withGroupsOf (s other : Cursor) : Cursor :=
  { s with opened := other.opened, closed := other.closed }

/-- Where the last match of a group began and ended. -/
def group? (s : Cursor) (number : Nat) : Option (Nat × Nat) :=
  match s.opened.lookup number, s.closed.lookup number with
  | some first, some last => if first ≤ last then some (first, last) else none
  | _, _ => none

/-- Marks the beginning of a group. -/
def openGroup (s : Cursor) (number : Nat) : Cursor :=
  { s with opened := (number, s.place) :: s.opened }

/-- Marks the end of a group. -/
def closeGroup (s : Cursor) (number : Nat) : Cursor :=
  { s with closed := (number, s.place) :: s.closed }

/-- A word character stands before the place, and one behind it. -/
def wordsAround (flags : Flags) (s : Cursor) : Bool × Bool :=
  (s.before.head?.any (flags.isIn .word ·.toNat), s.rest.head?.any (flags.isIn .word ·.toNat))

/-- A condition holds at the place. An empty text has neither boundaries nor places between. -/
def meets (flags : Flags) (s : Cursor) : Anchor → Bool
  | .start => s.before.isEmpty || flags.contains .multiline && s.before.head? == some '\n'
  | .textStart => s.before.isEmpty
  | .stop =>
    s.rest.isEmpty || s.rest == ['\n'] ||
      flags.contains .multiline && s.rest.head? == some '\n'
  | .textStop => s.rest.isEmpty
  | .boundary => !s.text.isEmpty && (s.wordsAround flags).1 != (s.wordsAround flags).2
  | .noBoundary => !s.text.isEmpty && (s.wordsAround flags).1 == (s.wordsAround flags).2

end Cursor

/-! ## Repetitions -/

section Loops

variable (body : Cont → Cont)

/-- So many turns, and what is behind them. -/
def turns : Nat → Cont → Cont
  | 0, k => k
  | count + 1, k => body (turns count k)

/-- A turn may be made: the greatest number is not reached, and the last turn went forward. -/
def mayTurn (room last : Option Nat) (s : Cursor) : Bool :=
  room != some 0 && last != some s.place

/-- More turns, as many as possible first or as few as possible. At most `fuel` of them go
forward. -/
def moreTurns (isGreedy : Bool) (k : Cont) : (fuel : Nat) → (room last : Option Nat) → Cont
  | 0, _, _, s => k s
  | fuel + 1, room, last, s =>
    let more := fun _ =>
      if mayTurn room last s then
        body (moreTurns isGreedy k fuel (room.map (· - 1)) (some s.place)) s
      else none
    if isGreedy then (more ()).orElse fun _ => k s else (k s).orElse more

/-- More turns, as many as possible, each with its first match only. -/
def possessiveTurns : (fuel : Nat) → (room last : Option Nat) → Cursor → Cursor
  | 0, _, _, s => s
  | fuel + 1, room, last, s =>
    if mayTurn room last s then
      match body some s with
      | some s' => possessiveTurns fuel (room.map (· - 1)) (some s.place) s'
      | none => s
    else s

/-- As many turns as the text has room for, and what is behind them. -/
def repeated (isGreedy : Bool) (k : Cont) (room last : Option Nat) : Cont :=
  fun s => moreTurns body isGreedy k (s.rest.length + 1) room last s

/-- As many turns as the text has room for, each with its first match only. -/
def repeatedFirst (room last : Option Nat) (s : Cursor) : Cursor :=
  possessiveTurns body (s.rest.length + 1) room last s

/-- The least number of turns, each with its first match only. -/
def firstTurns : Nat → Cont
  | 0, s => some s
  | count + 1, s => (body some s).bind (firstTurns count)

/-- The turns of a repetition, and what is behind them. -/
def loopTurns (mode : Mode) (least : Nat) (most : Option Nat) (k : Cont) : Cont :=
  let room := most.map (· - least)
  match mode with
  | .greedy => turns body least (repeated body true k room none)
  | .lazy => turns body least (repeated body false k room none)
  | .possessive => fun s =>
    (firstTurns body least s).bind fun s => k (repeatedFirst body room none s)

end Loops

/-! ## Pieces -/

/-- What a group has matched, once more. -/
def again (flags : Flags) (k : Cont) : List Char → Cont
  | [], s => k s
  | c :: cs, s => s.step (flags.sameText c.toNat) (again flags k cs)

mutual

/-- A piece, and what is behind it. A look behind goes back as far as its part is wide, given
the widths of the groups. -/
def Node.run (groups : List (Option Width)) : Node → Flags → Cont → Cont
  | .literal n, flags, k, s => s.step (flags.sameChar n) k
  | .notLiteral n, flags, k, s => s.step (!flags.sameChar n ·) k
  | .any, flags, k, s => s.step (fun n => flags.contains .dotAll || n != '\n'.toNat) k
  | .anchor a, flags, k, s => if s.meets flags a then k s else none
  | .set negated items, flags, k, s => s.step (fun n => flags.inSet items n != negated) k
  | .branch parts, flags, k, s => runBranch groups parts flags k s
  | .loop mode least most part, flags, k, s =>
    loopTurns (runPart groups part flags) mode least most k s
  | .group none added cleared part, flags, k, s =>
    runPart groups part (flags.within added cleared) k s
  | .group (some number) added cleared part, flags, k, s =>
    runPart groups part (flags.within added cleared) (fun s => k (s.closeGroup number))
      (s.openGroup number)
  | .atomic part, flags, k, s => (runPart groups part flags some s).bind k
  | .backref number, flags, k, s =>
    match s.group? number with
    | some (first, last) => again flags k ((s.text.drop first).take (last - first)) s
    | none => none
  | .conditional number yes no, flags, k, s =>
    if (s.group? number).isSome then runPart groups yes flags k s
    else runPart groups no flags k s
  | .look behind negated part, flags, k, s =>
    let start := s.back? (if behind then (partWidth groups part).1 else 0)
    let found := start.bind (runPart groups part flags some)
    match negated, found with
    | false, some s' => k (s.withGroupsOf s')
    | true, none => k s
    | _, _ => none

/-- The pieces of a part, and what is behind them. -/
def runPart (groups : List (Option Width)) : List Node → Flags → Cont → Cont
  | [], _, k, s => k s
  | node :: part, flags, k, s => node.run groups flags (runPart groups part flags k) s

/-- One of several parts, and what is behind it. -/
def runBranch (groups : List (Option Width)) : List (List Node) → Flags → Cont → Cont
  | [], _, _, _ => none
  | part :: parts, flags, k, s =>
    (runPart groups part flags k s).orElse fun _ => runBranch groups parts flags k s

end

/-- A matcher succeeds at the cursor or at a place behind it. -/
def searchFrom (m : Cont) (before : List Char) : List Char → Bool
  | [] => (m { before, rest := [] }).isSome
  | c :: rest =>
    (m { before, rest := c :: rest }).isSome || searchFrom m (c :: before) rest

/-- The pattern matches somewhere in a text. -/
def Pattern.foundIn (p : Pattern) (text : String) : Bool :=
  searchFrom (runPart p.groups p.part p.flags some) [] text.toList

end SmellScan.Regex
