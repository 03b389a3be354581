import SmellScan.Regex.Group
import SmellScan.Regex.Width

/-!
# The syntax of patterns

A pattern is one part or several, with bars between them, and a part is a run of pieces. Reading
takes turns: each call of one of the readers that call each other is a turn, and a reader that has
no turns left says that groups are nested too deeply. `turnsFor` gives enough of them for a pattern
of any length.
-/

namespace SmellScan.Regex

/-! ## Putting parts together -/

/-- The parts without the brackets that only group. -/
def unwrap (part : List Node) : List Node :=
  part.flatMap fun node =>
    match node with
    | .group none [] [] inner => inner
    | node => [node]

/-- The pieces with which all parts begin, and the parts without them. -/
def sharedStart : List Node → List (List Node) → List Node × List (List Node)
  | node :: first, others =>
    if others.all fun part => part.head?.any node.sameSimple then
      let (shared, left) := sharedStart first (others.map List.tail)
      (node :: shared, left)
    else ([], (node :: first) :: others)
  | [], others => ([], [] :: others)

/-- The entries of a set that stands for a part. -/
def itemsOf? : List Node → Option (List SetItem)
  | [.literal n] => some [.literal n]
  | [.set false items] => some items
  | _ => none

/-- One of several parts, as one part. Parts of one character each are a set. -/
def joinParts : List (List Node) → List Node
  | [] => []
  | [part] => part
  | first :: others =>
    let (shared, left) := sharedStart first others
    match left.mapM itemsOf? with
    | some items => shared ++ [.set false items.flatten.eraseDups]
    | none => shared ++ [.branch left]

/-- A set of characters as a piece. -/
def setNode (negated : Bool) (items : List SetItem) : Node :=
  match items.eraseDups with
  | [.literal n] => if negated then .notLiteral n else .literal n
  | items => .set negated items

namespace Reader

section

variable (namedChar? : String → Option Char)

/-! ## Sets of characters -/

/-- The entry of a set that begins with a token. -/
def setEntry : Token → Reader SetItem
  | .escaped c => setEscape namedChar? c
  | .plain c => return .literal c.toNat

/-- The range between two entries, which are known by their first tokens. -/
def setRange (first last : Token) : SetItem → SetItem → Reader SetItem
  | .literal low, .literal high =>
    if low ≤ high then return .range low high
    else fail s!"bad character range {first.text}-{last.text}"
      (first.chars.length + last.chars.length + 1)
  | _, _ => fail s!"bad character range {first.text}-{last.text}"
      (first.chars.length + last.chars.length + 1)

/-- Takes the entries of a set that began at a place, behind those that were taken, and the bracket
that ends it. A bracket that comes first is an entry. -/
def setEntries (begun : Nat) (items : List SetItem) : Nat → Reader (List SetItem)
  | 0 => failAt "unterminated character set" begun
  | count + 1 => do
    match ← take with
    | none => failAt "unterminated character set" begun
    | some first =>
      if first = .plain ']' && !items.isEmpty then return items
      let low ← setEntry namedChar? first
      if !(← accept '-') then return ← setEntries begun (items ++ [low]) count
      match ← take with
      | none => failAt "unterminated character set" begun
      | some last =>
        if last = .plain ']' then return items ++ [low, .literal '-'.toNat]
        let high ← setEntry namedChar? last
        setEntries begun (items ++ [← setRange first last low high]) count

/-- A set of characters whose bracket stands at a place. -/
def charSet (begun : Nat) : Reader Node := do
  let negated ← accept '^'
  return setNode negated (← setEntries namedChar? begun [] ((← left) + 1))

/-! ## Repetitions -/

/-- The greatest number of turns that is kept, and one more. -/
def maxRepeat : Nat := 4294967295

/-- The number of turns that digits spell, if there are any. -/
def repeatCount? (digits : List Char) : Reader (Option Nat) := do
  if digits.isEmpty then return none
  if Numeral.maxDigits < digits.length then throw (.manyDigits digits.length)
  if maxRepeat ≤ digitsValue digits then throw .hugeRepeat
  return some (digitsValue digits)

/-- The least and the greatest number of turns in braces, if braces it is that follow. -/
def braces? : Reader (Option (Nat × Option Nat)) := do
  if (← peek) = some (.plain '\x7d') then return none
  let before ← get
  let begun ← place
  let low ← takeWhile isDigit (← left)
  let high ← if ← accept ',' then takeWhile isDigit (← left) else pure low
  if !(← accept '\x7d') then
    set before
    return none
  let least := (← repeatCount? low).getD 0
  let most ← repeatCount? high
  if most.any (· < least) then failAt "min repeat greater than max repeat" begun
  return some (least, most)

/-- The least and the greatest number of turns that a character stands for. A brace need not. -/
def repeatBounds? : Char → Reader (Option (Nat × Option Nat))
  | '?' => return some (0, some 1)
  | '*' => return some (0, none)
  | '+' => return some (1, none)
  | _ => braces?

/-- How a repetition chooses, by the character behind it. -/
def repeatMode : Reader Mode := do
  if ← accept '?' then return .lazy
  else if ← accept '+' then return .possessive
  else return .greedy

/-- A repetition, by its character at a place, of the last piece of a part. -/
def repetition (begun : Nat) (c : Char) (done : List Node) : Reader (List Node) := do
  match ← repeatBounds? c with
  | none => return .literal c.toNat :: done
  | some (least, most) =>
    match done with
    | [] | .anchor _ :: _ => failAt "nothing to repeat" begun
    | .loop .. :: _ => failAt "multiple repeat" begun
    | .group none [] [] inner :: done =>
      return .loop (← repeatMode) least most inner :: done
    | node :: done => return .loop (← repeatMode) least most [node] :: done

/-! ## Parts -/

/-- A blank that does not count in a pattern that is spaced out. -/
def isPadding (t : Token) : Bool :=
  [' ', '\t', '\n', '\r', '\x0b', '\x0c'].any fun c => t = .plain c

/-- Takes what is left of a line. -/
def skipLine : Nat → Reader Unit
  | 0 => return
  | count + 1 => do
    match ← take with
    | none => return
    | some t => if t = .plain '\n' then return else skipLine count

/-- The pieces of a part, the last first, with those of a token at a place that is no bracket. -/
def piece (begun : Nat) (done : List Node) : Token → Reader (List Node)
  | .escaped c => return (← escape namedChar? c) :: done
  | .plain '.' => return .any :: done
  | .plain '^' => return .anchor .start :: done
  | .plain '$' => return .anchor .stop :: done
  | .plain '[' => return (← charSet namedChar? begun) :: done
  | .plain c =>
    if ['*', '+', '?', '\x7b'].contains c then repetition begun c done
    else return .literal c.toNat :: done

/-- A pattern is spaced out as a whole. -/
def isVerbose : Reader Bool := do
  return (← get).flags.contains .verbose

mutual

/-- One of several parts. On the top level flags for the whole pattern hold from one part to the
next. -/
def alternatives (top verbose : Bool) : Nat → Reader (List Node)
  | 0 => throw .tooDeep
  | turns + 1 => do return joinParts (← parts top verbose top turns)

/-- Parts with bars between them. -/
def parts (top verbose first : Bool) : Nat → Reader (List (List Node))
  | 0 => throw .tooDeep
  | turns + 1 => do
    let part ← sequence verbose first [] turns
    if !(← accept '|') then return [part]
    let verbose ← if top then isVerbose else pure verbose
    return part :: (← parts top verbose false turns)

/-- The pieces of a part behind those that were taken, the last first. -/
def sequence (verbose first : Bool) (done : List Node) : Nat → Reader (List Node)
  | 0 => throw .tooDeep
  | turns + 1 => do
    let begun ← place
    match ← peek with
    | none | some (.plain '|') | some (.plain ')') => return unwrap done.reverse
    | some t =>
      let _ ← take
      if verbose && isPadding t then sequence verbose first done turns
      else if verbose && t = .plain '#' then
        skipLine ((← left) + 1)
        sequence verbose first done turns
      else if t = .plain '(' then
        let (verbose, done) ← bracket verbose first begun done turns
        sequence verbose first done turns
      else sequence verbose first (← piece namedChar? begun done t) turns

/-- The pieces of a part with that of a bracket at a place, and whether the pattern is spaced out
behind it. -/
def bracket (verbose first : Bool) (begun : Nat) (done : List Node) :
    Nat → Reader (Bool × List Node)
  | 0 => throw .tooDeep
  | turns + 1 => do
    match ← opening begun with
    | .comment => return (verbose, done)
    | .backref number => return (verbose, .backref number :: done)
    | .flags =>
      if !first || !done.isEmpty then
        failAt "global flags not at the start of the expression" begun
      return (← isVerbose, done)
    | .group name =>
      let number ← openGroup name
      let inner ← alternatives false verbose turns
      closeBracket begun
      closeGroup number (partWidth · inner)
      return (verbose, .group (some number) [] [] inner :: done)
    | .plain added cleared =>
      let within := (verbose || added.contains .verbose) && !cleared.contains .verbose
      let inner ← alternatives false within turns
      closeBracket begun
      return (verbose, .group none added cleared inner :: done)
    | .atomic =>
      let inner ← alternatives false verbose turns
      closeBracket begun
      return (verbose, .atomic inner :: done)
    | .look behind negated =>
      let read := alternatives false verbose turns
      let inner ← if behind then withinBehind read else read
      closeBracket begun
      return (verbose, .look behind negated inner :: done)
    | .conditional number =>
      let yes ← sequence verbose false [] turns
      let no ← if ← accept '|' then sequence verbose false [] turns else pure []
      if (← peek) = some (.plain '|') then
        fail "conditional backref with more than two branches" 0
      closeBracket begun
      return (verbose, .conditional number yes no :: done)

end

end

end Reader

/-! ## Patterns -/

/-- A pattern that was read: its pieces, the flags under which they are matched, and the widths of
its groups. -/
structure Pattern where
  part : List Node
  flags : Flags
  groups : List (Option Width)
  deriving Repr

/-- The flags of a pattern, with those of all scripts unless it asks for ASCII. -/
def fixFlags (flags : Flags) : Except Fault Flags :=
  if !flags.contains .ascii then .ok (.unicode :: flags)
  else if flags.contains .unicode then .error .clashingFlags
  else .ok flags

/-- Every group that a condition calls by its number exists. -/
def checkConditions (groups : Nat) : List (Nat × Nat) → Except Fault Unit
  | [] => .ok ()
  | (number, place) :: conditions =>
    if groups ≤ number then
      .error (.malformed s!"invalid group reference {number}" (some place))
    else checkConditions groups conditions

/-- Turns that are enough for a pattern of a length. -/
def turnsFor (length : Nat) : Nat := 4 * length + 3

/-- A pattern, given the names of characters and the flags under which it is read. -/
def parse (namedChar? : String → Option Char) (flags : Flags) (pattern : String) :
    Except Fault Pattern := do
  let cs := pattern.toList
  let source ← Source.ahead 0 cs
  let verbose := flags.contains .verbose
  let read := Reader.alternatives namedChar? true verbose (turnsFor cs.length)
  let (part, progress) ← read.run { source, flags }
  let flags ← fixFlags progress.flags
  if progress.source.next.isSome then
    throw (.malformed "unbalanced parenthesis" (some progress.source.place))
  checkConditions progress.widths.length progress.conditions
  checkPart progress.widths flags part
  return { part, flags, groups := progress.widths }

end SmellScan.Regex
