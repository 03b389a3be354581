import SmellScan.Numeric.Numeral
import SmellScan.Regex.Escape
import SmellScan.Text.Identifier
import SmellScan.Text.Word

/-!
# Brackets in patterns

What stands between an opening bracket and the part that it encloses: the kind of the group, its
name, its flags, or the group on which a condition depends. Comments, references by name and flags
for the whole pattern have no part.
-/

namespace SmellScan.Regex

/-- How a bracket begins. -/
inductive Opening where
  /-- A group whose match is kept, with its name if it has one. -/
  | group (name : Option String)
  /-- A group that is only matched, with the flags that it sets and clears. -/
  | plain (added cleared : Flags)
  | atomic
  | look (behind negated : Bool)
  | conditional (number : Nat)
  /-- A reference to a group, with its closing bracket. -/
  | backref (number : Nat)
  /-- A comment, with its closing bracket. -/
  | comment
  /-- Flags for the whole pattern, with the closing bracket. -/
  | flags
  deriving Repr

/-- One more than the greatest number of a group. -/
def maxGroups : Nat := 1073741823

namespace Reader

/-! ## Flags -/

/-- Takes a flag, or one of the characters that may stand in its place. -/
def takeFlag (others : List Char) (missing : String) : Reader (Flag ⊕ Char) := do
  match ← take with
  | none => fail missing 0
  | some (.escaped _) => fail missing 2
  | some (.plain c) =>
    if others.contains c then return .inr c
    match Flag.ofLetter? c with
    | some f => return .inl f
    | none => fail (if Text.isLetter c then "unknown flag" else missing) 1

/-- Sets a flag and those that follow it, and takes the character behind them. -/
def addFlags (f : Flag) (added : Flags) : Nat → Reader (Flags × Char)
  | 0 => fail "missing -, : or )" 0
  | count + 1 => do
    if f = .locale then fail "bad inline flags: cannot use 'L' flag with a str pattern" 0
    let added := f :: added
    if f.isKind && added.any fun g => g.isKind && g != f then
      fail "bad inline flags: flags 'a', 'u' and 'L' are incompatible" 0
    match ← takeFlag [')', '-', ':'] "missing -, : or )" with
    | .inl next => addFlags next added count
    | .inr c => return (added, c)

/-- Clears a flag and those that follow it, and takes the colon behind them. -/
def clearFlags (f : Flag) (cleared : Flags) : Nat → Reader Flags
  | 0 => fail "missing :" 0
  | count + 1 => do
    if f.isKind then fail "bad inline flags: cannot turn off flags 'a', 'u' and 'L'" 0
    match ← takeFlag [':'] "missing :" with
    | .inl next => clearFlags next (f :: cleared) count
    | .inr _ => return f :: cleared

/-- The flags that a group clears, behind a hyphen. -/
def clearedFlags : Reader Flags := do
  match ← takeFlag [] "missing flag" with
  | .inl f => clearFlags f [] ((← left) + 1)
  | .inr _ => return []

/-- A group that sets and clears flags. -/
def flagGroup (added cleared : Flags) : Reader Opening := do
  if cleared.any Flag.isGlobal then fail "bad inline flags: cannot turn off global flag" 1
  if added.any (cleared.contains ·) then fail "bad inline flags: flag turned on and off" 1
  return .plain added cleared

/-- Flags, for the whole pattern or for a group, from the first of them on. -/
def flagOpening (f : Flag) : Reader Opening := do
  let (added, c) ← addFlags f [] ((← left) + 1)
  if c = ')' then
    modify fun progress => { progress with flags := progress.flags ++ added }
    return .flags
  if added.any Flag.isGlobal then fail "bad inline flags: cannot turn on global flag" 1
  if c = '-' then flagGroup added (← clearedFlags) else flagGroup added []

/-! ## Names and numbers of groups -/

/-- The name of a group, up to the character that ends it. -/
def groupName (stop : Char) : Reader String := do
  let name ← takeName stop "group name"
  if (Text.strayInIdentifier? name.toList).isSome then
    fail s!"bad character in group name {Text.quoted name}" (name.length + 1)
  return name

/-- The number of the group with a name that was just taken. -/
def groupNamed (name : String) : Reader Nat := do
  match (← get).names.lookup name with
  | some number => return number
  | none => fail s!"unknown group name {Text.quoted name}" (name.length + 1)

/-- A reference to a group by its name. -/
def nameBackref : Reader Opening := do
  let name ← groupName ')'
  let number ← groupNamed name
  if ((← get).widths[number]?.join).isNone then
    fail "cannot refer to an open group" (name.length + 1)
  checkBehind number
  return .backref number

/-- Keeps the place of a condition on a group that need not be known yet. -/
def noteCondition (number back : Nat) : Reader Unit :=
  modify fun progress =>
    if progress.conditions.any (·.1 == number) then progress
    else
      { progress with
        conditions := progress.conditions ++ [(number, progress.source.place - back)] }

/-- The group that a condition calls by its number. -/
def conditionNumber (name : String) : Reader Nat := do
  let back := name.length + 1
  match Numeral.int? name with
  | some (.ofNat number) =>
    if number = 0 then fail "bad group number" back
    if maxGroups ≤ number then fail s!"invalid group reference {number}" back
    noteCondition number back
    return number
  | _ => fail s!"bad character in group name {Text.quoted name}" back

/-- The group on which a condition depends. -/
def condition : Reader Opening := do
  let name ← takeName ')' "group name"
  let number ←
    if (Text.strayInIdentifier? name.toList).isNone then groupNamed name else conditionNumber name
  checkBehind number
  return .conditional number

/-! ## Openings -/

/-- Takes what is left of a comment that began at a place. -/
def skipComment (begun : Nat) : Nat → Reader Unit
  | 0 => failAt "missing ), unterminated comment" begun
  | count + 1 => do
    match ← take with
    | none => failAt "missing ), unterminated comment" begun
    | some t => if t = .plain ')' then return else skipComment begun count

/-- What is unknown behind the question mark of a bracket. -/
def unknownOpening {α : Type} (before : String) (t : Token) : Reader α :=
  fail s!"unknown extension ?{before}{t.text}" (before.length + t.chars.length + 1)

/-- Takes a token that has to be there. -/
def takeToken : Reader Token := do
  match ← take with
  | some t => return t
  | none => fail "unexpected end of pattern" 0

/-- The opening of a group with a name, or a reference by name. -/
def namedOpening : Reader Opening := do
  if ← accept '<' then return .group (some (← groupName '>'))
  else if ← accept '=' then nameBackref
  else unknownOpening "P" (← takeToken)

/-- The opening of a look behind. -/
def behindOpening : Reader Opening := do
  match ← takeToken with
  | .plain '=' => return .look true false
  | .plain '!' => return .look true true
  | t => unknownOpening "<" t

/-- What follows the question mark of a bracket at a place. -/
def markedOpening (begun : Nat) : Reader Opening := do
  match ← takeToken with
  | .plain 'P' => namedOpening
  | .plain ':' => return .plain [] []
  | .plain '#' => do
    skipComment begun ((← left) + 1)
    return .comment
  | .plain '=' => return .look false false
  | .plain '!' => return .look false true
  | .plain '<' => behindOpening
  | .plain '(' => condition
  | .plain '>' => return .atomic
  | .plain '-' => do flagGroup [] (← clearedFlags)
  | .plain c =>
    match Flag.ofLetter? c with
    | some f => flagOpening f
    | none => unknownOpening "" (.plain c)
  | t => unknownOpening "" t

/-- What follows a bracket at a place. -/
def opening (begun : Nat) : Reader Opening := do
  if ← accept '?' then markedOpening begun else return .group none

/-! ## Groups -/

/-- Opens a group whose match is kept, and gives it the next number. -/
def openGroup (name : Option String) : Reader Nat := do
  let progress ← get
  let number := progress.widths.length
  let widths := progress.widths ++ [none]
  match name with
  | none => set { progress with widths }
  | some name =>
    match progress.names.lookup name with
    | some other =>
      fail (s!"redefinition of group name {Text.quoted name} as group {number}; " ++
        s!"was group {other}") (name.length + 1)
    | none => set { progress with widths, names := (name, number) :: progress.names }
  return number

/-- Closes a group. -/
def closeGroup (number : Nat) (width : List (Option Width) → Width) : Reader Unit :=
  modify fun progress =>
    { progress with widths := progress.widths.set number (some (width progress.widths)) }

/-- Takes the bracket that closes one at a place. -/
def closeBracket (begun : Nat) : Reader Unit := do
  if !(← accept ')') then failAt "missing ), unterminated subpattern" begun

/-- Reads what a look behind holds: it cannot refer to its own groups. -/
def withinBehind {α : Type} (read : Reader α) : Reader α := do
  let outer := (← get).behind
  modify fun progress =>
    { progress with behind := some (outer.getD progress.widths.length) }
  let value ← read
  modify fun progress => { progress with behind := outer }
  return value

end Reader

end SmellScan.Regex
