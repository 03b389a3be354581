import SmellScan.Regex.Basic

/-!
# Reading patterns

A pattern is read token by token, with one token read ahead. Along with the place in the pattern a
reader keeps the flags of the whole pattern and what is known of its groups. A fault is placed where
the token stands that is read ahead, or some characters before it.
-/

namespace SmellScan.Regex

/-- A character of a pattern, or one behind a backslash. -/
inductive Token where
  | plain (c : Char)
  | escaped (c : Char)
  deriving DecidableEq, Repr

/-- The characters of a token. -/
def Token.chars : Token → List Char
  | .plain c => [c]
  | .escaped c => ['\\', c]

/-- The text of a token. -/
def Token.text (t : Token) : String :=
  String.ofList t.chars

/-- What is left of a pattern. -/
structure Source where
  /-- The token that is read ahead. -/
  next : Option Token
  /-- What follows it. -/
  rest : List Char
  /-- The place of the token in the pattern. -/
  place : Nat
  deriving Repr

namespace Source

/-- What is left at a place, with a token read ahead. A backslash has to have something behind
it. -/
def ahead (place : Nat) : List Char → Except Fault Source
  | [] => .ok ⟨none, [], place⟩
  | ['\\'] => .error (.malformed "bad escape (end of pattern)" (some place))
  | '\\' :: c :: rest => .ok ⟨some (.escaped c), rest, place⟩
  | c :: rest => .ok ⟨some (.plain c), rest, place⟩

/-- What is left behind the token that is read ahead. -/
def advance (s : Source) : Except Fault Source :=
  match s.next with
  | some t => ahead (s.place + t.chars.length) s.rest
  | none => .ok s

end Source

/-- The least and the greatest length of what a part matches. -/
abbrev Width := Nat × Nat

/-- What is known while a pattern is read. -/
structure Progress where
  source : Source
  /-- The flags of the whole pattern. -/
  flags : Flags
  /-- The numbers of the groups with names. -/
  names : List (String × Nat) := []
  /-- The widths of the groups in the order of their numbers, none for a group that is open. The
  whole pattern is the group of number zero. -/
  widths : List (Option Width) := [none]
  /-- How many groups there were where the outermost look behind began. -/
  behind : Option Nat := none
  /-- The numbers by which conditions refer to groups, with the first place of each. -/
  conditions : List (Nat × Nat) := []

/-- A reader of a pattern. -/
abbrev Reader := StateT Progress (Except Fault)

namespace Reader

/-- Something is wrong at a place. -/
def failAt {α : Type} (words : String) (place : Nat) : Reader α :=
  throw (.malformed words (some place))

/-- Something is wrong so many characters before the place that is reached. -/
def fail {α : Type} (words : String) (back : Nat) : Reader α := do
  failAt words ((← get).source.place - back)

/-- The token that is read ahead. -/
def peek : Reader (Option Token) := do
  return (← get).source.next

/-- The place of the token that is read ahead. -/
def place : Reader Nat := do
  return (← get).source.place

/-- Takes the token that is read ahead. -/
def take : Reader (Option Token) := do
  let progress ← get
  let source ← progress.source.advance
  set { progress with source }
  return progress.source.next

/-- Takes the token that is read ahead if it is a given character. -/
def accept (c : Char) : Reader Bool := do
  if (← peek) = some (.plain c) then
    let _ ← take
    return true
  else return false

/-- Takes at most so many characters that pass a test. -/
def takeWhile (test : Char → Bool) : Nat → Reader (List Char)
  | 0 => return []
  | count + 1 => do
    match ← peek with
    | some (.plain c) =>
      if test c then
        let _ ← take
        return c :: (← takeWhile test count)
      else return []
    | _ => return []

/-- How many characters are left. -/
def left : Reader Nat := do
  let source := (← get).source
  return source.rest.length + (source.next.map (·.chars.length)).getD 0

/-- Takes the tokens before a character and the character, at most so many, behind those that were
taken. -/
def takeThrough (stop : Char) (what : String) (taken : List Char) : Nat → Reader (List Char)
  | 0 => fail s!"missing {stop}, unterminated name" taken.length
  | count + 1 => do
    match ← take with
    | none =>
      if taken.isEmpty then fail s!"missing {what}" 0
      else fail s!"missing {stop}, unterminated name" taken.length
    | some t =>
      if t = .plain stop then
        if taken.isEmpty then fail s!"missing {what}" 1 else return taken
      else takeThrough stop what (taken ++ t.chars) count

/-- Takes a name and the character that ends it. -/
def takeName (stop : Char) (what : String) : Reader String := do
  return String.ofList (← takeThrough stop what [] ((← left) + 1))

end Reader

end SmellScan.Regex
