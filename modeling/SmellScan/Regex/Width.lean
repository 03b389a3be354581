import SmellScan.Regex.Source

/-!
# What a pattern can match

The least and the greatest length of what a part of a pattern matches. A look behind has to know
how far to go back, so the part in it has one length only.
-/

namespace SmellScan.Regex

/-- The length above which lengths are not told apart. -/
def maxWidth : Nat := 0x10000000000000000

/-- The greatest length of a look behind. -/
def maxBehind : Nat := 0xFFFFFFFF

mutual

/-- The width of a piece, given those of the groups. -/
def Node.width (groups : List (Option Width)) : Node → Width
  | .literal _ | .notLiteral _ | .any | .set .. => (1, 1)
  | .anchor _ | .look .. => (0, 0)
  | .branch parts => branchWidth groups parts
  | .loop _ least most part =>
    let (low, high) := partWidth groups part
    (low * least,
      match most with
      | some most => high * most
      | none => if high = 0 then 0 else maxWidth)
  | .group _ _ _ part | .atomic part => partWidth groups part
  | .backref number => (groups[number]?.join).getD (0, 0)
  | .conditional _ yes no =>
    let (low, high) := partWidth groups yes
    let (low', high') := partWidth groups no
    (min low low', max high high')

/-- The width of a part. -/
def partWidth (groups : List (Option Width)) : List Node → Width
  | [] => (0, 0)
  | node :: part =>
    let (low, high) := node.width groups
    let (low', high') := partWidth groups part
    (min (low + low') maxWidth, min (high + high') maxWidth)

/-- The width of one of several parts. -/
def branchWidth (groups : List (Option Width)) : List (List Node) → Width
  | [] => (maxWidth, 0)
  | part :: parts =>
    let (low, high) := partWidth groups part
    let (low', high') := branchWidth groups parts
    (min low low', max high high')

end

/-- The name by which a fault calls a repetition. -/
def Mode.name : Mode → String
  | .greedy => "MAX_REPEAT"
  | .lazy => "MIN_REPEAT"
  | .possessive => "POSSESSIVE_REPEAT"

/-- A look behind knows how far to go back. -/
def checkBehind : Width → Except Fault Unit
  | (low, high) =>
    if maxBehind < low then .error (.malformed "looks too much behind" none)
    else if low ≠ high then .error (.malformed "look-behind requires fixed-width pattern" none)
    else .ok ()

mutual

/-- A piece can be matched under flags. -/
def Node.check (groups : List (Option Width)) (flags : Flags) : Node → Except Fault Unit
  | .branch parts => checkParts groups flags parts
  | .loop mode _ _ part =>
    if flags.contains .template then
      .error (.malformed s!"internal: unsupported template operator {mode.name}" none)
    else checkPart groups flags part
  | .group _ added cleared part => checkPart groups (flags.within added cleared) part
  | .atomic part => checkPart groups flags part
  | .conditional _ yes no => do
    checkPart groups flags yes
    checkPart groups flags no
  | .look behind _ part => do
    if behind then checkBehind (partWidth groups part)
    checkPart groups flags part
  | _ => .ok ()

/-- A part can be matched under flags. -/
def checkPart (groups : List (Option Width)) (flags : Flags) : List Node → Except Fault Unit
  | [] => .ok ()
  | node :: part => do
    node.check groups flags
    checkPart groups flags part

/-- Parts can be matched under flags. -/
def checkParts (groups : List (Option Width)) (flags : Flags) :
    List (List Node) → Except Fault Unit
  | [] => .ok ()
  | part :: parts => do
    checkPart groups flags part
    checkParts groups flags parts

end

end SmellScan.Regex
