/-!
# Searching a text

Matchers that look at the start of a text and the two ways of running one over all of it: the
leftmost place where it matches, and all places from left to right that do not overlap.
-/

namespace SmellScan.Text

/-- The text behind `word`, if it starts with it. -/
def stripStart? : List Char → List Char → Option (List Char)
  | [], cs => some cs
  | _ :: _, [] => none
  | w :: word, c :: cs => if w = c then stripStart? word cs else none

/-- A test holds at some place of the text, its end included. -/
def anywhere (test : List Char → Bool) : List Char → Bool
  | [] => test []
  | c :: cs => test (c :: cs) || anywhere test cs

/-- `word` stands somewhere in the text. -/
def occurs (word : List Char) (cs : List Char) : Bool :=
  anywhere (fun rest => (stripStart? word rest).isSome) cs

/-- What a matcher finds at the leftmost place where it matches. -/
def findFirst? {α : Type} (m : List Char → Option α) : List Char → Option α
  | [] => m []
  | c :: cs =>
    match m (c :: cs) with
    | some a => some a
    | none => findFirst? m cs

/-- All places where a matcher matches, with their offsets, once `skip` characters are passed over.
A match gives a value and the text behind it, and the search goes on there. -/
def findAllFrom {α : Type} (m : List Char → Option (α × List Char)) :
    (skip offset : Nat) → List Char → List (Nat × α)
  | _, _, [] => []
  | skip + 1, offset, _ :: cs => findAllFrom m skip (offset + 1) cs
  | 0, offset, c :: cs =>
    match m (c :: cs) with
    | some (a, rest) => (offset, a) :: findAllFrom m (cs.length - rest.length) (offset + 1) cs
    | none => findAllFrom m 0 (offset + 1) cs

/-- All places, from left to right and without overlap, where a matcher matches. -/
def findAll {α : Type} (m : List Char → Option (α × List Char)) (cs : List Char) :
    List (Nat × α) :=
  findAllFrom m 0 0 cs

/-- What stands before the first `stop`, and what follows it. -/
def upTo? (stop : Char) : List Char → Option (List Char × List Char)
  | [] => none
  | c :: cs => if c = stop then some ([], cs) else (upTo? stop cs).map fun (a, r) => (c :: a, r)

end SmellScan.Text
