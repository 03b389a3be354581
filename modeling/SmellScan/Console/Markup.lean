import SmellScan.Console.Action
import SmellScan.Console.Style
import SmellScan.Text.Search

/-!
# Console markup

Text for the console may hold tags in square brackets that set a style and do not print. A tag
begins with a small letter, a hash, a slash or an at sign. Backslashes right before a tag are
halved, and an odd one makes the tag print as it is. A closing tag ends the innermost open tag of
the same style. `escape` writes a text so that it prints literally.
-/

namespace SmellScan.Console

open Text

/-- Why a text with markup cannot be printed. -/
inductive MarkupError where
  /-- A closing tag names a style that no open tag has. -/
  | unmatched (tag : String) (position : Nat)
  /-- A closing tag without a name stands where no tag is open. -/
  | nothingToClose (position : Nat)
  /-- The argument of an action cannot be read. -/
  | action (fault : ActionFault)
  /-- A part of a colour is no number. -/
  | channel (fault : ChannelFault)
  deriving DecidableEq, Repr

/-- The text of a markup error. -/
def MarkupError.message : MarkupError → String
  | .unmatched tag position =>
    s!"closing tag '[{tag}]' at position {position} doesn't match any open tag"
  | .nothingToClose position => s!"closing tag '[/]' at position {position} has nothing to close"
  | .action fault => fault.message
  | .channel fault => fault.message

/-- A character with which a tag begins. -/
def startsTag (c : Char) : Bool :=
  ('a' ≤ c && c ≤ 'z') || c == '#' || c == '/' || c == '@'

/-- A tag with the number of backslashes before it. -/
structure Tag where
  backslashes : Nat
  inside : List Char

/-- The characters of a tag and of the backslashes before it. -/
def Tag.length (t : Tag) : Nat :=
  t.backslashes + t.inside.length + 2

/-- A tag at the start of the text, and what follows it. A tag holds no opening bracket. -/
def tag? (cs : List Char) : Option (Tag × List Char) :=
  let backslashes := (cs.takeWhile (· == '\\')).length
  match cs.drop backslashes with
  | '[' :: c :: rest =>
    if startsTag c then
      match upTo? ']' rest with
      | some (inside, rest) =>
        if inside.contains '[' then none else some (⟨backslashes, c :: inside⟩, rest)
      | none => none
    else none
  | _ => none

/-- A piece of a text with markup. -/
inductive Piece where
  /-- Characters that print. -/
  | plain (cs : List Char)
  /-- A tag that does not print, at a position. -/
  | tag (position : Nat) (inside : List Char)

/-- The pieces that a tag stands for: half of the backslashes, and the tag itself, which prints if
their number is odd. -/
def piecesOf (offset : Nat) (t : Tag) : List Piece :=
  let half := t.backslashes / 2
  let slashes := if half = 0 then [] else [Piece.plain (List.replicate half '\\')]
  if t.backslashes % 2 = 1 then slashes ++ [.plain ('[' :: (t.inside ++ [']']))]
  else slashes ++ [.tag (offset + 2 * half) t.inside]

/-- The pieces of what is left of a text from `position` on, given the tags in it. -/
def piecesFrom (position : Nat) (cs : List Char) : List (Nat × Tag) → List Piece
  | [] => [.plain cs]
  | (offset, t) :: rest =>
    .plain (cs.take (offset - position)) ::
      (piecesOf offset t ++
        piecesFrom (offset + t.length) (cs.drop (offset - position + t.length)) rest)

/-- The pieces of a text. -/
def pieces (cs : List Char) : List Piece :=
  piecesFrom 0 cs (findAll tag? cs)

/-- Characters that print, a backslash before a bracket left out. -/
def unescapeBrackets : List Char → List Char
  | [] => []
  | '\\' :: '[' :: cs => '[' :: unescapeBrackets cs
  | c :: cs => c :: unescapeBrackets cs

/-- A tag that is open: the normal name of its style, and what stands behind an equals sign. -/
structure OpenTag where
  style : String
  argument : Option String

/-- The name in a tag, and what stands behind an equals sign. -/
def nameAndArgument (inside : List Char) : List Char × Option String :=
  (inside.takeWhile (· != '='),
    match inside.dropWhile (· != '=') with
    | _ :: argument => some (String.ofList argument)
    | [] => none)

/-- The open tags without the innermost one of a style; none if no tag has it. -/
def closeStyle? (style : String) : List OpenTag → Option (OpenTag × List OpenTag)
  | [] => none
  | t :: rest =>
    if t.style == style then some (t, rest)
    else (closeStyle? style rest).map fun (closed, rest) => (closed, t :: rest)

/-- The tag that a closing tag closes, and those that stay open. -/
def close (position : Nat) (inside : List Char) (opened : List OpenTag) :
    Except MarkupError (OpenTag × List OpenTag) :=
  let name := trim (nameAndArgument inside).1.tail
  if name.isEmpty then
    match opened with
    | [] => .error (.nothingToClose position)
    | t :: rest => .ok (t, rest)
  else
    match Style.normalName (String.ofList name) with
    | .error fault => .error (.channel fault)
    | .ok style =>
      match closeStyle? style opened with
      | some found => .ok found
      | none => .error (.unmatched (String.ofList inside) position)

/-- The tag that an opening tag opens. -/
def openTag (inside : List Char) : Except MarkupError OpenTag :=
  let (name, argument) := nameAndArgument inside
  match Style.normalName (String.ofList name) with
  | .error fault => .error (.channel fault)
  | .ok style => .ok ⟨style, argument⟩

/-- A tag that is closed can be shown. -/
def checkClosed (t : OpenTag) : Except MarkupError Unit :=
  match t.style.toList, t.argument with
  | '@' :: _, some argument =>
    match Action.check argument with
    | .ok () => .ok ()
    | .error fault => .error (.action fault)
  | _, _ => .ok ()

/-- What prints of pieces, given the open tags, the innermost first. -/
def renderPieces (opened : List OpenTag) : List Piece → Except MarkupError (List Char)
  | [] => .ok []
  | .plain cs :: rest => (renderPieces opened rest).map (unescapeBrackets cs ++ ·)
  | .tag position inside :: rest =>
    if inside.head? == some '/' then
      match close position inside opened with
      | .error e => .error e
      | .ok (closed, opened) =>
        match checkClosed closed with
        | .error e => .error e
        | .ok () => renderPieces opened rest
    else
      match openTag inside with
      | .error e => .error e
      | .ok t => renderPieces (t :: opened) rest

/-- The styles with an argument that pieces open, as they are looked up when they are shown. -/
def shownStyles : List Piece → List String
  | [] => []
  | .plain _ :: rest => shownStyles rest
  | .tag _ inside :: rest =>
    match inside.head? == some '/', openTag inside with
    | false, .ok ⟨style, some argument⟩ => (style ++ " " ++ argument) :: shownStyles rest
    | _, _ => shownStyles rest

/-- A style that is looked up does not stop the printing unless a part of a colour is no number. -/
def checkStyle (s : String) : Except MarkupError Unit :=
  match Style.normalName s with
  | .error fault => .error (.channel fault)
  | .ok _ => .ok ()

/-- What prints of a text with markup. A text without an opening bracket prints as it is. -/
def render (s : String) : Except MarkupError String :=
  let cs := s.toList
  if cs.contains '[' then
    match renderPieces [] (pieces cs), (shownStyles (pieces cs)).mapM checkStyle with
    | .error e, _ => .error e
    | .ok _, .error e => .error e
    | .ok shown, .ok _ => .ok (String.ofList shown)
  else .ok s

/-- What is left of a text from `position` on, every tag in it written so that it prints. -/
def escapeFrom (position : Nat) (cs : List Char) : List (Nat × Tag) → List Char
  | [] => cs
  | (offset, t) :: rest =>
    cs.take (offset - position) ++ List.replicate (2 * t.backslashes + 1) '\\' ++
      '[' :: (t.inside ++ ']' ::
        escapeFrom (offset + t.length) (cs.drop (offset - position + t.length)) rest)

/-- The text written so that it prints literally. A single backslash at the end is doubled, so that
it does not run into a tag that follows. -/
def escape (s : String) : String :=
  let cs := escapeFrom 0 s.toList (findAll tag? s.toList)
  match cs.reverse with
  | '\\' :: '\\' :: _ => String.ofList cs
  | '\\' :: _ => String.ofList (cs ++ ['\\'])
  | _ => String.ofList cs

end SmellScan.Console
