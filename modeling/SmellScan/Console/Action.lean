import SmellScan.Console.Literal
import SmellScan.Text.Blank
import SmellScan.Text.Quoted
import SmellScan.Text.Word

/-!
# Actions in tags

A tag whose name begins with an at sign has an action as its argument: a name, with arguments in
brackets behind it or without, or else a literal of its own. The arguments have to be literals.
-/

namespace SmellScan.Console

open Text

/-- The argument of an action that cannot be read, as it stands in the tag, with the part that is no
literal. -/
structure ActionFault where
  argument : String
  part : String
  fault : LiteralFault
  deriving DecidableEq, Repr

/-- The text of a fault in an action. Only a fault of form names the part that has it. -/
def ActionFault.message (e : ActionFault) : String :=
  match e.fault with
  | .form fault =>
    "error parsing " ++ quoted e.part ++ " in " ++ quoted e.argument ++ "; " ++ fault.message
  | .value fault => "error parsing " ++ quoted e.argument ++ "; " ++ fault.message

namespace Action

/-- The part of an action that has to be a literal: the arguments in their brackets, empty ones if
there are none, or the whole text if it does not begin with the name of an action. -/
def literalPart (cs : List Char) : List Char :=
  match cs.dropWhile fun c => isWord c || c == '.' with
  | [] => ['(', ')']
  | '(' :: rest =>
    if rest.getLast? == some ')' && !rest.contains '\n' then '(' :: rest else cs
  | _ => cs

/-- An action can be read. -/
def check (argument : String) : Except ActionFault Unit :=
  if argument.isEmpty then .ok ()
  else
    let part := literalPart (trim argument.toList)
    match Literal.check part with
    | .ok () => .ok ()
    | .error fault => .error ⟨argument, String.ofList part, fault⟩

end Action

end SmellScan.Console
