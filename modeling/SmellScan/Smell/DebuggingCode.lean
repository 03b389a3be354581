import SmellScan.Smell.Basic

/-!
# Active debugging code

Calls that print to the console or alert the user. A line with both a quote and a comment is too
ambiguous to judge and is passed over.
-/

namespace SmellScan.Smell.DebuggingCode

open Text

/-- The calls that are looked for. -/
def calls : List String :=
  ["console.log", "console.debug", "console.error", "alert("]

/-- A call at the start of the text, and what follows it. -/
def call? (cs : List Char) : Option (String × List Char) :=
  calls.findSome? fun call => (stripStart? call.toList cs).map fun rest => (call, rest)

/-- The text starts with a comment that is complete on its line. -/
def startsComment (cs : List Char) : Bool :=
  match cs with
  | '/' :: '/' :: _ => true
  | '/' :: '*' :: rest => occurs ['*', '/'] rest
  | _ => false

/-- A line that has a quote and a comment. -/
def isAmbiguous (line : List Char) : Bool :=
  line.any (fun c => c == '\'' || c == '"' || c == '\x60') && anywhere startsComment line

/-- The debugging calls of a unit. -/
def check (unit : SourceUnit) (_ : Config) : List Occurrence :=
  unit.numberedLines.flatMap fun (n, line) =>
    if isAmbiguous line.toList then []
    else
      (findAll call? line.toList).map fun (_, call) =>
        { line := n, description :=
          s!"Active debugging code detected: {call}. " ++
          "Consider removing or disabling in production." }

end SmellScan.Smell.DebuggingCode
