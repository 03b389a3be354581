import SmellScan.Console.Literal.Escape
import SmellScan.Console.Literal.Expr
import SmellScan.Text.Blank

/-!
# Fields in texts

A text may have fields in braces. A field holds an expression, behind it an equals sign that shows
the expression itself, a letter for the conversion of its value, and a format, which is a text with
fields again. A brace that is written twice is none. Fields have no backslashes and no comments.
-/

namespace SmellScan.Console.Literal

/-- The characters up to the next field or to the end of the fields, and what follows them; whether
they end with a brace that was written twice. Only texts outside the format of a field have such
braces, and only there a closing brace has to be. -/
def takePlain (raw inFormat : Bool) :
    (steps : Nat) → List Char → Except FieldFault (List Char × List Char × Bool)
  | 0, cs => .ok ([], cs, false)
  | _, [] => .ok ([], [], false)
  | steps + 1, c :: cs =>
    let more (taken rest : List Char) : Except FieldFault (List Char × List Char × Bool) :=
      (takePlain raw inFormat steps rest).map fun (plain, rest) => (taken ++ plain, rest)
    if c == '{' || c == '}' then
      if inFormat then .ok ([], c :: cs, false)
      else if cs.head? == some c then .ok ([c], cs.tail, true)
      else if c == '}' then .error .strayBrace
      else .ok ([], c :: cs, false)
    else if c == '\\' && !raw then
      match cs with
      | 'N' :: '{' :: rest =>
        let word := rest.takeWhile (· != '}')
        more ('\\' :: 'N' :: '{' :: rest.take (word.length + 1)) (rest.drop (word.length + 1))
      | 'N' :: rest => more ('\\' :: 'N' :: rest.take 1) (rest.drop 1)
      | d :: rest => if d == '{' || d == '}' then more [c] cs else more [c, d] rest
      | [] => more [c] []
    else more [c] cs

/-- What the reading of an expression in a field has to close. -/
structure FieldState where
  /-- The quotes of the text that is open. -/
  quotes : Option (List Char) := none
  /-- The open brackets, the innermost first. -/
  brackets : List Char := []

/-- An expression in a field, and what follows it, which is one of its marks. -/
def takeExpression : (steps : Nat) → FieldState → List Char →
    Except FieldFault (List Char × List Char)
  | 0, _, cs => .ok ([], cs)
  | _, s, [] =>
    match s.quotes, s.brackets with
    | some _, _ => .error .unterminated
    | none, b :: _ => .error (.unmatched b)
    | none, [] => .error .unclosed
  | steps + 1, s, c :: cs =>
    let more (s : FieldState) (length : Nat) : Except FieldFault (List Char × List Char) :=
      (takeExpression steps s ((c :: cs).drop length)).map fun (taken, rest) =>
        ((c :: cs).take length ++ taken, rest)
    if c == '\\' then .error .backslash
    else
      match s.quotes with
      | some quotes =>
        if quotes.isPrefixOf (c :: cs) then more { s with quotes := none } quotes.length
        else more s 1
      | none =>
        if c == '\'' || c == '"' then
          let quotes := if [c, c].isPrefixOf cs then [c, c, c] else [c]
          more { s with quotes := some quotes } quotes.length
        else if c == '(' || c == '{' || c == '[' then
          if maxBrackets ≤ s.brackets.length then .error .tooManyBrackets
          else more { s with brackets := c :: s.brackets } 1
        else if c == '#' then .error .comment
        else
          match s.brackets with
          | [] =>
            if (c == '!' || c == '=' || c == '<' || c == '>') && cs.head? == some '=' then more s 2
            else if c == '!' || c == ':' || c == '}' || c == '=' then .ok ([], c :: cs)
            else if c == ')' || c == ']' then .error (.unmatched c)
            else more s 1
          | b :: outer =>
            if c == ')' || c == '}' || c == ']' then
              if closerOf b == c then more { s with brackets := outer } 1
              else .error (.mismatched c b)
            else more s 1

/-- An expression has something else than blanks; `rest` is what follows it. -/
def checkFilled (cs rest : List Char) : Except FieldFault Unit :=
  if cs.all fun c => c == ' ' || c == '\t' || c == '\n' || c == '\x0c' then
    match rest with
    | c :: _ => if c == '}' then .error .empty else .error (.nothingBefore c)
    | [] => .error .unclosed
  else .ok ()

/-- What follows the equals sign and the conversion of a field. -/
def skipConversion (cs : List Char) : Except FieldFault (List Char) :=
  let cs := match cs with
    | '=' :: cs => cs.dropWhile fun c => c == ' ' || (0x09 ≤ c.toNat && c.toNat ≤ 0x0D)
    | cs => cs
  match cs with
  | ['!'] => .error .unclosed
  | '!' :: c :: cs => if c == 's' || c == 'r' || c == 'a' then .ok cs else .error .conversion
  | cs => .ok cs

/-- What follows the fields of a text, given how to read an expression and how to report a fault.
The `level` is the number of formats around the text. -/
def skipFields (readExpr : List Char → Except LiteralFault Unit)
    (report : FormFault → LiteralFault) (raw : Bool) :
    (steps level : Nat) → List Char → Except LiteralFault (List Char)
  | 0, _, cs => .ok cs
  | steps + 1, level, cs => do
    let inField {α : Type} (x : Except FieldFault α) : Except LiteralFault α :=
      x.mapError (report ∘ .field)
    let (plain, rest, doubled) ← inField (takePlain raw (level != 0) (cs.length + 1) cs)
    if !raw then (checkEscapes plain).mapError report
    if doubled then skipFields readExpr report raw steps level rest
    else
      match rest with
      | '{' :: inside =>
        if 2 ≤ level then throw (report (.field .tooDeep))
        let (expr, rest) ← inField (takeExpression (inside.length + 1) {} inside)
        inField (checkFilled expr rest)
        readExpr expr
        let rest ← inField (skipConversion rest)
        let rest ← match rest with
          | ':' :: format => skipFields readExpr report raw steps (level + 1) format
          | rest => pure rest
        match rest with
        | '}' :: rest => skipFields readExpr report raw steps level rest
        | _ => throw (report (.field .unclosed))
      | rest =>
        if level != 0 && rest.isEmpty then throw (report (.field .unclosed))
        return rest

/-- What texts that stand next to each other make: a text of characters or of bytes, or a text with
fields. -/
def joinTexts (readExpr : List Char → Except LiteralFault Unit)
    (report : FormFault → LiteralFault) :
    (before : Option QuotedText) → List QuotedText → Except LiteralFault Expr
  | before, [] => .ok (.text (before.any (·.bytes)))
  | before, t :: ts => do
    if t.bytes then (checkBytes t.raw t.body).mapError report
    else if !t.raw && !t.fields then (checkEscapes t.body).mapError report
    if before.any (·.bytes != t.bytes) then throw (report .mixedTexts)
    if t.fields then
      let _ ← skipFields readExpr report t.raw (t.body.length + 1) 0 t.body
    let e ← joinTexts readExpr report (some t) ts
    return if t.fields then .other "f-string expression" [] else e

end SmellScan.Console.Literal
