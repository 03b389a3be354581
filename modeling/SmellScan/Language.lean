import SmellScan.Path
import SmellScan.Text.Case
import SmellScan.Text.Quoted

/-!
# Languages

The source languages and the file extensions that belong to them.
-/

namespace SmellScan

/-- A language with a grammar. -/
inductive Language where
  | javascript
  | typescript
  | tsx
  deriving DecidableEq, Repr

/-- Why there is no grammar for a file. -/
inductive LanguageError where
  /-- The extension of a path belongs to no language. -/
  | unsupportedPath (path suffix : String)
  /-- No language has the name. -/
  | unsupportedName (name : String)
  /-- A single file is not one that would be analysed. -/
  | unsupportedTarget (path : String)
  deriving DecidableEq, Repr

namespace Language

/-- The name of a language. -/
def name : Language → String
  | .javascript => "javascript"
  | .typescript => "typescript"
  | .tsx => "tsx"

/-- The language of a name. -/
def ofName? (s : String) : Option Language :=
  [.javascript, .typescript, .tsx].find? (·.name == s)

/-- The extensions in alphabetical order, with their languages. -/
def byExtension : List (String × Language) :=
  [(".cjs", .javascript), (".cts", .typescript), (".js", .javascript), (".jsx", .javascript),
   (".mjs", .javascript), (".mts", .typescript), (".ts", .typescript), (".tsx", .tsx)]

/-- The extensions in alphabetical order. -/
def extensions : List String :=
  byExtension.map (·.1)

/-- The language of a path by its extension, in whatever case. -/
def ofPath (path : String) : Except LanguageError Language :=
  let suffix := Text.lower (Path.ofString path).suffix
  match byExtension.lookup suffix with
  | some language => .ok language
  | none => .error (.unsupportedPath path suffix)

/-- The language of a name, or why there is none. -/
def ofName (s : String) : Except LanguageError Language :=
  match ofName? s with
  | some language => .ok language
  | none => .error (.unsupportedName s)

end Language

/-- The text of a language error. -/
def LanguageError.message : LanguageError → String
  | .unsupportedPath path suffix =>
    let shown := Text.quoted (if suffix.isEmpty then path else suffix)
    let known := ", ".intercalate Language.extensions
    s!"Unsupported file type: {shown}. Supported: {known}"
  | .unsupportedName name =>
    let shown := Text.quoted name
    s!"Unsupported language: {shown}. Supported: javascript, tsx, typescript"
  | .unsupportedTarget path => s!"Unsupported file type: {path}"

end SmellScan
