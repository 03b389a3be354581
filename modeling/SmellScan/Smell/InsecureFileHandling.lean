import SmellScan.Smell.Basic

/-!
# Insecure file handling

In a source that mentions an upload library, the lines that call an upload handler and neither
validate nor sanitize.
-/

namespace SmellScan.Smell.InsecureFileHandling

open Text

/-- One of the words stands in the text. -/
def occursAny (words : List String) (cs : List Char) : Bool :=
  words.any fun word => occurs word.toList cs

/-- The libraries that take uploads. -/
def libraries : List String :=
  ["multer", "express-fileupload", "busboy"]

/-- The calls that accept an upload. -/
def handlers : List String :=
  [".single(", ".any(", ".array(", ".file("]

/-- The calls that make an upload safe. -/
def safeguards : List String :=
  ["validate(", "sanitize("]

/-- A line that accepts an upload as it is. -/
def isUnchecked (line : List Char) : Bool :=
  occursAny handlers line && !occursAny safeguards line

/-- The lines of a unit that accept an upload as it is. -/
def check (unit : SourceUnit) (_ : Config) : List Occurrence :=
  if occursAny libraries unit.text.toList then
    Occurrence.onLines unit isUnchecked
      ("Insecure file handling detected. The file upload is not validated or " ++
        "sanitized. This can lead to security vulnerabilities.")
  else []

end SmellScan.Smell.InsecureFileHandling
