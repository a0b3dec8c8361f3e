/-!
# Diagnostics

Every layer of the calculator explains its failures in one layout: the severity and a code, the
message, the column where the trouble starts, a help text and a list of suggestions.
-/

namespace NoteCalc

/-- The characters of a line from `start` up to but not including `stop`. -/
structure Span where
  start : Nat
  stop : Nat
deriving Repr, DecidableEq

/-- How grave a diagnostic is. -/
inductive Severity where
  | error
  | warning
deriving Repr, DecidableEq

/-- The word that opens a diagnostic of this severity. -/
def Severity.label : Severity → String
  | .error => "ERROR"
  | .warning => "WARNING"

/-- An explanation of a failure, or of something dubious that was passed over. -/
structure Diagnostic where
  severity : Severity
  code : String
  message : String
  span : Option Span := none
  help : Option String := none
  suggestions : List String := []
deriving Repr, DecidableEq

namespace Diagnostic

/-- The full text: one line for each part that is present, and one for each suggestion.  Columns
count from one. -/
def text (diagnostic : Diagnostic) : String :=
  let heading :=
    diagnostic.severity.label ++ "[" ++ diagnostic.code ++ "]: " ++ diagnostic.message ++ "\n"
  let place := diagnostic.span.elim "" fun span =>
    "  --> column " ++ toString (span.start + 1) ++ "\n"
  let help := diagnostic.help.elim "" fun help => "  help: " ++ help ++ "\n"
  let suggestions :=
    if diagnostic.suggestions.isEmpty then ""
    else
      "  suggestions:\n" ++
        String.join (diagnostic.suggestions.map fun suggestion => "    - " ++ suggestion ++ "\n")
  heading ++ place ++ help ++ suggestions

end Diagnostic

end NoteCalc
