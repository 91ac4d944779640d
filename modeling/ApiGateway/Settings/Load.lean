import ApiGateway.Settings.Validation
import ApiGateway.Text.Pieces
import ApiGateway.Text.Utf8
import ApiGateway.Toml.Reader
/-!
# Settings — reading a file

A file of settings is UTF-8 text in TOML. It is read, decoded and
checked, and the first of these steps that fails is what is reported;
only settings without a problem are accepted.
-/

namespace ApiGateway

namespace Settings

/-- What a file holds, as far as it can be read. -/
inductive FileContent where
  | missing
  | bytes (content : List UInt8)

/-- Why settings are not accepted. -/
inductive LoadError where
  | missingFile
  | notUtf8
  | malformed
  | invalid (problems : List Problem)
  deriving DecidableEq, Repr

/-- What is said of it, where the text is fixed. -/
def LoadError.message? : LoadError → Option String
  | .missingFile => some "IO error: No such file or directory (os error 2)"
  | .notUtf8 => some "IO error: stream did not contain valid UTF-8"
  | .malformed => none
  | .invalid ps => some ("Validation failed: " ++ String.joined ", " (ps.map Problem.text))

/-- The settings, if they have no problem. -/
def accepted (s : Settings) : Except LoadError Settings :=
  if s.problems = [] then .ok s else .error (.invalid s.problems)

/-- The settings in a file. -/
def load : FileContent → Except LoadError Settings
  | .missing => .error .missingFile
  | .bytes content =>
    match String.ofUtf8? content with
    | none => .error .notUtf8
    | some text =>
      match (Toml.parse? text).bind (ofJson? true) with
      | none => .error .malformed
      | some s => accepted s

/-- The settings in a file if one is named, the defaults otherwise. -/
def loadOrDefault : Option FileContent → Except LoadError Settings
  | some f => load f
  | none => accepted default

end Settings

end ApiGateway
