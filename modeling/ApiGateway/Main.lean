import ApiGateway.Gateway.Listener
import ApiGateway.Settings.Load
/-!
# Command line

`[-c FILE] [DIRECTORY ...]` starts a gateway with the settings in a file,
or the defaults, and with the snapshots in some directories. Requests
come from standard input, one a line, as a method and a target; status
and body of the answer are printed.
-/

namespace ApiGateway

namespace CommandLine

/-- What the arguments ask for. -/
structure Arguments where
  settings : Option String
  directories : List String

/-- The arguments; `none` if a file is to be named and is not. -/
def Arguments.parse? : List String → Option Arguments
  | [] => some ⟨none, []⟩
  | arg :: rest =>
    if arg = "-c" ∨ arg = "--config" then
      match rest with
      | [] => none
      | file :: more => (parse? more).map fun a => { a with settings := a.settings.or (some file) }
    else (parse? rest).map fun a => { a with directories := arg :: a.directories }

/-- The files that a snapshot is read from. -/
def recordFiles : List String :=
  ["catalogs.json", "apis.json", "products.json", "subscriptions.json", "tlsprofiles.json",
    "registries.json"]

/-- The content of a file, if it can be read. -/
def readFile (path : String) : IO (Option (List UInt8)) := do
  try return some (← IO.FS.readBinFile path).toList
  catch _ => return none

/-- The settings that the arguments name. -/
def readSettings (a : Arguments) : IO (Except Settings.LoadError Settings) := do
  match a.settings with
  | none => return Settings.loadOrDefault none
  | some path =>
    let content ← readFile path
    return Settings.load ((content.map Settings.FileContent.bytes).getD .missing)

/-- The tree with the record files of one directory. -/
def readDirectory (files : FileTree) (directory : String) : IO FileTree :=
  recordFiles.foldlM
    (fun files name => do
      match ← readFile (directory ++ "/" ++ name) with
      | some content => return (files.write ((TreePath.parse directory).child name) content).2
      | none => return files)
    files

/-- The request on a line. -/
def requestOf? (line : String) : Option Http.Request :=
  match (line.trimBlanks.pieces ' ').filter fun p => p ≠ "" with
  | [method, target] => (Http.Request.read method target [] []).toOption
  | _ => none

/-- Status and body of an answer. -/
def report (r : Http.Response) : String :=
  String.ofList (Decimal.digitsOf r.status) ++ " " ++ String.ofUtf8Lossy r.body

/-- Requests are answered until the input ends. -/
partial def serve (input : IO.FS.Stream) (g : Gateway) (number : Nat) : IO Unit := do
  let line ← input.getLine
  if line.isEmpty then return ()
  match requestOf? line with
  | none =>
    IO.eprintln "a request is a method and a target"
    serve input g number
  | some request =>
    let (answer, g') := g.respond (String.ofList (Decimal.digitsOf number)).utf8 request
    match answer with
    | some response => IO.println (report response)
    | none => IO.eprintln "the request was cut off"
    serve input g' (number + 1)

/-- What is said of settings that are not accepted. -/
def complaint (e : Settings.LoadError) : String := e.message?.getD "Parse error"

/-- The gateway that the arguments ask for. -/
def run (a : Arguments) : IO UInt32 := do
  match ← readSettings a with
  | .error e =>
    IO.eprintln (complaint e)
    return 1
  | .ok settings =>
    let files ← a.directories.foldlM readDirectory []
    let store :=
      Store.loadBatch { Store.empty with files := files } (a.directories.map TreePath.parse)
    serve (← IO.getStdin) (Gateway.start settings store) 1
    return 0

end CommandLine

end ApiGateway

/-- The entry point of the program. -/
def main (arguments : List String) : IO UInt32 := do
  match ApiGateway.CommandLine.Arguments.parse? arguments with
  | some a => ApiGateway.CommandLine.run a
  | none =>
    IO.eprintln "a file is expected after the last argument"
    return 2
