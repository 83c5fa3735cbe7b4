import SqlBuffer.Dialect.Yaml
import SqlBuffer.File.Tree

/-
  Where dialects are kept: in a file of the user's configuration directory, beside the logs.
-/

namespace SqlBuffer

/-- What of the user's environment says where files are kept. -/
structure Environment where
  /-- The directory for configuration, if one is chosen. -/
  configHome : Option String
  home : String

namespace Environment

def configDirectory (e : Environment) : String :=
  Path.join (e.configHome.getD (Path.join e.home ".config")) "pgedit"

def configFile (e : Environment) : String :=
  Path.join e.configDirectory "config.yaml"

def logDirectory (e : Environment) : String :=
  Path.join e.configDirectory "logs"

/-- How the name of a log file starts; a date may follow. -/
def logName : String := "pgedit.log"

/-- The log file with the last name, or the one without a date. There is none where there is no
directory for logs. -/
def logFile? (e : Environment) (t : FileTree) : Option String := do
  let names ← t.names? e.logDirectory
  let name := (names.filter (·.startsWith logName)).foldl
    (fun newest name => if newest < name then name else newest) logName
  return Path.join e.logDirectory name

structure DirectoryError where
  path : String
  cause : FileError
deriving DecidableEq, Repr

def DirectoryError.message (e : DirectoryError) : String :=
  "Failed to create directory " ++ e.path ++ ": " ++ e.cause.message

def makeDirectory (path : String) : FileAction DirectoryError Unit :=
  (FileTree.makeDirectories path).adapt (⟨path, ·⟩)

def ensureConfig (e : Environment) : FileAction DirectoryError Unit :=
  makeDirectory e.configDirectory

def ensureLogs (e : Environment) : FileAction DirectoryError Unit := do
  e.ensureConfig
  makeDirectory e.logDirectory

end Environment

inductive DialectError
  | access (path : String) (cause : FileError)
  | malformed (path : String)
deriving DecidableEq, Repr

def DialectError.message : DialectError → String
  | .access path cause => "Failed to access " ++ path ++ ": " ++ cause.message
  | .malformed path => "Failed to parse config at " ++ path

namespace Dialect

def loadWith (read : String → Except FileError (List Char)) (path : String) :
    Except DialectError Dialect := do
  let text ← (read path).mapError (.access path)
  match ofYaml? text with
  | some d => return d
  | none => throw (.malformed path)

/-- The user's dialect. If it cannot be loaded it is the default one. -/
def userDialect (read : String → Except FileError (List Char)) (e : Environment) : Dialect :=
  match loadWith read e.configFile with
  | .ok d => d
  | .error _ => {}

/-- Saves a dialect, and makes the directory for the file. -/
def save (d : Dialect) (path : String) : FileAction DialectError Unit := do
  if let some parent := Path.parent? path then
    (FileTree.makeDirectories parent).adapt (.access parent)
  match (← get).write path d.toYaml.toUTF8 with
  | .ok t => set t
  | .error cause => throw (.access path cause)

end Dialect

end SqlBuffer
