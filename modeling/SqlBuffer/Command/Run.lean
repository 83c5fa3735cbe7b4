import SqlBuffer.Command.Arguments
import SqlBuffer.Dialect.Store

/-
  Running a command: it opens a document on a file and shows its lines, its tokens or the partner
  of a bracket.
-/

namespace SqlBuffer

inductive CommandError
  | dialect (path : String) (cause : DialectError)
  | file (path : String) (cause : FileError)
  /-- The offset is past the end of a text of this length. -/
  | offset (offset : Nat) (file : String) (length : Nat)
deriving DecidableEq, Repr

/-- Each cause follows what it prevented. What is wrong with a dialect that cannot be read as one
is not told. -/
def CommandError.message : CommandError → String
  | .dialect path (.access place cause) =>
    "loading config " ++ path ++ ": " ++ (DialectError.access place cause).message ++ ": "
      ++ cause.message
  | .dialect path (.malformed _) => "loading config " ++ path
  | .file path cause => "reading " ++ path ++ ": " ++ cause.message
  | .offset n path length =>
    "offset " ++ toString n ++ " is past the end of " ++ path ++ " (" ++ toString length
      ++ " chars)"

namespace Command

/-- A line number at the right end of five columns. -/
def lineLabel (n : Nat) : String :=
  let digits := toString n
  String.ofList (List.replicate (5 - digits.length) ' ') ++ digits

def numbered (d : Document) : List (Nat × Line (List Token)) :=
  (List.range' 1 d.index.size).zip d.index.lines

def lineRows (d : Document) : List String :=
  (numbered d).map fun (n, line) => lineLabel n ++ " " ++ line.span.display

def tokenRecord (n : Nat) (t : Token) : String :=
  "\x7b\"line\":" ++ toString n ++ ",\"start\":" ++ toString t.span.start ++ ",\"end\":"
    ++ toString t.span.stop ++ ",\"token\":" ++ t.kind.toJson ++ "\x7d"

def tokenRow (n : Nat) (t : Token) : String :=
  lineLabel n ++ " " ++ t.span.display ++ " " ++ t.kind.display

/-- A row for each token, and one for each line without tokens. -/
def tokenRows (d : Document) (json : Bool) : List String :=
  (numbered d).flatMap fun (n, line) =>
    match line.info with
    | some ts =>
      ts.map fun t =>
        let placed := t.offset line.span.start
        if json then tokenRecord n placed else tokenRow n placed
    | none => [lineLabel n ++ " <unrecognized input>"]

def openFile (read : String → Except FileError (List Char)) (dialect : Dialect) (file : String) :
    Except CommandError Document :=
  match read file with
  | .ok text => .ok (.openDialect dialect text)
  | .error e => .error (.file file e)

def rows (read : String → Except FileError (List Char)) (dialect : Dialect) :
    Command → Except CommandError (List String)
  | .lines file => do
    return lineRows (← openFile read dialect file)
  | .tokens file json skipComments => do
    let dialect := if skipComments then { dialect with keepComments := false } else dialect
    return tokenRows (← openFile read dialect file) json
  | .matchBracket file offset => do
    let d ← openFile read dialect file
    if d.length < offset then throw (.offset offset file d.length)
    match d.nearPartner? offset with
    | some r => return [r.display]
    | none => return ["no match"]

end Command

namespace Invocation

/-- The dialect of an invocation. One that is given has to load; the user's own need not. -/
def dialect (i : Invocation) (read : String → Except FileError (List Char)) (e : Environment) :
    Except CommandError Dialect :=
  match i.config with
  | some path => (Dialect.loadWith read path).mapError (.dialect path)
  | none => .ok (Dialect.userDialect read e)

/-- The output of an invocation: its rows, each with a line feed. -/
def run (i : Invocation) (read : String → Except FileError (List Char)) (e : Environment) :
    Except CommandError String := do
  let dialect ← i.dialect read e
  let rows ← i.command.rows read dialect
  return String.join (rows.map (· ++ "\n"))

end Invocation

end SqlBuffer
