import SqlBuffer.Command.Run

/-
  The command line program. It reads the files that the command asks for, runs the command and
  prints its output.
-/

namespace SqlBuffer

/-- The cause that the system gives a number to, if it is one of those that are told apart. -/
def fileErrorOfCode? : UInt32 → Option FileError
  | 2 => some .notFound
  | 17 => some .alreadyExists
  | 20 => some .notDirectory
  | 21 => some .isDirectory
  | 36 => some .nameTooLong
  | _ => none

def fileErrorOf (e : IO.Error) : FileError :=
  match e with
  | .noFileOrDirectory _ code _ | .alreadyExists _ code _ | .inappropriateType _ code _
  | .invalidArgument _ code _ => (fileErrorOfCode? code).getD (.other (toString e))
  | _ => .other (toString e)

def readDisk (path : String) : IO (Except FileError (List Char)) := do
  if path.contains '\x00' then return .error .zeroInName
  try
    let bytes ← IO.FS.readBinFile path
    return match String.fromUTF8? bytes with
      | some text => .ok text.toList
      | none => .error .notText
  catch e => return .error (fileErrorOf e)

/-- What is printed in place of the output of a command. -/
def usageText : UsageError → String
  | .help | .nothingGiven =>
    "Usage: pgedit [--config FILE] lines FILE\n" ++
    "       pgedit [--config FILE] tokens FILE [--json] [--skip-comments]\n" ++
    "       pgedit [--config FILE] match FILE OFFSET"
  | .version => "pgedit 0.1.0"
  | .missingCommand => "error: a command is missing"
  | .unknownCommand => "error: unrecognized command"
  | .missingOperand => "error: an operand is missing"
  | .unknownArgument => "error: unexpected argument"
  | .emptyValue => "error: a value is missing"
  | .invalidValue => "error: invalid value"
  | .unwantedValue => "error: unexpected value"
  | .repeated => "error: an option is given twice"

def Command.file : Command → String
  | .lines file | .tokens file .. | .matchBracket file _ => file

def Invocation.runDisk (i : Invocation) (e : Environment) : IO (Except CommandError String) := do
  let config := i.config.getD e.configFile
  let dialect ← readDisk config
  let script ← readDisk i.command.file
  return i.run (fun path => if path = config then dialect else script) e

end SqlBuffer

open SqlBuffer in
def main (args : List String) : IO UInt32 := do
  match Invocation.parse args with
  | .error .help => IO.println (usageText .help); return 0
  | .error .version => IO.println (usageText .version); return 0
  | .error e => IO.eprintln (usageText e); return 2
  | .ok i =>
    let e : Environment := ⟨← IO.getEnv "XDG_CONFIG_HOME", (← IO.getEnv "HOME").getD ""⟩
    match ← i.runDisk e with
    | .ok output => IO.print output; return 0
    | .error cause => IO.eprintln ("Error: " ++ cause.message); return 1
