/-
  The arguments of a command line.
  A command line names one of three commands, with its options and its operands. An option that
  takes a value has it after an equals sign or as the next argument. After two dashes everything
  is an operand. The arguments are read from left to right; a value is checked when the next
  argument that means something is met, or at the end.
-/

namespace SqlBuffer

/-- What a command line asks for, if it is no command, or what is wrong with it. -/
inductive UsageError
  /-- It asks for help. -/
  | help
  /-- It asks for the version. -/
  | version
  /-- It is empty, which shows the help. -/
  | nothingGiven
  | missingCommand
  | unknownCommand
  | missingOperand
  | unknownArgument
  /-- An option or operand has no value, or an empty one. -/
  | emptyValue
  /-- A value is not of its kind. -/
  | invalidValue
  /-- A switch has a value. -/
  | unwantedValue
  /-- An option is given twice. -/
  | repeated
deriving DecidableEq, Repr

inductive Command
  /-- Shows the lines of a file. -/
  | lines (file : String)
  /-- Shows the tokens of a file. -/
  | tokens (file : String) (json skipComments : Bool)
  /-- Shows the partner of the bracket before an offset. -/
  | matchBracket (file : String) (offset : Nat)
deriving DecidableEq, Repr

/-- A command line: the file with the dialect, if one is given, and the command. -/
structure Invocation where
  config : Option String
  command : Command
deriving DecidableEq, Repr

namespace Arguments

inductive Verb
  | lines
  | tokens
  | matchBracket
deriving DecidableEq, Repr

def Verb.ofString? : String → Option Verb
  | "lines" => some .lines
  | "tokens" => some .tokens
  | "match" => some .matchBracket
  | _ => none

/-- What takes a value. -/
inductive Slot
  | config
  | file
  | offset
deriving DecidableEq, Repr

def Verb.operands : Verb → List Slot
  | .lines => [.file]
  | .tokens => [.file]
  | .matchBracket => [.file, .offset]

inductive Switch
  | json
  | skipComments
deriving DecidableEq, Repr

inductive Setting
  | help
  | version
  | config
  | switch (s : Switch)
deriving DecidableEq, Repr

def longOption? (verb : Option Verb) (name : String) : Option Setting :=
  if name = "help" then some .help
  else if name = "config" then some .config
  else if name = "version" && verb.isNone then some .version
  else if name = "json" && verb = some .tokens then some (.switch .json)
  else if name = "skip-comments" && verb = some .tokens then some (.switch .skipComments)
  else none

/-- The meaning of the letter after a single dash. -/
def shortOption? (verb : Option Verb) (letter : Char) : Option Setting :=
  if letter = 'h' then some .help
  else if letter = 'V' && verb.isNone then some .version
  else none

/-- The largest number that an offset may be is one below this. -/
def offsetLimit : Nat := 0x10000000000000000

/-- A number of decimal digits, which may have a plus sign before it. -/
def offset? (value : String) : Option Nat :=
  let cs := value.toList
  let digits := if cs.head? = some '+' then cs.tail else cs
  let n := digits.foldl (fun n c => 10 * n + (c.toNat - 48)) 0
  if digits ≠ [] && digits.all Char.isDigit && n < offsetLimit then some n else none

/-- What was read of the part of a command line before the command or after it. -/
structure Reading where
  config : Option String := none
  switches : List Switch := []
  file : Option String := none
  offset : Option Nat := none
  /-- How many operands were met. -/
  operands : Nat := 0
  /-- A value that is not checked yet; an option may still wait for its value. -/
  pending : Option (Slot × Option String) := none
  /-- Two dashes were met. -/
  operandsOnly : Bool := false

namespace Reading

def fill (r : Reading) : Slot → Option String → Except UsageError Reading
  | _, none => .error .emptyValue
  | .config, some value =>
    if r.config.isSome then .error .repeated
    else if value = "" then .error .emptyValue
    else .ok { r with config := some value }
  | .file, some value =>
    if value = "" then .error .emptyValue else .ok { r with file := some value }
  | .offset, some value =>
    match offset? value with
    | some n => .ok { r with offset := some n }
    | none => .error .invalidValue

def settle (r : Reading) : Except UsageError Reading :=
  match r.pending with
  | some (slot, value) => { r with pending := none }.fill slot value
  | none => .ok r

def waits (r : Reading) : Bool :=
  match r.pending with
  | some (_, none) => true
  | _ => false

/-- Takes an option, with the value after the equals sign if there is one. -/
def option (r : Reading) (o : Setting) (value : Option String) : Except UsageError Reading :=
  match o with
  | .config =>
    match value with
    | some _ => do (← r.settle).fill .config value
    | none => do return { ← r.settle with pending := some (.config, none) }
  | o =>
    if value.isSome then .error .unwantedValue
    else do
      let r ← r.settle
      match o with
      | .help => throw .help
      | .version => throw .version
      | .switch s =>
        if r.switches.contains s then throw .repeated
        return { r with switches := s :: r.switches }
      | .config => return r

end Reading

def splitEquals (cs : List Char) : String × Option String :=
  let name := String.ofList (cs.takeWhile (· ≠ '='))
  match cs.dropWhile (· ≠ '=') with
  | _ :: value => (name, some (String.ofList value))
  | [] => (name, none)

/-- Takes an argument that starts with a dash as an option, unless it is a dash alone. -/
def dashed? (verb : Option Verb) (r : Reading) (arg : String) :
    Option (Except UsageError Reading) :=
  match arg.toList with
  | ['-', '-'] => some (.ok { r with operandsOnly := true })
  | '-' :: '-' :: cs =>
    let (name, value) := splitEquals cs
    match longOption? verb name with
    | some o => some (r.option o value)
    | none => some (.error .unknownArgument)
  | '-' :: letter :: _ =>
    match shortOption? verb letter with
    | some o => some (r.option o none)
    | none => some (.error .unknownArgument)
  | _ => none

/-- Takes an argument as the value that an option waits for, or as an operand. -/
def plain (verb : Verb) (r : Reading) (arg : String) : Except UsageError Reading :=
  if r.waits && !r.operandsOnly then
    .ok { r with pending := r.pending.map fun (slot, _) => (slot, some arg) }
  else
    match verb.operands[r.operands]? with
    | some slot => do
      return { ← r.settle with pending := some (slot, some arg), operands := r.operands + 1 }
    | none => .error .unknownArgument

def readRest (verb : Verb) (r : Reading) : List String → Except UsageError Reading
  | [] => r.settle
  | arg :: args =>
    match if r.operandsOnly then none else dashed? (some verb) r arg with
    | some next => do readRest verb (← next) args
    | none => do readRest verb (← plain verb r arg) args

/-- The command that the arguments after its word make up. -/
def command (verb : Verb) (r : Reading) : Except UsageError Command :=
  match verb, r.file, r.offset with
  | .lines, some file, _ => .ok (.lines file)
  | .tokens, some file, _ =>
    .ok (.tokens file (r.switches.contains .json) (r.switches.contains .skipComments))
  | .matchBracket, some file, some offset => .ok (.matchBracket file offset)
  | _, _, _ => .error .missingOperand

def helpOn : List String → UsageError
  | [] => .help
  | [topic] => if topic = "help" || (Verb.ofString? topic).isSome then .help else .unknownCommand
  | _ => .unknownCommand

def readFront (r : Reading) : List String → Except UsageError Invocation
  | [] => do
    let r ← r.settle
    throw (if r.config.isSome then .missingCommand else .nothingGiven)
  | arg :: args =>
    if r.operandsOnly then
      .error (if arg = "help" || (Verb.ofString? arg).isSome then .unknownArgument
        else .unknownCommand)
    else if r.waits then
      match dashed? none r arg with
      | some next => do readFront (← next) args
      | none => readFront { r with pending := some (.config, some arg) } args
    else if arg = "help" then .error (helpOn args)
    else
      match Verb.ofString? arg, dashed? none r arg with
      | some verb, _ => do
        let rest ← readRest verb {} args
        let command ← command verb rest
        let r ← r.settle
        return ⟨rest.config.or r.config, command⟩
      | none, some next => do readFront (← next) args
      | none, none => .error .unknownCommand

end Arguments

def Invocation.parse (args : List String) : Except UsageError Invocation :=
  Arguments.readFront {} args

end SqlBuffer
