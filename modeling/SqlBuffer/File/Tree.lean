import SqlBuffer.File.Path

/-
  The files below a directory: what they hold, and how reading, writing and making directories
  fail. A name leads from directory to directory; every part of it but the last has to be one.
  Of the directories above and of those that absolute names lead to nothing is known but what is
  put there.
-/

namespace SqlBuffer

inductive FileError
  | notFound
  | alreadyExists
  | notDirectory
  | isDirectory
  | nameTooLong
  /-- The name holds a zero, which ends names for the system. -/
  | zeroInName
  /-- The bytes of the file are no UTF-8. -/
  | notText
  /-- Another reason of the system, in its own words. -/
  | other (reason : String)
deriving DecidableEq, Repr

def FileError.message : FileError → String
  | .notFound => "No such file or directory (os error 2)"
  | .alreadyExists => "File exists (os error 17)"
  | .notDirectory => "Not a directory (os error 20)"
  | .isDirectory => "Is a directory (os error 21)"
  | .nameTooLong => "File name too long (os error 36)"
  | .zeroInName => "file name contained an unexpected NUL byte"
  | .notText => "stream did not contain valid UTF-8"
  | .other reason => reason

/-- How many bytes a part of a name has at most. -/
def partLimit : Nat := 255

/-- Names have less bytes than this. -/
def pathLimit : Nat := 4096

inductive Entry
  | file (content : ByteArray)
  | directory (entries : List (String × Entry))

namespace Entry

def isDirectory : Entry → Bool
  | .file _ => false
  | .directory _ => true

/-- Names for the directory above and for that of absolute names, which no entry can have. -/
def isOutside (name : String) : Bool :=
  name = ".." || name = "/"

/-- The entry of a directory with a name. The directories outside are always there. -/
def child? (e : Entry) (name : String) : Option Entry :=
  match e with
  | .file _ => none
  | .directory entries =>
    match entries.lookup name with
    | some e => some e
    | none => if isOutside name then some (.directory []) else none

/-- What stands at a place, which is the list of the names that lead there. -/
def at? (e : Entry) : List String → Option Entry
  | [] => some e
  | name :: place => (e.child? name).bind fun inner => inner.at? place

def put (e new : Entry) : List String → Entry
  | [] => new
  | name :: place =>
    match e with
    | .file _ => e
    | .directory entries =>
      let inner := ((e.child? name).getD (.directory [])).put new place
      .directory (entries.filter (·.1 ≠ name) ++ [(name, inner)])

end Entry

/-- The files below the current directory. -/
structure FileTree where
  root : Entry

/-- An action on files. What it has done before it fails stays done. -/
abbrev FileAction (ε α : Type) := ExceptT ε (StateM FileTree) α

namespace FileTree

def empty : FileTree :=
  ⟨.directory []⟩

def find? (t : FileTree) (place : List String) : Option Entry :=
  t.root.at? place

def put (t : FileTree) (place : List String) (e : Entry) : FileTree :=
  ⟨t.root.put e place⟩

def isDirectory (t : FileTree) (place : List String) : Bool :=
  (t.find? place).any (·.isDirectory)

def above (place : List String) : List String :=
  match place.getLast? with
  | none | some ".." => place ++ [".."]
  | some "/" => place
  | some _ => place.dropLast

def start (path : String) : List String :=
  if Path.isAbsolute path then ["/"] else []

/-- The parts of a name that the system can take. -/
def checkedParts (path : String) : Except FileError (List String) :=
  if path.contains '\x00' then .error .zeroInName
  else if path = "" then .error .notFound
  else if pathLimit ≤ path.utf8ByteSize then .error .nameTooLong
  else .ok (Path.parts path)

def walk (t : FileTree) (here : List String) : List String → Except FileError (List String)
  | [] => .ok here
  | part :: rest =>
    if !t.isDirectory here then .error .notDirectory
    else if Path.staysHere part then t.walk here rest
    else if part = ".." then t.walk (above here) rest
    else if partLimit < part.utf8ByteSize then .error .nameTooLong
    else if (t.find? (here ++ [part])).isNone then .error .notFound
    else t.walk (here ++ [part]) rest

def locate (t : FileTree) (path : String) : Except FileError (List String) := do
  t.walk (start path) (← checkedParts path)

def exists? (t : FileTree) (path : String) : Bool :=
  (t.locate path).isOk

def readBytes (t : FileTree) (path : String) : Except FileError ByteArray := do
  match t.find? (← t.locate path) with
  | some (.file content) => return content
  | some (.directory _) => throw .isDirectory
  | none => throw .notFound

def readText (t : FileTree) (path : String) : Except FileError (List Char) := do
  match String.fromUTF8? (← t.readBytes path) with
  | some text => return text.toList
  | none => throw .notText

/-- Writes a file, in place of one that is there. Its directory has to be there. A name with a
slash at its end is that of a directory, whatever is there. -/
def write (t : FileTree) (path : String) (content : ByteArray) : Except FileError FileTree := do
  let all ← checkedParts path
  let parts := Path.dropEnd (· = "") all
  let here ← t.walk (start path) parts.dropLast
  if !t.isDirectory here then throw .notDirectory
  match parts.getLast? with
  | none | some "." | some ".." => throw .isDirectory
  | some name =>
    if parts.length < all.length then throw .isDirectory
    if partLimit < name.utf8ByteSize then throw .nameTooLong
    if t.isDirectory (here ++ [name]) then throw .isDirectory
    return t.put (here ++ [name]) (.file content)

/-- Goes along the parts of a name and makes the directories that are not there. A file in the way
is met in going there before the first directory is made, and in making them after that. -/
def makeFrom (made : Bool) (here : List String) : List String → FileAction FileError Unit
  | [] => pure ()
  | part :: rest => do
    if Path.staysHere part then makeFrom made here rest
    else if part = ".." then makeFrom made (above here) rest
    else if partLimit < part.utf8ByteSize then throw .nameTooLong
    else
      let place := here ++ [part]
      match (← get).find? place with
      | none =>
        modify (·.put place (.directory []))
        makeFrom true place rest
      | some (.directory _) => makeFrom made place rest
      | some (.file _) => throw (if made || rest = [] then .alreadyExists else .notDirectory)

/-- Makes a directory and those above it, unless they are there. -/
def makeDirectories (path : String) : FileAction FileError Unit := do
  if path ≠ "" then makeFrom false (start path) (← checkedParts path)

def names? (t : FileTree) (path : String) : Option (List String) :=
  match t.locate path with
  | .ok here =>
    match t.find? here with
    | some (.directory entries) => some ((entries.map (·.1)).filter (!Entry.isOutside ·))
    | _ => none
  | .error _ => none

end FileTree

end SqlBuffer
