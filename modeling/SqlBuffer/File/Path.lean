/-
  Names of files: parts divided by slashes.
-/

namespace SqlBuffer.Path

def join (directory entry : String) : String :=
  if directory = "" || directory.endsWith "/" then directory ++ entry
  else directory ++ "/" ++ entry

/-- The parts of a name. Some may be empty: between two slashes, or before or after all. -/
def parts (path : String) : List String :=
  path.splitOn "/"

def ofParts (parts : List String) : String :=
  "/".intercalate parts

def isAbsolute (path : String) : Bool :=
  path.startsWith "/"

def staysHere (part : String) : Bool :=
  part = "" || part = "."

/-- Parts without those at the end that satisfy `f`. -/
def dropEnd (f : String → Bool) (parts : List String) : List String :=
  (parts.reverse.dropWhile f).reverse

/-- A name without parts at its end that stay in the same directory. Its first part is kept: the
current directory, or none before the slash of an absolute name. -/
def trim (parts : List String) : List String :=
  match parts with
  | first :: rest => first :: dropEnd staysHere rest
  | [] => []

/-- The directory that a name is in: all parts but the last. A name without parts is in none. -/
def parent? (path : String) : Option String :=
  match trim (parts path) with
  | [] | [""] => none
  | [_] => some ""
  | parts =>
    match trim parts.dropLast with
    | [""] => some "/"
    | parts => some (ofParts parts)

end SqlBuffer.Path
