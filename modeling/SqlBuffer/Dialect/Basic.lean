import SqlBuffer.Document.Basic

/-
  Dialects: the settings that say how a script is scanned and searched.
-/

namespace SqlBuffer

structure Dialect where
  /-- Words that are keywords on top of those of PostgreSQL. -/
  extraKeywords : List String := []
  /-- Keep the comments among the tokens. -/
  keepComments : Bool := true
  /-- Keep the line breaks among the tokens. -/
  keepNewLines : Bool := false
  /-- How many lines a search for a bracket goes to either side. -/
  bracketWindow : Nat := defaultBracketWindow
deriving DecidableEq, Repr

namespace Dialect

/-- The scanner of the dialect. -/
def scanOptions (d : Dialect) : ScanOptions where
  keywords := Keywords.postgres.extend d.extraKeywords
  keepNewLines := d.keepNewLines
  keepComments := d.keepComments

end Dialect

/-- Opens a document on a script of a dialect. -/
def Document.openDialect (dialect : Dialect) (text : List Char) (language : Language := .sql) :
    Document :=
  { Document.openText language dialect.scanOptions text with
    bracketWindow := dialect.bracketWindow }

end SqlBuffer
