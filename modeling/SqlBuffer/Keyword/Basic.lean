import Std.Data.TreeMap
import SqlBuffer.Text.Case

/-
  Keyword tables.
  A table holds words by their lowercase form. Looking up a word in any letter case gives the
  word as it was added; of two words with the same lowercase form the one added last counts.
-/

namespace SqlBuffer

def lowerWord (word : String) : String :=
  String.ofList (lowercase word.toList)

/-- The words that a scanner takes for keywords, under their lowercase forms. -/
structure Keywords where
  table : Std.TreeMap String String

namespace Keywords

def empty : Keywords :=
  ⟨∅⟩

def insert (k : Keywords) (word : String) : Keywords :=
  ⟨k.table.insert (lowerWord word) word⟩

def extend (k : Keywords) (words : List String) : Keywords :=
  words.foldl insert k

def ofList (words : List String) : Keywords :=
  empty.extend words

/-- The spelling of a keyword in the table. A word that is in lowercase already is found without
computing its lowercase form. -/
def spelling? (k : Keywords) (word : String) : Option String :=
  match k.table[word]? with
  | some found => some found
  | none => k.table[lowerWord word]?

def contains (k : Keywords) (word : String) : Bool :=
  (k.spelling? word).isSome

def size (k : Keywords) : Nat :=
  k.table.size

def isEmpty (k : Keywords) : Bool :=
  k.table.isEmpty

end Keywords

end SqlBuffer
