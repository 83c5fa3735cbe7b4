import SqlBuffer.Dialect.Basic
import SqlBuffer.Yaml.Node
import SqlBuffer.Yaml.Writer

/-
  Dialects as YAML: a mapping with a key for each setting. Settings that are not there have
  their default, and keys that are no setting are passed over.
-/

namespace SqlBuffer.Dialect

open Yaml

def wordLimit : Nat := 0x10000000000000000

def kindTag (name : String) : Tag :=
  tagOf ("tag:yaml.org,2002:" ++ name).toList

/-- The text of a scalar that may stand for something else: one that is plain, or literal with the
tag of what it stands for. -/
def valueText? (kind : String) : Node → Option (List Char)
  | .scalar text .plain _ => some text
  | .scalar text .literal tag => if tag = some (kindTag kind) then some text else none
  | _ => none

def readFlag (node : Node) : Option Bool :=
  (valueText? "bool" node).bind truth?

def readCount (node : Node) : Option Nat :=
  ((valueText? "int" node).bind natural?).filter (· < wordLimit)

def readWord : Node → Option String
  | .scalar text _ _ => some (String.ofList text)
  | _ => none

/-- Reads words. A value that is left out is a sequence without items. -/
def readWords (doc : Yaml.Document) : Node → Option (List String)
  | .sequence items => items.mapM fun item => readWord (doc.node item)
  | .scalar [] .plain _ => some []
  | _ => none

structure Draft where
  extraKeywords : Option (List String) := none
  keepComments : Option Bool := none
  keepNewLines : Option Bool := none
  bracketWindow : Option Nat := none

/-- A setting that has no value yet, with its value. -/
def once {α : Type} (old value : Option α) : Option (Option α) :=
  match old, value with
  | none, some a => some (some a)
  | _, _ => none

def Draft.put (doc : Yaml.Document) (d : Draft) (entry : Node × Node) : Option Draft := do
  let value := doc.node entry.2
  match ← readWord (doc.node entry.1) with
  | "extra_keywords" =>
    return { d with extraKeywords := ← once d.extraKeywords (readWords doc value) }
  | "emit_comments" =>
    return { d with keepComments := ← once d.keepComments (readFlag value) }
  | "emit_newlines" =>
    return { d with keepNewLines := ← once d.keepNewLines (readFlag value) }
  | "bracket_search_lines" =>
    return { d with bracketWindow := ← once d.bracketWindow (readCount value) }
  | _ => return d

def Draft.finish (d : Draft) : Dialect :=
  let default : Dialect := {}
  { extraKeywords := d.extraKeywords.getD default.extraKeywords
    keepComments := d.keepComments.getD default.keepComments
    keepNewLines := d.keepNewLines.getD default.keepNewLines
    bracketWindow := d.bracketWindow.getD default.bracketWindow }

/-- Reads a dialect. A value that is left out is a mapping without entries. -/
def ofYaml? (text : List Char) : Option Dialect := do
  let doc ← Yaml.read? text
  match doc.node doc.root with
  | .mapping entries => return (← entries.foldlM (Draft.put doc) {}).finish
  | .scalar [] .plain _ => return {}
  | _ => none

def wordsYaml : List String → String
  | [] => " []\n"
  | words => "\n" ++ String.join (words.map fun w => "- " ++ String.ofList (entryText w.toList))

def flagYaml (b : Bool) : String :=
  if b then " true\n" else " false\n"

def toYaml (d : Dialect) : String :=
  "extra_keywords:" ++ wordsYaml d.extraKeywords
    ++ "emit_comments:" ++ flagYaml d.keepComments
    ++ "emit_newlines:" ++ flagYaml d.keepNewLines
    ++ "bracket_search_lines: " ++ toString d.bracketWindow ++ "\n"

end SqlBuffer.Dialect
