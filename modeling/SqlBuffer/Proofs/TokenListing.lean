import Mathlib.Data.List.Basic
import SqlBuffer.Proofs.BracketWindow
import SqlBuffer.Proofs.TokenRecord

/-
  The listing of the tokens of a file.
  Each row of the listing has an entry of the opened document: a token with the number of its line,
  or a line without tokens. Rows have no line feeds, so the rows can be read off the output, and a
  record tells its token and the number of the line. A dialect that leaves out comments has the same
  entries but for those of comments, because every line is scanned on its own and fails or not
  whatever is left out. Hence the listing without comments is the listing without the rows of
  comments.
-/

namespace SqlBuffer

theorem Document.current_openDialect (dialect : Dialect) (text : List Char) :
    (Document.openDialect dialect text).Current :=
  have h := current_openText .sql dialect.scanOptions text
  ⟨h.fresh, h.tokens⟩

/-! ## Characters of a row -/

theorem not_mem_toDigits {c : Char} (h : c.isDigit = false) (n : Nat) : c ∉ Nat.toDigits 10 n := by
  intro hc
  rw [Nat.isDigit_of_mem_toDigits (by decide) (by decide) hc] at h
  cases h

theorem lineFeed_not_mem_jsonChar (c : Char) : '\n' ∉ jsonChar c := by
  unfold jsonChar
  repeat' split
  all_goals simp_all [Ne.symm]

theorem lineFeed_not_mem_jsonString (s : String) : '\n' ∉ (jsonString s).toList := by
  unfold jsonString
  simp [lineFeed_not_mem_jsonChar]

theorem lineFeed_not_mem_toJson (kind : TokenKind) : '\n' ∉ kind.toJson.toList := by
  unfold TokenKind.toJson
  cases kind.recordValue? with
  | none => simp [lineFeed_not_mem_jsonString]
  | some v => simp [lineFeed_not_mem_jsonString]

namespace Command

theorem lineFeed_not_mem_tokenRecord (n : Nat) (t : Token) : '\n' ∉ (tokenRecord n t).toList := by
  unfold tokenRecord
  simp [lineFeed_not_mem_toJson, not_mem_toDigits (show '\n'.isDigit = false from rfl)]

/-- A line label is made of blanks and digits. -/
theorem not_mem_lineLabel {c : Char} (hb : c ≠ ' ') (hd : c.isDigit = false) (n : Nat) :
    c ∉ (lineLabel n).toList := by
  unfold lineLabel
  simp [not_mem_toDigits hd, hb]

/-! ## The lines of an output -/

/-- The lines of an output, each of which ends with a line feed. -/
def outputLines (output : String) : List String :=
  (output.toList.splitOn '\n').dropLast.map String.ofList

theorem splitOn_flatMap {rows : List (List Char)} (h : ∀ row ∈ rows, '\n' ∉ row) :
    (rows.flatMap (· ++ ['\n'])).splitOn '\n' = rows ++ [[]] := by
  induction rows with
  | nil => rfl
  | cons row rows ih =>
    rw [List.flatMap_cons, List.append_assoc, List.singleton_append,
      List.splitOn_append_cons_self_of_not_mem (h row List.mem_cons_self), ih]
    · rfl
    · intro r hr
      exact h r (List.mem_cons_of_mem _ hr)

/-- Rows without line feeds are the lines of the output that they make up. -/
theorem outputLines_join {rows : List String} (h : ∀ row ∈ rows, '\n' ∉ row.toList) :
    outputLines (String.join (rows.map (· ++ "\n"))) = rows := by
  have htext : (String.join (rows.map (· ++ "\n"))).toList =
      (rows.map String.toList).flatMap (· ++ ['\n']) := by
    rw [String.toList_join, List.flatMap_map, List.flatMap_map]
    apply List.flatMap_congr
    intro row _
    rw [String.toList_append]
    rfl
  unfold outputLines
  rw [htext, splitOn_flatMap, List.dropLast_concat, List.map_map]
  · simp
  · simpa using h

/-! ## What a row shows -/

/-- What a row of the listing shows: a token with the number of its line, or a line without
tokens. -/
inductive Entry
  | token (n : Nat) (t : Token)
  | failed (n : Nat)

namespace Entry

/-- The row that shows the entry. -/
def row : Entry → String
  | token n t => tokenRecord n t
  | failed n => lineLabel n ++ " <unrecognized input>"

/-- The number of the line and the token, if it is a token. -/
def record? : Entry → Option (Nat × Token)
  | token n t => some (n, t)
  | failed _ => none

theorem lineFeed_not_mem_row (x : Entry) : '\n' ∉ x.row.toList := by
  cases x with
  | token n t => exact lineFeed_not_mem_tokenRecord n t
  | failed n =>
    unfold row
    simp [not_mem_lineLabel]

/-- A row is read as the entry that it shows. -/
theorem readRecord?_row (x : Entry) : readRecord? x.row = x.record? := by
  cases x with
  | token n t => exact readRecord?_tokenRecord n t
  | failed n =>
    -- the row of a line without tokens has no brace
    cases hread : readRecord? (failed n).row with
    | none => rfl
    | some r =>
      have hbrace := brace_mem_of_readRecord? hread
      simp [row, not_mem_lineLabel] at hbrace

end Entry

/-! ## The entries of a document -/

/-- The entries of a line: its tokens at their places in the text, or that it has none. -/
def lineEntries (n : Nat) (line : Line (List Token)) : List Entry :=
  match line.info with
  | some ts => ts.map fun t => .token n (t.offset line.span.start)
  | none => [.failed n]

/-- The entries of a document from its first line to its last. -/
def entries (d : Document) : List Entry :=
  (numbered d).flatMap fun (n, line) => lineEntries n line

theorem tokenRows_eq_map (d : Document) : tokenRows d true = (entries d).map Entry.row := by
  unfold tokenRows entries
  rw [List.map_flatMap]
  apply List.flatMap_congr
  rintro ⟨n, line⟩ _
  unfold lineEntries
  dsimp only
  cases line.info with
  | none => rfl
  | some ts => simp [Entry.row]

theorem line?_of_mem_numbered {d : Document} {n : Nat} {line : Line (List Token)}
    (h : (n, line) ∈ numbered d) : ∃ m, n = m + 1 ∧ d.index.line? m = some line := by
  obtain ⟨m, hm⟩ := List.mem_iff_getElem?.1 h
  obtain ⟨hn, hl⟩ := List.getElem?_zip_eq_some.1 hm
  refine ⟨m, ?_, hl⟩
  obtain ⟨hlt, hn⟩ := List.getElem?_eq_some_iff.1 hn
  rw [List.getElem_range'] at hn
  omega

theorem filterMap_record?_lineEntries (n : Nat) (line : Line (List Token)) :
    (lineEntries n line).filterMap Entry.record? = line.placed.map (n, ·) := by
  unfold lineEntries Line.placed
  cases line.info with
  | none => rfl
  | some ts => simp [List.filterMap_map, Function.comp_def, Entry.record?]

/-- The tokens among the entries are those of the token list, each with the number of the line that
it starts on. -/
theorem filterMap_record?_entries {d : Document} (h : d.Current) :
    ((entries d).filterMap Entry.record?).map (fun (n, t) => (some n, t)) =
      d.tokens.toList.map fun t => ((d.index.lineHolding? t.span.start).map (· + 1), t) := by
  have hlines : (numbered d).map Prod.snd = d.index.lines :=
    List.map_snd_zip (by simp [LineIndex.size])
  unfold entries
  rw [List.filterMap_flatMap, h.tokens, ← hlines, List.flatMap_map, List.map_flatMap,
    List.map_flatMap]
  apply List.flatMap_congr
  rintro ⟨n, line⟩ hl
  obtain ⟨m, rfl, hline⟩ := line?_of_mem_numbered hl
  rw [filterMap_record?_lineEntries, List.map_map]
  apply List.map_congr_left
  intro t ht
  rw [h.lineHolding?_of_mem_placed hline ht]
  rfl

/-! ## Leaving out comments -/

def Entry.isComment : Entry → Bool
  | token _ t => t.kind == .comment
  | failed _ => false

/-- The row is the record of a comment. -/
def showsComment (row : String) : Bool :=
  (readRecord? row).any fun (_, t) => t.kind == .comment

theorem showsComment_row (x : Entry) : showsComment x.row = x.isComment := by
  rw [showsComment, x.readRecord?_row]
  cases x <;> rfl

theorem lineEntries_withoutComments (o : ScanOptions) (text : List Char) (n : Nat) (r : Span) :
    lineEntries n (freshLine { o with keepComments := false } text r) =
      (lineEntries n (freshLine o text r)).filter (!·.isComment) := by
  unfold lineEntries freshLine
  rw [Scan.lineTokens_withoutComments]
  cases Scan.lineTokens o (r.slice text) with
  -- a line that fails does so in both scans, and its entry is no comment
  | error e => rfl
  | ok ts =>
    simp only [Except.map, Except.toOption, List.filter_map]
    rfl

theorem entries_eq_flatMap {d : Document} (h : d.Current) :
    entries d = ((List.range' 1 (lineSpans 0 d.text).length).zip (lineSpans 0 d.text)).flatMap
      fun (n, r) => lineEntries n (freshLine d.options d.text r) := by
  unfold entries numbered LineIndex.size
  rw [h.fresh, List.length_map, List.zip_map_right, List.flatMap_map]
  rfl

theorem entries_withoutComments (dialect : Dialect) (text : List Char) :
    entries (.openDialect { dialect with keepComments := false } text) =
      (entries (.openDialect dialect text)).filter (!·.isComment) := by
  rw [entries_eq_flatMap (Document.current_openDialect _ _),
    entries_eq_flatMap (Document.current_openDialect _ _), List.filter_flatMap]
  apply List.flatMap_congr
  rintro ⟨n, r⟩ _
  exact lineEntries_withoutComments dialect.scanOptions text n r

/-! ## Outputs -/

/-- An output without the rows that show comments. -/
def withoutComments (output : String) : String :=
  String.join (((outputLines output).filter (!showsComment ·)).map (· ++ "\n"))

theorem outputLines_entries (es : List Entry) :
    outputLines (String.join ((es.map Entry.row).map (· ++ "\n"))) = es.map Entry.row := by
  apply outputLines_join
  intro row hrow
  obtain ⟨x, -, rfl⟩ := List.mem_map.1 hrow
  exact x.lineFeed_not_mem_row

theorem withoutComments_entries (es : List Entry) :
    withoutComments (String.join ((es.map Entry.row).map (· ++ "\n"))) =
      String.join (((es.filter (!·.isComment)).map Entry.row).map (· ++ "\n")) := by
  unfold withoutComments
  rw [outputLines_entries, List.filter_map]
  have hkeep : (!showsComment ·) ∘ Entry.row = (!·.isComment) := by
    funext x
    rw [Function.comp_apply, showsComment_row]
  rw [hkeep]

/-- What a listing of the tokens of a document shows. -/
structure Lists (d : Document) (output : String) : Prop where
  /-- The records tell the tokens of the document, in order, with their kinds and their places in
  the text, and for each the number of the line that it starts on. -/
  records : ((outputLines output).filterMap readRecord?).map (fun (n, t) => (some n, t)) =
    d.tokens.toList.map fun t => ((d.index.lineHolding? t.span.start).map (· + 1), t)
  /-- The other rows are those of the lines without tokens. -/
  others : (outputLines output).filter (fun row => (readRecord? row).isNone) =
    ((numbered d).filter fun (_, line) => line.info.isNone).map fun (n, _) =>
      lineLabel n ++ " <unrecognized input>"

theorem filterMap_readRecord?_rows (es : List Entry) :
    (es.map Entry.row).filterMap readRecord? = es.filterMap Entry.record? := by
  rw [List.filterMap_map]
  exact congrArg (es.filterMap ·) (funext Entry.readRecord?_row)

theorem others_lineEntries (n : Nat) (line : Line (List Token)) :
    ((lineEntries n line).map Entry.row).filter (fun row => (readRecord? row).isNone) =
      if line.info.isNone then [lineLabel n ++ " <unrecognized input>"] else [] := by
  have hnone : (fun row => (readRecord? row).isNone) ∘ Entry.row = (·.record?.isNone) := by
    funext x
    rw [Function.comp_apply, x.readRecord?_row]
  rw [List.filter_map, hnone]
  unfold lineEntries
  cases line.info with
  | none => rfl
  | some ts => simp [List.filter_map, Function.comp_def, Entry.record?]

theorem others_entries (ls : List (Nat × Line (List Token))) :
    ((ls.flatMap fun (n, line) => lineEntries n line).map Entry.row).filter
        (fun row => (readRecord? row).isNone) =
      (ls.filter fun (_, line) => line.info.isNone).map fun (n, _) =>
        lineLabel n ++ " <unrecognized input>" := by
  induction ls with
  | nil => rfl
  | cons l ls ih =>
    obtain ⟨n, line⟩ := l
    rw [List.flatMap_cons, List.map_append, List.filter_append, ih, others_lineEntries]
    by_cases h : line.info.isNone = true
    · rw [if_pos h, List.filter_cons_of_pos (by exact h)]
      rfl
    · rw [if_neg h, List.filter_cons_of_neg (by exact h)]
      rfl

/-- The listing of a current document shows its tokens and the lines that have none. -/
theorem lists_tokenRows {d : Document} (h : d.Current) :
    Lists d (String.join ((tokenRows d true).map (· ++ "\n"))) := by
  rw [tokenRows_eq_map]
  constructor
  · rw [outputLines_entries, filterMap_readRecord?_rows, filterMap_record?_entries h]
  · rw [outputLines_entries]
    exact others_entries (numbered d)

theorem withoutComments_tokenRows (dialect : Dialect) (text : List Char) :
    withoutComments (String.join ((tokenRows (.openDialect dialect text) true).map (· ++ "\n"))) =
      String.join ((tokenRows (.openDialect { dialect with keepComments := false } text) true).map
        (· ++ "\n")) := by
  rw [tokenRows_eq_map, tokenRows_eq_map, withoutComments_entries, entries_withoutComments]

end Command

/-! ## The command line -/

namespace Arguments

/-- An argument that is neither empty nor an option. -/
def isOperand (arg : String) : Bool :=
  match arg.toList with
  | [] => false
  | '-' :: _ :: _ => false
  | _ => true

variable {arg : String}

theorem ne_empty_of_isOperand (h : isOperand arg = true) : arg ≠ "" := by
  rintro rfl
  exact absurd h (by decide)

theorem dashed?_of_isOperand (h : isOperand arg = true) (verb : Option Verb) (r : Reading) :
    dashed? verb r arg = none := by
  unfold isOperand at h
  unfold dashed?
  split at h <;> simp_all

/-- The arguments behind the command: the file and the switches. -/
theorem readRest_tokens (h : isOperand arg = true) (skipComments : Bool) :
    readRest .tokens {} (arg :: "--json" :: if skipComments then ["--skip-comments"] else []) =
      .ok { file := some arg, operands := 1
            switches := if skipComments then [.skipComments, .json] else [.json] } := by
  -- the file is checked when the switch behind it is met
  let found : Reading := { pending := some (.file, some arg), operands := 1 }
  have hfile : found.settle = .ok { file := some arg, operands := 1 } :=
    if_neg (ne_empty_of_isOperand h)
  have hjson : found.option (.switch .json) none =
      .ok { file := some arg, operands := 1, switches := [.json] } := by
    unfold Reading.option
    rw [hfile]
    rfl
  rw [readRest, if_neg Bool.false_ne_true, dashed?_of_isOperand h]
  change readRest .tokens found ("--json" :: _) = _
  have hoption : dashed? (some .tokens) found "--json" = some (found.option (.switch .json) none) :=
    rfl
  rw [readRest, if_neg Bool.false_ne_true, hoption, hjson]
  cases skipComments with
  | false => rfl
  | true => rfl

theorem readFront_config (h : isOperand arg = true) (args : List String) :
    readFront {} ("--config" :: arg :: args) =
      readFront { pending := some (.config, some arg) } args := by
  have hoption : dashed? none {} "--config" = some (.ok { pending := some (.config, none) }) := rfl
  rw [readFront, hoption]
  change readFront { pending := some (.config, none) } (arg :: args) = _
  rw [readFront, dashed?_of_isOperand h]
  rfl

theorem readFront_tokens {r : Reading} (ho : r.operandsOnly = false) (hw : r.waits = false)
    (h : isOperand arg = true) (skipComments : Bool) :
    readFront r ("tokens" :: arg :: "--json" ::
        if skipComments then ["--skip-comments"] else []) = do
      let r ← r.settle
      return ⟨r.config, .tokens arg true skipComments⟩ := by
  rw [readFront, ho, hw]
  change (do
    let rest ← readRest .tokens {} _
    let command ← command .tokens rest
    let r ← r.settle
    return (⟨rest.config.or r.config, command⟩ : Invocation)) = _
  rw [readRest_tokens h]
  cases skipComments with
  | false => rfl
  | true => rfl

end Arguments

namespace Invocation

/-- The invocation that lists the tokens of a file as records. -/
def listTokens (config : Option String) (file : String) (skipComments : Bool) : Invocation :=
  ⟨config, .tokens file true skipComments⟩

/-- The command line of the invocation. -/
def listTokensLine (config : Option String) (file : String) (skipComments : Bool) : List String :=
  config.toList.flatMap (["--config", ·]) ++
    "tokens" :: file :: "--json" :: if skipComments then ["--skip-comments"] else []

open Arguments in
theorem parse_listTokensLine {config : Option String} {file : String}
    (hc : ∀ path ∈ config, isOperand path = true) (hf : isOperand file = true)
    (skipComments : Bool) :
    parse (listTokensLine config file skipComments) =
      .ok (listTokens config file skipComments) := by
  unfold parse listTokensLine
  cases config with
  | none =>
    rw [Option.toList_none, List.flatMap_nil, List.nil_append, readFront_tokens rfl rfl hf]
    rfl
  | some path =>
    have hpath := hc path rfl
    have hfill : Reading.settle { pending := some (.config, some path) } =
        .ok { config := some path } :=
      if_neg (ne_empty_of_isOperand hpath)
    rw [Option.toList_some, List.flatMap_singleton, List.cons_append, List.singleton_append,
      readFront_config hpath, readFront_tokens rfl rfl hf, hfill]
    rfl

/-- The listing opens the file in a dialect that may be told to leave out comments. -/
theorem run_listTokens (read : String → Except FileError (List Char)) (e : Environment)
    (config : Option String) (file : String) (skipComments : Bool) :
    (listTokens config file skipComments).run read e = do
      let dialect ← (listTokens config file skipComments).dialect read e
      let d ← Command.openFile read
        (if skipComments then { dialect with keepComments := false } else dialect) file
      return String.join ((Command.tokenRows d true).map (· ++ "\n")) := by
  unfold run
  apply bind_congr
  intro dialect
  simp only [listTokens, Command.rows, bind_assoc, pure_bind]

/-- Leaving out comments changes the listing of the tokens of a file by the rows of comments and
no other: the order, the line numbers, the places and the lines without tokens stay, and so does
the error if there is no listing. Whether comments are left out or not, the records of a listing
tell the tokens of the opened document, in order, and their lines. The command lines with the
switches for it ask for these listings. -/
theorem run_skipComments (read : String → Except FileError (List Char)) (e : Environment)
    (config : Option String) (file : String) :
    (listTokens config file true).run read e =
        ((listTokens config file false).run read e).map Command.withoutComments ∧
      (∀ n t, Command.readRecord? (Command.tokenRecord n t) = some (n, t)) ∧
      (∀ skipComments dialect text,
        (listTokens config file skipComments).dialect read e = .ok dialect →
        read file = .ok text →
          ∃ output, (listTokens config file skipComments).run read e = .ok output ∧
            Command.Lists (.openDialect
              (if skipComments then { dialect with keepComments := false } else dialect) text)
              output) ∧
      ((∀ arg ∈ file :: config.toList, Arguments.isOperand arg = true) → ∀ skipComments,
        parse (listTokensLine config file skipComments) =
          .ok (listTokens config file skipComments)) := by
  refine ⟨?_, ?_, ?_, ?_⟩
  · have hdialect : (listTokens config file true).dialect read e =
        (listTokens config file false).dialect read e := rfl
    rw [run_listTokens, run_listTokens, hdialect]
    cases (listTokens config file false).dialect read e with
    | error cause => rfl
    | ok dialect =>
      unfold Command.openFile
      cases read file with
      | error cause => rfl
      | ok text =>
        exact congrArg Except.ok (Command.withoutComments_tokenRows dialect text).symm
  · exact Command.readRecord?_tokenRecord
  · intro skipComments dialect text hd hr
    refine ⟨_, ?_, Command.lists_tokenRows (Document.current_openDialect _ text)⟩
    rw [run_listTokens, hd]
    unfold Command.openFile
    rw [hr]
    rfl
  · intro h skipComments
    exact parse_listTokensLine (fun path hp => h path (by simp [Option.mem_def.1 hp]))
      (h file (by simp)) skipComments

/-- Two comments go; the line that cannot be scanned and the string that looks like the start of
a kind stay where they are. -/
theorem run_skipComments_unrecognized :
    let text := "( -- a\n§\n/**/ '\"kind'".toList
    let read (path : String) : Except FileError (List Char) :=
      if path = "a.sql" then .ok text else .error .notFound
    let e : Environment := ⟨none, "home"⟩
    (listTokens none "a.sql" true).run read e =
        ((listTokens none "a.sql" false).run read e).map Command.withoutComments ∧
      (∃ output, (listTokens none "a.sql" true).run read e = .ok output ∧
        Command.Lists (.openDialect { keepComments := false } text) output) ∧
      parse ["tokens", "a.sql", "--json", "--skip-comments"] = .ok (listTokens none "a.sql" true) ∧
      (listTokens none "a.sql" true).run read e = .ok (String.join
        (["\x7b\"line\":1,\"start\":0,\"end\":1,\"token\":" ++
            "\x7b\"kind\":\"punctuation\",\"value\":\"l_paren\"\x7d\x7d",
          "    2 <unrecognized input>",
          "\x7b\"line\":3,\"start\":14,\"end\":21,\"token\":" ++
            "\x7b\"kind\":\"string_literal\",\"value\":\"\\\"kind\"\x7d\x7d"].map
          (· ++ "\n"))) := by
  intro text read e
  have hd : (listTokens none "a.sql" true).dialect read e = .ok {} := by decide +kernel
  obtain ⟨hrun, -, hlists, hparse⟩ := run_skipComments read e none "a.sql"
  exact ⟨hrun, hlists true {} text hd rfl, hparse (by decide) true, by decide +kernel⟩

end Invocation

end SqlBuffer
