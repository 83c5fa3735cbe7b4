import SqlBuffer.Keyword.Postgres
import SqlBuffer.Scan.Error
import SqlBuffer.Scan.Rule

/-
  Scanning a text into tokens.
  `next` finds the next token from a place in the text; the other functions call it until the
  text ends or an error stops them: `textTokens` and `stream` for a text, `lineTokens` for a line
  of a document, `results` for a given number of calls.
-/

namespace SqlBuffer

/-- What a scanner takes for keywords and which tokens it keeps. -/
structure ScanOptions where
  keywords : Keywords := .postgres
  keepNewLines : Bool := false
  keepComments : Bool := false

namespace ScanOptions

def skips (o : ScanOptions) : TokenKind → Bool
  | .comment => !o.keepComments
  | .newLine => !o.keepNewLines
  | _ => false

end ScanOptions

/-- The outcome of looking for a token, with the place where the scanner is then. -/
inductive Scanned
  | token (t : ScannedToken) (after : Cursor)
  | failed (e : ScanError) (place : Cursor)
  /-- Nothing is left of the text. -/
  | finished (place : Cursor)

namespace Scan

/-- The empty token at the end of a text. -/
def endToken (position bytes : Nat) : ScannedToken :=
  ⟨⟨.endOfText, ⟨position, position⟩⟩, ⟨bytes, bytes⟩⟩

end Scan

namespace Scanned

def place : Scanned → Cursor
  | token _ c | failed _ c | finished c => c

/-- The answer to whoever asked for a token. -/
def answer : Scanned → Except ScanError ScannedToken
  | token t _ => .ok t
  | failed e _ => .error e
  | finished c => .ok (Scan.endToken c.position c.bytes)

end Scanned

namespace Scan

def next (o : ScanOptions) (c : Cursor) : Scanned :=
  match _h : c.read o.keywords with
  | .done => .finished c
  | .blank after => next o after
  | .token kind after => if o.skips kind then next o after else .token (c.tokenTo after kind) after
  | .unexpected ch => .failed ⟨ch, c.position⟩ c
termination_by c.rest.length
decreasing_by
  · have := c.movesOn_read o.keywords
    rwa [_h] at this
  · have := c.movesOn_read o.keywords
    rwa [_h] at this

theorem length_after_lt {o : ScanOptions} {c : Cursor} {t : ScannedToken} {after : Cursor}
    (h : next o c = .token t after) : after.rest.length < c.rest.length := by
  fun_induction next o c with
  | case1 => cases h
  | case2 c place hr ih =>
    have hlt := c.movesOn_read o.keywords
    rw [hr] at hlt
    exact Nat.lt_trans (ih h) hlt
  | case3 c kind place hr _ ih =>
    have hlt := c.movesOn_read o.keywords
    rw [hr] at hlt
    exact Nat.lt_trans (ih h) hlt
  | case4 c kind place hr =>
    have hlt := c.movesOn_read o.keywords
    rw [hr] at hlt
    cases h
    exact hlt
  | case5 => cases h

/-- All tokens from a place on, the one at the end of the text included, or the error that stops
the scan. -/
def textFrom (o : ScanOptions) (c : Cursor) : Except ScanError (List ScannedToken) :=
  match _h : next o c with
  | .token t after => (textFrom o after).map (t :: ·)
  | .failed e _ => .error e
  | .finished d => .ok [endToken d.position d.bytes]
termination_by c.rest.length
decreasing_by exact length_after_lt _h

theorem textFrom_eq (o : ScanOptions) (c : Cursor) :
    textFrom o c =
      match next o c with
      | .token t after => (textFrom o after).map (t :: ·)
      | .failed e _ => .error e
      | .finished d => .ok [endToken d.position d.bytes] := by
  rw [textFrom]
  split <;> simp_all

def textTokens (o : ScanOptions) (text : List Char) : Except ScanError (List ScannedToken) :=
  textFrom o (.start text)

/-- The tokens from a place on, one after the other. The last item is the end of the text or an
error. -/
def streamFrom (o : ScanOptions) (c : Cursor) : List (Except ScanError ScannedToken) :=
  match _h : next o c with
  | .token t after => .ok t :: streamFrom o after
  | .failed e _ => [.error e]
  | .finished d => [.ok (endToken d.position d.bytes)]
termination_by c.rest.length
decreasing_by exact length_after_lt _h

theorem streamFrom_eq (o : ScanOptions) (c : Cursor) :
    streamFrom o c =
      match next o c with
      | .token t after => .ok t :: streamFrom o after
      | .failed e _ => [.error e]
      | .finished d => [.ok (endToken d.position d.bytes)] := by
  rw [streamFrom]
  split <;> simp_all

def stream (o : ScanOptions) (text : List Char) : List (Except ScanError ScannedToken) :=
  streamFrom o (.start text)

/-- What a scanner answers to `n` calls, whatever it answers. Each call starts where the one before
it left the scanner. -/
def results (o : ScanOptions) : Nat → Cursor → List (Except ScanError ScannedToken)
  | 0, _ => []
  | n + 1, c =>
    let found := next o c
    found.answer :: results o n found.place

/-- The tokens of a line from a place on, without the one at its end. -/
def lineFrom (o : ScanOptions) (c : Cursor) : Except ScanError (List Token) :=
  match _h : next o c with
  | .token t after => (lineFrom o after).map (t.toToken :: ·)
  | .failed e _ => .error e
  | .finished _ => .ok []
termination_by c.rest.length
decreasing_by exact length_after_lt _h

theorem lineFrom_eq (o : ScanOptions) (c : Cursor) :
    lineFrom o c =
      match next o c with
      | .token t after => (lineFrom o after).map (t.toToken :: ·)
      | .failed e _ => .error e
      | .finished _ => .ok [] := by
  rw [lineFrom]
  split <;> simp_all

def lineTokens (o : ScanOptions) (line : List Char) : Except ScanError (List Token) :=
  lineFrom o (.start line)

end Scan

end SqlBuffer
