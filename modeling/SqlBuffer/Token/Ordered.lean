import SqlBuffer.Line.Search
import SqlBuffer.Token.Basic

/-
  All tokens of a text in one list, ordered by where they start.
-/

namespace SqlBuffer

/-- The tokens of a text at their places in it, in order. -/
structure TokenList where
  toList : List Token
deriving DecidableEq, Repr

namespace TokenList

def empty : TokenList :=
  ⟨[]⟩

def size (c : TokenList) : Nat :=
  c.toList.length

def isEmpty (c : TokenList) : Bool :=
  c.toList.isEmpty

def get? (c : TokenList) (n : Nat) : Option Token :=
  c.toList[n]?

def countBefore (c : TokenList) (i : Nat) : Nat :=
  boundary (·.span.start < i) c.toList

/-- The number of the first token that starts at or after position `i`. -/
def firstIndex? (c : TokenList) (i : Nat) : Option Nat :=
  if c.countBefore i < c.size then some (c.countBefore i) else none

def tokensFrom (c : TokenList) (i : Nat) : List Token :=
  match c.firstIndex? i with
  | some n => c.toList.drop n
  | none => []

/-- Visits tokens in order with a state. The visitor gives the next state and whether to go on. -/
def visit {σ : Type} (f : σ → Token → σ × Bool) (s : σ) : List Token → σ
  | [] => s
  | t :: ts =>
    match f s t with
    | (s, true) => visit f s ts
    | (s, false) => s

def visitFrom {σ : Type} (c : TokenList) (i : Nat) (f : σ → Token → σ × Bool) (s : σ) : σ :=
  visit f s (c.tokensFrom i)

/-- Visits the tokens of a span. A token that reaches the end of the span is the last one, and
may reach past it. -/
def visitIn {σ : Type} (c : TokenList) (r : Span) (f : σ → Token → σ) (s : σ) : σ :=
  c.visitFrom r.start (fun s t => (f s t, t.span.stop < r.stop)) s

/-- The tokens up to and including the first one for which `stop` holds. -/
def takeThrough (stop : Token → Bool) : List Token → List Token
  | [] => []
  | t :: ts => if stop t then [t] else t :: takeThrough stop ts

/-- The tokens of a span, the last of which may reach past it. -/
def tokensIn (c : TokenList) (r : Span) : List Token :=
  takeThrough (r.stop ≤ ·.span.stop) (c.tokensFrom r.start)

/-- Puts `tokens` in the place of those that start in the span `old`, and moves the tokens after
it by `delta`. -/
def splice (c : TokenList) (old : Span) (delta : Int) (tokens : List Token) : TokenList :=
  let first := (c.firstIndex? old.start).getD c.size
  let after := max ((c.firstIndex? old.stop).getD c.size) first
  ⟨c.toList.take first ++ tokens ++ (c.toList.drop after).map (·.shift delta)⟩

end TokenList

end SqlBuffer
