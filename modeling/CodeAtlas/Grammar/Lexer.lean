import CodeAtlas.Grammar.Automaton

/-!
# Finding tokens

A token is looked for among those that make sense in a state. All of them are read at once, character
by character; the longest one wins unless a shorter one has a higher precedence. Tokens that are not
joined to the one before may have blanks in front of them.
-/

namespace CodeAtlas.Grammar

/-- A token found in a text, from `start` up to `stop`. -/
structure Lexeme where
  token : Nat
  start : Nat
  stop : Nat
deriving DecidableEq, Repr, Inhabited

/-- What is being read: whether all so far may be blanks, and what is left of each token that may have
begun. -/
structure Reads where
  inBlanks : Bool
  begun : List (Nat × Pattern)

namespace Table

/-- A token by its number. -/
def token (t : Table) (n : Nat) : Token := t.tokens.getD n default

/-- Whether the first of two tokens that end at one place is to be taken. -/
def prefers (t : Table) (m n : Nat) : Bool :=
  let a := t.token m
  let b := t.token n
  if a.precedence ≠ b.precedence then b.precedence < a.precedence
  else if a.rank ≠ b.rank then b.rank < a.rank
  else m < n

/-- The token that ends here, if any does. -/
def completed (t : Table) (r : Reads) : Option Nat :=
  r.begun.foldl (fun best b =>
    if b.2.nullable then
      match best with
      | some m => if t.prefers m b.1 then best else some b.1
      | none => some b.1
    else best) none

/-- Reads a text from `i` on; `start` is where the token has begun if blanks lie before it, and `best`
is the token found so far. -/
def lexFrom (t : Table) (text : Array Char) (fresh : List (Nat × Pattern)) (mayEnd : Bool) :
    Nat → Reads → (start i : Nat) → (onlyBlanks : Bool) → Option Lexeme → Option Lexeme
  | 0, _, _, _, _, best => best
  | n + 1, r, start, i, onlyBlanks, best =>
    let done := t.completed r
    let best := match done with
      | some k => some ⟨k, start, i⟩
      | none => best
    match text[i]? with
    | none => if mayEnd && onlyBlanks && best.isNone then some ⟨t.finish, i, i⟩ else best
    | some c =>
      let begun := r.begun.filterMap fun b =>
        let rest := b.2.derive c
        if rest.isNever then none else some (b.1, rest)
      let blank := r.inBlanks && t.blanks.contains c
      if begun.isEmpty && !blank then best
      else
        let precedence := begun.foldl (fun (p : Option Int) b =>
            let q := (t.token b.1).precedence
            match p with
            | some p => some (max p q)
            | none => some q) (if blank then some 0 else none)
        let goesOn := match done with
          | none => true
          | some k =>
            let own := (t.token k).precedence
            let best := precedence.getD 0
            if best < own then false
            else if best = own then
              !begun.isEmpty && (!r.inBlanks || (begun.any fun b => b.1 = k) ||
                (blank && !(t.token k).immediate))
            else true
        if !goesOn then best
        else if blank then
          if begun.isEmpty then
            t.lexFrom text fresh mayEnd n ⟨true, fresh⟩ (i + 1) (i + 1) onlyBlanks best
          else t.lexFrom text fresh mayEnd n ⟨true, fresh ++ begun⟩ start (i + 1) false best
        else t.lexFrom text fresh mayEnd n ⟨false, begun⟩ start (i + 1) false best

/-- The next token from a place on, if one of those that make sense there comes next. -/
def lex (t : Table) (text : Array Char) (place : Nat) (m : Mode) : Option Lexeme :=
  let all := m.tokens.map fun n => (n, (t.token n).pattern)
  let fresh := all.filter fun b => !(t.token b.1).immediate
  t.lexFrom text fresh m.mayEnd (text.size + 1 - place + 1) ⟨!fresh.isEmpty, all⟩ place place true
    none

/-- The token that a word is: a keyword where one makes sense or where words are reserved. -/
def keyword (t : Table) (text : Array Char) (m : Mode) (l : Lexeme) : Option Nat :=
  if l.token = t.word then
    let word := String.ofList (text.extract l.start l.stop).toList
    match t.keywords[word]? with
    | some k =>
      if m.allowed.testBit k || (m.reserves && t.reserved.contains word) then some k else none
    | none => none
  else none

end Table
end CodeAtlas.Grammar
