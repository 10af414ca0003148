import CodeAtlas.Embed.Model
import CodeAtlas.Index.Entry
import CodeAtlas.Number.Numeral
import CodeAtlas.Number.Shortest
import CodeAtlas.Text.Blank
import CodeAtlas.Text.Cut

/-!
# Embedding texts and entries

An embedder asks a model for vectors, and takes only answers that come in time and are vectors of
the model's dimension with finite numbers. The vectors of an entry are best effort: what the model
has no vector for goes without one.

* `Embedder.embed`: the vector of a text;
* `Embedder.embedEntry`: the vectors of a file and of its symbols.
-/

namespace CodeAtlas

namespace Embedding

/-- The number that a text stands for. -/
def numeral (s : String) : Except Error Float :=
  match Number.ofText? s with
  | some x => .ok x
  | none => .error (.embedding .notNumeric)

/-- The number that a value stands for. Bytes are read as ASCII. -/
def component : Value → Except Error Float
  | .int i =>
    let x := Float.ofInt i
    if x.isInf then .error (.overflow "int too large to convert to float") else .ok x
  | .real x => .ok x
  | .bool b => .ok (if b then 1.0 else 0.0)
  | .text s => numeral s
  | .bytes bs =>
    if bs.all (· < 128) then numeral (String.ofList (bs.map fun b => Char.ofNat b.toNat))
    else .error (.embedding .notNumeric)
  | _ => .error (.embedding .notNumeric)

/-- Whether a number is neither infinite nor undefined. -/
def isFinite (x : Float) : Bool := !x.isNaN && !x.isInf

/-- Refuses numbers that are no vector of a dimension. -/
def check (dimension : Int) (xs : List Float) : Except Error Embedding :=
  if (xs.length : Int) ≠ dimension then .error (.embedding (.wrongDimension xs.length dimension))
  else if !xs.all isFinite then .error (.embedding .notFinite)
  else .ok xs

/-- The vector of a dimension that a value stands for. -/
def ofValue (dimension : Int) (v : Value) : Except Error Embedding :=
  match v.parts? with
  | none => .error (.embedding .notNumeric)
  | some parts => parts.mapM component >>= check dimension

end Embedding

/-- A model with limits for its use: how many seconds an answer may take, and how many characters of
a symbol it is asked about. -/
structure Embedder (σ : Type) where
  model : Model σ
  timeout : Float
  maxSymbolChars : Int

namespace Embedder

variable {σ : Type}

/-- The failure to answer in time. -/
def timedOut (m : Embedder σ) : Error := .embedding (.timedOut (Number.Shortest.text m.timeout))

/-- What a reply of the model means. -/
def judge (m : Embedder σ) : Reply → Except Error Embedding
  | .answered v => Embedding.ofValue m.model.dimension v
  | .object (.ok xs) => Embedding.check m.model.dimension xs
  | .object (.error none) => .error (.embedding .notNumeric)
  | .object (.error (some words)) => .error (.failed words)
  | .failed (.embedding cause) => .error (.embedding cause)
  | .failed cause => .error (.embedding (.providerFailed cause.message))
  | .late => .error m.timedOut

/-- Asks for the vector of a text. A model that has no time at all is not asked. -/
def embed (m : Embedder σ) (text : String) (s : σ) : Except Error Embedding × σ :=
  if Text.isBlankText text then (.error (.embedding .emptyText), s)
  else if m.timeout ≤ 0.0 then (.error m.timedOut, s)
  else
    let (reply, s) := m.model.ask text s
    (m.judge reply, s)

/-- The part of a symbol's text that the model is asked about. -/
def symbolText (m : Embedder σ) (text : String) : String :=
  String.ofList (cutTo text.toList m.maxSymbolChars)

/-- Asks for the vector of a symbol's text. -/
def embedSymbolText (m : Embedder σ) (text : String) (s : σ) : Except Error Embedding × σ :=
  m.embed (m.symbolText text) s

/-- Forgives a failure to embed; other errors stand. -/
def forgive : Except Error Embedding → Except Error (Option Embedding)
  | .ok v => .ok (some v)
  | .error (.embedding _) => .ok none
  | .error e => .error e

/-- The vector of a text, if there is one. -/
def tryEmbed (m : Embedder σ) (text : String) (s : σ) : Except Error (Option Embedding) × σ :=
  let (r, s) := m.embed text s
  (forgive r, s)

/-- Gives a file its vector, unless it is blank. -/
def embedFile (m : Embedder σ) (e : Entry) (s : σ) : Except Error (Entry × Nat) × σ :=
  if Text.isBlankText e.content then (.ok (e, 0), s)
  else
    let (r, s) := m.tryEmbed e.content s
    (r.map fun v => ({ e with embedding := v }, v.toList.length), s)

/-- Gives a symbol its vector, unless its text is blank. -/
def embedSymbol (m : Embedder σ) (content : String) (x : Symbol) (s : σ) :
    Except Error (Symbol × Nat) × σ :=
  let text := x.source content
  if Text.isBlankText text then (.ok (x, 0), s)
  else
    let (r, s) := m.embedSymbolText text s
    ((forgive r).map fun v => ({ x with embedding := v }, v.toList.length), s)

/-- Gives symbols their vectors, one after the other. -/
def embedSymbols (m : Embedder σ) (content : String) :
    List Symbol → σ → Except Error (List Symbol × Nat) × σ
  | [], s => (.ok ([], 0), s)
  | x :: xs, s =>
    match m.embedSymbol content x s with
    | (.error e, s) => (.error e, s)
    | (.ok (x, n), s) =>
      let (rest, s) := embedSymbols m content xs s
      (rest.map fun (xs, k) => (x :: xs, n + k), s)

/-- Which vectors an entry gets. -/
structure Extent where
  file : Bool := true
  symbols : Bool := true
deriving DecidableEq, Repr

/-- Gives an entry its vectors, the file first, and counts those that are found. -/
def embedEntry (m : Embedder σ) (extent : Extent) (e : Entry) (s : σ) :
    Except Error (Entry × Nat) × σ :=
  match if extent.file then m.embedFile e s else (.ok (e, 0), s) with
  | (.error err, s) => (.error err, s)
  | (.ok (e, n), s) =>
    if extent.symbols then
      let (r, s) := m.embedSymbols e.content e.symbols s
      (r.map fun (xs, k) => ({ e with symbols := xs }, n + k), s)
    else (.ok (e, n), s)

end Embedder
end CodeAtlas
