import CodeAtlas.Grammar.Parse
import CodeAtlas.Grammar.Tree

/-!
# Bounds of tokens, derivations and trees

Nothing that was read ends before it begins or reaches behind the text. A token lies behind the place
from which on it is looked for (`Table.lex_lies`). Where derivations stand one
behind the other (`Chain`) this holds of the phrase that they are parts of
(`Derivation.within_ofParts`), and a tree shows nothing of a derivation but where parts of it are
(`Derivation.shown_within`).
-/

namespace CodeAtlas.Grammar

/-! ## Tokens -/

/-- A token that is found in a text of `n` characters if it is looked for from a place on. -/
structure Lexeme.Lies (n place : Nat) (l : Lexeme) : Prop where
  place_le : place ≤ l.start
  start_le : l.start ≤ l.stop
  stop_le : l.stop ≤ n

/-- Tokens that are found by other means lie so too. -/
def Scanner.Sound (scan : Scanner) : Prop :=
  ∀ text i names name start stop, i ≤ text.size → scan text i names = some (name, start, stop) →
    i ≤ start ∧ start ≤ stop ∧ stop ≤ text.size

namespace Table

variable (t : Table) {text : Array Char} {place : Nat}

theorem lexFrom_lies (fresh : List (Nat × Pattern)) (mayEnd : Bool) {fuel : Nat} {r : Reads}
    {start i : Nat} {onlyBlanks : Bool} {best : Option Lexeme} (hplace : place ≤ start)
    (hstart : start ≤ i) (hi : i ≤ text.size)
    (hbest : ∀ l, best = some l → l.Lies text.size place) {l : Lexeme}
    (h : t.lexFrom text fresh mayEnd fuel r start i onlyBlanks best = some l) :
    l.Lies text.size place := by
  induction fuel generalizing r start i onlyBlanks best with
  | zero => exact hbest l h
  | succ fuel ih =>
    unfold lexFrom at h
    extract_lets done best' at h
    clear_value done
    have hbest' : ∀ l, best' = some l → l.Lies text.size place := by
      intro l hl
      simp only [best'] at hl
      split at hl
      · cases hl
        exact ⟨hplace, hstart, hi⟩
      · exact hbest l hl
    clear_value best'
    split at h
    · split at h
      · cases h
        exact ⟨Nat.le_trans hplace hstart, Nat.le_refl _, hi⟩
      · exact hbest' l h
    · next c hc =>
      have hlt : i < text.size := (Array.getElem?_eq_some_iff.1 hc).1
      extract_lets begun blank at h
      split at h
      · exact hbest' l h
      split at h
      · exact hbest' l h
      split at h
      · split at h
        · exact ih (by omega) (Nat.le_refl _) hlt hbest' h
        · exact ih hplace (by omega) hlt hbest' h
      · exact ih hplace (by omega) hlt hbest' h

/-- The next token lies behind the place from which on it is looked for. -/
theorem lex_lies (hplace : place ≤ text.size) {m : Mode} {l : Lexeme}
    (h : t.lex text place m = some l) : l.Lies text.size place :=
  t.lexFrom_lies _ _ (Nat.le_refl _) (Nat.le_refl _) hplace (fun _ h => by cases h) h

end Table

/-! ## What lies in a text -/

/-- All that was read lies in a text of `n` characters. -/
inductive Derivation.Within (n : Nat) : Derivation → Prop
  | token {k gap start stop : Nat} {extra : Bool} :
    start ≤ stop → stop ≤ n → Within n (.token k gap start stop extra)
  | phrase {p : Nat} {e : Ending} {w : Int} {gap start stop : Nat} {parts : List Derivation} :
    start ≤ stop → stop ≤ n → (∀ d ∈ parts, d.Within n) →
      Within n (.phrase p e w gap start stop parts)

/-- All nodes lie in a text of `n` characters. -/
inductive Tree.Within (n : Nat) : Tree → Prop
  | node {kind : String} {role : Option String} {start stop : Nat} {children : List Tree} :
    start ≤ stop → stop ≤ n → (∀ t ∈ children, t.Within n) →
      Within n (.node kind role start stop children)

variable {n : Nat}

/-! ## Derivations -/

theorem Derivation.Within.start_le {d : Derivation} (h : d.Within n) : d.start ≤ d.stop := by
  cases h with
  | token h _ => exact h
  | phrase h _ _ => exact h

theorem Derivation.Within.stop_le {d : Derivation} (h : d.Within n) : d.stop ≤ n := by
  cases h with
  | token _ h => exact h
  | phrase _ h _ => exact h

/-- Derivations one behind the other, from the place `p` on, that end at `q`. -/
inductive Chain (n : Nat) : Nat → List Derivation → Nat → Prop
  | nil (p : Nat) : Chain n p [] p
  | cons {p q : Nat} {d : Derivation} {ds : List Derivation} :
    p ≤ d.start → d.Within n → Chain n d.stop ds q → Chain n p (d :: ds) q

namespace Chain

variable {p q r : Nat} {ds es : List Derivation}

theorem le (h : Chain n p ds q) : p ≤ q := by
  induction h with
  | nil => exact Nat.le_refl _
  | cons hp hd _ ih => exact Nat.le_trans hp (Nat.le_trans hd.start_le ih)

theorem within (h : Chain n p ds q) : ∀ d ∈ ds, d.Within n := by
  induction h with
  | nil => exact fun d hd => nomatch hd
  | cons _ hd _ ih => exact List.forall_mem_cons.2 ⟨hd, ih⟩

theorem split (h : Chain n p (ds ++ es) q) : ∃ m, Chain n p ds m ∧ Chain n m es q := by
  induction ds generalizing p with
  | nil => exact ⟨p, .nil p, h⟩
  | cons d ds ih =>
    cases h with
    | cons hp hd hds =>
      obtain ⟨m, hfront, hback⟩ := ih hds
      exact ⟨m, .cons hp hd hfront, hback⟩

theorem getLast_stop (h : Chain n p ds q) (hne : ds ≠ []) : (ds.getLast hne).stop = q := by
  induction h with
  | nil => exact absurd rfl hne
  | @cons p q d ds hp hd hds ih =>
    cases ds with
    | nil =>
      cases hds with
      | nil => rfl
    | cons e es => exact ih (by simp)

end Chain

/-- A phrase of parts one behind the other ends where they do. -/
theorem Derivation.within_ofParts {p q : Nat} {ds : List Derivation} (h : Chain n p ds q)
    (hp : p ≤ n) (number : Nat) (e : Ending) :
    (ofParts number e p ds).Within n ∧ p ≤ (ofParts number e p ds).start ∧
      (ofParts number e p ds).stop = q := by
  cases h with
  | nil => exact ⟨.phrase (Nat.le_refl p) hp (fun d hd => nomatch hd), Nat.le_refl p, rfl⟩
  | @cons _ _ d ds hstart hd hds =>
    have hall : Chain n p (d :: ds) q := .cons hstart hd hds
    have hstop : (((d :: ds).getLast?.map stop).getD p) = q := by
      rw [List.getLast?_eq_some_getLast (by simp), Option.map_some, Option.getD_some,
        hall.getLast_stop]
    have hq : q ≤ n := by
      rw [← hall.getLast_stop (by simp)]
      exact (hall.within _ (List.getLast_mem _)).stop_le
    refine ⟨?_, hstart, hstop⟩
    rw [ofParts]
    exact .phrase (by rw [hstop]; exact Nat.le_trans hd.start_le hds.le) (by rw [hstop]; exact hq)
      hall.within

/-! ## Trees -/

namespace Tree.Within

variable {t : Tree}

theorem start_le (h : t.Within n) : t.start ≤ t.stop := by
  cases h with
  | node h _ _ => exact h

theorem stop_le (h : t.Within n) : t.stop ≤ n := by
  cases h with
  | node _ h _ => exact h

theorem children (h : t.Within n) : ∀ c ∈ t.children, c.Within n := by
  cases h with
  | node _ _ h => exact h

end Tree.Within

mutual

/-- The nodes that a derivation shows lie in the text. -/
theorem Derivation.shown_within (t : Table) (role name : Option String) {rest : List Tree}
    (hrest : ∀ u ∈ rest, u.Within n) (d : Derivation) (h : d.Within n) :
    ∀ u ∈ d.shown t role name rest, u.Within n := by
  cases d with
  | token k gap start stop extra =>
    rw [shown]
    split
    · exact List.forall_mem_cons.2 ⟨.node h.start_le h.stop_le (fun c hc => nomatch hc), hrest⟩
    · exact hrest
  | phrase p e w gap start stop parts =>
    cases h with
    | phrase hstart hstop hparts =>
      rw [shown]
      split
      · have hchildren : ∀ u ∈ shownAll t none e.labels [] parts, u.Within n :=
          shownAll_within t none e.labels (List.forall_mem_nil _) parts hparts
        exact List.forall_mem_cons.2 ⟨.node hstart hstop hchildren, hrest⟩
      · exact shownAll_within t role e.labels hrest parts hparts

theorem Derivation.shownAll_within (t : Table) (role : Option String) (labels : List Label)
    {rest : List Tree} (hrest : ∀ u ∈ rest, u.Within n) (ds : List Derivation)
    (h : ∀ d ∈ ds, d.Within n) : ∀ u ∈ shownAll t role labels rest ds, u.Within n := by
  cases ds with
  | nil => exact hrest
  | cons d ds =>
    obtain ⟨hd, hds⟩ := List.forall_mem_cons.1 h
    rw [shownAll.eq_def]
    dsimp only
    split
    · exact d.shown_within t _ _ (shownAll_within t _ _ hrest ds hds) hd
    · split
      · exact d.shown_within t _ _ (shownAll_within t _ _ hrest ds hds) hd
      · exact d.shown_within t _ _ (shownAll_within t _ _ hrest ds hds) hd

end

end CodeAtlas.Grammar
