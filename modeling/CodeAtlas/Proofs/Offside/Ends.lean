import CodeAtlas.Offside.Module
import CodeAtlas.Proofs.Offside.Words

/-!
# Names end where words do

Every name and every member of an expression ends behind a word of its own, the name of the member: so
no two of them in a parsed source end at the same place, wherever they stand in it
(`Expr.ends`, `Tree.count_ends_toExpr`).
-/

namespace CodeAtlas.Offside

mutual

/-- Members end behind their names. -/
def Tree.Closed : Tree → Prop
  | .leaf _ => True
  | .branch label span parts =>
    (label = .member →
      ∃ t, parts.getLast? = some (.leaf t) ∧ t.kind = .word ∧ span.stop = t.stop) ∧ closedAll parts

def closedAll : List Tree → Prop
  | [] => True
  | t :: ts => t.Closed ∧ closedAll ts

end

theorem closedAll_iff {ts : List Tree} : closedAll ts ↔ ∀ t ∈ ts, t.Closed := by
  induction ts with
  | nil => simp [closedAll]
  | cons t ts ih => simp [closedAll, ih]

theorem closedAll_append {ts us : List Tree} (ht : closedAll ts) (hu : closedAll us) :
    closedAll (ts ++ us) := by
  rw [closedAll_iff] at *
  exact fun t h => (List.mem_append.1 h).elim (ht t) (hu t)

namespace Source

variable {s : Source}

/-- The last token that stands for characters ends a span. -/
theorem lastStop_succ {k : Nat} {t : Token} (ht : s.tokens[k]? = some t) (hs : t.isLayout = false)
    (q : Place) : spanOf.lastStop s (k + 1) q = t.stop := by
  simp [spanOf.lastStop, ht, hs]

theorem PieceTrees.closed (hf : ∀ chars place ts, s.readField chars place = .ok ts → closedAll ts)
    {ps : List Literal.Piece} {ts : List Tree} (h : s.PieceTrees ps ts) : closedAll ts := by
  induction h with
  | nil => trivial
  | field hts _ ih => exact closedAll_append (hf _ _ _ hts) ih

theorem TextTrees.closed (hf : ∀ chars place ts, s.readField chars place = .ok ts → closedAll ts)
    {t : Token} {ts : List Tree} (h : s.TextTrees t ts) : closedAll ts := by
  simp only [TextTrees] at h
  split at h
  · exact h.closed hf
  · subst h
    trivial

mutual

theorem Lies.closed (hf : ∀ chars place ts, s.readField chars place = .ok ts → closedAll ts)
    {i j : Nat} {t : Tree} (h : s.Lies i j t) : t.Closed :=
  match h with
  | .leaf _ _ => trivial
  | .branch hp hspan hname => by
    refine ⟨fun hl => ?_, hp.closed hf⟩
    obtain ⟨k, t, rfl, ht, hw, hlast⟩ := hname hl
    obtain ⟨-, q, hq⟩ := hspan
    exact ⟨t, hlast, hw, by rw [hq, lastStop_succ ht (by simp [Token.isLayout, hw])]⟩

theorem PartsLie.closed (hf : ∀ chars place ts, s.readField chars place = .ok ts → closedAll ts)
    {label : Label} {i j : Nat} {ts : List Tree} (h : s.PartsLie label i j ts) : closedAll ts :=
  match h with
  | .nil _ _ => trivial
  | .cons _ ht hts => ⟨ht.closed hf, hts.closed hf⟩
  | .fields _ _ _ htrees hts => closedAll_append (htrees.closed hf) (hts.closed hf)

end
end Source

theorem TokenList.closed_parseFor {depth : Nat} {ts : TokenList} {goal : Phrase}
    {trees : List Tree} (h : ts.parseFor depth goal = .ok trees) : closedAll trees := by
  induction depth generalizing ts goal trees with
  | zero => cases h
  | succ depth ih =>
    rw [parseFor] at h
    obtain ⟨j, hj⟩ := exists_lieAll h
    exact (hj.parts .block).closed fun _ _ _ hts => ih hts

/-! ## Ends -/

mutual

/-- The places behind the names and the members of an expression. -/
def Expr.ends : Expr → List Place
  | .name _ span => [span.stop]
  | .member owner _ span => span.stop :: owner.ends
  | .subscript owner index => owner.ends ++ index.ends
  | .call callee args keywords => callee.ends ++ endsAll args ++ endsAll keywords
  | .sequence es => endsAll es
  | .starred e => e.ends
  | .compound es => endsAll es

/-- The places behind the names and the members of expressions. -/
def endsAll : List Expr → List Place
  | [] => []
  | e :: es => e.ends ++ endsAll es

end

theorem endsAll_append (es fs : List Expr) : endsAll (es ++ fs) = endsAll es ++ endsAll fs := by
  induction es with
  | nil => rfl
  | cons e es ih => rw [List.cons_append, endsAll, endsAll, ih, List.append_assoc]

namespace Tree

/-- What a parameter holds in front of others. -/
theorem count_ends_parameter (q : Place) {label : Label} (span : Span) {ps : List Tree}
    (ts : List Tree)
    (ht : (branch label span ps).toExpr.ends.count q ≤ (wordsAll ps).count q)
    (hps : (endsAll (defaults ps)).count q + (endsAll (notes ps)).count q ≤ (wordsAll ps).count q)
    (hes : (endsAll (toExprs ps)).count q ≤ (wordsAll ps).count q) :
    (endsAll (defaults (branch label span ps :: ts))).count q +
        (endsAll (keywordDefaults (branch label span ps :: ts))).count q +
        (endsAll (notes (branch label span ps :: ts))).count q ≤
      (wordsAll ps).count q + ((endsAll (defaults ts)).count q +
        (endsAll (keywordDefaults ts)).count q + (endsAll (notes ts)).count q) := by
  by_cases hkey : label = .keywordOnly
  · subst hkey
    have hdefault : (branch .keywordOnly span ps).is .default = false := rfl
    rw [defaults, hdefault, keywordDefaults, notes, endsAll_append, List.count_append]
    simp only [Bool.false_eq_true, if_false]
    omega
  by_cases hnote : label = .note
  · subst hnote
    have hdefault : (branch .note span ps).is .default = false := rfl
    have hkeyword : ∀ span' ps', branch .note span ps = branch .keywordOnly span' ps' → False := by
      intro span' ps' heq
      cases heq
    rw [defaults, hdefault, keywordDefaults.eq_3 _ _ hkeyword, notes]
    simp only [Bool.false_eq_true, if_false, endsAll, Expr.ends, List.count_append]
    omega
  · have hkeyword : ∀ span' ps', branch label span ps = branch .keywordOnly span' ps' → False := by
      intro span' ps' heq
      exact hkey (Tree.branch.inj heq).1
    have hannotation : ∀ span' ps', branch label span ps = branch .note span' ps' → False := by
      intro span' ps' heq
      exact hnote (Tree.branch.inj heq).1
    rw [defaults, keywordDefaults.eq_3 _ _ hkeyword, notes.eq_4 _ _ hkeyword hannotation]
    split
    · simp only [endsAll, List.count_append]
      omega
    · omega

mutual

/-- An expression ends names and members at most as often as words end. -/
theorem count_ends_toExpr (q : Place) (t : Tree) (h : t.Closed) :
    t.toExpr.ends.count q ≤ t.words.count q := by
  rw [toExpr.eq_def]
  split
  · next t =>
    rw [words]
    by_cases hw : t.kind = .word <;> simp [hw, Expr.ends, endsAll, Token.span]
  · next span owner t =>
    obtain ⟨hname, howner, -⟩ := h
    obtain ⟨u, hu, hw, hstop⟩ := hname rfl
    obtain rfl : u = t := by simpa [eq_comm] using hu
    have ho := count_ends_toExpr q owner howner
    simp only [Expr.ends, words, wordsAll, hw, if_true, hstop, List.count_append, List.count_cons,
      List.count_nil]
    omega
  · next span owner index =>
    have ho := count_ends_toExpr q owner h.2.1
    have hi := count_ends_toExpr q index h.2.2.1
    simp only [Expr.ends, words, wordsAll, List.count_append, List.count_nil]
    omega
  · next span callee =>
    have hc := count_ends_toExpr q callee h.2.1
    simp only [Expr.ends, endsAll, words, wordsAll, List.count_append, List.count_nil]
    omega
  · next span callee at' args =>
    have hc := count_ends_toExpr q callee h.2.1
    have ha := count_ends_arguments q args h.2.2.1.2
    simp only [Expr.ends, words, wordsAll, List.count_append, List.count_nil]
    omega
  · next span callee generator _ =>
    have hc := count_ends_toExpr q callee h.2.1
    have hg := count_ends_toExpr q generator h.2.2.1
    simp only [Expr.ends, endsAll, words, wordsAll, List.count_append, List.count_nil]
    omega
  · next span parts =>
    have hp := count_ends_toExprs q parts h.2
    simpa only [Expr.ends, words] using hp
  · next span value =>
    have hv := count_ends_toExpr q value h.2.1
    simp only [Expr.ends, words, wordsAll, List.count_append, List.count_nil]
    omega
  · next span value condition alternative =>
    have hv := count_ends_toExpr q value h.2.1
    have hc := count_ends_toExpr q condition h.2.2.1
    have ha := count_ends_toExpr q alternative h.2.2.2.1
    simp only [Expr.ends, endsAll, words, wordsAll, List.count_append, List.count_nil]
    omega
  · next span items =>
    have hi := count_ends_items q items h.2
    simpa only [Expr.ends, words, endsAll_append, List.count_append] using hi
  · next span at' ps result =>
    have hp := count_ends_parameters q ps h.2.1.2
    have hr := count_ends_toExpr q result h.2.2.1
    simp only [Expr.ends, endsAll, endsAll_append, words, wordsAll, List.count_append,
      List.count_nil]
    omega
  · next label span parts _ _ _ _ _ _ _ _ _ _ =>
    have hp := count_ends_toExprs q parts h.2
    simpa only [Expr.ends, words] using hp
termination_by sizeOf t

theorem count_ends_toExprs (q : Place) (ts : List Tree) (h : closedAll ts) :
    (endsAll (toExprs ts)).count q ≤ (wordsAll ts).count q := by
  cases ts with
  | nil => simp [toExprs, endsAll]
  | cons t ts =>
    have ht := count_ends_toExpr q t h.1
    have hts := count_ends_toExprs q ts h.2
    simp only [toExprs, endsAll, wordsAll, List.count_append]
    omega
termination_by sizeOf ts

/-- The arguments of a call are given by their position or by a keyword. -/
theorem count_ends_arguments (q : Place) (ts : List Tree) (h : closedAll ts) :
    (endsAll (positionals ts)).count q + (endsAll (keywords ts)).count q ≤
      (wordsAll ts).count q := by
  cases ts with
  | nil => simp [positionals, keywords, endsAll]
  | cons t ts =>
    have ht := count_ends_toExpr q t h.1
    have hts := count_ends_arguments q ts h.2
    simp only [positionals, keywords, wordsAll, List.count_append]
    split <;> simp only [endsAll, List.count_append] <;> omega
termination_by sizeOf ts

/-- The items of a dictionary are keys and values. -/
theorem count_ends_items (q : Place) (ts : List Tree) (h : closedAll ts) :
    (endsAll (keys ts)).count q + (endsAll (values ts)).count q ≤ (wordsAll ts).count q := by
  cases ts with
  | nil => simp [keys, values, endsAll]
  | cons t ts =>
    have hts := count_ends_items q ts h.2
    by_cases hpair : ∃ span key value, t = branch .pair span [key, value]
    · obtain ⟨span, key, value, rfl⟩ := hpair
      have hk := count_ends_toExpr q key h.1.2.1
      have hv := count_ends_toExpr q value h.1.2.2.1
      simp only [keys, values, endsAll, words, wordsAll, List.count_append, List.count_nil]
      omega
    · have hne : ∀ span key value, t = branch .pair span [key, value] → False :=
        fun span key value ht => hpair ⟨span, key, value, ht⟩
      have ht := count_ends_toExpr q t h.1
      rw [keys.eq_3 t ts hne, values.eq_3 t ts hne]
      simp only [endsAll, wordsAll, List.count_append]
      omega
termination_by sizeOf ts

/-- The parameters have defaults and annotations. -/
theorem count_ends_parameters (q : Place) (ts : List Tree) (h : closedAll ts) :
    (endsAll (defaults ts)).count q + (endsAll (keywordDefaults ts)).count q +
      (endsAll (notes ts)).count q ≤ (wordsAll ts).count q := by
  cases ts with
  | nil => simp [defaults, keywordDefaults, notes, endsAll]
  | cons t ts =>
    have hts := count_ends_parameters q ts h.2
    cases t with
    | leaf u =>
      simp only [defaults, keywordDefaults, notes, Tree.is, wordsAll, List.count_append]
      exact hts.trans (Nat.le_add_left _ _)
    | branch label span ps =>
      have ht := count_ends_toExpr q (branch label span ps) h.1
      have hps := count_ends_parameters q ps h.1.2
      have hes := count_ends_toExprs q ps h.1.2
      have hcons := count_ends_parameter q span ts ht (by omega) hes
      simp only [words, wordsAll, List.count_append] at ht hcons ⊢
      omega
termination_by sizeOf ts

end
end Tree
end CodeAtlas.Offside
