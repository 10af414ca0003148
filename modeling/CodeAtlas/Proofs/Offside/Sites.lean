import Mathlib.Data.List.Nodup
import Mathlib.Data.List.Pairwise
import CodeAtlas.Proofs.Offside.Calls
import CodeAtlas.Proofs.Offside.Ends

/-!
# Call sites of parsed sources

The names and members that are called or that classes are based on in a parsed source, its sites, all
stand at different places (`Module.nodup_sites`).
-/

namespace CodeAtlas.Offside

/-- The spans of the names and members that are called, whether the walk comes there or not. -/
def calleeSpans (cs : List CallSite) : List Span := cs.filterMap fun c => c.callee.span?

theorem calleeSpans_append (as bs : List CallSite) :
    calleeSpans (as ++ bs) = calleeSpans as ++ calleeSpans bs := List.filterMap_append

theorem calleeSpans_cons (c : CallSite) (cs : List CallSite) :
    calleeSpans (c :: cs) = c.callee.span?.toList ++ calleeSpans cs := by
  cases h : c.callee.span? <;> simp [calleeSpans, h]

theorem recordedSpans_sublist (cs : List CallSite) :
    (recordedSpans cs).Sublist (calleeSpans cs) := by
  induction cs with
  | nil => exact .slnil
  | cons c cs ih =>
    rw [recordedSpans_cons, calleeSpans_cons]
    refine List.Sublist.append ?_ ih
    rw [CallSite.recorded?]
    split
    · exact .refl _
    · exact List.nil_sublist _

/-- How many of the spans end at a place. -/
def endingAt (q : Place) (spans : List Span) : Nat := (spans.map Span.stop).count q

@[simp] theorem endingAt_nil (q : Place) : endingAt q [] = 0 := rfl

@[simp] theorem endingAt_append (q : Place) (as bs : List Span) :
    endingAt q (as ++ bs) = endingAt q as + endingAt q bs := by
  simp [endingAt]

/-! ## Expressions -/

mutual

/-- An expression and the callees in it end where its names and members do, each of them elsewhere. -/
theorem Expr.endingAt_calls (q : Place) (reached : Bool) (e : Expr) :
    endingAt q e.span?.toList + endingAt q (calleeSpans (e.calls reached)) ≤ e.ends.count q := by
  cases e with
  | name id span => simp [Expr.span?, Expr.calls, Expr.ends, endingAt, calleeSpans]
  | member owner id span =>
    have ho := Expr.endingAt_calls q reached owner
    have hs : (span.stop :: owner.ends).count q = endingAt q [span] + owner.ends.count q := by
      simp [endingAt, List.count_cons, Nat.add_comm]
    simp only [Expr.span?, Expr.calls, Expr.ends, Option.toList, hs]
    omega
  | subscript owner index =>
    have ho := Expr.endingAt_calls q reached owner
    have hi := Expr.endingAt_calls q reached index
    simp only [Expr.span?, Expr.calls, Expr.ends, Option.toList, calleeSpans_append,
      endingAt_append, endingAt_nil, List.count_append]
    omega
  | call callee args keywords =>
    have hc := Expr.endingAt_calls q (reached && callee.span?.isSome) callee
    have ha := callsAll_endingAt q reached args
    have hk := callsAll_endingAt q reached keywords
    simp only [Expr.span?, Expr.calls, Expr.ends, Option.toList, calleeSpans_cons,
      calleeSpans_append, endingAt_append, endingAt_nil, List.count_append] at hc ⊢
    omega
  | sequence es =>
    have hes := callsAll_endingAt q reached es
    simpa [Expr.span?, Expr.calls, Expr.ends] using hes
  | starred e =>
    have he := Expr.endingAt_calls q reached e
    simp only [Expr.span?, Expr.calls, Expr.ends, Option.toList, endingAt_nil]
    omega
  | compound es =>
    have hes := callsAll_endingAt q reached es
    simpa [Expr.span?, Expr.calls, Expr.ends] using hes

theorem callsAll_endingAt (q : Place) (reached : Bool) (es : List Expr) :
    endingAt q (calleeSpans (callsAll reached es)) ≤ (endsAll es).count q := by
  cases es with
  | nil => exact Nat.zero_le _
  | cons e es =>
    have he := Expr.endingAt_calls q reached e
    have hes := callsAll_endingAt q reached es
    simp only [callsAll, endsAll, calleeSpans_append, endingAt_append, List.count_append]
    omega

end

/-- What the bases of a class refer to, and the callees in them. -/
theorem endingAt_bases (q : Place) (reached : Bool) (es : List Expr) :
    endingAt q ((es.map Expr.base).filterMap Expr.span?) +
      endingAt q (calleeSpans (callsAll reached es)) ≤ (endsAll es).count q := by
  induction es with
  | nil => exact Nat.zero_le _
  | cons e es ih =>
    have hbase : endingAt q e.base.span?.toList + endingAt q (calleeSpans (e.calls reached)) ≤
        e.ends.count q := by
      cases e with
      | subscript owner index =>
        have ho := owner.endingAt_calls q reached
        have hi := index.endingAt_calls q reached
        simp only [Expr.base, Expr.calls, Expr.ends, calleeSpans_append, endingAt_append,
          List.count_append]
        omega
      | _ => exact Expr.endingAt_calls q reached _
    have hcons : ((e :: es).map Expr.base).filterMap Expr.span? =
        e.base.span?.toList ++ (es.map Expr.base).filterMap Expr.span? := by
      cases h : e.base.span? <;> simp [h]
    rw [hcons]
    simp only [callsAll, endsAll, calleeSpans_append, endingAt_append, List.count_append]
    omega

/-! ## Statements -/

/-- The sites of a block: callees, and what the bases of classes refer to. -/
def sitesIn (ts : List Stmt) : List Span :=
  calleeSpans (callsIn ts) ++ (basesIn ts).filterMap Expr.span?

/-- The sites of a statement. -/
def Stmt.sites (t : Stmt) : List Span := calleeSpans t.calls ++ t.bases.filterMap Expr.span?

theorem endingAt_sitesIn_cons (q : Place) (t : Stmt) (ts : List Stmt) :
    endingAt q (sitesIn (t :: ts)) = endingAt q t.sites + endingAt q (sitesIn ts) := by
  simp only [sitesIn, Stmt.sites, callsIn, basesIn, calleeSpans_append, List.filterMap_append,
    endingAt_append]
  omega

theorem Stmt.endingAt_function (q : Place) (name : String) (span : Span) (decorators : List Expr)
    (signature : Signature) (body : List Stmt) :
    endingAt q (Stmt.function name span decorators signature body).sites ≤
      (endsAll decorators).count q + (endsAll signature.defaults).count q +
        (endsAll signature.keywordDefaults).count q + (endsAll signature.annotations).count q +
        endingAt q (sitesIn body) := by
  have hevaluated := callsAll_endingAt q true
    (decorators ++ signature.defaults ++ signature.keywordDefaults)
  have hnotes := callsAll_endingAt q false signature.annotations
  simp only [endsAll_append, List.count_append] at hevaluated
  simp only [sites, sitesIn, calls, bases, calleeSpans_append, endingAt_append]
  omega

theorem Stmt.endingAt_class (q : Place) (name : String) (span : Span)
    (decorators bases keywords : List Expr) (body : List Stmt) :
    endingAt q (Stmt.class_ name span decorators bases keywords body).sites ≤
      (endsAll decorators).count q + (endsAll bases).count q + (endsAll keywords).count q +
        endingAt q (sitesIn body) := by
  have hdecorators := callsAll_endingAt q true decorators
  have hbases := endingAt_bases q false bases
  have hkeywords := callsAll_endingAt q false keywords
  simp only [sites, sitesIn, calls, Stmt.bases, calleeSpans_append, callsAll_append,
    List.filterMap_append, endingAt_append]
  omega

/-- A statement without a body has no sites but in its expressions. -/
theorem Stmt.endingAt_simple (q : Place) (parts : List Expr) :
    endingAt q (Stmt.simple parts).sites ≤ (endsAll parts).count q := by
  have hparts := callsAll_endingAt q true parts
  simpa [sites, calls, bases] using hparts

namespace Tree

theorem toExprs_eq_map (ts : List Tree) : toExprs ts = ts.map toExpr := by
  induction ts with
  | nil => rfl
  | cons t ts ih => rw [toExprs, ih, List.map_cons]

/-- The parts of a statement are blocks or not. -/
theorem count_words_unblocked (q : Place) (parts : List Tree) :
    (wordsAll (unblocked parts)).count q + (wordsAll (parts.filter (is .block))).count q =
      (wordsAll parts).count q := by
  induction parts with
  | nil => rfl
  | cons t ts ih =>
    simp only [unblocked] at ih
    cases h : t.is .block <;> simp [unblocked, h, wordsAll] <;> omega

theorem closedAll_filter {ts : List Tree} (p : Tree → Bool) (h : closedAll ts) :
    closedAll (ts.filter p) := by
  rw [closedAll_iff] at *
  exact fun t ht => h t (List.mem_filter.1 ht).1

/-- What parameters and a result declare stands among them. -/
theorem count_ends_toSignature (q : Place) (parts : List Tree) (h : closedAll parts) :
    (endsAll (toSignature parts).defaults).count q +
      (endsAll (toSignature parts).keywordDefaults).count q +
      (endsAll (toSignature parts).annotations).count q ≤ (wordsAll parts).count q := by
  rw [toSignature.eq_def]
  split
  · next span ps result =>
    have hps := count_ends_parameters q ps h.1.2
    have hresult := count_ends_parameters q result h.2
    simp only [endsAll_append, wordsAll, words, List.count_append]
    omega
  · have hresult := count_ends_parameters q parts h
    simp only [endsAll, List.count_nil]
    omega

theorem count_words_baseParts (q : Place) (parts : List Tree) :
    (wordsAll (baseParts parts)).count q ≤ (wordsAll (unblocked parts)).count q := by
  induction parts with
  | nil => exact Nat.zero_le _
  | cons t ts ih =>
    rw [baseParts.eq_def]
    split
    · next heq => cases heq
    · next span args more heq =>
      obtain ⟨rfl, rfl⟩ := List.cons.inj heq
      have hword : wordsAll (unblocked (branch .arguments span args :: ts)) =
          wordsAll args ++ wordsAll (unblocked ts) := rfl
      rw [hword, List.count_append]
      exact Nat.le_add_right _ _
    · next u us _ heq =>
      obtain ⟨rfl, rfl⟩ := List.cons.inj heq
      refine ih.trans ?_
      cases hb : t.is .block <;> simp [unblocked, hb, wordsAll]

theorem closedAll_baseParts {parts : List Tree} (h : closedAll parts) :
    closedAll (baseParts parts) := by
  induction parts with
  | nil => trivial
  | cons t ts ih =>
    rw [baseParts.eq_def]
    split
    · trivial
    · next heq =>
      obtain ⟨rfl, rfl⟩ := List.cons.inj heq
      exact h.1.2
    · next heq =>
      obtain ⟨rfl, rfl⟩ := List.cons.inj heq
      exact ih h.2

/-- The last part of an assignment is its value, the others are targets. -/
theorem callsAll_assign (reached : Bool) (parts : List Tree) :
    callsAll reached (toExprs parts.dropLast ++ [(toExprs parts).getLastD default]) =
      callsAll reached (toExprs parts) := by
  rcases List.eq_nil_or_concat parts with rfl | ⟨front, last, rfl⟩
  · rfl
  · simp [toExprs_eq_map]

mutual

/-- The sites of a statement end at most as often at a place as words do. -/
theorem endingAt_toStmt (q : Place) (decorators : List Expr) (t : Tree) (h : t.Closed) :
    endingAt q (toStmt decorators t).sites ≤ (endsAll decorators).count q + t.words.count q := by
  rw [toStmt.eq_def]
  split
  · next span at' above definition =>
    have hd := endingAt_toStmt q (toExprs above) definition h.2.2.1
    have ha := count_ends_toExprs q above h.2.1.2
    simp only [words, wordsAll, List.count_append, List.count_nil]
    omega
  · next span t parts =>
    have hparts : closedAll parts := h.2.2
    have hf := Stmt.endingAt_function q t.name span decorators (toSignature (unblocked parts))
      (bodyOf parts)
    have hs := count_ends_toSignature q (unblocked parts) (closedAll_filter _ hparts)
    have hb := endingAt_bodyOf q parts hparts
    have hw := count_words_unblocked q parts
    simp only [words, wordsAll, List.count_append]
    omega
  · next span t parts =>
    have hparts : closedAll parts := h.2.2
    have hc := Stmt.endingAt_class q t.name span decorators (positionals (baseParts parts))
      (keywords (baseParts parts)) (bodyOf parts)
    have hs := count_ends_arguments q (baseParts parts) (closedAll_baseParts hparts)
    have ha := count_words_baseParts q parts
    have hb := endingAt_bodyOf q parts hparts
    have hw := count_words_unblocked q parts
    simp only [words, wordsAll, List.count_append]
    omega
  · next span parts =>
    have hp := count_ends_toExprs q parts h.2
    have hc := callsAll_endingAt q true (toExprs parts)
    rw [← callsAll_assign] at hc
    simp only [Stmt.sites, Stmt.calls, Stmt.bases, List.filterMap_nil, List.append_nil, words]
    omega
  · next span target note value =>
    have hp := count_ends_toExprs q (target :: note :: value) h.2
    have hc := callsAll_endingAt q false [target.toExpr, note.toExpr]
    have hv : endingAt q (calleeSpans (callsAll true (toExprs value).head?.toList)) ≤
        (endsAll (toExprs value)).count q := by
      refine (callsAll_endingAt q true _).trans ?_
      cases toExprs value <;> simp [endsAll]
    simp only [toExprs, endsAll, List.append_nil, List.count_append] at hp hc
    simp only [Stmt.sites, Stmt.calls, Stmt.bases, List.filterMap_nil, List.append_nil,
      calleeSpans_append, endingAt_append, words]
    omega
  · exact Nat.zero_le _
  · exact Nat.zero_le _
  · next span parts =>
    have hp := count_ends_toExprs q (unblocked parts) (closedAll_filter _ h.2)
    have hc := callsAll_endingAt q true (toExprs (unblocked parts))
    have hb := endingAt_bodyOf q parts h.2
    have hw := count_words_unblocked q parts
    simp only [sitesIn, endingAt_append] at hb
    simp only [Stmt.sites, Stmt.calls, Stmt.bases, calleeSpans_append, endingAt_append, words]
    omega
  · have hs := Stmt.endingAt_simple q [t.toExpr]
    have ht := count_ends_toExpr q t h
    simp only [endsAll, List.append_nil] at hs
    omega

theorem endingAt_bodyOf (q : Place) (parts : List Tree) (h : closedAll parts) :
    endingAt q (sitesIn (bodyOf parts)) ≤ (wordsAll (parts.filter (is .block))).count q := by
  rw [bodyOf.eq_def]
  split
  · exact Nat.zero_le _
  · next span statements ts =>
    have hs := endingAt_toStmts q statements h.1.2
    have hw : wordsAll ((branch .block span statements :: ts).filter (is .block)) =
        wordsAll statements ++ wordsAll (ts.filter (is .block)) := rfl
    rw [hw, List.count_append]
    omega
  · next t ts _ =>
    refine (endingAt_bodyOf q ts h.2).trans ?_
    cases hb : t.is .block <;> simp [hb, wordsAll]

theorem endingAt_toStmts (q : Place) (ts : List Tree) (h : closedAll ts) :
    endingAt q (sitesIn (toStmts ts)) ≤ (wordsAll ts).count q := by
  cases ts with
  | nil => exact Nat.zero_le _
  | cons t ts =>
    have ht := endingAt_toStmt q [] t h.1
    have hts := endingAt_toStmts q ts h.2
    rw [toStmts, endingAt_sitesIn_cons, wordsAll, List.count_append]
    simp only [endsAll, List.count_nil] at ht
    omega

end
end Tree

/-! ## Whole files -/

namespace Module

/-- The sites of a file. -/
def sites (m : Module) : List Span := sitesIn m.body

variable {content : String} {m : Module}

/-- A file that is parsed is made of trees, whose words are in it. -/
theorem exists_trees (h : Module.parse content = .ok m) :
    ∃ trees, m.body = Tree.toStmts trees ∧ closedAll trees ∧
      WordsIn Text.origin (endLastLine (unifyLineEnds content.toList)) (wordsAll trees) := by
  rw [parse] at h
  split at h
  · cases h
  split at h
  · next trees htrees =>
    cases h
    have hr := return_notMem_endLastLine (return_notMem_unifyLineEnds content.toList)
    exact ⟨trees, rfl, TokenList.closed_parseFor htrees,
      TokenList.wordsIn_parseFor (TokenList.lexes_ofText content) hr htrees⟩
  · cases h

theorem endingAt_sites (h : Module.parse content = .ok m) :
    ∃ ws, WordsIn Text.origin (endLastLine (unifyLineEnds content.toList)) ws ∧
      ∀ q, endingAt q m.sites ≤ ws.count q := by
  obtain ⟨trees, hbody, hclosed, hwords⟩ := exists_trees h
  refine ⟨_, hwords, fun q => ?_⟩
  rw [sites, hbody]
  exact Tree.endingAt_toStmts q trees hclosed

/-- No two sites of a parsed file end at the same place. -/
theorem nodup_sites (h : Module.parse content = .ok m) : (m.sites.map Span.stop).Nodup := by
  obtain ⟨ws, hwords, hle⟩ := endingAt_sites h
  refine List.nodup_iff_count_le_one.2 fun q => (hle q).trans ?_
  exact List.nodup_iff_count_le_one.1 (hwords.ascending.imp ne_of_lt) q

/-- Sites end behind words. -/
theorem located_of_mem_sites (h : Module.parse content = .ok m) {s : Span} (hs : s ∈ m.sites) :
    Located Text.origin (endLastLine (unifyLineEnds content.toList)) s.stop := by
  obtain ⟨ws, hwords, hle⟩ := endingAt_sites h
  have hpos : 0 < endingAt s.stop m.sites := List.count_pos_iff.2 (List.mem_map_of_mem hs)
  exact (hwords.behind _ (List.count_pos_iff.1 (hpos.trans_le (hle _)))).located

theorem eq_of_stop_eq (h : Module.parse content = .ok m) {s t : Span} (hs : s ∈ m.sites)
    (ht : t ∈ m.sites) (heq : s.stop = t.stop) : s = t :=
  List.inj_on_of_nodup_map (nodup_sites h) hs ht heq

/-- The spans that the walk records. -/
def recorded (m : Module) : List Span := recordedSpans m.calls ++ m.bases.filterMap Expr.span?

theorem recorded_sublist (m : Module) : m.recorded.Sublist m.sites :=
  (recordedSpans_sublist m.calls).append (.refl _)

/-- Callees of different calls stand at different places. -/
theorem eq_of_span_eq (h : Module.parse content = .ok m) {c d : CallSite} (hc : c ∈ m.calls)
    (hd : d ∈ m.calls) {s : Span} (hcs : c.callee.span? = some s) (hds : d.callee.span? = some s) :
    c = d := by
  have hnodup : (calleeSpans m.calls).Nodup :=
    (List.nodup_append.1 (nodup_sites h).of_map).1
  have hpair := List.pairwise_filterMap.1 hnodup
  have hsymm : Std.Symm fun a b : CallSite => ∀ s, a.callee.span? = some s →
      ∀ t, b.callee.span? = some t → s ≠ t :=
    ⟨fun a b hab t ht s hs => (hab s hs t ht).symm⟩
  by_contra hne
  exact hpair.forall hc hd hne s hcs s hds rfl

/-- Whether a callee is recorded. -/
theorem mem_recorded_iff (h : Module.parse content = .ok m) {c : CallSite} (hc : c ∈ m.calls)
    {s : Span} (hs : c.callee.span? = some s) : s ∈ m.recorded ↔ c.reached = true := by
  have hmem : s ∈ calleeSpans m.calls := List.mem_filterMap.2 ⟨c, hc, hs⟩
  constructor
  · intro hr
    rcases List.mem_append.1 hr with hr | hr
    · obtain ⟨d, hd, hds⟩ := List.mem_filterMap.1 hr
      obtain ⟨hreached, hspan⟩ : d.reached = true ∧ d.callee.span? = some s := by
        simpa [CallSite.recorded?] using hds
      rwa [eq_of_span_eq h hc hd hs hspan]
    · exact absurd hr ((List.nodup_append.1 (nodup_sites h).of_map).2.2 s hmem s · rfl)
  · intro hreached
    refine List.mem_append_left _ (List.mem_filterMap.2 ⟨c, hc, ?_⟩)
    rw [CallSite.recorded?, if_pos hreached, hs]

/-- Each call that the walk comes to is recorded once, and no other call is. -/
theorem calls_recorded_once (h : Module.parse content = .ok m) (file : String) :
    Offside.extract file content = .ok (m.extract file (ColumnMap.ofText content.toList)) ∧
    ((m.extract file (ColumnMap.ofText content.toList)).uses.map Use.range).Perm
      (m.recorded.map (Span.toRange (ColumnMap.ofText content.toList))) ∧
    m.sites.Nodup ∧
    ((∀ s ∈ m.sites, Text.Agrees true content.toList s.stop) →
      ∀ c ∈ m.calls, ∀ s, c.callee.span? = some s →
        ((m.extract file (ColumnMap.ofText content.toList)).uses.map Use.range).count
          (s.toRange (ColumnMap.ofText content.toList)) = if c.reached then 1 else 0) := by
  have hperm := m.uses_perm file (ColumnMap.ofText content.toList)
  refine ⟨by rw [Offside.extract, h], hperm, (nodup_sites h).of_map, fun hagree c hc s hs => ?_⟩
  have hmem : s ∈ m.sites := List.mem_append_left _ (List.mem_filterMap.2 ⟨c, hc, hs⟩)
  have hinj : ∀ t ∈ m.recorded, t.toRange (ColumnMap.ofText content.toList) =
      s.toRange (ColumnMap.ofText content.toList) → t = s := by
    intro t ht heq
    have ht := m.recorded_sublist.subset ht
    refine eq_of_stop_eq h ht hmem ?_
    exact Text.eq_of_position_eq ((located_of_mem_sites h ht).isPlace (hagree t ht))
      ((located_of_mem_sites h hmem).isPlace (hagree s hmem)) (hagree t ht) (hagree s hmem)
      (congrArg Range.stop heq)
  have hcount : (m.recorded.map (Span.toRange (ColumnMap.ofText content.toList))).count
      (s.toRange (ColumnMap.ofText content.toList)) = m.recorded.count s := by
    rw [List.count, List.countP_map, List.count]
    refine List.countP_congr fun t ht => ?_
    simp only [Function.comp_apply, beq_iff_eq]
    exact ⟨hinj t ht, fun heq => by rw [heq]⟩
  have hnodup : m.recorded.Nodup := (nodup_sites h).of_map.sublist m.recorded_sublist
  rw [hperm.count_eq, ← recorded, hcount]
  split
  · next hr => exact List.count_eq_one_of_mem hnodup ((mem_recorded_iff h hc hs).2 hr)
  · next hr => exact List.count_eq_zero.2 fun hm => hr ((mem_recorded_iff h hc hs).1 hm)

/-- Calls in a decorator, in a base, in the object of a called member, in an argument and in a
default. -/
def nestedCalls : String := "@d()\nclass A(b()):\n    f(g(lambda x=k(): x)).h()\n"

set_option maxRecDepth 100000 in
theorem nestedCalls_recorded :
    ∃ m, Module.parse nestedCalls = .ok m ∧
      m.calls.map (fun c => (c.callee.span?.map Span.start, c.reached)) =
        [(some ⟨1, 1⟩, true), (some ⟨2, 8⟩, false), (some ⟨3, 4⟩, true), (some ⟨3, 4⟩, true),
          (some ⟨3, 6⟩, true), (some ⟨3, 17⟩, true)] ∧
      ∀ c ∈ m.calls, ∀ s, c.callee.span? = some s →
        ((m.extract "a.py" (ColumnMap.ofText nestedCalls.toList)).uses.map Use.range).count
          (s.toRange (ColumnMap.ofText nestedCalls.toList)) = if c.reached then 1 else 0 := by
  obtain ⟨m, hm, hcalls, hagree⟩ := exists_parse nestedCalls (fun m =>
    m.calls.map (fun c => (c.callee.span?.map Span.start, c.reached)) =
        [(some ⟨1, 1⟩, true), (some ⟨2, 8⟩, false), (some ⟨3, 4⟩, true), (some ⟨3, 4⟩, true),
          (some ⟨3, 6⟩, true), (some ⟨3, 17⟩, true)] ∧
      ∀ s ∈ m.sites, Text.Agrees true nestedCalls.toList s.stop) (by decide +kernel)
  exact ⟨m, hm, hcalls, (calls_recorded_once hm "a.py").2.2.2 hagree⟩

set_option maxRecDepth 100000 in
/-- The call of `f` in `f()()` is not recorded. -/
theorem called_result_unrecorded :
    ∃ m, Module.parse "f()()\n" = .ok m ∧
      some ⟨⟨1, 0⟩, ⟨1, 1⟩⟩ ∈ m.calls.map (fun c => c.callee.span?) ∧
      (m.extract "a.py" (ColumnMap.ofText "f()()\n".toList)).uses = [] :=
  exists_parse _ _ (by decide +kernel)

end Module
end CodeAtlas.Offside
