import CodeAtlas.Offside.Reading

/-!
# Trees lie among the tokens that were read

`LieAll s i j ts` says that the trees `ts` have been read from the tokens with the indices from `i`
up to `j`, one behind the other: every leaf is a token, every branch spans the tokens that its parts
were read from, and the trees of the fields of a format string stand for its token. Reading gives
such trees (`lies_read`, `lies_phrase`), whatever it has remembered.
-/

namespace CodeAtlas.Offside

namespace Source

variable (s : Source)

/-- The span goes from the token with the index `i` up to the one with the index `j`, layout left
out. -/
def Spans (i j : Nat) (span : Span) : Prop :=
  span.start = (s.tokens[i]?.map Token.start).getD default ∧ ∃ q, span.stop = spanOf.lastStop s j q

/-- The last part is the name right before the token with the index `j`. -/
def EndsInName (j : Nat) (parts : List Tree) : Prop :=
  ∃ k t, j = k + 1 ∧ s.tokens[k]? = some t ∧ t.kind = .word ∧ parts.getLast? = some (.leaf t)

/-- The trees of the fields among pieces of a format string. -/
inductive PieceTrees : List Literal.Piece → List Tree → Prop
  | nil : PieceTrees [] []
  | field {chars : List Char} {place : Place} {ps : List Literal.Piece} {ts us : List Tree} :
    s.readField chars place = .ok ts → PieceTrees ps us →
      PieceTrees (.field chars place :: ps) (ts ++ us)

/-- The trees of the fields of a string literal. -/
def TextTrees (t : Token) (ts : List Tree) : Prop :=
  let l := Literal.ofText t.text.toList t.start
  if l.isFormat then s.PieceTrees l.pieces ts else ts = []

mutual

/-- A tree that has been read from the tokens with the indices from `i` up to `j`. -/
inductive Lies : Nat → Nat → Tree → Prop
  | leaf {k : Nat} {t : Token} : s.tokens[k]? = some t → t.isLayout = false →
    Lies k (k + 1) (.leaf t)
  | branch {i j : Nat} {label : Label} {span : Span} {parts : List Tree} :
    PartsLie label i j parts → s.Spans i j span → (label = .member → s.EndsInName j parts) →
      Lies i j (.branch label span parts)

/-- Parts of a branch, one behind the other: trees, or those of the fields of format strings. -/
inductive PartsLie : Label → Nat → Nat → List Tree → Prop
  | nil {label : Label} {i j : Nat} : i ≤ j → j ≤ s.tokens.size → PartsLie label i j []
  | cons {label : Label} {i a b j : Nat} {t : Tree} {ts : List Tree} :
    i ≤ a → Lies a b t → PartsLie label b j ts → PartsLie label i j (t :: ts)
  | fields {i k j : Nat} {t : Token} {ts us : List Tree} :
    i ≤ k → s.tokens[k]? = some t → t.isLayout = false → s.TextTrees t ts →
      PartsLie .texts (k + 1) j us → PartsLie .texts i j (ts ++ us)

end

/-- Trees that have been read one behind the other. -/
inductive LieAll : Nat → Nat → List Tree → Prop
  | nil {i j : Nat} : i ≤ j → j ≤ s.tokens.size → LieAll i j []
  | cons {i a b j : Nat} {t : Tree} {ts : List Tree} :
    i ≤ a → s.Lies a b t → LieAll b j ts → LieAll i j (t :: ts)

variable {s}

mutual

theorem Lies.le {i j : Nat} {t : Tree} (h : s.Lies i j t) : i ≤ j :=
  match h with
  | .leaf _ _ => Nat.le_succ _
  | .branch hp _ _ => hp.le

theorem PartsLie.le {label : Label} {i j : Nat} {ts : List Tree} (h : s.PartsLie label i j ts) :
    i ≤ j :=
  match h with
  | .nil hij _ => hij
  | .cons ha ht hts => Nat.le_trans ha (Nat.le_trans ht.le hts.le)
  | .fields hk _ _ _ hts => Nat.le_trans (Nat.le_succ_of_le hk) hts.le

end

namespace PartsLie

variable {label : Label} {i i' j : Nat} {ts : List Tree}

theorem mono (h : s.PartsLie label i j ts) (hi : i' ≤ i) : s.PartsLie label i' j ts := by
  cases h with
  | nil hij hj => exact .nil (Nat.le_trans hi hij) hj
  | cons ha ht hts => exact .cons (Nat.le_trans hi ha) ht hts
  | fields hk ht hl htrees hts => exact .fields (Nat.le_trans hi hk) ht hl htrees hts

end PartsLie

theorem PartsLie.le_size {label : Label} {i j : Nat} {ts : List Tree}
    (h : s.PartsLie label i j ts) : j ≤ s.tokens.size :=
  match h with
  | .nil _ hj => hj
  | .cons _ _ hts => hts.le_size
  | .fields _ _ _ _ hts => hts.le_size

theorem lt_size_of_getElem? {k : Nat} {t : Token} (h : s.tokens[k]? = some t) :
    k + 1 ≤ s.tokens.size :=
  (Array.getElem?_eq_some_iff.1 h).1

theorem Lies.le_size {i j : Nat} {t : Tree} (h : s.Lies i j t) : j ≤ s.tokens.size := by
  cases h with
  | leaf ht _ => exact lt_size_of_getElem? ht
  | branch hp _ _ => exact hp.le_size

namespace LieAll

variable {i i' j k : Nat} {t : Tree} {ts us : List Tree}

theorem none (hi : i ≤ s.tokens.size) : s.LieAll i i [] := .nil (Nat.le_refl i) hi

theorem reversed (h : s.LieAll i j ts) : s.LieAll i j ts.reverse.reverse := by
  rwa [List.reverse_reverse]

theorem le (h : s.LieAll i j ts) : i ≤ j := by
  induction h with
  | nil hij _ => exact hij
  | cons ha ht hts ih => exact Nat.le_trans ha (Nat.le_trans ht.le ih)

theorem le_size (h : s.LieAll i j ts) : j ≤ s.tokens.size := by
  induction h with
  | nil _ hj => exact hj
  | cons ha ht hts ih => exact ih

theorem mono (h : s.LieAll i j ts) (hi : i' ≤ i) : s.LieAll i' j ts := by
  cases h with
  | nil hij hj => exact .nil (Nat.le_trans hi hij) hj
  | cons ha ht hts => exact .cons (Nat.le_trans hi ha) ht hts

theorem append (h : s.LieAll i j ts) (h' : s.LieAll j k us) : s.LieAll i k (ts ++ us) := by
  induction h with
  | nil hij _ => exact h'.mono hij
  | cons ha ht hts ih => exact .cons ha ht (ih h')

theorem extend (h : s.LieAll i j ts) (hk : j ≤ k) (hs : k ≤ s.tokens.size) : s.LieAll i k ts := by
  simpa using h.append (.nil hk hs)

theorem single (h : s.Lies i j t) : s.LieAll i j [t] :=
  .cons (Nat.le_refl i) h (.nil (Nat.le_refl j) h.le_size)

theorem parts (h : s.LieAll i j ts) (label : Label) : s.PartsLie label i j ts := by
  induction h with
  | nil hij hj => exact .nil hij hj
  | cons ha ht hts ih => exact .cons ha ht ih

end LieAll

theorem spans_spanOf (i j : Nat) : s.Spans i j (s.spanOf i j) := ⟨rfl, _, rfl⟩

end Source

/-! ## Outcomes -/

/-- What has been read passes the test, with the index of the next token. -/
def Outcome.Reads (P : Nat → List Tree → Prop) : Outcome → Prop
  | .read j ts => P j ts
  | _ => True

theorem Outcome.Reads.mono {P Q : Nat → List Tree → Prop} {o : Outcome} (h : o.Reads P)
    (hPQ : ∀ j ts, P j ts → Q j ts) : o.Reads Q := by
  cases o with
  | read j ts => exact hPQ j ts h
  | _ => trivial

theorem Outcome.Reads.bounded {P : Nat → List Tree → Prop} {o : Outcome} (h : o.Reads P) :
    o.bounded.Reads P := by
  cases o <;> exact h

theorem Outcome.Reads.failed {P : Nat → List Tree → Prop} (committed : Bool) :
    (if committed then stop else fail).Reads P := by
  cases committed <;> trivial

/-- What is remembered has been read. -/
def Trail.Sound (s : Source) (trail : Trail) : Prop :=
  ∀ p i o, trail.known? p i = some o → o.Reads (s.LieAll i)

theorem Trail.Sound.remember {s : Source} {trail : Trail} (h : trail.Sound s) (p : Phrase) {i : Nat}
    {o : Outcome} (ho : o.Reads (s.LieAll i)) : (trail.remember p i o).Sound s := by
  intro q k r hr
  rw [known?, Trail.remember, Std.TreeMap.getD_insert] at hr
  split at hr
  · next hk =>
    obtain rfl : i = k := by simpa using hk
    rw [List.lookup_cons] at hr
    split at hr
    · cases hr
      exact ho
    · exact h q i r hr
  · exact h q k r hr

/-- Whatever a step of reading gives passes the test, and what holds of the trail before holds of it
behind. -/
def Ensures (I : Trail → Prop) {α : Type} (P : α → Prop) (r : Reading α) : Prop :=
  ∀ trail a trail', I trail → r.run trail = .ok (a, trail') → P a ∧ I trail'

namespace Ensures

variable {I : Trail → Prop} {α β : Type} {P : α → Prop} {Q : β → Prop} {r : Reading α}

theorem pure {a : α} (h : P a) : Ensures I P (pure a : Reading α) := by
  intro trail b trail' ht hr
  cases hr
  exact ⟨h, ht⟩

theorem bind {f : α → Reading β} (h : Ensures I P r) (hf : ∀ a, P a → Ensures I Q (f a)) :
    Ensures I Q (r >>= f) := by
  intro trail b trail' ht hr
  rw [StateT.run_bind] at hr
  cases hra : r.run trail with
  | error o => simp [hra, Bind.bind, Except.bind] at hr
  | ok x =>
    obtain ⟨a, mid⟩ := x
    rw [hra] at hr
    obtain ⟨ha, hmid⟩ := h trail a mid ht hra
    exact hf a ha mid b trail' hmid hr

theorem mono {P' : α → Prop} (h : Ensures I P r) (hP : ∀ a, P a → P' a) : Ensures I P' r :=
  fun trail a trail' ht hr => ⟨hP a (h trail a trail' ht hr).1, (h trail a trail' ht hr).2⟩

theorem throw (o : Objection) : Ensures I P (throw o : Reading α) := by
  intro trail a trail' ht hr
  cases hr

theorem get : Ensures I I (get : Reading Trail) := by
  intro trail a trail' ht hr
  cases hr
  exact ⟨ht, ht⟩

theorem modify {f : Trail → Trail} (hf : ∀ trail, I trail → I (f trail)) :
    Ensures I (fun _ => True) (modify f : Reading Unit) := by
  intro trail a trail' ht hr
  cases hr
  exact ⟨trivial, hf trail ht⟩

/-- Without a test and an invariant there is nothing to show. -/
theorem any (r : Reading α) : Ensures (fun _ => True) (fun _ => True) r :=
  fun _ _ _ _ _ => ⟨trivial, trivial⟩

theorem object (line : Nat) : Ensures I P (Source.object line : Reading α) :=
  get.bind fun _ _ => throw _

theorem objectHere (s : Source) : Ensures I P (s.objectHere : Reading α) :=
  get.bind fun _ _ => throw _

/-- An objection that may be raised first changes nothing. -/
theorem check {c : Prop} [Decidable c] {o : Reading Unit} {f : Unit → Reading α}
    (ho : Ensures I (fun _ => False) o) (h : Ensures I P (f ())) :
    Ensures I P (if c then o >>= f else f ()) := by
  split
  · exact ho.bind fun _ hf => hf.elim
  · exact h

end Ensures

/-- What holds of a trail does not depend on which token was looked at. -/
def Trail.Steady (I : Trail → Prop) : Prop :=
  ∀ trail n, I trail → I { trail with furthest := n }

theorem Trail.steady_sound (s : Source) : Steady (Trail.Sound s) := fun _ _ h => h

namespace Source

variable {s : Source} {I : Trail → Prop} (hI : Trail.Steady I)

include hI

theorem look_ensures (i : Nat) :
    Ensures I (fun t => s.tokens[i]? = some t ∧ t.kind ≠ .fault) (s.look i) := by
  refine (Ensures.modify fun trail h => ?_).bind fun _ _ => ?_
  · split
    · exact hI trail i h
    · exact h
  · cases ht : s.tokens[i]? with
    | none => exact .throw _
    | some t =>
      by_cases hk : t.kind = .fault
      · simpa [hk] using Ensures.throw _
      · simpa [hk] using Ensures.pure ⟨rfl, hk⟩

/-- A leaf is the next token, and passes the test. -/
theorem takeLeaf_ensures (test : Token → Bool) (i : Nat) :
    Ensures I (Outcome.Reads fun j ts =>
        ∃ t, s.tokens[i]? = some t ∧ test t = true ∧ j = i + 1 ∧ ts = [.leaf t])
      (s.takeLeaf test i) := by
  refine (look_ensures hI i).bind fun t ht => .pure ?_
  split
  · next h => exact ⟨t, ht.1, h, rfl, rfl⟩
  · trivial

theorem takeLeaf_lies {test : Token → Bool} (htest : ∀ t, test t = true → t.isLayout = false)
    (i : Nat) : Ensures I (Outcome.Reads (s.LieAll i)) (s.takeLeaf test i) := by
  refine (takeLeaf_ensures hI test i).mono fun o ho => ho.mono fun j ts hts => ?_
  obtain ⟨t, ht, hok, rfl, rfl⟩ := hts
  exact .single (.leaf ht (htest t hok))

theorem takeSilent_lies (test : Token → Bool) (i : Nat) :
    Ensures I (Outcome.Reads (s.LieAll i)) (s.takeSilent test i) := by
  refine (look_ensures hI i).bind fun t ht => .pure ?_
  split
  · exact .nil (Nat.le_succ i) (lt_size_of_getElem? ht.1)
  · trivial

theorem takeNumber_lies (part : NumberPart) (i : Nat) :
    Ensures I (Outcome.Reads (s.LieAll i)) (s.takeNumber part i) := by
  refine (look_ensures hI i).bind fun t ht => ?_
  split
  · exact .pure trivial
  · next hk =>
    have hleaf : s.LieAll i (i + 1) [.leaf t] := by
      refine .single (.leaf ht.1 ?_)
      obtain hk : t.kind = .number := by simpa using hk
      simp [Token.isLayout, hk]
    have hdone : Ensures I (Outcome.Reads (s.LieAll i)) (Pure.pure (.read (i + 1) [.leaf t])) :=
      .pure hleaf
    refine .check (.object _) ?_
    split
    · exact .check (.object _) hdone
    · exact .check (.object _) hdone
    · exact hdone

/-- Adjacent string literals from the token with the index `i` on. -/
def TextRun (s : Source) (i : Nat) : List Token → Prop
  | [] => True
  | t :: ts => s.tokens[i]? = some t ∧ t.kind = .text ∧ TextRun s (i + 1) ts

theorem textTokens_ensures (n i : Nat) : Ensures I (TextRun s i) (s.textTokens n i) := by
  induction n generalizing i with
  | zero => exact .pure trivial
  | succ n ih =>
    refine (look_ensures hI i).bind fun t ht => ?_
    split
    · next hk => exact (ih (i + 1)).bind fun ts hts => .pure ⟨ht.1, by simpa using hk, hts⟩
    · exact .pure trivial

omit hI

theorem readPieces_ensures (ps : List Literal.Piece) :
    Ensures I (s.PieceTrees ps) (s.readPieces ps) := by
  induction ps with
  | nil => exact .pure .nil
  | cons p ps ih =>
    cases p with
    | fault => exact .objectHere s
    | field chars place =>
      rw [readPieces]
      split
      · next ts hts => exact ih.bind fun us hus => .pure (.field hts hus)
      · exact .object _

theorem readLiterals_ensures {i : Nat} {ts : List Token} (hi : i ≤ s.tokens.size)
    (h : TextRun s i ts) (b : Option Bool) :
    Ensures I (s.PartsLie .texts i (i + ts.length)) (s.readLiterals b ts) := by
  induction ts generalizing i b with
  | nil => exact .pure (.nil (Nat.le_refl i) hi)
  | cons t ts ih =>
    obtain ⟨ht, hk, hts⟩ := h
    rw [readLiterals]
    refine .check (.object _) (.check (.objectHere s) (.check (.objectHere s) ?_))
    have hlen : i + (t :: ts).length = i + 1 + ts.length := by
      rw [List.length_cons, Nat.add_comm ts.length, Nat.add_assoc]
    -- The trees of one literal, and of those behind it.
    have hmore : ∀ us, s.TextTrees t us →
        Ensures I (s.PartsLie .texts i (i + (t :: ts).length)) (do
          return us ++
            (← s.readLiterals (some (Literal.ofText t.text.toList t.start).isBytes) ts)) := by
      intro us hus
      refine (ih (lt_size_of_getElem? ht) hts _).bind fun more hmore => .pure ?_
      rw [hlen]
      exact .fields (Nat.le_refl i) ht (by simp [Token.isLayout, hk]) hus hmore
    dsimp only
    split
    · next hf =>
      refine (readPieces_ensures _).bind fun us hus => hmore us ?_
      simpa [TextTrees, hf] using hus
    · next hf => exact (Ensures.pure rfl).bind fun us hus => hmore us (by simp [TextTrees, hf, hus])

include hI

theorem takeTexts_lies {i : Nat} (hi : i ≤ s.tokens.size) :
    Ensures I (Outcome.Reads (s.LieAll i)) (s.takeTexts i) := by
  refine (textTokens_ensures hI _ i).bind fun ts hts => ?_
  split
  · exact .pure trivial
  · exact (readLiterals_ensures hi hts none).bind fun us hus =>
      .pure (.single (.branch hus (s.spans_spanOf _ _) (fun h => nomatch h)))

omit hI

theorem reverse_pushAll (ts reversed : List Tree) :
    (pushAll ts reversed).reverse = reversed.reverse ++ ts := by
  simp [pushAll]

theorem repeatStep_lies {step : Nat → Reading Outcome}
    (hstep : ∀ j, j ≤ s.tokens.size → Ensures I (Outcome.Reads (s.LieAll j)) (step j)) (n : Nat)
    {i j : Nat} {reversed : List Tree} (h : s.LieAll i j reversed.reverse) :
    Ensures I (Outcome.Reads (s.LieAll i)) (repeatStep step n j reversed) := by
  induction n generalizing j reversed with
  | zero => exact .pure h
  | succ n ih =>
    refine (hstep j h.le_size).bind fun o ho => ?_
    cases o with
    | read k ts => exact ih (by rw [reverse_pushAll]; exact h.append ho)
    | _ => exact .pure h

/-- A tail takes what was read before as its first part. -/
theorem Lies.extend {i j a b k : Nat} {t : Tree} {label : Label} {span : Span} {parts : List Tree}
    (h : s.LieAll i j [t]) (ha : j ≤ a) (hb : s.Lies a b (.branch label span parts)) (hk : b ≤ k)
    (hs : k ≤ s.tokens.size) :
    s.LieAll i k [.branch label ⟨(s.spanOf i i).start, span.stop⟩ (t :: parts)] := by
  obtain ⟨hparts, hspan, hname⟩ : s.PartsLie label a b parts ∧ s.Spans a b span ∧
      (label = .member → s.EndsInName b parts) := by
    cases hb with
    | branch hparts hspan hname => exact ⟨hparts, hspan, hname⟩
  obtain ⟨c, d, hc, ht, hd⟩ : ∃ c d, i ≤ c ∧ s.Lies c d t ∧ d ≤ j := by
    cases h with
    | cons hc ht hts => exact ⟨_, _, hc, ht, hts.le⟩
  have hall : s.PartsLie label i b (t :: parts) := .cons hc ht (hparts.mono (Nat.le_trans hd ha))
  have hlast : label = .member → s.EndsInName b (t :: parts) := by
    intro hl
    obtain ⟨n, u, hn, hu, hw, hp⟩ := hname hl
    refine ⟨n, u, hn, hu, hw, ?_⟩
    rw [List.getLast?_cons, hp]
    rfl
  have hbranch : s.Lies i b (.branch label ⟨(s.spanOf i i).start, span.stop⟩ (t :: parts)) :=
    .branch hall ⟨rfl, hspan.2⟩ hlast
  exact (LieAll.single hbranch).extend hk hs

theorem extend_lies {tail : Nat → Reading Outcome}
    (htail : ∀ j, j ≤ s.tokens.size → Ensures I (Outcome.Reads (s.LieAll j)) (tail j)) (n : Nat)
    {i j : Nat} {t : Tree} (h : s.LieAll i j [t]) :
    Ensures I (Outcome.Reads (s.LieAll i)) (Source.extend (s.spanOf i i).start tail n j t) := by
  induction n generalizing j t with
  | zero => exact .pure h
  | succ n ih =>
    refine (htail j h.le_size).bind fun o ho => ?_
    split
    · next k label span parts =>
      cases ho with
      | cons ha hb hts => exact ih (Lies.extend h ha hb hts.le hts.le_size)
    · exact .pure h

end Source

/-! ## Forms -/

namespace Form

/-- Forms that take no token. -/
def isLook : Form → Bool
  | ahead _ | notAhead _ => true
  | _ => false

/-- Whether forms, one behind the other, have a name behind which none takes a token. -/
def nameLast : List Form → Bool
  | [] => false
  | name :: fs => fs.all isLook || nameLast fs
  | _ :: fs => nameLast fs

/-- Whether what the form reads ends in a name. -/
def endsInName : Form → Bool
  | all fs => nameLast fs
  | _ => false

mutual

/-- Whether all members in a form end in their names. -/
def isNamed : Form → Bool
  | branch label f => (label != .member || f.endsInName) && f.isNamed
  | chain label f => label != .member && f.isNamed
  | all fs => areNamed fs
  | any fs => areNamed fs
  | suffixed head tail => head.isNamed && tail.isNamed
  | opt f | many f | some f | sepBy f _ | ahead f | notAhead f | bound f | skip f | mistake f
  | trusting f | complain _ f => f.isNamed
  | _ => true

def areNamed : List Form → Bool
  | [] => true
  | f :: fs => f.isNamed && areNamed fs

end

variable {s : Source} {readPhrase : Phrase → Nat → Reading Outcome}

/-- A form in front is read first; a `commit` stands for nothing there. -/
theorem readAll_cons_ensures {I : Trail → Prop} {P : Nat → List Tree → Prop} {f : Form}
    {fs : List Form} {committed : Bool} {i : Nat} {reversed : List Tree}
    {Q : Nat → List Tree → Prop} (hcommit : f = .commit → Q i [])
    (hf : Ensures I (Outcome.Reads Q) (read s readPhrase f i))
    (hfs : ∀ committed j ts, Q j ts → Ensures I (Outcome.Reads P)
      (readAll s readPhrase fs committed j (Source.pushAll ts reversed))) :
    Ensures I (Outcome.Reads P) (readAll s readPhrase (f :: fs) committed i reversed) := by
  by_cases hc : f = .commit
  · subst hc
    rw [readAll]
    exact hfs true i [] (hcommit rfl)
  · rw [readAll.eq_3 _ _ _ _ _ _ _ hc]
    refine hf.bind fun o ho => ?_
    cases o with
    | read j ts => exact hfs committed j ts ho
    | fail => exact .pure (.failed committed)
    | stop => exact .pure trivial

/-- Forms that take no token leave what was read before. -/
theorem readAll_looks {fs : List Form} (h : fs.all isLook = true) (committed : Bool) (i : Nat)
    (reversed : List Tree) :
    Ensures (fun _ => True) (Outcome.Reads fun j ts => j = i ∧ ts = reversed.reverse)
      (readAll s readPhrase fs committed i reversed) := by
  induction fs generalizing committed with
  | nil =>
    rw [readAll]
    exact .pure ⟨rfl, rfl⟩
  | cons f fs ih =>
    obtain ⟨hf, hfs⟩ : f.isLook = true ∧ fs.all isLook = true := by simpa using h
    have hlook : Ensures (fun _ => True) (Outcome.Reads fun j ts => j = i ∧ ts = [])
        (read s readPhrase f i) := by
      cases f with
      | ahead g =>
        rw [read]
        refine (Ensures.any _).bind fun o _ => ?_
        cases o with
        | read => exact .pure ⟨rfl, rfl⟩
        | _ => exact .pure trivial
      | notAhead g =>
        rw [read]
        refine (Ensures.any _).bind fun o _ => ?_
        cases o with
        | read => exact .pure trivial
        | _ => exact .pure ⟨rfl, rfl⟩
      | _ => simp [isLook] at hf
    refine readAll_cons_ensures (fun _ => ⟨rfl, rfl⟩) hlook fun committed j ts hj => ?_
    obtain ⟨rfl, rfl⟩ := hj
    exact ih hfs committed

/-- Forms that end in a name. -/
theorem readAll_nameLast {fs : List Form} (h : nameLast fs = true) (committed : Bool) (i : Nat)
    (reversed : List Tree) :
    Ensures (fun _ => True) (Outcome.Reads s.EndsInName)
      (readAll s readPhrase fs committed i reversed) := by
  induction fs generalizing committed i reversed with
  | nil => cases h
  | cons f fs ih =>
    by_cases hfs : nameLast fs = true
    · -- The name stands further on, whatever is read here.
      refine readAll_cons_ensures (Q := fun _ _ => True) (fun _ => trivial) ?_
        fun committed j ts _ => ih hfs committed j _
      exact (Ensures.any _).mono fun o _ => by
        cases o <;> trivial
    · cases f with
      | name =>
        have hlooks : fs.all isLook = true := by
          rw [nameLast, Bool.or_eq_true] at h
          exact h.resolve_right hfs
        have hname : Ensures (fun _ => True) (Outcome.Reads fun j ts => ∃ t : Token,
            s.tokens[i]? = Option.some t ∧ (t.kind == .word) = true ∧ j = i + 1 ∧ ts = [.leaf t])
            (read s readPhrase name i) := by
          rw [read]
          exact Source.takeLeaf_ensures (fun _ _ _ => trivial) _ i
        refine readAll_cons_ensures nofun hname fun committed j ts hj => ?_
        obtain ⟨t, ht, hw, rfl, rfl⟩ := hj
        refine (readAll_looks hlooks committed (i + 1) _).mono fun o ho => ho.mono fun k us hus => ?_
        obtain ⟨rfl, rfl⟩ := hus
        exact ⟨i, t, rfl, ht, by simpa using hw, by simp [Source.pushAll]⟩
      | _ => exact absurd h hfs

theorem read_endsInName {f : Form} (h : f.endsInName = true) (i : Nat) :
    Ensures (fun _ => True) (Outcome.Reads s.EndsInName) (read s readPhrase f i) := by
  cases f with
  | all fs =>
    rw [read]
    exact readAll_nameLast h false i []
  | _ => cases h

/-- What a branch gives if what is in it has been read. -/
theorem lies_branch {i : Nat} {label : Label} {f : Form}
    (hf : Ensures (Trail.Sound s) (Outcome.Reads (s.LieAll i)) (read s readPhrase f i))
    (hn : (label != .member || f.endsInName) = true) :
    Ensures (Trail.Sound s) (Outcome.Reads (s.LieAll i))
      (read s readPhrase (.branch label f) i) := by
  have hname : label = .member →
      Ensures (fun _ => True) (Outcome.Reads s.EndsInName) (read s readPhrase f i) := by
    rintro rfl
    exact read_endsInName (by simpa using hn) i
  rw [read]
  refine Ensures.bind (P := fun o => o.Reads (s.LieAll i) ∧
    (label = .member → o.Reads s.EndsInName)) ?_ fun o ho => ?_
  · intro trail o trail' ht hr
    obtain ⟨ho, ht'⟩ := hf trail o trail' ht hr
    exact ⟨⟨ho, fun hl => (hname hl trail o trail' trivial hr).1⟩, ht'⟩
  · cases o with
    | read j ts => exact .pure (.single (.branch (ho.1.parts label) (s.spans_spanOf i j) ho.2))
    | _ => exact .pure trivial

/-- What is read as a phrase lies among the tokens. -/
def PhrasesLie (s : Source) (readPhrase : Phrase → Nat → Reading Outcome) : Prop :=
  ∀ p i, i ≤ s.tokens.size → Ensures (Trail.Sound s) (Outcome.Reads (s.LieAll i)) (readPhrase p i)

mutual

/-- What is read as a form lies among the tokens. -/
theorem lies_read (hp : PhrasesLie s readPhrase) :
    (f : Form) → f.isNamed = true → (i : Nat) → i ≤ s.tokens.size →
      Ensures (Trail.Sound s) (Outcome.Reads (s.LieAll i)) (read s readPhrase f i)
  | .mark m, _, i, hi => by
    rw [read]
    exact Source.takeSilent_lies (Trail.steady_sound s) _ i
  | .word w, _, i, hi => by
    rw [read]
    exact Source.takeSilent_lies (Trail.steady_sound s) _ i
  | .keep m, _, i, hi => by
    rw [read]
    refine Source.takeLeaf_lies (Trail.steady_sound s) (fun t ht => ?_) i
    rcases t with ⟨kind, _, _, _, _⟩
    cases kind <;> simp_all [Token.isMark, Token.isWord, Token.isLayout]
  | .name, _, i, hi => by
    rw [read]
    refine Source.takeLeaf_lies (Trail.steady_sound s) (fun t ht => ?_) i
    rw [Token.isLayout, (by simpa using ht : t.kind = .word)]
  | .contextual, _, i, hi => by
    rw [read]
    refine Source.takeLeaf_lies (Trail.steady_sound s) (fun t ht => ?_) i
    rw [Bool.and_eq_true] at ht
    rw [Token.isLayout, (by simpa using ht.1 : t.kind = .word)]
  | .number part, _, i, hi => by
    rw [read]
    exact Source.takeNumber_lies (Trail.steady_sound s) part i
  | .texts, _, i, hi => by
    rw [read]
    exact Source.takeTexts_lies (Trail.steady_sound s) hi
  | .kind k, _, i, hi => by
    rw [read]
    exact Source.takeSilent_lies (Trail.steady_sound s) _ i
  | .absent, _, i, hi => by
    rw [read]
    exact Source.takeSilent_lies (Trail.steady_sound s) _ i
  | .call p, _, i, hi => by
    rw [read]
    exact hp p i hi
  | .all fs, h, i, hi => by
    rw [read]
    exact lies_readAll hp fs h false (.none hi)
  | .any fs, h, i, hi => by
    rw [read]
    exact lies_readAny hp fs h i hi
  | .opt f, h, i, hi => by
    rw [read]
    refine (lies_read hp f h i hi).bind fun o ho => ?_
    cases o with
    | read j ts => exact .pure ho
    | _ => exact .pure (.none hi)
  | .many f, h, i, hi => by
    rw [read]
    exact Source.repeatStep_lies (fun j hj => lies_read hp f h j hj) _ (.none hi)
  | .some f, h, i, hi => by
    rw [read]
    refine (lies_read hp f h i hi).bind fun o ho => ?_
    cases o with
    | read j ts =>
      exact Source.repeatStep_lies (fun j hj => lies_read hp f h j hj) _ (Source.LieAll.reversed ho)
    | _ => exact .pure trivial
  | .sepBy f separator, h, i, hi => by
    rw [read]
    refine (lies_read hp f h i hi).bind fun o ho => ?_
    cases o with
    | read j ts =>
      refine Source.repeatStep_lies (fun k hk => ?_) _ (Source.LieAll.reversed ho)
      refine (Source.look_ensures (Trail.steady_sound s) k).bind fun t ht => ?_
      split
      · refine (lies_read hp f h (k + 1) (Source.lt_size_of_getElem? ht.1)).mono fun o ho => ?_
        exact ho.mono fun j ts hts => hts.mono (Nat.le_succ k)
      · exact .pure trivial
    | _ => exact .pure trivial
  | .suffixed head tail, h, i, hi => by
    rw [isNamed, Bool.and_eq_true] at h
    rw [read]
    refine (lies_read hp head h.1 i hi).bind fun o ho => ?_
    split
    · exact Source.extend_lies (fun j hj => lies_read hp tail h.2 j hj) _ ho
    · exact .pure trivial
    · exact .pure ho
  | .ahead f, h, i, hi => by
    rw [read]
    refine (lies_read hp f h i hi).bind fun o ho => ?_
    cases o with
    | read j ts => exact .pure (.none hi)
    | _ => exact .pure trivial
  | .notAhead f, h, i, hi => by
    rw [read]
    refine (lies_read hp f h i hi).bind fun o ho => ?_
    cases o with
    | read j ts => exact .pure trivial
    | _ => exact .pure (.none hi)
  | .commit, _, i, hi => by
    rw [read]
    exact .pure (.none hi)
  | .bound f, h, i, hi => by
    rw [read]
    exact (lies_read hp f h i hi).bind fun o ho => .pure ho.bounded
  | .forced m, _, i, hi => by
    rw [read]
    refine (Source.look_ensures (Trail.steady_sound s) i).bind fun t ht => ?_
    split
    · exact .pure (.nil (Nat.le_succ i) (Source.lt_size_of_getElem? ht.1))
    · exact .object _
  | .branch label f, h, i, hi => by
    rw [isNamed, Bool.and_eq_true] at h
    exact lies_branch (lies_read hp f h.2 i hi) h.1
  | .chain label f, h, i, hi => by
    rw [isNamed, Bool.and_eq_true] at h
    rw [read]
    refine (lies_read hp f h.2 i hi).bind fun o ho => ?_
    split
    · exact .pure ho
    · next j ts _ =>
      have hl : label ≠ .member := by simpa using h.1
      exact .pure (.single (.branch (ho.parts label) (s.spans_spanOf i j) fun h => absurd h hl))
    · exact .pure ho
  | .skip f, h, i, hi => by
    rw [read]
    refine (lies_read hp f h i hi).bind fun o ho => ?_
    cases o with
    | read j ts => exact .pure (.nil (Source.LieAll.le ho) (Source.LieAll.le_size ho))
    | _ => exact .pure trivial
  | .mistake f, h, i, hi => by
    rw [read]
    refine Ensures.get.bind fun trail _ => ?_
    split
    · exact (lies_read hp f h i hi).bind fun o ho => .pure ho.bounded
    · exact .pure trivial
  | .trusting f, h, i, hi => by
    rw [read]
    refine Ensures.get.bind fun trail _ => (Ensures.modify ?_).bind fun _ _ =>
      (lies_read hp f h i hi).bind fun o ho => (Ensures.modify ?_).bind fun _ _ => .pure ho
    · exact fun _ h => h
    · exact fun _ h => h
  | .complain c f, h, i, hi => by
    rw [read]
    refine (lies_read hp f h i hi).bind fun o ho => ?_
    cases o with
    | read j ts =>
      dsimp only
      split
      · exact .objectHere s
      · split
        · exact .object _
        · exact .pure trivial
    | _ => exact .pure trivial

theorem lies_readAll (hp : PhrasesLie s readPhrase) :
    (fs : List Form) → areNamed fs = true → (committed : Bool) → {i j : Nat} →
      {reversed : List Tree} → s.LieAll i j reversed.reverse →
      Ensures (Trail.Sound s) (Outcome.Reads (s.LieAll i))
        (readAll s readPhrase fs committed j reversed)
  | [], _, committed, i, j, reversed, hr => by
    rw [readAll]
    exact .pure hr
  | f :: fs, h, committed, i, j, reversed, hr => by
    rw [areNamed, Bool.and_eq_true] at h
    refine readAll_cons_ensures (fun _ => .none hr.le_size) (lies_read hp f h.1 j hr.le_size)
      fun committed k ts hk => lies_readAll hp fs h.2 committed ?_
    rw [Source.reverse_pushAll]
    exact hr.append hk

theorem lies_readAny (hp : PhrasesLie s readPhrase) :
    (fs : List Form) → areNamed fs = true → (i : Nat) → i ≤ s.tokens.size →
      Ensures (Trail.Sound s) (Outcome.Reads (s.LieAll i)) (readAny s readPhrase fs i)
  | [], _, i, hi => by
    rw [readAny]
    exact .pure trivial
  | f :: fs, h, i, hi => by
    rw [areNamed, Bool.and_eq_true] at h
    rw [readAny]
    refine (lies_read hp f h.1 i hi).bind fun o ho => ?_
    cases o with
    | fail => exact lies_readAny hp fs h.2 i hi
    | _ => exact .pure ho

end

end Form

/-- Members end in their names in all phrases. -/
theorem Phrase.form_isNamed (p : Phrase) : p.form.isNamed = true := by cases p <;> rfl

/-- Phrases are read from the tokens, however much of a source's depth is left. -/
theorem lies_phrase (s : Source) (depth : Nat) :
    Form.PhrasesLie s fun p i => p.read s depth i := by
  induction depth with
  | zero => exact fun p i hi => .pure trivial
  | succ depth ih =>
    intro p i hi
    have hform := Form.lies_read ih p.form p.form_isNamed i hi
    simp only [Phrase.read]
    split
    · refine (Source.look_ensures (Trail.steady_sound s) i).bind fun _ _ =>
        Ensures.get.bind fun trail htrail => ?_
      split
      · next o ho => exact .pure (htrail p i o ho)
      · refine hform.bind fun o ho => ?_
        exact (Ensures.modify fun _ h => h.remember p ho.bounded).bind fun _ _ => .pure ho.bounded
    · exact hform.bind fun o ho => .pure ho.bounded

end CodeAtlas.Offside
