import CodeAtlas.Offside.Module
import CodeAtlas.Proofs.Offside.Lexing
import CodeAtlas.Proofs.Offside.Pieces
import CodeAtlas.Proofs.Offside.Reading

/-!
# Words stand where they were read

`wordsAll ts` lists the places behind the words of trees. Those of a parsed source are in order and no
two of them are the same, and each is a place of the source right behind a word
(`TokenList.wordsIn_parseFor`). This holds of the words in the fields of format strings too, which are
read as texts of their own.
-/

namespace CodeAtlas.Offside

mutual

/-- The places behind the words of a tree. -/
def Tree.words : Tree → List Place
  | .leaf t => if t.kind = .word then [t.stop] else []
  | .branch _ _ parts => wordsAll parts

/-- The places behind the words of trees. -/
def wordsAll : List Tree → List Place
  | [] => []
  | t :: ts => t.words ++ wordsAll ts

end

theorem wordsAll_append (ts us : List Tree) : wordsAll (ts ++ us) = wordsAll ts ++ wordsAll us := by
  induction ts with
  | nil => rfl
  | cons t ts ih => rw [List.cons_append, wordsAll, wordsAll, ih, List.append_assoc]

/-- A place right behind a character of a word, in a text that starts at `p`. -/
def BehindWord (p : Place) (cs : List Char) (w : Place) : Prop :=
  ∃ as c bs, cs = as ++ c :: bs ∧ isWordCharacter c = true ∧ w = p.afterAll (as ++ [c])

namespace BehindWord

variable {p w : Place} {cs : List Char}

theorem lt (h : BehindWord p cs w) : p < w := by
  obtain ⟨as, c, bs, -, -, rfl⟩ := h
  exact p.lt_afterAll (by simp)

theorem le (h : BehindWord p cs w) : w ≤ p.afterAll cs := by
  obtain ⟨as, c, bs, rfl, -, rfl⟩ := h
  exact p.afterAll_le_of_prefix ⟨bs, by simp⟩

theorem located (h : BehindWord p cs w) : Located p cs w := by
  obtain ⟨as, c, bs, rfl, -, rfl⟩ := h
  exact ⟨as ++ [c], bs, by simp, rfl⟩

theorem within {as bs : List Char} (h : BehindWord (p.afterAll as) cs w) :
    BehindWord p (as ++ cs ++ bs) w := by
  obtain ⟨front, c, back, rfl, hc, rfl⟩ := h
  exact ⟨as ++ front, c, back ++ bs, by simp, hc, by simp [Place.afterAll_append]⟩

end BehindWord

/-- Places behind words of a text, in order. -/
structure WordsIn (p : Place) (cs : List Char) (ws : List Place) : Prop where
  ascending : ws.Pairwise (· < ·)
  behind : ∀ w ∈ ws, BehindWord p cs w

namespace WordsIn

variable {p : Place} {as bs cs : List Char} {vs ws : List Place}

theorem nil : WordsIn p cs [] := ⟨.nil, nofun⟩

theorem within (h : WordsIn (p.afterAll as) cs ws) : WordsIn p (as ++ cs ++ bs) ws :=
  ⟨h.ascending, fun w hw => (h.behind w hw).within⟩

theorem append (h : WordsIn p as ws) (h' : WordsIn (p.afterAll as) bs vs) :
    WordsIn p (as ++ bs) (ws ++ vs) where
  ascending := List.pairwise_append.2 ⟨h.ascending, h'.ascending, fun w hw v hv =>
    (h.behind w hw).le.trans_lt (h'.behind v hv).lt⟩
  behind w hw := by
    rcases List.mem_append.1 hw with hw | hw
    · have hfront : BehindWord (p.afterAll []) as w := h.behind w hw
      exact hfront.within
    · have hback : BehindWord p (as ++ bs ++ []) w := (h'.behind w hw).within
      simpa using hback

end WordsIn

/-! ## Format strings -/

/-- The words in the field of a format string stand where the field does. -/
def FieldsRead (readField : List Char → Place → Except Nat (List Tree)) : Prop :=
  ∀ chars place ts, '\r' ∉ chars → readField chars place = .ok ts →
    WordsIn place ('\x7b' :: chars) (wordsAll ts)

theorem Source.PieceTrees.wordsIn {s : Source} (hf : FieldsRead s.readField) {p : Place}
    {cs : List Char} {ps : List Literal.Piece} {ts : List Tree} (hp : Pieced p cs ps)
    (hr : '\r' ∉ cs) (h : s.PieceTrees ps ts) : WordsIn p cs (wordsAll ts) := by
  induction hp generalizing ts with
  | done =>
    cases h
    exact .nil
  | fault => cases h
  | @plain p c cs ps hp ih =>
    have hrest : WordsIn (p.afterAll [c]) cs (wordsAll ts) :=
      ih (fun hc => hr (List.mem_cons_of_mem c hc)) h
    have hwithin : WordsIn p ([c] ++ cs ++ []) (wordsAll ts) := hrest.within
    simpa using hwithin
  | @field p chars cs ps hp ih =>
    cases h with
    | field hts hus =>
      rw [wordsAll_append]
      refine (hf _ _ _ (fun hc => hr ?_) hts).append (ih (fun hc => hr ?_) hus)
      · exact List.mem_append_left cs (List.mem_cons_of_mem _ hc)
      · exact List.mem_append_right _ hc

theorem Source.TextTrees.wordsIn {s : Source} (hf : FieldsRead s.readField) {t : Token} {p : Place}
    {lexeme : List Char} (ht : t.Spells p lexeme) (hr : '\r' ∉ lexeme) {ts : List Tree}
    (h : s.TextTrees t ts) : WordsIn p lexeme (wordsAll ts) := by
  simp only [TextTrees, ht.text, String.toList_ofList, ht.start] at h
  split at h
  · obtain ⟨front, back, hlexeme, hplace⟩ := Literal.ofText_body lexeme p
    have hbody : '\r' ∉ (Literal.ofText lexeme p).body := by
      intro hc
      refine hr ?_
      rw [hlexeme]
      exact List.mem_append_left back (List.mem_append_right front hc)
    have hwords := h.wordsIn hf (Literal.pieced_pieces _) hbody
    rw [hplace] at hwords
    rw [hlexeme]
    exact hwords.within
  · subst h
    exact .nil

/-! ## Trees -/

namespace Source

variable (s : Source)

/-- Places behind words that were read from the tokens with the indices from `i` up to `j`, in
order. -/
structure WordsFrom (p : Place) (cs : List Char) (i j : Nat) (ws : List Place) : Prop
    extends WordsIn p cs ws where
  token : ∀ w ∈ ws, ∃ k t, i ≤ k ∧ k < j ∧ s.tokens[k]? = some t ∧ t.isLayout = false ∧
    t.start < w ∧ w ≤ t.stop

variable {s} {p : Place} {cs : List Char}

theorem WordsFrom.nil {i j : Nat} : s.WordsFrom p cs i j [] := ⟨.nil, nofun⟩

theorem WordsFrom.mono {i i' j j' : Nat} {ws : List Place} (h : s.WordsFrom p cs i j ws)
    (hi : i' ≤ i) (hj : j ≤ j') : s.WordsFrom p cs i' j' ws where
  toWordsIn := h.toWordsIn
  token w hw := by
    obtain ⟨k, t, hik, hkj, ht⟩ := h.token w hw
    exact ⟨k, t, hi.trans hik, hkj.trans_le hj, ht⟩

variable (hl : Lexes p cs s.tokens.toList)

include hl

theorem exists_spells {k : Nat} {t : Token} (ht : s.tokens[k]? = some t) (hs : t.isLayout = false) :
    ∃ as lexeme bs, cs = as ++ lexeme ++ bs ∧ t.Spells (p.afterAll as) lexeme :=
  hl.exists_spells (List.mem_of_getElem? (by simpa using ht)) hs

theorem stop_le_start {k l : Nat} {t u : Token} (hkl : k < l) (ht : s.tokens[k]? = some t)
    (hu : s.tokens[l]? = some u) (hts : t.isLayout = false) (hus : u.isLayout = false) :
    t.stop ≤ u.start := by
  obtain ⟨hk, rfl⟩ := Array.getElem?_eq_some_iff.1 ht
  obtain ⟨hl', rfl⟩ := Array.getElem?_eq_some_iff.1 hu
  exact List.pairwise_iff_getElem.1 hl.ordered k l hk hl' hkl hts hus

theorem WordsFrom.append {i a b j : Nat} {vs ws : List Place} (h : s.WordsFrom p cs i a ws)
    (h' : s.WordsFrom p cs b j vs) (hib : i ≤ b) (hab : a ≤ b) (haj : a ≤ j) :
    s.WordsFrom p cs i j (ws ++ vs) where
  ascending := by
    refine List.pairwise_append.2 ⟨h.ascending, h'.ascending, fun w hw v hv => ?_⟩
    obtain ⟨k, t, -, hk, ht, hts, -, hw⟩ := h.token w hw
    obtain ⟨l, u, hl', -, hu, hus, hv, -⟩ := h'.token v hv
    have hle := stop_le_start hl (by omega) ht hu hts hus
    exact hw.trans_lt (hle.trans_lt hv)
  behind w hw := (List.mem_append.1 hw).elim (h.behind w) (h'.behind w)
  token w hw := by
    rcases List.mem_append.1 hw with hw | hw
    · exact (h.mono le_rfl haj).token w hw
    · exact (h'.mono hib le_rfl).token w hw

theorem wordsFrom_leaf {k : Nat} {t : Token} (ht : s.tokens[k]? = some t) (hs : t.isLayout = false) :
    s.WordsFrom p cs k (k + 1) (Tree.leaf t).words := by
  rw [Tree.words]
  split
  · next hw =>
    obtain ⟨as, lexeme, bs, rfl, hsp⟩ := exists_spells hl ht hs
    have hlast := List.dropLast_concat_getLast hsp.nonempty
    have hword := hsp.word hw _ (List.getLast_mem hsp.nonempty)
    have hbehind : BehindWord (p.afterAll as) lexeme t.stop :=
      ⟨_, _, [], hlast.symm, hword, by rw [hlast, hsp.stop]⟩
    refine ⟨⟨List.pairwise_singleton _ _, ?_⟩, ?_⟩
    · simpa using hbehind.within
    · have hstart : t.start < t.stop := by
        rw [hsp.start]
        exact hbehind.lt
      intro w hw
      rw [List.mem_singleton.1 hw]
      exact ⟨k, t, le_rfl, k.lt_succ_self, ht, hs, hstart, le_rfl⟩
  · exact .nil

theorem wordsFrom_fields (hr : '\r' ∉ cs) (hf : FieldsRead s.readField) {k : Nat} {t : Token}
    (ht : s.tokens[k]? = some t) (hs : t.isLayout = false) {ts : List Tree} (h : s.TextTrees t ts) :
    s.WordsFrom p cs k (k + 1) (wordsAll ts) := by
  obtain ⟨as, lexeme, bs, rfl, hsp⟩ := exists_spells hl ht hs
  have hlexeme : '\r' ∉ lexeme := fun hc =>
    hr (List.mem_append_left bs (List.mem_append_right as hc))
  have hwords := h.wordsIn hf hsp hlexeme
  refine ⟨hwords.within, fun w hw => ⟨k, t, le_rfl, k.lt_succ_self, ht, hs, ?_, ?_⟩⟩
  · rw [hsp.start]
    exact (hwords.behind w hw).lt
  · rw [hsp.stop]
    exact (hwords.behind w hw).le

omit hl

mutual

/-- The words of a tree are those of the tokens that it was read from. -/
theorem Lies.wordsFrom (hl : Lexes p cs s.tokens.toList) (hr : '\r' ∉ cs)
    (hf : FieldsRead s.readField) {i j : Nat} {t : Tree} (h : s.Lies i j t) :
    s.WordsFrom p cs i j t.words :=
  match h with
  | .leaf ht hs => wordsFrom_leaf hl ht hs
  | .branch hp _ _ => by
    rw [Tree.words]
    exact hp.wordsFrom hl hr hf

theorem PartsLie.wordsFrom (hl : Lexes p cs s.tokens.toList) (hr : '\r' ∉ cs)
    (hf : FieldsRead s.readField) {label : Label} {i j : Nat} {ts : List Tree}
    (h : s.PartsLie label i j ts) : s.WordsFrom p cs i j (wordsAll ts) :=
  match h with
  | .nil _ _ => .nil
  | .cons ha ht hts => by
    have htle := ht.le
    rw [wordsAll]
    exact ((ht.wordsFrom hl hr hf).mono ha le_rfl).append hl (hts.wordsFrom hl hr hf) (by omega)
      le_rfl hts.le
  | .fields hk ht hs htrees hts => by
    rw [wordsAll_append]
    exact ((wordsFrom_fields hl hr hf ht hs htrees).mono hk le_rfl).append hl
      (hts.wordsFrom hl hr hf) (by omega) le_rfl hts.le

end

end Source

/-! ## Parsed sources -/

theorem unifyLineEnds_eq {cs : List Char} (h : '\r' ∉ cs) : unifyLineEnds cs = cs := by
  induction cs using unifyLineEnds.induct with
  | case1 => rfl
  | case2 cs ih => simp at h
  | case3 c cs hnot ih =>
    have hc : c ≠ '\r' := fun hc => h (hc ▸ List.mem_cons_self)
    rw [unifyLineEnds.eq_3 c cs hnot, if_neg hc, ih fun hm => h (List.mem_cons_of_mem c hm)]

theorem return_notMem_unifyLineEnds (cs : List Char) : '\r' ∉ unifyLineEnds cs := by
  induction cs using unifyLineEnds.induct with
  | case1 => simp [unifyLineEnds]
  | case2 cs ih => simpa [unifyLineEnds] using ih
  | case3 c cs hnot ih =>
    rw [unifyLineEnds.eq_3 c cs hnot]
    split
    · simpa using ih
    · next hc => simpa [eq_comm, hc] using ih

theorem return_notMem_endLastLine {cs : List Char} (h : '\r' ∉ cs) : '\r' ∉ endLastLine cs := by
  rw [endLastLine]
  split
  · exact h
  · simpa using h

namespace TokenList

/-- Trees that are given out lie among the tokens. -/
theorem exists_lieAll {readField : List Char → Place → Except Nat (List Tree)} {ts : TokenList}
    {goal : Phrase} {trees : List Tree} (h : ts.parseWith readField goal = .ok trees) :
    ∃ j, (⟨ts.tokens.toArray, readField⟩ : Source).LieAll 0 j trees := by
  rw [parseWith] at h
  split at h
  · cases h
  · next j us trail hr =>
    cases h
    have hsound : Trail.Sound ⟨ts.tokens.toArray, readField⟩ ⟨false, 0, ∅⟩ := by
      intro p i o ho
      simp [Trail.known?] at ho
    exact ⟨j, (lies_phrase _ _ goal 0 (Nat.zero_le _) _ _ _ hsound hr).1⟩
  · split at h <;> cases h

/-- The text of a field is read as if it stood in parentheses. -/
theorem lexes_ofField {chars : List Char} (h : '\r' ∉ chars) (place : Place) :
    Lexes place ('(' :: chars ++ [')', '\n']) (ofField chars place).tokens := by
  have hcs : endLastLine (unifyLineEnds ('(' :: chars ++ [')'])) = '(' :: chars ++ [')', '\n'] := by
    rw [unifyLineEnds_eq (by simpa using h)]
    rw [endLastLine, if_neg (by rw [List.getLast?_concat]; decide), List.append_assoc]
    rfl
  obtain ⟨ts, heq, hts⟩ := Lexer.lexes_run (3 * ('(' :: chars ++ [')', '\n']).length + 3)
    { Lexer.start ('(' :: chars ++ [')', '\n']) with place := place }
  simp only [ofField, hcs]
  rw [heq]
  exact hts

end TokenList

/-- Neither the parentheses around a field nor the line end behind it are words. -/
theorem BehindWord.field {place w : Place} {chars : List Char}
    (h : BehindWord place ('(' :: chars ++ [')', '\n']) w) :
    BehindWord place ('\x7b' :: chars) w := by
  obtain ⟨as, c, bs, heq, hc, rfl⟩ := h
  have hmark : ∀ m ∈ ['(', ')', '\n'], isWordCharacter m = false := by
    simp only [List.forall_mem_cons, List.not_mem_nil, false_implies, implies_true, and_true]
    exact ⟨by decide, by decide, by decide⟩
  have hne : ∀ m ∈ ['(', ')', '\n'], c ≠ m := by
    rintro m hm rfl
    simp [hmark c hm] at hc
  cases as with
  | nil => exact absurd (List.cons.inj heq).1.symm (hne '(' (by simp))
  | cons a as =>
    obtain ⟨rfl, hrest⟩ := List.cons.inj heq
    rcases List.append_eq_append_iff.1 hrest with ⟨front, has, hback⟩ | ⟨back, hchars, hback⟩
    · have hmem : c ∈ [')', '\n'] := by
        rw [hback]
        simp
      exact absurd rfl (hne c (List.mem_cons_of_mem _ hmem))
    · cases back with
      | nil => exact absurd (List.cons.inj hback).1 (hne ')' (by simp))
      | cons d back =>
        obtain ⟨rfl, -⟩ := List.cons.inj hback
        exact ⟨'\x7b' :: as, c, back, by simp [hchars], hc, rfl⟩

/-- The words of a parsed source are in order, each at a place of its own. -/
theorem TokenList.wordsIn_parseFor {depth : Nat} {ts : TokenList} {p : Place} {cs : List Char}
    {goal : Phrase} {trees : List Tree} (hl : Lexes p cs ts.tokens) (hr : '\r' ∉ cs)
    (h : ts.parseFor depth goal = .ok trees) : WordsIn p cs (wordsAll trees) := by
  induction depth generalizing ts p cs goal trees with
  | zero => cases h
  | succ depth ih =>
    rw [parseFor] at h
    obtain ⟨j, hj⟩ := exists_lieAll h
    refine ((hj.parts .block).wordsFrom (by simpa using hl) hr ?_).toWordsIn
    intro chars place us hchars hus
    have hwords := ih (lexes_ofField hchars place) (by simpa using hchars) hus
    exact ⟨hwords.ascending, fun w hw => (hwords.behind w hw).field⟩

/-- A source that can be parsed has a property if the module that it is parsed to has it. -/
theorem Module.exists_parse (content : String) (P : Module → Prop) [DecidablePred P]
    (h : (match Module.parse content with
      | .ok m => decide (P m)
      | .error _ => false) = true) : ∃ m, Module.parse content = .ok m ∧ P m := by
  cases hm : Module.parse content with
  | ok m =>
    rw [hm] at h
    exact ⟨m, rfl, of_decide_eq_true h⟩
  | error e =>
    rw [hm] at h
    cases h

end CodeAtlas.Offside
