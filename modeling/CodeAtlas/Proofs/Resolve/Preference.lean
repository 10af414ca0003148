import CodeAtlas.Proofs.Resolve.Targets

/-!
# Which declaration a use means

`Preference` says what a use is resolved to by what is known of it: the module it was imported from,
the class that the target belongs to, or nothing but its name. It holds of every table of a project
in which no path occurs twice (`resolve_preference`).

Where symbols lie where they say, a handle belongs to one symbol only (`Holds.candidates_eq`), and
symbols are found in the order of their files and of their places there (`symbols_pairwise`). So of
the symbols with a name the one is chosen that comes first in this order, methods last.
-/

namespace CodeAtlas

/-! ## The order of symbols -/

/-- In the order of files, and within a file in the order of places. -/
def Symbol.Before (a b : Symbol) : Prop := a.file < b.file ∨ a.file = b.file ∧ a.slot < b.slot

theorem Symbol.Before.handle_ne {a b : Symbol} (h : a.Before b) : a.handle ≠ b.handle := by
  intro heq
  obtain ⟨hfile, hslot⟩ := Handle.mk.inj heq
  rcases h with h | ⟨-, h⟩
  · exact String.lt_irrefl _ (hfile ▸ h)
  · exact Int.lt_irrefl _ (hslot ▸ h)

theorem Entry.Placed.pairwise {e : Entry} (h : e.Placed) : e.symbols.Pairwise Symbol.Before := by
  rw [List.pairwise_iff_getElem]
  intro i j hi hj hlt
  have hfile : e.symbols[i].file = e.symbols[j].file :=
    (h.file _ (List.getElem_mem hi)).trans (h.file _ (List.getElem_mem hj)).symm
  refine .inr ⟨hfile, ?_⟩
  rw [h.slot i _ (List.getElem?_eq_getElem hi), h.slot j _ (List.getElem?_eq_getElem hj)]
  exact Int.ofNat_lt.2 hlt

namespace NameTable

variable {t : NameTable} {es : List Entry}

theorem DeclaredIn.file {file name : String} {s : Symbol} (h : DeclaredIn es file name s)
    (hp : ∀ e ∈ es, e.Placed) : s.file = file := by
  obtain ⟨e, he, rfl, hs, -⟩ := h
  exact (hp e he).file s hs

/-- The symbols of a project whose symbols lie where they say are in order. -/
theorem symbols_pairwise (hn : (es.map Entry.path).Nodup) (hp : ∀ e ∈ es, e.Placed) :
    ((inOrder es).flatMap Entry.symbols).Pairwise Symbol.Before := by
  have hne : (inOrder es).Pairwise fun a b => a.path ≠ b.path :=
    List.pairwise_map.1 (inOrder_nodup hn)
  refine List.pairwise_flatMap.2 ⟨fun e he => (hp e (mem_inOrder.1 he)).pairwise, ?_⟩
  refine ((inOrder_sorted es).and hne).imp_of_mem ?_
  rintro a b ha hb ⟨hle, hne⟩ x hx y hy
  refine .inl ?_
  rw [(hp a (mem_inOrder.1 ha)).file x hx, (hp b (mem_inOrder.1 hb)).file y hy, ← String.not_le]
  exact fun hge => hne (String.le_antisymm hle hge)

/-- Where handles belong to one symbol only, the symbols behind the handles of a name are those that
have the name. -/
theorem Holds.candidates_eq (H : t.Holds es)
    (hn : ((es.flatMap Entry.symbols).map Symbol.handle).Nodup) (name : String) :
    (t.handlesOf name).filterMap t.symbols.find? = named es name := by
  have hfind : ∀ s ∈ named es name, (t.symbols.find? ∘ Symbol.handle) s = some s := by
    intro s hs
    have hs := (List.mem_filter.1 hs).1
    obtain ⟨x, hx⟩ := Option.isSome_iff_exists.1 (H.names.known s hs)
    obtain ⟨hmem, hh⟩ := H.names.symbol _ x hx
    exact hx.trans (congrArg some (List.inj_on_of_nodup_map hn hmem hs hh))
  rw [H.handlesOf_eq, List.filterMap_map, List.filterMap_congr hfind, List.filterMap_some]

/-! ## Members of modules -/

/-- A dotted name is cut at its last dot. -/
theorem splitOwner_eq_iff {module parent owner : String} (hp : parent ≠ "") :
    splitOwner module = (parent, owner) ↔
      module = parent ++ "." ++ owner ∧ '.' ∉ owner.toList := by
  have htoList : module = parent ++ "." ++ owner ↔
      module.toList = parent.toList ++ '.' :: owner.toList := by
    rw [← String.toList_inj, String.toList_append, String.toList_append, List.append_assoc]
    rfl
  rw [splitOwner, htoList]
  constructor
  · intro h
    split at h
    · next p o hcut =>
      obtain ⟨rfl, rfl⟩ := Prod.mk.inj h
      simpa using Text.eq_of_cutLast? hcut
    · exact absurd (congrArg Prod.fst h).symm hp
  · rintro ⟨h, howner⟩
    rw [h, Text.cutLast?_append howner]
    simp

/-! ## The law -/

/-- The symbol is a declaration of the name in the file, outside of classes if there is one. -/
def ChosenIn (es : List Entry) (file name : String) (s : Symbol) : Prop :=
  DeclaredIn es file name s ∧
    ∀ s', DeclaredIn es file name s' → s'.container = none → s.container = none

/-- What a use is resolved to by what is known of it. -/
structure Preference (t : NameTable) (es : List Entry) (u : Use) : Prop where
  means : ∀ h, t.resolve u = some h → MeansNamed es u.name h
  /-- The file of the module that the name was imported from declares it. -/
  declared : ∀ m file, u.module = some m → t.moduleFile? m u.file = some file →
    (∃ s, DeclaredIn es file u.name s) →
      ∃ s, t.resolve u = some s.handle ∧ ChosenIn es file u.name s
  /-- The file of the module does not declare the name. -/
  undeclared : ∀ m file, u.module = some m → t.moduleFile? m u.file = some file →
    (¬ ∃ s, DeclaredIn es file u.name s) →
      ∀ h, t.resolve u = some h ↔ ∃ s, named es u.name = [s] ∧ s.handle = h
  /-- The module has no file. -/
  member : ∀ m h, u.module = some m → t.moduleFile? m u.file = none → t.resolve u = some h →
    ∃ parent owner file s, m = parent ++ "." ++ owner ∧ '.' ∉ owner.toList ∧
      t.moduleFile? parent u.file = some file ∧ DeclaredIn es file u.name s ∧
        s.container = some owner ∧ s.handle = h
  /-- A member of a class is found if the class lies in a module that has a file. -/
  exists_member : ∀ parent owner file s, u.module = some (parent ++ "." ++ owner) →
    t.moduleFile? (parent ++ "." ++ owner) u.file = none → parent ≠ "" → '.' ∉ owner.toList →
      '/' ∉ (parent ++ "." ++ owner).toList → t.moduleFile? parent u.file = some file →
        DeclaredIn es file u.name s → s.container = some owner → ∃ h, t.resolve u = some h
  /-- The class that the target belongs to is known. -/
  receiver : ∀ c h, u.module = none → u.container = some c → t.resolve u = some h →
    ∃ s, DeclaredIn es u.file u.name s ∧ s.container = some c ∧ s.handle = h
  exists_receiver : ∀ c s, u.module = none → u.container = some c →
    DeclaredIn es u.file u.name s → s.container = some c → ∃ h, t.resolve u = some h
  /-- Nothing but the name is known, and the file of the use declares it. -/
  here : u.module = none → u.container = none → (∃ s, DeclaredIn es u.file u.name s) →
    ∃ s, t.resolve u = some s.handle ∧ ChosenIn es u.file u.name s
  exists_anywhere : ∀ file s, u.module = none → u.container = none →
    DeclaredIn es file u.name s → ∃ h, t.resolve u = some h
  /-- Nothing but the name is known, and the file of the use does not declare it: a method is meant
  only if there are but methods, and otherwise the first symbol in the order of files and places. -/
  elsewhere : (∀ e ∈ es, e.Placed) → u.module = none → u.container = none →
    (¬ ∃ s, DeclaredIn es u.file u.name s) → ∀ h, t.resolve u = some h →
      ∃ file s, DeclaredIn es file u.name s ∧ s.handle = h ∧
        ∀ file' s', DeclaredIn es file' u.name s' →
          (s.kind = .method → s'.kind = .method) ∧
            ((s'.kind = .method → s.kind = .method) →
              file < file' ∨ file = file' ∧ s.slot ≤ s'.slot)
  /-- Where symbols lie where they say, a handle tells the file. -/
  file : (∀ e ∈ es, e.Placed) → ∀ file s, DeclaredIn es file u.name s → s.handle.file = file

theorem declaredIn_inOrder {file name : String} {s : Symbol} :
    DeclaredIn (inOrder es) file name s ↔ DeclaredIn es file name s := by
  simp only [DeclaredIn, mem_inOrder]

theorem named_inOrder {name : String} {s : Symbol} :
    named (inOrder es) name = [s] ↔ named es name = [s] := by
  have hperm : (named (inOrder es) name).Perm (named es name) :=
    ((List.mergeSort_perm es _).flatMap_right _).filter _
  constructor
  · intro h
    exact List.perm_singleton.1 (h ▸ hperm.symm)
  · intro h
    exact List.perm_singleton.1 (h ▸ hperm)

theorem preferred?_eq_none_iff {ss : List Symbol} : preferred? ss = none ↔ ss = [] := by
  constructor
  · intro h
    cases ss with
    | nil => rfl
    | cons s ss =>
      obtain ⟨k, hk⟩ := exists_preferred? (List.mem_cons_self (a := s) (l := ss))
      rw [h] at hk
      cases hk
  · rintro rfl
    rfl

section Law

variable (H : t.Holds (inOrder es)) (hn : (es.map Entry.path).Nodup) {file name : String}

include H hn

theorem Holds.mem_declared {s : Symbol} :
    s ∈ t.symbolsNamed file name ↔ DeclaredIn es file name s :=
  (H.mem_symbolsNamed (inOrder_nodup hn)).trans declaredIn_inOrder

theorem Holds.preferred?_chosen (h : ∃ s, DeclaredIn es file name s) :
    ∃ s, preferred? (t.symbolsNamed file name) = some s.handle ∧ ChosenIn es file name s := by
  obtain ⟨x, hx⟩ := h
  obtain ⟨k, hk⟩ := exists_preferred? ((H.mem_declared hn).2 hx)
  obtain ⟨s, hs, rfl, htop⟩ := preferred?_cases hk
  refine ⟨s, hk, (H.mem_declared hn).1 hs, fun s' hs' hc => ?_⟩
  exact htop ⟨s', (H.mem_declared hn).2 hs', hc⟩

theorem Holds.preferred?_none (h : ¬ ∃ s, DeclaredIn es file name s) :
    preferred? (t.symbolsNamed file name) = none := by
  refine preferred?_eq_none_iff.2 (List.eq_nil_iff_forall_not_mem.2 fun s hs => ?_)
  exact h ⟨s, (H.mem_declared hn).1 hs⟩

omit hn in
/-- A handle is the only one of a name if it is that of the only symbol of the name. -/
theorem Holds.handlesOf_singleton {h : Handle} :
    t.handlesOf name = [h] ↔ ∃ s, named es name = [s] ∧ s.handle = h := by
  rw [H.handlesOf_eq, List.map_eq_singleton_iff]
  simp only [named_inOrder]

theorem Holds.resolve_declared {u : Use} {m : String} (hm : u.module = some m)
    (hf : t.moduleFile? m u.file = some file) (h : ∃ s, DeclaredIn es file u.name s) :
    ∃ s, t.resolve u = some s.handle ∧ ChosenIn es file u.name s := by
  obtain ⟨s, hs, hchosen⟩ := H.preferred?_chosen hn h
  refine ⟨s, ?_, hchosen⟩
  rw [NameTable.resolve, hm]
  simp only [NameTable.resolveImported, hf, hs]

theorem Holds.resolve_undeclared {u : Use} {m : String} (hm : u.module = some m)
    (hf : t.moduleFile? m u.file = some file) (h : ¬ ∃ s, DeclaredIn es file u.name s)
    (k : Handle) : t.resolve u = some k ↔ ∃ s, named es u.name = [s] ∧ s.handle = k := by
  rw [← H.handlesOf_singleton, NameTable.resolve, hm]
  simp only [NameTable.resolveImported, hf, H.preferred?_none hn h]
  split
  · next k' hk => rw [hk, Option.some.injEq, List.singleton_inj]
  · next hk => exact iff_of_false (Option.some_ne_none k).symm (hk k)

theorem Holds.resolve_member {u : Use} {m : String} (hm : u.module = some m)
    (hf : t.moduleFile? m u.file = none) {h : Handle} (hr : t.resolve u = some h) :
    ∃ parent owner file s, m = parent ++ "." ++ owner ∧ '.' ∉ owner.toList ∧
      t.moduleFile? parent u.file = some file ∧ DeclaredIn es file u.name s ∧
        s.container = some owner ∧ s.handle = h := by
  rw [NameTable.resolve, hm] at hr
  simp only [NameTable.resolveImported, hf] at hr
  split at hr
  · next hcut =>
    obtain ⟨hparent, -⟩ := Bool.and_eq_true_iff.1 hcut
    obtain ⟨file, hfile, hr⟩ := Option.bind_eq_some_iff.1 hr
    obtain ⟨s, hs, hr⟩ := Option.bind_eq_some_iff.1 hr
    obtain ⟨heq, howner⟩ := (splitOwner_eq_iff (by simpa using hparent)).1 (Prod.eta _).symm
    refine ⟨_, _, file, s, heq, howner, hfile, ?_, by simpa using List.find?_some hs, ?_⟩
    · exact (H.mem_declared hn).1 (List.mem_of_find?_eq_some hs)
    · exact Option.some.inj hr
  · cases hr

theorem Holds.resolve_exists_member {u : Use} {parent owner : String} {s : Symbol}
    (hm : u.module = some (parent ++ "." ++ owner))
    (hf : t.moduleFile? (parent ++ "." ++ owner) u.file = none) (hp : parent ≠ "")
    (ho : '.' ∉ owner.toList) (hs : '/' ∉ (parent ++ "." ++ owner).toList)
    (hfile : t.moduleFile? parent u.file = some file) (hd : DeclaredIn es file u.name s)
    (hc : s.container = some owner) : ∃ h, t.resolve u = some h := by
  have hfound : ((t.symbolsNamed file u.name).find? fun s => s.container = some owner).isSome :=
    List.find?_isSome.2 ⟨s, (H.mem_declared hn).2 hd, decide_eq_true hc⟩
  obtain ⟨x, hx⟩ := Option.isSome_iff_exists.1 hfound
  have hslash : '/' ∉ parent.toList ∧ '/' ∉ owner.toList := by simpa using hs
  refine ⟨x.handle, ?_⟩
  rw [NameTable.resolve, hm]
  simp only [NameTable.resolveImported, hf, (splitOwner_eq_iff hp).2 ⟨rfl, ho⟩]
  simp [hp, hslash, hfile, hx]

theorem Holds.resolve_receiver {u : Use} {c : String} (hm : u.module = none)
    (hc : u.container = some c) {h : Handle} (hr : t.resolve u = some h) :
    ∃ s, DeclaredIn es u.file u.name s ∧ s.container = some c ∧ s.handle = h := by
  rw [NameTable.resolve, hm] at hr
  simp only [hc] at hr
  obtain ⟨s, hs, rfl⟩ := Option.map_eq_some_iff.1 hr
  exact ⟨s, (H.mem_declared hn).1 (List.mem_of_find?_eq_some hs),
    by simpa using List.find?_some hs, rfl⟩

theorem Holds.resolve_exists_receiver {u : Use} {c : String} {s : Symbol} (hm : u.module = none)
    (hc : u.container = some c) (hd : DeclaredIn es u.file u.name s)
    (hs : s.container = some c) : ∃ h, t.resolve u = some h := by
  have hfound : ((t.symbolsNamed u.file u.name).find? fun s => s.container = some c).isSome :=
    List.find?_isSome.2 ⟨s, (H.mem_declared hn).2 hd, decide_eq_true hs⟩
  obtain ⟨x, hx⟩ := Option.isSome_iff_exists.1 hfound
  refine ⟨x.handle, ?_⟩
  rw [NameTable.resolve, hm]
  simp only [hc, hx, Option.map_some]

theorem Holds.resolve_here {u : Use} (hm : u.module = none) (hc : u.container = none)
    (h : ∃ s, DeclaredIn es u.file u.name s) :
    ∃ s, t.resolve u = some s.handle ∧ ChosenIn es u.file u.name s := by
  obtain ⟨s, hs, hchosen⟩ := H.preferred?_chosen hn h
  refine ⟨s, ?_, hchosen⟩
  rw [NameTable.resolve, hm]
  simp only [hc, hs]
  rfl

theorem Holds.resolve_elsewhere {u : Use} (hm : u.module = none) (hc : u.container = none)
    (h : ¬ ∃ s, DeclaredIn es u.file u.name s) : t.resolve u = t.resolveAnywhere u.name := by
  rw [NameTable.resolve, hm]
  simp only [hc, H.preferred?_none hn h]
  rfl

omit hn in
theorem Holds.exists_resolveAnywhere {s : Symbol} (hd : DeclaredIn es file name s) :
    ∃ h, t.resolveAnywhere name = some h := by
  have hs : s.handle ∈ t.handlesOf name := by
    rw [H.handlesOf_eq]
    exact List.mem_map_of_mem (mem_named.2 ⟨file, declaredIn_inOrder.2 hd⟩)
  rw [← H.map_handle_candidates] at hs
  obtain ⟨x, hx, -⟩ := List.mem_map.1 hs
  obtain ⟨y, hy⟩ := exists_find?_or_head? (p := fun s => s.kind ≠ .method) hx
  exact ⟨y.handle, congrArg (Option.map Symbol.handle) hy⟩

theorem Holds.exists_resolve {u : Use} (hm : u.module = none) (hc : u.container = none)
    {s : Symbol} (hd : DeclaredIn es file u.name s) : ∃ h, t.resolve u = some h := by
  by_cases h : ∃ s, DeclaredIn es u.file u.name s
  · obtain ⟨s, hs, -⟩ := H.resolve_here hn hm hc h
    exact ⟨_, hs⟩
  · rw [H.resolve_elsewhere hn hm hc h]
    exact H.exists_resolveAnywhere hd

/-- Of all symbols of a name the first one is taken that is no method, or the first one. -/
theorem Holds.resolveAnywhere_first (hp : ∀ e ∈ es, e.Placed) {h : Handle}
    (hr : t.resolveAnywhere name = some h) :
    ∃ file s, DeclaredIn es file name s ∧ s.handle = h ∧
      ∀ file' s', DeclaredIn es file' name s' → (s.kind = .method → s'.kind = .method) ∧
        ((s'.kind = .method → s.kind = .method) →
          file < file' ∨ file = file' ∧ s.slot ≤ s'.slot) := by
  have hpairwise := symbols_pairwise hn hp
  have hhandles : (((inOrder es).flatMap Entry.symbols).map Symbol.handle).Nodup :=
    List.pairwise_map.2 (hpairwise.imp Symbol.Before.handle_ne)
  obtain ⟨s, hs, rfl⟩ := Option.map_eq_some_iff.1 hr
  rw [H.candidates_eq hhandles] at hs
  obtain ⟨hmem, hmethod⟩ := mem_of_find?_or_head? hs
  obtain ⟨file, hd⟩ := mem_named.1 hmem
  have hd := declaredIn_inOrder.1 hd
  refine ⟨file, s, hd, rfl, fun file' s' hd' => ?_⟩
  have hmem' : s' ∈ named (inOrder es) name := mem_named.2 ⟨file', declaredIn_inOrder.2 hd'⟩
  refine ⟨fun hk => ?_, fun hk => ?_⟩
  · by_contra hk'
    have := hmethod ⟨s', hmem', decide_eq_true hk'⟩
    exact of_decide_eq_true this hk
  · have hfirst := first_of_pairwise (hpairwise.filter _) hs hmem' fun hs =>
      decide_eq_true (mt hk (of_decide_eq_true hs))
    rw [← hd.file hp, ← hd'.file hp]
    rcases hfirst with rfl | hlt | ⟨hfile, hslot⟩
    · exact .inr ⟨rfl, Int.le_refl _⟩
    · exact .inl hlt
    · exact .inr ⟨hfile, Int.le_of_lt hslot⟩

end Law

/-- In a project in which no path occurs twice, what a use is resolved to follows from what is known
of it. -/
theorem resolve_preference (roots : List Path) (hn : (es.map Entry.path).Nodup) (u : Use) :
    Preference (ofEntries roots es) es u := by
  have H := holds_ofEntries roots es
  constructor
  case means => exact fun h hr => resolve_ofEntries hr
  case declared => exact fun m file hm hf h => H.resolve_declared hn hm hf h
  case undeclared => exact fun m file hm hf h => H.resolve_undeclared hn hm hf h
  case member => exact fun m h hm hf hr => H.resolve_member hn hm hf hr
  case exists_member =>
    exact fun parent owner file s hm hf hp ho hs hfile hd hc =>
      H.resolve_exists_member hn hm hf hp ho hs hfile hd hc
  case receiver => exact fun c h hm hc hr => H.resolve_receiver hn hm hc hr
  case exists_receiver => exact fun c s hm hc hd hs => H.resolve_exists_receiver hn hm hc hd hs
  case here => exact fun hm hc h => H.resolve_here hn hm hc h
  case exists_anywhere => exact fun file s hm hc hd => H.exists_resolve hn hm hc hd
  case elsewhere =>
    intro hp hm hc h k hr
    rw [H.resolve_elsewhere hn hm hc h] at hr
    exact H.resolveAnywhere_first hn hp hr
  case file => exact fun hp file s hd => hd.file hp

/-- A function in a later file is preferred to a method in an earlier one. -/
theorem resolve_preference_two_files :
    let span : Range := .ofCoords 0 0 0 1
    let entry (path : String) (kind : SymbolKind) (container : Option String) : Entry :=
      { path, language := "python",
        symbols := [{ name := "f", kind, file := path, range := span, slot := 0, container }] }
    let es := [entry "/p/a.py" .method (some "A"), entry "/p/b.py" .function none]
    let u : Use := ⟨"/p/c.py", span, "f", none, none, none, false⟩
    (es.map Entry.path).Nodup ∧ (ofEntries [] es).resolve u = some ⟨"/p/b.py", 0⟩ := by
  intro span entry es u
  have hn : (es.map Entry.path).Nodup := by decide
  have P := resolve_preference [] hn u
  have placed : ∀ e ∈ es, e.Placed := by
    intro e he
    rcases List.mem_pair.1 he with rfl | rfl
    all_goals
      refine ⟨fun i s hs => ?_, by simp [entry]⟩
      obtain ⟨hi, rfl⟩ := List.getElem?_eq_some_iff.1 hs
      obtain rfl : i = 0 := by simpa [entry] using hi
      rfl
  have habsent : ¬ ∃ s, DeclaredIn es u.file u.name s := by
    rintro ⟨s, e, he, hpath, -⟩
    rcases List.mem_pair.1 he with rfl | rfl <;> simp [entry, u] at hpath
  have hf : DeclaredIn es "/p/b.py" u.name (entry "/p/b.py" .function none).symbols[0] :=
    ⟨_, List.mem_cons_of_mem _ List.mem_cons_self, rfl, List.mem_cons_self, rfl⟩
  obtain ⟨h, hr⟩ := P.exists_anywhere _ _ rfl rfl hf
  obtain ⟨file, s, ⟨e, he, rfl, hs, -⟩, rfl, hfirst⟩ := P.elsewhere placed rfl rfl habsent h hr
  refine ⟨hn, hr.trans ?_⟩
  have hkind := (hfirst _ _ hf).1
  rcases List.mem_pair.1 he with rfl | rfl
  · obtain rfl := List.mem_singleton.1 hs
    cases hkind rfl
  · obtain rfl := List.mem_singleton.1 hs
    rfl

end NameTable
end CodeAtlas
