import Mathlib
import CodeAtlas.Proofs.Data.Except
import CodeAtlas.Proofs.Indexer.Failure
import CodeAtlas.Settings.Config

/-!
# How loading the settings ends

What a configuration file says is given to the settings as a mapping (`Config.Given`). Loading them
comes to settings that were checked, to a fault of configuration (`Config.Flaw`), or to an error that
is none (`Config.Stray`): the bytes of the file are no text, or a number, a date, a truth value or an
escaped character in the document stands for nothing. `Config.load_ok_iff` and
`Config.load_error_iff` say so for every file system, path and key, and `Config.load_classified`
gathers what follows.
-/

namespace CodeAtlas

/-! ## Results of checks -/

/-- If the check passes, then with a value of which `P` holds. -/
def Checked.Ensures {α : Type} (x : Checked α) (P : α → Prop) : Prop := ∀ a, x = .ok a → P a

namespace Checked.Ensures

variable {α β : Type} {P : β → Prop} {Q : α → Prop}

theorem map {g : α → β} {x : Checked α} (h : ∀ a, Q a → P (g a)) (hx : x.Ensures Q) :
    (g <$> x).Ensures P := by
  intro b hb
  cases x with
  | ok a =>
    cases hb
    exact h a (hx a rfl)
  | wrong cs => cases hb

theorem seq {f : Checked (α → β)} {x : Checked α} (hf : f.Ensures fun g => ∀ a, Q a → P (g a))
    (hx : x.Ensures Q) : (f <*> x).Ensures P := by
  intro b hb
  cases f with
  | ok g => cases x with
    | ok a =>
      cases hb
      exact hf g rfl a (hx a rfl)
    | wrong cs => cases hb
  | wrong cs => cases x <;> cases hb

/-- What is said of the result does not depend on the last argument. -/
theorem left {f : Checked (α → β)} {x : Checked α} (hf : f.Ensures fun g => ∀ a, P (g a)) :
    (f <*> x).Ensures P :=
  .seq (fun g hg a _ => hf g hg a) fun _ _ => trivial

theorem mapping {read : Value → Checked β} {v : Value} (h : (read v).Ensures P) :
    (Settings.mapping read v).Ensures P := by
  cases v <;> first | exact h | exact nofun

/-- What is read from a field is its default, or what its value is read as. -/
theorem field {v : Value} {name : String} {fallback : β} {read : Value → Checked β}
    (hd : P fallback) (hr : ∀ x, (read x).Ensures P) :
    (Settings.field v name fallback read).Ensures P := by
  intro b hb
  rw [Settings.field] at hb
  split at hb
  · cases hb
    exact hd
  · next x _ =>
    refine hr x b ?_
    cases hx : read x with
    | ok a => simpa [hx, inside] using hb
    | wrong cs => simp [hx, inside] at hb

end Checked.Ensures

namespace Settings

theorem positive_ensures (v : Value) : (positive v).Ensures (1 ≤ ·) := by
  intro i h
  rw [positive] at h
  split at h
  · split at h
    · cases h
      assumption
    · cases h
  · next hw => exact absurd h (hw i)

theorem indexing_ensures (v : Value) :
    (indexing v).Ensures fun c => 1 ≤ c.embeddingConcurrency :=
  .mapping <| .left <| .left <| .left <| .seq
    (.left <| .left <| .left <| .left <| .left <| .left <|
      .map (fun _ _ _ _ _ _ _ _ _ h _ _ _ => h) fun _ _ => trivial)
    (.field (by decide) positive_ensures)

theorem config_ensures (v : Value) :
    (config v).Ensures fun c => 1 ≤ c.indexing.embeddingConcurrency :=
  .mapping <| .left <| .left <|
    .map (fun _ h _ _ => h) (.field (by decide) indexing_ensures)

end Settings

/-! ## Loading -/

namespace FileSystem

variable {fs : FileSystem} {p : Path}

theorem isFile_of_bytes {bytes : List UInt8} (h : fs.bytes p = .ok bytes) : fs.isFile p = true := by
  rw [FileSystem.bytes] at h
  split at h
  · cases h
  · split at h
    · simp [isFile, target?, *]
    · cases h
    · cases h

/-- What can be read as text, or is found to be none, is a file. -/
theorem isFile_of_readText {r : Except ReadError String} (h : fs.readText p = r)
    (hr : ∀ cause, r ≠ .error (.refused cause)) : fs.isFile p = true := by
  rw [readText] at h
  split at h
  · exact absurd h.symm (hr _)
  · next hb => exact isFile_of_bytes hb

end FileSystem

namespace Config

/-- The settings with a key of the environment where they have none. -/
def withKey (c : Config) (environmentKey : Option String) : Config :=
  { c with model.apiKey := match c.model.apiKey with
      | some k => some k
      | none => environmentKey.filter (· ≠ "") }

/-- The file at a path holds a document that says `v`. -/
def Says (fs : FileSystem) (p : Path) (v : Value) : Prop :=
  ∃ text, fs.readText p = .ok text ∧ Document.load text = .ok v

/-- What is given to the settings: the fields that a file says, and none where there is no file, or
where it says nothing. -/
inductive Given (fs : FileSystem) : Option Path → Value → Prop
  | unnamed : Given fs none (.mapping [])
  | missing {p} (h : fs.isFile p = false) : Given fs (some p) (.mapping [])
  | void {p v} (h : Says fs p v) (hv : isVoid v = true) : Given fs (some p) (.mapping [])
  | fields {p fields} (h : Says fs p (.mapping fields)) : Given fs (some p) (.mapping fields)

/-- The faults of configuration that loading settings can find. -/
inductive Flaw (fs : FileSystem) : Option Path → Error → Prop
  | refused {p cause} (hf : fs.isFile p = true) (h : fs.readText p = .error (.refused cause)) :
    Flaw fs (some p) (.configUnreadable p.toText)
  | malformed {p text} (h : fs.readText p = .ok text)
      (hl : Document.load text = .error .malformed) : Flaw fs (some p) (.configUnreadable p.toText)
  | notMapping {p v} (h : Says fs p v) (hv : isVoid v = false) (hm : ∀ fields, v ≠ .mapping fields) :
    Flaw fs (some p) (.configNotMapping p.toText v.typeName)
  | invalid {path v complaints} (h : Given fs path v)
      (hc : Settings.config v = .wrong complaints) : Flaw fs path (.configInvalid complaints)

/-- The other errors that loading settings from a file can end with. -/
inductive Stray (fs : FileSystem) (p : Path) : Error → Prop
  /-- The bytes of the file are no text. -/
  | notText (h : fs.readText p = .error .notText) : Stray fs p .notText
  /-- Something in the document does not stand for what it is marked as or looks like. -/
  | scalar {text t} (h : fs.readText p = .ok text) (hl : Document.load text = .error t)
      (ht : t ≠ .malformed) : Stray fs p (troubleOf p t)

variable {fs : FileSystem} {path : Option Path} {p : Path} {v : Value} {e : Error}
  {key : Option String} {c : Config}

theorem troubleOf_isConfiguration_iff {t : Document.Trouble} :
    (troubleOf p t).IsConfiguration ↔ t = .malformed := by
  constructor
  · intro h
    cases t <;> first | rfl | cases h
  · rintro rfl
    exact .unreadable _

theorem Stray.not_isConfiguration (h : Stray fs p e) : ¬ e.IsConfiguration := by
  cases h with
  | notText => exact nofun
  | scalar _ _ ht => exact mt troubleOf_isConfiguration_iff.1 ht

theorem Flaw.isConfiguration (h : Flaw fs path e) : e.IsConfiguration := by
  cases h <;> constructor

/-! ## What comes of a file -/

theorem Says.isFile (h : Says fs p v) : fs.isFile p = true := by
  obtain ⟨text, hr, -⟩ := h
  exact FileSystem.isFile_of_readText hr nofun

/-- How the value of a file comes about, case by case. -/
theorem fileValue_cases (fs : FileSystem) (p : Path) :
    (∃ v, fileValue fs p = .ok v ∧ Given fs (some p) v) ∨
      (∃ e, fileValue fs p = .error e ∧ (Flaw fs (some p) e ∨ Stray fs p e)) := by
  rw [fileValue]
  split
  · next hf =>
    split
    · next h => exact .inr ⟨_, rfl, .inl (.refused hf h)⟩
    · next h => exact .inr ⟨_, rfl, .inr (.notText h)⟩
    · next text h =>
      split
      · next t hl =>
        refine .inr ⟨_, rfl, ?_⟩
        by_cases ht : t = .malformed
        · subst ht
          exact .inl (.malformed h hl)
        · exact .inr (.scalar h hl ht)
      · next v hl =>
        split
        · next hv => exact .inl ⟨_, rfl, .void ⟨text, h, hl⟩ hv⟩
        · next hv =>
          split
          · exact .inl ⟨_, rfl, .fields ⟨text, h, hl⟩⟩
          · next hm => exact .inr ⟨_, rfl, .inl (.notMapping ⟨text, h, hl⟩ (by simpa using hv) hm)⟩
  · next hf => exact .inl ⟨_, rfl, .missing (by simpa using hf)⟩

theorem Given.fileValue_eq (h : Given fs (some p) v) : fileValue fs p = .ok v := by
  cases h with
  | missing h => simp [fileValue, h]
  | void h hv =>
    obtain ⟨text, hr, hl⟩ := id h
    simp [fileValue, h.isFile, hr, hl, hv]
  | @fields _ fields h =>
    obtain ⟨text, hr, hl⟩ := id h
    cases fields <;> simp [fileValue, h.isFile, hr, hl, isVoid]

theorem Stray.fileValue_eq (h : Stray fs p e) : fileValue fs p = .error e := by
  cases h with
  | notText h => simp [fileValue, FileSystem.isFile_of_readText h nofun, h]
  | scalar h hl _ => simp [fileValue, FileSystem.isFile_of_readText h nofun, h, hl]

/-! ## Loading -/

/-- The settings that a value gives, with a key of the environment where they have none. -/
def checked (key : Option String) (v : Value) : Except Error Config :=
  match Settings.config v with
  | .wrong cs => .error (.configInvalid cs)
  | .ok c => .ok (c.withKey key)

theorem load_none : load fs none key = checked key (.mapping []) := rfl

theorem load_some : load fs (some p) key = fileValue fs p >>= checked key := rfl

theorem checked_eq_ok_iff : checked key v = .ok c ↔
    ∃ c₀, Settings.config v = .ok c₀ ∧ c = c₀.withKey key := by
  unfold checked
  split <;> simp [*, eq_comm]

theorem checked_eq_error_iff : checked key v = .error e ↔
    ∃ cs, Settings.config v = .wrong cs ∧ e = .configInvalid cs := by
  unfold checked
  split <;> simp [*, eq_comm]

theorem Given.load_eq (h : Given fs path v) : load fs path key = checked key v := by
  cases path with
  | none =>
    cases h
    exact load_none
  | some p =>
    rw [load_some, h.fileValue_eq]
    rfl

theorem load_eq_of_fileValue (h : fileValue fs p = .error e) :
    load fs (some p) key = .error e := by
  rw [load_some, h]
  rfl

theorem Stray.load_eq (h : Stray fs p e) : load fs (some p) key = .error e :=
  load_eq_of_fileValue h.fileValue_eq

theorem Flaw.load_eq (h : Flaw fs path e) : load fs path key = .error e := by
  cases h with
  | refused hf h => exact load_eq_of_fileValue (by simp [fileValue, hf, h])
  | malformed h hl =>
    refine load_eq_of_fileValue ?_
    simp [fileValue, FileSystem.isFile_of_readText h nofun, h, hl, troubleOf]
  | notMapping h hv hm =>
    obtain ⟨text, hr, hl⟩ := id h
    exact load_eq_of_fileValue (by simp [fileValue, h.isFile, hr, hl, hv])
  | invalid h hc => rw [h.load_eq, checked_eq_error_iff.2 ⟨_, hc, rfl⟩]

/-- Either something is given to the settings, or there is a fault or another error. -/
theorem given_or (fs : FileSystem) (path : Option Path) :
    (∃ v, Given fs path v) ∨ ∃ e, Flaw fs path e ∨ ∃ p, path = some p ∧ Stray fs p e := by
  cases path with
  | none => exact .inl ⟨_, .unnamed⟩
  | some p =>
    obtain ⟨v, -, h⟩ | ⟨e, -, h⟩ := fileValue_cases fs p
    · exact .inl ⟨v, h⟩
    · exact .inr ⟨e, h.imp_right fun h => ⟨p, rfl, h⟩⟩

/-- Loading comes to settings exactly if they are those of what is given to them. -/
theorem load_ok_iff : load fs path key = .ok c ↔
    ∃ v c₀, Given fs path v ∧ Settings.config v = .ok c₀ ∧ c = c₀.withKey key := by
  constructor
  · intro h
    obtain ⟨v, hv⟩ | ⟨e, he | ⟨p, rfl, he⟩⟩ := given_or fs path
    · obtain ⟨c₀, hc, rfl⟩ := checked_eq_ok_iff.1 (hv.load_eq.symm.trans h)
      exact ⟨v, c₀, hv, hc, rfl⟩
    all_goals cases he.load_eq.symm.trans h
  · rintro ⟨v, c₀, hv, hc, rfl⟩
    exact hv.load_eq.trans (checked_eq_ok_iff.2 ⟨c₀, hc, rfl⟩)

/-- Loading fails exactly with faults of configuration and the other errors. -/
theorem load_error_iff : load fs path key = .error e ↔
    Flaw fs path e ∨ ∃ p, path = some p ∧ Stray fs p e := by
  constructor
  · intro h
    obtain ⟨v, hv⟩ | ⟨e', he⟩ := given_or fs path
    · obtain ⟨cs, hc, rfl⟩ := checked_eq_error_iff.1 (hv.load_eq.symm.trans h)
      exact .inl (.invalid hv hc)
    · have h' : load fs path key = .error e' := by
        obtain he | ⟨p, rfl, he⟩ := he
        · exact he.load_eq
        · exact he.load_eq
      cases h'.symm.trans h
      exact he
  · rintro (h | ⟨p, rfl, h⟩)
    · exact h.load_eq
    · exact h.load_eq

/-- **How loading ends.** The settings that it comes to were read from what is given to them and
checked. The errors that it ends with are faults of configuration, except those of a file whose bytes
are no text or whose document holds what does not stand for what it looks like. A document that is
no mapping is a fault of configuration unless it says nothing: nothing at all, falsehood, zero, or a
text, bytes, a list or a set without anything in it. -/
theorem load_classified (fs : FileSystem) (path : Option Path) (key : Option String) :
    (∀ c, load fs path key = .ok c → 1 ≤ c.indexing.embeddingConcurrency ∧
      ∃ v c₀, Given fs path v ∧ Settings.config v = .ok c₀ ∧ c = c₀.withKey key) ∧
    (∀ e, load fs path key = .error e ∧ ¬ e.IsConfiguration ↔ ∃ p, path = some p ∧ Stray fs p e) ∧
    ∀ p v, path = some p → Says fs p v → (∀ fields, v ≠ .mapping fields) →
      ((∃ e, load fs path key = .error e ∧ e.IsConfiguration) ↔ isVoid v = false) := by
  refine ⟨fun c h => ?_, fun e => ⟨?_, ?_⟩, ?_⟩
  · obtain ⟨v, c₀, hv, hc, rfl⟩ := load_ok_iff.1 h
    exact ⟨Settings.config_ensures v c₀ hc, v, c₀, hv, hc, rfl⟩
  · rintro ⟨h, he⟩
    exact (load_error_iff.1 h).resolve_left fun hflaw => he hflaw.isConfiguration
  · rintro ⟨p, rfl, h⟩
    exact ⟨h.load_eq, h.not_isConfiguration⟩
  · rintro p v rfl h hm
    constructor
    · rintro ⟨e, he, -⟩
      by_contra hv
      cases ((Given.void h (by simpa using hv)).load_eq).symm.trans he
    · intro hv
      exact ⟨_, (Flaw.notMapping h hv hm).load_eq, .notMapping _ _⟩

/-- A tree with a single file. -/
def soleFile (bytes : List UInt8) : FileSystem :=
  ⟨.ofList [(["c.yaml"], .file bytes)], .root, [], []⟩

/-- The document `false` is no mapping, and loading it is no fault of configuration: it gives the
settings by default. -/
theorem falsehood_classified :
    Says (soleFile [0x66, 0x61, 0x6c, 0x73, 0x65]) (.ofText "/c.yaml") (.bool false) ∧
      ¬ ∃ e, load (soleFile [0x66, 0x61, 0x6c, 0x73, 0x65]) (some (.ofText "/c.yaml")) none =
        .error e ∧ e.IsConfiguration := by
  have h : Says (soleFile [0x66, 0x61, 0x6c, 0x73, 0x65]) (.ofText "/c.yaml") (.bool false) :=
    ⟨"false", by cbv, by cbv⟩
  have hm : ∀ fields, Value.bool false ≠ .mapping fields := by
    intro fields hf
    cases hf
  exact ⟨h, fun he => absurd (((load_classified _ _ none).2.2 _ _ rfl h hm).1 he) (by decide)⟩

/-- A file of one byte that is no text is no fault of configuration. -/
theorem undecodable_stray :
    ∃ e, load (soleFile [0xff]) (some (.ofText "/c.yaml")) none = .error e ∧
      ¬ e.IsConfiguration :=
  have h : Stray (soleFile [0xff]) (.ofText "/c.yaml") .notText := .notText (by cbv)
  ⟨_, h.load_eq, h.not_isConfiguration⟩

end Config
end CodeAtlas
