import CodeAtlas.Extract.Extractor
import CodeAtlas.Proofs.Offside.Spans
import CodeAtlas.Proofs.Script.Spans
import CodeAtlas.Proofs.Source.Excerpts

/-!
# Excerpts of declarations

The range of a declaration that an extractor finds is that of a span that the parser gives to a
declaration of this name. As long as the text breaks into lines alike for the parser and for excerpts,
the excerpt of the range is the text of the span (`Extractor.excerpt_of_mem_declarations`). Behind any
other line break excerpts are those of other lines (`Extractor.separator_shifts`).
-/

namespace CodeAtlas

/-! ## Files that can be parsed -/

theorem Offside.exists_module {file content : String} {x : Extraction}
    (h : Offside.extract file content = .ok x) :
    ∃ m, Offside.Module.parse content = .ok m ∧
      m.extract file (ColumnMap.ofText content.toList) = x := by
  unfold Offside.extract at h
  split at h
  · next m hm => exact ⟨m, hm, Except.ok.inj h⟩
  · cases h

theorem Script.exists_program {d : Script.Dialect} {file content : String} {x : Extraction}
    (h : Script.extract d file content = .ok x) :
    ∃ p, Script.Program.parse? d content = some p ∧
      p.extract file (ColumnMap.ofText content.toList) = x := by
  unfold Script.extract at h
  split at h
  · next p hp => exact ⟨p, hp, Except.ok.inj h⟩
  · cases h

theorem Extractor.exists_dialect {languages : List String} {language file content : String}
    {x : Extraction} (h : (script languages).extract language file content = .ok (.ok x)) :
    ∃ d, scriptDialect? language = some d ∧ Script.extract d file content = .ok x := by
  unfold extract at h
  cases hd : scriptDialect? language with
  | none =>
    rw [hd] at h
    cases h
  | some d =>
    rw [hd] at h
    dsimp only at h
    split at h
    · exact ⟨d, rfl, Except.ok.inj h⟩
    · cases h

/-! ## Excerpts -/

namespace Offside.Module

/-- Each recorded declaration has the range of the span of a name that the source declares. -/
theorem exists_declared (m : Module) (file : String) (columns : ColumnMap) {d : Declaration}
    (hd : d ∈ (m.extract file columns).declarations) :
    ∃ span, (d.name, span) ∈ m.declared ∧ d.range = span.toRange columns := by
  obtain ⟨e, he, rfl⟩ := List.mem_map.1 hd
  have hmem := List.mem_map_of_mem (f := fun d : Definition => (d.name, d.span)) he
  exact ⟨e.span, m.definitions_subset hmem, rfl⟩

end Offside.Module

namespace Extractor

/-- The names that a file declares, each with the span that the parser gives to the declaration. -/
def declared (e : Extractor) (language content : String) : List (String × Span) :=
  match e with
  | offside =>
    match Offside.Module.parse content with
    | .ok m => m.declared
    | .error _ => []
  | script _ =>
    match (scriptDialect? language).bind fun d => Script.Program.parse? d content with
    | some p => p.declared
    | none => []

/-- Whether carriage returns end lines for the parser. -/
def returnsEndLines : Extractor → Bool
  | offside => true
  | script _ => false

variable {e : Extractor} {language file content : String} {x : Extraction}

/-- The range of a declaration is that of the span that the parser gives to it. Wherever the line ends
agree, the excerpt of the range is the text of the span. -/
theorem excerpt_of_mem_declarations (h : e.extract language file content = .ok (.ok x)) :
    ∀ d ∈ x.declarations, ∃ span, (d.name, span) ∈ e.declared language content ∧
      d.range = span.toRange (ColumnMap.ofText content.toList) ∧ span.start ≤ span.stop ∧
      (Text.Agrees e.returnsEndLines content.toList span.start →
        Text.Agrees e.returnsEndLines content.toList span.stop →
        Text.excerpt content d.range =
          String.ofList (Text.between e.returnsEndLines content.toList span)) := by
  intro d hd
  cases e with
  | offside =>
    obtain ⟨m, hm, rfl⟩ := Offside.exists_module (Except.ok.inj h)
    obtain ⟨span, hspan, hrange⟩ := m.exists_declared file _ hd
    have hcovers := Offside.Module.covers_of_mem_declared hm hspan
    refine ⟨span, by simpa [declared, hm] using hspan, hrange, hcovers.lt.le, fun ha hb => ?_⟩
    rw [hrange]
    exact Text.excerpt_between (hcovers.start.isPlace ha) (hcovers.stop.isPlace hb) hcovers.lt.le
      ha hb
  | script languages =>
    obtain ⟨dialect, hdialect, h⟩ := exists_dialect h
    obtain ⟨p, hp, rfl⟩ := Script.exists_program h
    obtain ⟨span, hspan, hrange⟩ := p.exists_declared file _ hd
    have hspans := Script.Program.spans_of_mem_declared hp hspan
    refine ⟨span, by simpa [declared, hdialect, hp] using hspan, hrange, hspans.le,
      fun ha hb => ?_⟩
    rw [hrange]
    exact Text.excerpt_between hspans.start hspans.stop hspans.le ha hb

/-- A class and its variables, written with characters of several bytes. -/
def accented : String := "class A:\n    s = '\u65e5\u672c'; n = 1\n"

set_option maxRecDepth 100000 in
theorem accented_excerpts :
    ∃ x, offside.extract "python" "a.py" accented = .ok (.ok x) ∧
      x.declarations.map Declaration.name = ["A", "s", "n"] ∧
      ∀ d ∈ x.declarations, ∃ span, (d.name, span) ∈ offside.declared "python" accented ∧
        d.range = span.toRange (ColumnMap.ofText accented.toList) ∧
        Text.excerpt accented d.range = String.ofList (Text.between true accented.toList span) := by
  obtain ⟨m, hm, hnames, hagree⟩ := Offside.Module.exists_parse accented (fun m =>
    (m.extract "a.py" (ColumnMap.ofText accented.toList)).declarations.map Declaration.name =
        ["A", "s", "n"] ∧
      ∀ x ∈ m.declared, Text.Agrees true accented.toList x.2.start ∧
        Text.Agrees true accented.toList x.2.stop) (by decide +kernel)
  have hx : offside.extract "python" "a.py" accented =
      .ok (.ok (m.extract "a.py" (ColumnMap.ofText accented.toList))) := by
    simp [extract, Offside.extract, hm]
  refine ⟨_, hx, hnames, fun d hd => ?_⟩
  obtain ⟨span, hspan, hrange, -, hexcerpt⟩ := excerpt_of_mem_declarations hx d hd
  have hmem : (d.name, span) ∈ m.declared := by simpa [declared, hm] using hspan
  exact ⟨span, hspan, hrange, hexcerpt (hagree _ hmem).1 (hagree _ hmem).2⟩

/-- Two statements, the first of which holds a line separator. -/
def separated : String := "s = '\u2028'\nx = 1\n"

set_option maxRecDepth 100000 in
/-- The line separator in the string of the first statement shifts the excerpt of the second. -/
theorem separator_shifts :
    ∃ x, offside.extract "python" "a.py" separated = .ok (.ok x) ∧ ∃ d ∈ x.declarations,
      d.name = "x" ∧ Text.excerpt separated d.range = "'\n" ∧
      offside.declared "python" separated =
        [("s", ⟨⟨1, 0⟩, ⟨1, 9⟩⟩), ("x", ⟨⟨2, 0⟩, ⟨2, 5⟩⟩)] ∧
      Text.between true separated.toList ⟨⟨2, 0⟩, ⟨2, 5⟩⟩ = "x = 1".toList := by
  obtain ⟨m, hm, hdeclared, hd⟩ := Offside.Module.exists_parse separated (fun m =>
    m.declared = [("s", ⟨⟨1, 0⟩, ⟨1, 9⟩⟩), ("x", ⟨⟨2, 0⟩, ⟨2, 5⟩⟩)] ∧
    ∃ d ∈ (m.extract "a.py" (ColumnMap.ofText separated.toList)).declarations,
      d.name = "x" ∧ Text.excerpt separated d.range = "'\n") (by decide +kernel)
  obtain ⟨d, hmem, hname, hexcerpt⟩ := hd
  refine ⟨_, by simp [extract, Offside.extract, hm], d, hmem, hname, hexcerpt, ?_, by
    decide +kernel⟩
  simpa [declared, hm] using hdeclared

end Extractor
end CodeAtlas
