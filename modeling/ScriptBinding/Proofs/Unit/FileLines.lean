import ScriptBinding.Proofs.Text.Lines
import ScriptBinding.Proofs.Unit.Alphabet

/-!
The lines of a source file. They are read back from the file as they were written, and every include
names one header. The header of the implementation is the only text that is printed as it was given,
without a check and without escapes, and so the only one that can break this.
-/
namespace ScriptBinding

namespace Text

/-- If a line begins an include with a quoted name, then the name is closed at the end of the line,
and nowhere else. -/
def ClosesInclude (t : Text) : Prop :=
  t.startsWith "#include \"" → t.count (.scalar '"') = 2 ∧ t.getLast? = some (.scalar '"')

instance (t : Text) : Decidable t.ClosesInclude :=
  inferInstanceAs (Decidable (_ → _))

theorem closesInclude_include (header : Text) :
    ("#include \"" ++ header ++ "\"" : Text).ClosesInclude ↔ .scalar '"' ∉ header := by
  have begun : ("#include \"" ++ header ++ "\"" : Text).startsWith "#include \"" := by
    rw [startsWith, List.append_assoc, List.isPrefixOf_iff_prefix]
    exact List.prefix_append _ _
  have last : ("#include \"" ++ header ++ "\"" : Text).getLast? = some (.scalar '"') := by
    rw [List.getLast?_append]
    rfl
  have opening : List.count (.scalar '"') ("#include \"" : Text) = 1 := by decide
  have closing : List.count (.scalar '"') ("\"" : Text) = 1 := by decide
  rw [ClosesInclude, List.count_append, List.count_append, opening, closing, last,
    ← List.count_eq_zero]
  simp only [begun, and_true, forall_const]
  omega

theorem closesInclude_of_head? {t : Text} (other : t.head? ≠ some (.scalar '#')) :
    t.ClosesInclude := by
  intro begun
  obtain ⟨rest, rfl⟩ := List.isPrefixOf_iff_prefix.mp begun
  exact absurd rfl other

end Text

namespace ModulePlan

variable (p : ModulePlan)

/-- The lines of the source file below its banner. -/
def linesBelowBanner : List Text := p.sourceLines.drop p.bannerLines.length

theorem linesBelowBanner_eq :
    p.linesBelowBanner = p.includeLines ++
      ([] :: p.namespaceLine :: (p.insideLines ++ [p.namespaceEnd])) := by
  rw [linesBelowBanner, sourceLines_eq_append, List.append_assoc, List.drop_left]

end ModulePlan

namespace Module

section
variable {m : Module} (h : m.WellFormed) {options : Options}
include h

/-- The lines of the source file are those of the emitter, as long as the header of the
implementation is in one line. -/
theorem lines_source_eq_iff (names : ∀ name ∈ m.names, .scalar '\n' ∉ name)
    (plain : ∀ t ∈ options.namespaceName :: options.includeRoot :: options.extraIncludes,
      .scalar '\n' ∉ t) :
    (m.planned options).source.lines = (m.planned options).sourceLines ++ [[]] ↔
      .scalar '\n' ∉ m.implementation := by
  have printable : ∀ p : CodePoint, p.isPrintable → p ≠ .scalar '\n' := CodePoint.ne_of_kind rfl
  have banner : ∀ t ∈ options.banner.lines, t.Over (· ≠ .scalar '\n') := fun t mem =>
    Text.over_ne.mpr (Text.feed_not_mem_of_mem_lines mem)
  rw [List.forall_mem_cons, List.forall_mem_cons] at plain
  simp only [← Text.over_ne] at names plain
  have lines := over_sourceLines_iff printable h names banner plain.1 plain.2.1 plain.2.2
  simp only [Text.over_ne] at lines
  rw [ModulePlan.source_eq_join]
  exact (Text.lines_join_eq_iff (m.planned options).sourceLines_ne_nil).trans lines

theorem forall_closesInclude_iff
    (plain : ∀ t ∈ options.includeRoot :: options.extraIncludes, .scalar '"' ∉ t) :
    (∀ t ∈ (m.planned options).linesBelowBanner, t.ClosesInclude) ↔
      .scalar '"' ∉ m.implementation := by
  have id : .scalar '"' ∉ m.id := Text.not_mem_of_isIdentifier h.id (by decide)
  have inside : ∀ t ∈ (m.planned options).insideLines, t.ClosesInclude := by
    have glue : ∀ p : CodePoint, p.isGlue → p ≠ .scalar '#' := CodePoint.ne_of_kind rfl
    have names : ∀ name ∈ m.names, name.Over (· ≠ .scalar '#') := fun name mem =>
      Text.over_ne.mpr (Text.not_mem_of_isIdentifier (h.isIdentifier_of_mem_names name mem)
        (by decide))
    intro t mem
    refine Text.closesInclude_of_head? fun begun => ?_
    exact over_insideLines glue h names options t mem _ (List.mem_of_head? begun) rfl
  have others : Text.ClosesInclude [] ∧ (m.planned options).namespaceLine.ClosesInclude ∧
      (m.planned options).namespaceEnd.ClosesInclude := by
    refine ⟨by decide, Text.closesInclude_of_head? ?_, Text.closesInclude_of_head? ?_⟩
    · show some (CodePoint.scalar 'n') ≠ _
      decide
    · show some (CodePoint.scalar '\x7d') ≠ _
      decide
  have headers : .scalar '"' ∉ headerName m.id ∧ ∀ t ∈ runtimeIncludes, .scalar '"' ∉ t := by
    refine ⟨?_, by decide⟩
    simp [headerName, id, Text.ofString]
  rw [List.forall_mem_cons] at plain
  have implementation : (m.planned options).implementation.Over (· ≠ .scalar '"') ↔ _ :=
    over_implementation_iff (by decide) (Text.over_ne.mpr id) (Text.over_ne.mpr plain.1)
  have implementation : .scalar '"' ∉ (m.planned options).implementation ++ (".h" : Text) ↔
      .scalar '"' ∉ m.implementation := by
    simp only [Text.over_ne] at implementation
    rw [← implementation, List.mem_append, not_or]
    exact and_iff_left (by decide)
  rw [ModulePlan.linesBelowBanner_eq, ModulePlan.includeLines, ModulePlan.includes]
  simp only [List.forall_mem_append, List.forall_mem_map, List.forall_mem_cons,
    Text.closesInclude_include]
  constructor
  · rintro ⟨⟨⟨-, made, -⟩, -⟩, -⟩
    exact implementation.mp made
  · intro made
    exact ⟨⟨⟨headers, implementation.mpr made, List.forall_mem_nil _⟩, plain.2⟩, others.1,
      others.2.1, inside, others.2.2, List.forall_mem_nil _⟩

end

/-- If names and options have no line feeds and no double quotes, then the lines of the source file
are those of the emitter exactly if the header of the implementation has no line feed, and each
include is closed at the end of its line exactly if that has no double quote. -/
theorem one_line_each_iff {m : Module} (valid : m.isValid)
    (names : ∀ name ∈ m.names, .scalar '\n' ∉ name) {options : Options}
    (plain : ∀ t ∈ options.namespaceName :: options.includeRoot :: options.extraIncludes,
      .scalar '\n' ∉ t ∧ .scalar '"' ∉ t) :
    ∃ p, m.plan options = .ok p ∧ p.source = Text.join "\n" p.sourceLines ++ "\n" ∧
      p.sourceLines = p.bannerLines ++ p.linesBelowBanner ∧
      (p.source.lines = p.sourceLines ++ [[]] ↔ .scalar '\n' ∉ m.implementation) ∧
      ((∀ t ∈ p.linesBelowBanner, t.ClosesInclude) ↔ .scalar '"' ∉ m.implementation) := by
  have formed := wellFormed_of_isValid valid
  refine ⟨_, plan_eq_ok valid options, ModulePlan.source_eq_join _, ?_, ?_, ?_⟩
  · rw [ModulePlan.linesBelowBanner_eq, ModulePlan.sourceLines_eq_append, List.append_assoc]
  · exact lines_source_eq_iff formed names fun t mem => (plain t mem).1
  · exact forall_closesInclude_iff formed fun t mem => (plain t (List.mem_cons_of_mem _ mem)).2

theorem one_line_each_housed :
    (housed "core/dom/page").isValid ∧
      (∀ name ∈ (housed "core/dom/page").names, .scalar '\n' ∉ name) ∧
      ∃ p, (housed "core/dom/page").plan .standard = .ok p ∧
        p.source.lines = p.sourceLines ++ [[]] ∧ ∀ t ∈ p.linesBelowBanner, t.ClosesInclude := by
  have valid := isValid_housed "core/dom/page"
  have names : ∀ name ∈ (housed "core/dom/page").names, .scalar '\n' ∉ name := by decide
  have plain : ∀ t ∈ Options.standard.namespaceName :: Options.standard.includeRoot ::
      Options.standard.extraIncludes, .scalar '\n' ∉ t ∧ .scalar '"' ∉ t := by decide
  obtain ⟨p, planned, -, -, lines, includes⟩ := one_line_each_iff valid names plain
  exact ⟨valid, names, p, planned, lines.mpr (by decide), includes.mpr (by decide)⟩

/-- The header of an implementation is not checked: a line feed in it breaks its line in two, and a
double quote closes its include too early. -/
theorem not_one_line_each_housed :
    (∀ name ∈ (housed "a\nb").names ++ (housed "a\"b").names, .scalar '\n' ∉ name) ∧
      (∃ p, (housed "a\nb").plan .standard = .ok p ∧ p.source.lines ≠ p.sourceLines ++ [[]]) ∧
      ∃ p, (housed "a\"b").plan .standard = .ok p ∧
        ¬ ∀ t ∈ p.linesBelowBanner, t.ClosesInclude := by
  have broken := isValid_housed "a\nb"
  have closed := isValid_housed "a\"b"
  have names : ∀ name ∈ (housed "a\nb").names ++ (housed "a\"b").names, .scalar '\n' ∉ name := by
    decide
  refine ⟨names, ⟨_, plan_eq_ok broken _, ?_⟩, _, plan_eq_ok closed _, ?_⟩
  · rw [Ne, lines_source_eq_iff (wellFormed_of_isValid broken)
      (fun name mem => names name (List.mem_append_left _ mem)) (by decide)]
    decide
  · rw [forall_closesInclude_iff (wellFormed_of_isValid closed) (by decide)]
    decide

end Module

end ScriptBinding
