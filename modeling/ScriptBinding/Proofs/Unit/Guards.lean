import ScriptBinding.Proofs.Text.Casing
import ScriptBinding.Proofs.Text.Directives
import ScriptBinding.Proofs.Unit.Generation
import ScriptBinding.Proofs.Unit.Scopes

/-!
Headers that are included one behind the other. Each is compiled once, as long as no two have one
guard. A guard is the id of a unit in capitals, and this forgets what the file name keeps: a leading
underscore, the case of letters and the underscores where words part. Ids in snake case lose
nothing, but for a line feed at the end of one, which cuts its guard off.
-/
namespace ScriptBinding

namespace Text

/-- A name in capitals, once it is parted. -/
def capitals (t : Text) : Text := t.separated.map CodePoint.raised

/-- Two names that are the same in capitals, once they are parted. -/
def SameCapitals (t u : Text) : Prop := t.capitals = u.capitals

/-- Two names whose guards begin with the same word: a line feed behind one of them cuts off what
stands behind the other. -/
def SameMacro (t u : Text) : Prop :=
  t.capitals = u.capitals ∨ t.capitals = u.capitals ++ "_H_\n" ∨ u.capitals = t.capitals ++ "_H_\n"

theorem isNameTail_dropUnderscore {t : Text} (h : t.isName) : t.dropUnderscore.isNameTail := by
  cases t with
  | nil => rfl
  | cons p rest =>
      rw [isName, Bool.and_eq_true] at h
      rw [dropUnderscore]
      split
      · exact h.2
      · rw [isNameTail, if_pos (by simp [CodePoint.continuesName, h.1])]
        exact h.2

/-- No underscore is put behind a line feed that ends a name. -/
theorem isNameTail_parted {t : Text} (h : t.isNameTail) : t.parted.isNameTail := by
  induction t with
  | nil => rfl
  | cons p rest ih =>
      rw [isNameTail] at h
      rw [parted]
      split at h
      case isTrue continues =>
        have later := ih h
        have mark : (CodePoint.scalar '_').continuesName := by decide
        split
        · rw [isNameTail, if_pos continues, isNameTail, if_pos mark]
          exact later
        · rw [isNameTail, if_pos continues]
          exact later
      case isFalse =>
        rw [Bool.and_eq_true, decide_eq_true_eq, List.isEmpty_iff] at h
        obtain ⟨rfl, rfl⟩ := h
        rfl

theorem isNameTail_map_raised {t : Text} (h : t.isNameTail) :
    isNameTail (t.map CodePoint.raised) := by
  induction t with
  | nil => rfl
  | cons p rest ih =>
      rw [isNameTail] at h
      split at h
      case isTrue continues =>
        rw [List.map_cons, isNameTail, if_pos (CodePoint.continuesName_raised continues)]
        exact ih h
      case isFalse =>
        rw [Bool.and_eq_true, decide_eq_true_eq, List.isEmpty_iff] at h
        obtain ⟨rfl, rfl⟩ := h
        rfl

theorem capitals_eq_stem_or {t : Text} (h : t.isIdentifier) :
    t.capitals = t.capitals.stem ∨ t.capitals = t.capitals.stem ++ "\n" := by
  have tail := isNameTail_dropUnderscore (isName_of_isIdentifier h)
  apply eq_stem_or_of_isNameTail
  apply isNameTail_map_raised
  simp only [separated]
  split
  · exact tail
  · exact isNameTail_parted tail

/-- A name without capitals and without a leading underscore. -/
def inSnakeCase (t : Text) : Bool := !t.beginsWith '_' && t.all fun p => !p.isCapital

theorem not_isCapital_of_inSnakeCase {t : Text} (h : t.inSnakeCase) {p : CodePoint}
    (mem : p ∈ t) : p.isCapital = false := by
  rw [inSnakeCase, Bool.and_eq_true, List.all_eq_true] at h
  simpa using h.2 p mem

theorem capitals_of_inSnakeCase {t : Text} (h : t.inSnakeCase) :
    t.capitals = t.map CodePoint.raised := by
  have whole : t.dropUnderscore = t := by
    rw [inSnakeCase, Bool.and_eq_true] at h
    cases t with
    | nil => rfl
    | cons p rest =>
        have first : p ≠ .scalar '_' := by simpa [beginsWith] using h.1
        rw [dropUnderscore, if_neg first]
  have plain : t.parted = t := parted_of_no_capital fun p mem => not_isCapital_of_inSnakeCase h mem
  have separated : t.separated = t := by simp only [Text.separated, whole, plain, ite_self]
  rw [capitals, separated]

section
variable {t u : Text} (ht : t.inSnakeCase) (hu : u.inSnakeCase)
include ht hu

/-- In snake case nothing is lost, whatever of this kind stands behind a name. -/
theorem map_raised_eq_append_iff {tail : Text} (small : ∀ p ∈ tail, p.isCapital = false) :
    t.map CodePoint.raised = u.map CodePoint.raised ++ tail.map CodePoint.raised ↔
      t = u ++ tail := by
  have others : ∀ p ∈ u ++ tail, p.isCapital = false := List.forall_mem_append.mpr
    ⟨fun p mem => not_isCapital_of_inSnakeCase hu mem, small⟩
  rw [← List.map_append]
  refine ⟨map_raised_inj (fun p mem => not_isCapital_of_inSnakeCase ht mem) others, ?_⟩
  rintro rfl
  rfl

theorem sameCapitals_iff_of_inSnakeCase : t.SameCapitals u ↔ t = u := by
  rw [SameCapitals, capitals_of_inSnakeCase ht, capitals_of_inSnakeCase hu]
  simpa using map_raised_eq_append_iff ht hu (List.forall_mem_nil _)

theorem sameMacro_iff_of_inSnakeCase :
    t.SameMacro u ↔ t = u ∨ t = u ++ "_h_\n" ∨ u = t ++ "_h_\n" := by
  have tail : ("_H_\n" : Text) = List.map CodePoint.raised ("_h_\n" : Text) := by decide
  have small : ∀ p ∈ ("_h_\n" : Text), p.isCapital = false := by decide
  have same := sameCapitals_iff_of_inSnakeCase ht hu
  rw [SameCapitals, capitals_of_inSnakeCase ht, capitals_of_inSnakeCase hu] at same
  rw [SameMacro, capitals_of_inSnakeCase ht, capitals_of_inSnakeCase hu, tail, same,
    map_raised_eq_append_iff ht hu small, map_raised_eq_append_iff hu ht small]

end

end Text

namespace ModulePlan

variable (p : ModulePlan)

/-- The lines of the banner, and an empty line behind them. -/
def bannerLines : List Text := Code.allLinesAt glueIndent 0 (bannerCode p.options.banner)

/-- What stands between the guards of a header. -/
def declarationsCode : List Code :=
  [.blank, .line "#include <quickjs/quickjs.h>"] ++
  (if p.registrations.hasClass then [includeLine "bindings/qjs/wrapper_type_info.h"] else []) ++
  [.blank, p.namespaceOpening, .blank, .line "class ExecutingContext;", .blank] ++
  p.wrapperCode ++
  [.blank, p.namespaceClosing, .blank]

def declarations : List Text := Code.allLinesAt glueIndent 0 p.declarationsCode

theorem headerLines_guarded :
    p.headerLines = p.bannerLines ++ Text.guarded p.includeGuard p.declarations := by
  have code : p.headerCode = bannerCode p.options.banner ++
      ([.line ("#ifndef " ++ p.includeGuard), .line ("#define " ++ p.includeGuard)] ++
        (p.declarationsCode ++ [.line ("#endif  // " ++ p.includeGuard)])) := by
    simp [headerCode, declarationsCode]
  rw [headerLines, Emitter.toList_lines_hold, code]
  simp only [Code.allLinesAt_append, Code.allLinesAt, Code.linesAt, Code.indentedLine_zero]
  simp [bannerLines, declarations, Text.guarded]

/-- The line that includes the type info of a class, if there is one. -/
def typeInfoInclude (hasClass : Bool) : List Text :=
  if hasClass then ["#include \"bindings/qjs/wrapper_type_info.h\""] else []

theorem declarations_eq :
    p.declarations =
      [] :: "#include <quickjs/quickjs.h>" :: (typeInfoInclude p.registrations.hasClass ++
        ([] :: p.namespaceLine :: (wrapperAhead ++ p.wrapperLine ::
          (Code.allLinesAt glueIndent 0 (wrapperInside p.registrations.hasClass) ++
            [("\x7d;" : Text), [], p.namespaceEnd, []])))) := by
  have typeInfo : Code.allLinesAt glueIndent 0
      (if p.registrations.hasClass then [includeLine "bindings/qjs/wrapper_type_info.h"] else []) =
        typeInfoInclude p.registrations.hasClass := by
    cases p.registrations.hasClass <;> decide
  rw [declarations, declarationsCode, wrapperCode_eq]
  simp only [Code.allLinesAt_append, typeInfo, Code.allLinesAt, Code.linesAt,
    Code.indentedLine_zero, namespaceOpening, namespaceClosing, Code.blank]
  simp [wrapperAhead]

/-- The lines of a file between the guards of a header. -/
def declarationLines : List Text := p.declarations.flatMap Text.lines

/-- The macro that the guards of a header are about: the first word of its guard. -/
def guardMacro : Text := p.includeGuard.stem

def strayLines : List Text := p.includeGuard.strayLines

/-- A header is its lines, with the declarations of the unit between its guards. -/
structure HeaderGuarded : Prop where
  text : p.header = Text.join "\n" p.headerLines ++ "\n"
  lines : p.headerLines = p.bannerLines ++ Text.guarded p.includeGuard p.declarations
  wrapper : p.wrapperLine ∈ p.declarations

theorem headerGuarded : p.HeaderGuarded where
  text := p.header_eq_join
  lines := p.headerLines_guarded
  wrapper := by simp [declarations_eq]

theorem headerLines_ne_nil : p.headerLines ≠ [] := by
  rw [headerLines_guarded]
  exact List.append_ne_nil_of_right_ne_nil _ (List.cons_ne_nil _ _)

/-- A file that follows a header follows its last line. -/
theorem lines_header_append (t : Text) :
    (p.header ++ t).lines = p.headerLines.flatMap Text.lines ++ t.lines := by
  rw [p.header_eq_join, List.append_assoc]
  exact Text.lines_join_append p.headerLines_ne_nil t

theorem lines_header : p.header.lines = p.headerLines.flatMap Text.lines ++ [[]] := by
  rw [← p.header.append_nil, lines_header_append]
  rfl

end ModulePlan

/-- One comment and nothing else, in which no line is a directive and none goes on in the next. -/
structure Text.IsComment (t : Text) : Prop where
  closed : ∃ inner, t = "/*" ++ inner ++ "*/" ∧ ¬ ("*/" : Text) <:+: inner ++ "*"
  unsigned : .scalar '#' ∉ t
  unbroken : .scalar '\\' ∉ t

/-- Texts that leave it to the guards what is compiled of a header: the banner is a comment, and the
namespace is spelled as a name. -/
structure Options.Plain (options : Options) : Prop where
  banner : options.banner = [] ∨ options.banner.IsComment
  namespaceName : ∀ p ∈ options.namespaceName, p.continuesName ∨ p = ':'

namespace ModulePlan

section
variable {p : ModulePlan} (plain : p.options.Plain)
include plain

theorem unsigned_banner : .scalar '#' ∉ p.options.banner := by
  rcases plain.banner with empty | comment
  · rw [empty]
    exact List.not_mem_nil
  · exact comment.unsigned

/-- The lines of the banner are lines of the file, and none is a directive. -/
theorem flatMap_lines_bannerLines :
    p.bannerLines.flatMap Text.lines = p.bannerLines ∧
      ∀ t ∈ p.bannerLines, t.directive? = none := by
  have verbatim (ts : List Text) : Code.allLinesAt glueIndent 0 (ts.map .verbatim) = ts := by
    induction ts with
    | nil => rfl
    | cons t ts ih => rw [List.map_cons, Code.allLinesAt, Code.linesAt, ih, List.singleton_append]
  rw [Text.flatMap_lines_eq_iff, ModulePlan.bannerLines, bannerCode]
  split
  · exact ⟨List.forall_mem_nil _, List.forall_mem_nil _⟩
  · rw [Code.allLinesAt_append, verbatim, List.forall_mem_append, List.forall_mem_append]
    refine ⟨⟨fun t => Text.feed_not_mem_of_mem_lines, by decide⟩,
      fun t => Text.directive?_eq_none_of_mem_lines (unsigned_banner plain), by decide⟩

theorem directive?_declarationLines (word : p.className.isIdentifier) :
    ∀ t ∈ p.declarationLines, t.directive? = none := by
  have unsigned {t : Text} (none : .scalar '#' ∉ t) : ∀ line ∈ t.lines, line.directive? = .none :=
    fun line => Text.directive?_eq_none_of_mem_lines none
  have namespaceName : .scalar '#' ∉ p.options.namespaceName := fun sign =>
    absurd (plain.namespaceName _ sign) (by decide)
  have backing : .scalar '#' ∉ p.module.backing := Text.not_mem_of_isIdentifier word (by decide)
  have opening : .scalar '#' ∉ p.namespaceLine := by
    simp [namespaceLine, namespaceName, Text.ofString]
  have closing : .scalar '#' ∉ p.namespaceEnd := by
    simp [namespaceEnd, namespaceName, Text.ofString]
  have wrapper : .scalar '#' ∉ p.wrapperLine := by
    simp [wrapperLine, wrapperName, backing, Text.ofString]
  have inside : ∀ hasClass, ∀ t ∈ Code.allLinesAt glueIndent 0 (wrapperInside hasClass),
      .scalar '#' ∉ t := by decide
  have ahead : ∀ t ∈ wrapperAhead, .scalar '#' ∉ t := by decide
  have included : ∀ hasClass, ∀ t ∈ ("#include <quickjs/quickjs.h>" : Text) ::
      typeInfoInclude hasClass, ∀ line ∈ t.lines, line.directive? = none := by decide
  obtain ⟨quickjs, typeInfo⟩ :=
    List.forall_mem_cons.mp (included p.registrations.hasClass)
  rw [declarationLines, declarations_eq, List.forall_mem_flatMap]
  simp only [List.forall_mem_append, List.forall_mem_cons, List.not_mem_nil, false_imp_iff,
    implies_true, and_true]
  exact ⟨by decide, quickjs, typeInfo, by decide, unsigned opening,
    fun t mem => unsigned (ahead t mem), unsigned wrapper, fun t mem => unsigned (inside _ t mem),
    by decide, by decide, unsigned closing, by decide⟩

end

end ModulePlan

/-- What is compiled of two headers: the second one only under a macro of its own. -/
theorem ModulePlan.compiled_headers {p p' : ModulePlan} (plain : p.options.Plain)
    (plain' : p'.options.Plain) (word : p.className.isIdentifier)
    (word' : p'.className.isIdentifier) (parts : ∀ q ∈ p.includeGuard, q.isNamePart)
    (parts' : ∀ q ∈ p'.includeGuard, q.isNamePart) :
    Text.compiled [] 0 (p.header ++ p'.header).lines =
      p.bannerLines ++ p.strayLines ++ p.strayLines ++ p.declarationLines ++ p.strayLines ++
        p'.bannerLines ++
        (if p.guardMacro = p'.guardMacro then []
          else p'.strayLines ++ p'.strayLines ++ p'.declarationLines) ++
        p'.strayLines ++ [[]] := by
  have written (q : ModulePlan) (plain : q.options.Plain) :
      q.headerLines.flatMap Text.lines =
        q.bannerLines ++ (Text.guarded q.includeGuard q.declarations).flatMap Text.lines := by
    rw [headerLines_guarded, List.flatMap_append, (flatMap_lines_bannerLines plain).1]
  have ended (defined : List Text) : Text.compiled defined 0 [[]] = [[]] := rfl
  have same : p'.includeGuard.stem ∈ [p.includeGuard.stem] ↔ p.guardMacro = p'.guardMacro := by
    rw [List.mem_singleton, eq_comm]
    rfl
  rw [lines_header_append, lines_header, written p plain, written p' plain']
  simp only [List.append_assoc]
  rw [Text.compiled_append_of_plain (flatMap_lines_bannerLines plain).2,
    Text.compiled_guarded parts (directive?_declarationLines plain word),
    if_neg List.not_mem_nil, Text.compiled_append_of_plain (flatMap_lines_bannerLines plain').2,
    Text.compiled_guarded parts' (directive?_declarationLines plain' word'), ended, ended]
  simp only [same, declarationLines, strayLines]
  split <;> simp only [List.append_assoc, List.nil_append]

namespace Module

section
variable {m m' : Module} (valid : m.isValid) (valid' : m'.isValid) (options options' : Options)
include valid valid'

theorem includeGuard_planned_eq_iff :
    (m.planned options).includeGuard = (m'.planned options').includeGuard ↔
      m.id.SameCapitals m'.id := by
  show ("BRIDGE_QJS_" ++ m.id.screamingSnake ++ "_H_" : Text) =
    "BRIDGE_QJS_" ++ m'.id.screamingSnake ++ "_H_" ↔ _
  rw [List.append_left_inj, List.append_right_inj,
    Text.screamingSnake_eq (wellFormed_of_isValid valid).id,
    Text.screamingSnake_eq (wellFormed_of_isValid valid').id]
  exact Iff.rfl

theorem guardMacro_planned_eq_iff :
    (m.planned options).guardMacro = (m'.planned options').guardMacro ↔ m.id.SameMacro m'.id := by
  have id := (wellFormed_of_isValid valid).id
  have id' := (wellFormed_of_isValid valid').id
  have words := Text.stem_append_eq_iff (show ∀ p ∈ ("_H_" : Text), p.continuesName by decide)
    (Text.capitals_eq_stem_or id) (Text.capitals_eq_stem_or id')
  have opening (t : Text) : ("BRIDGE_QJS_" ++ t : Text).stem = "BRIDGE_QJS_" ++ t.stem :=
    Text.stem_append (by decide) t
  show ("BRIDGE_QJS_" ++ m.id.screamingSnake ++ "_H_" : Text).stem =
    ("BRIDGE_QJS_" ++ m'.id.screamingSnake ++ "_H_" : Text).stem ↔ _
  rw [Text.screamingSnake_eq id, Text.screamingSnake_eq id', List.append_assoc, List.append_assoc,
    opening, opening, List.append_right_inj]
  exact words

end

theorem isNamePart_includeGuard {m : Module} (valid : m.isValid) (options : Options) :
    ∀ p ∈ (m.planned options).includeGuard, p.isNamePart := by
  have capitals := Text.isNamePart_of_mem_screamingSnake (wellFormed_of_isValid valid).id
  show ∀ p ∈ ("BRIDGE_QJS_" ++ m.id.screamingSnake ++ "_H_" : Text), _
  rw [List.forall_mem_append, List.forall_mem_append]
  exact ⟨⟨by decide, capitals⟩, by decide⟩

/-- Two headers have one guard exactly if the ids of their units are the same in capitals, which
distinct ids in snake case never are, and are guarded by one macro exactly if the guards begin with
the same word. Of two that are included one behind the other, the first is compiled as it is, and
the second without its declarations exactly if it has the macro of the first. -/
theorem headers_share_guard_iff {m m' : Module} (valid : m.isValid) (valid' : m'.isValid)
    (options options' : Options) :
    ∃ p p', m.plan options = .ok p ∧ m'.plan options' = .ok p' ∧
      p.HeaderGuarded ∧ p'.HeaderGuarded ∧
      (headerName m.id = headerName m'.id ↔ m.id = m'.id) ∧
      (p.includeGuard = p'.includeGuard ↔ m.id.SameCapitals m'.id) ∧
      (p.guardMacro = p'.guardMacro ↔ m.id.SameMacro m'.id) ∧
      (m.id.inSnakeCase → m'.id.inSnakeCase →
        (p.includeGuard = p'.includeGuard ↔ m.id = m'.id) ∧
        (p.guardMacro = p'.guardMacro ↔
          m.id = m'.id ∨ m.id = m'.id ++ "_h_\n" ∨ m'.id = m.id ++ "_h_\n")) ∧
      (options.Plain → options'.Plain →
        Text.compiled [] 0 (p.header ++ p'.header).lines =
          p.bannerLines ++ p.strayLines ++ p.strayLines ++ p.declarationLines ++ p.strayLines ++
            p'.bannerLines ++
            (if p.guardMacro = p'.guardMacro then []
              else p'.strayLines ++ p'.strayLines ++ p'.declarationLines) ++
            p'.strayLines ++ [[]]) := by
  have guards := includeGuard_planned_eq_iff valid valid' options options'
  have macros := guardMacro_planned_eq_iff valid valid' options options'
  refine ⟨_, _, plan_eq_ok valid options, plan_eq_ok valid' options', ModulePlan.headerGuarded _,
    ModulePlan.headerGuarded _, ⟨headerName_injective, fun same => same ▸ rfl⟩, guards, macros,
    ?_, ?_⟩
  · intro snake snake'
    rw [guards, macros, Text.sameCapitals_iff_of_inSnakeCase snake snake',
      Text.sameMacro_iff_of_inSnakeCase snake snake']
    exact ⟨Iff.rfl, Iff.rfl⟩
  · exact fun plain plain' => ModulePlan.compiled_headers plain plain'
      (wellFormed_of_isValid valid).backing (wellFormed_of_isValid valid').backing
      (isNamePart_includeGuard valid options) (isNamePart_includeGuard valid' options')

end Module

/-- What the options are if nothing else is said is plain. -/
theorem Options.plain_standard : Options.standard.Plain where
  banner := by
    let inner : Text := Text.join "\n"
      ["", " * Copyright (C) 2021 Alibaba Inc. All rights reserved.",
       " * Author: Kraken Team.", " "]
    have slash : .scalar '/' ∉ inner ++ "*" := by decide
    have ending : .scalar '/' ∈ ("*/" : Text) := by decide
    have closed : ¬ ("*/" : Text) <:+: inner ++ "*" := fun early => slash (early.subset ending)
    exact .inr ⟨⟨inner, by decide, closed⟩, by decide, by decide⟩
  namespaceName := by decide

namespace Module

/-- Two units whose ids part into the same words. -/
def camelNamed : Module := ⟨"fooBar", "Foo", [], []⟩

def snakeNamed : Module := ⟨"foo_bar", "Bar", [], []⟩

theorem headers_share_guard_page_snakeNamed :
    page.isValid ∧ snakeNamed.isValid ∧ ∃ p p', page.plan .standard = .ok p ∧
      snakeNamed.plan .standard = .ok p' ∧ p.guardMacro ≠ p'.guardMacro ∧
      Text.compiled [] 0 (p.header ++ p'.header).lines =
        p.bannerLines ++ p.declarationLines ++ p'.bannerLines ++ p'.declarationLines ++ [[]] := by
  have valid : snakeNamed.isValid := by decide
  obtain ⟨p, p', planned, planned', -, -, -, -, -, snake, compiled⟩ :=
    headers_share_guard_iff isValid_page valid .standard .standard
  have apart : p.guardMacro ≠ p'.guardMacro :=
    mt (snake (by decide) (by decide)).2.mp (by decide)
  have unfed : p.strayLines = [] ∧ p'.strayLines = [] := by
    obtain rfl := Except.ok.inj ((plan_eq_ok isValid_page _).symm.trans planned)
    obtain rfl := Except.ok.inj ((plan_eq_ok valid _).symm.trans planned')
    decide
  have lines := compiled Options.plain_standard Options.plain_standard
  rw [if_neg apart, unfed.1, unfed.2] at lines
  exact ⟨isValid_page, valid, p, p', planned, planned', apart, by simpa using lines⟩

theorem not_headers_apart_fooBar :
    camelNamed.isValid ∧ snakeNamed.isValid ∧ camelNamed.id ≠ snakeNamed.id ∧
      headerName camelNamed.id ≠ headerName snakeNamed.id ∧
      ∃ p p', camelNamed.plan .standard = .ok p ∧ snakeNamed.plan .standard = .ok p' ∧
        p.includeGuard = "BRIDGE_QJS_FOO_BAR_H_" ∧ p'.includeGuard = p.includeGuard ∧
        p'.wrapperLine ∈ p'.header.lines ∧
        p'.wrapperLine ∉ Text.compiled [] 0 (p.header ++ p'.header).lines := by
  have valid : camelNamed.isValid ∧ snakeNamed.isValid := by decide
  have plain : (camelNamed.planned .standard).options.Plain ∧
      (snakeNamed.planned .standard).options.Plain :=
    ⟨Options.plain_standard, Options.plain_standard⟩
  have compiled := ModulePlan.compiled_headers plain.1 plain.2 (by decide) (by decide) (by decide)
    (by decide)
  refine ⟨valid.1, valid.2, by decide, by decide, _, _, plan_eq_ok valid.1 .standard,
    plan_eq_ok valid.2 .standard, by decide, by decide, ?_, ?_⟩
  · rw [ModulePlan.lines_header]
    decide +kernel
  · rw [compiled]
    decide +kernel

end Module

end ScriptBinding
