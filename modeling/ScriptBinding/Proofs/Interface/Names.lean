import ScriptBinding.Proofs.Interface.Representable
import ScriptBinding.Proofs.Interface.WellFormed

/-!
All names of a unit, and what an accepted one looks like: a single token of the generated language
that is no reserved word, or any token with a line feed behind it. The pattern for names matches
before a final line feed, and with it even a reserved word passes.
-/
namespace ScriptBinding

namespace Text

/-- A letter or an underscore, then letters, digits and underscores up to the end. -/
def IsToken (t : Text) : Prop :=
  ∃ p rest, t = p :: rest ∧ p.startsName ∧ ∀ q ∈ rest, q.continuesName

/-- A name that is spelled as it is: one token, and no reserved word. -/
structure IsPlainName (t : Text) : Prop where
  token : t.IsToken
  free : t ∉ reservedWords

theorem continuesName_of_mem_token {t : Text} (h : t.IsToken) : ∀ p ∈ t, p.continuesName := by
  obtain ⟨p, rest, rfl, starts, continues⟩ := h
  exact List.forall_mem_cons.mpr ⟨by simp [CodePoint.continuesName, starts], continues⟩

theorem feed_not_mem_of_isToken {t : Text} (h : t.IsToken) : .scalar '\n' ∉ t := fun mem =>
  absurd (continuesName_of_mem_token h _ mem) (by decide)

theorem feed_not_mem_reservedWords {t : Text} (h : t ∈ reservedWords) : .scalar '\n' ∉ t := by
  have every : ∀ t ∈ reservedWords, CodePoint.scalar '\n' ∉ t := by decide
  exact every t h

theorem isNameTail_iff (t : Text) :
    t.isNameTail ↔
      (∀ p ∈ t, p.continuesName) ∨ ∃ u : Text, (∀ p ∈ u, p.continuesName) ∧ t = u ++ "\n" := by
  induction t with
  | nil => simp [isNameTail]
  | cons p rest ih =>
      rw [isNameTail]
      split
      case isTrue continues =>
        rw [ih]
        constructor
        · rintro (plain | ⟨u, plain, rfl⟩)
          · exact .inl (List.forall_mem_cons.mpr ⟨continues, plain⟩)
          · exact .inr ⟨p :: u, List.forall_mem_cons.mpr ⟨continues, plain⟩, rfl⟩
        · rintro (plain | ⟨u, plain, ended⟩)
          · exact .inl (List.forall_mem_cons.mp plain).2
          · cases u with
            | nil =>
                obtain ⟨rfl, -⟩ := List.cons.inj ended
                exact absurd continues (by decide)
            | cons q u =>
                obtain ⟨-, rfl⟩ := List.cons.inj ended
                exact .inr ⟨u, (List.forall_mem_cons.mp plain).2, rfl⟩
      case isFalse other =>
        simp only [Bool.and_eq_true, decide_eq_true_eq, List.isEmpty_iff]
        constructor
        · rintro ⟨rfl, rfl⟩
          exact .inr ⟨[], fun _ mem => absurd mem List.not_mem_nil, rfl⟩
        · rintro (plain | ⟨u, plain, ended⟩)
          · exact absurd (List.forall_mem_cons.mp plain).1 other
          · cases u with
            | nil => exact List.cons.inj ended
            | cons q u =>
                obtain ⟨rfl, -⟩ := List.cons.inj ended
                exact absurd (List.forall_mem_cons.mp plain).1 other

theorem isName_iff (t : Text) :
    t.isName ↔ t.IsToken ∨ ∃ token : Text, token.IsToken ∧ t = token ++ "\n" := by
  cases t with
  | nil => simp [isName, IsToken, ofString]
  | cons p rest =>
      rw [isName, Bool.and_eq_true, isNameTail_iff]
      constructor
      · rintro ⟨starts, plain | ⟨u, plain, rfl⟩⟩
        · exact .inl ⟨p, rest, rfl, starts, plain⟩
        · exact .inr ⟨p :: u, ⟨p, u, rfl, starts, plain⟩, rfl⟩
      · rintro (⟨_, _, same, starts, plain⟩ | ⟨_, ⟨q, u, rfl, starts, plain⟩, ended⟩)
        · obtain ⟨rfl, rfl⟩ := List.cons.inj same
          exact ⟨starts, .inl plain⟩
        · obtain ⟨rfl, rfl⟩ := List.cons.inj ended
          exact ⟨starts, .inr ⟨u, plain, rfl⟩⟩

theorem isIdentifier_iff (t : Text) :
    t.isIdentifier ↔
      t.IsPlainName ∨ ∃ token : Text, token.IsToken ∧ t = token ++ "\n" := by
  rw [isIdentifier, Bool.and_eq_true, isName_iff, Bool.not_eq_true', List.contains_eq_mem,
    decide_eq_false_iff_not]
  constructor
  · rintro ⟨token | ended, free⟩
    · exact .inl ⟨token, free⟩
    · exact .inr ended
  · rintro (plain | ⟨token, named, rfl⟩)
    · exact ⟨.inl plain.token, plain.free⟩
    · refine ⟨.inr ⟨token, named, rfl⟩, fun reserved => ?_⟩
      exact feed_not_mem_reservedWords reserved (List.mem_append_right token (by simp [ofString]))

/-- An accepted name is spelled as it is unless a line feed ends it. -/
theorem isPlainName_iff_of_isIdentifier {t : Text} (h : t.isIdentifier) :
    t.IsPlainName ↔ t.getLast? ≠ some (.scalar '\n') := by
  constructor
  · intro plain last
    exact feed_not_mem_of_isToken plain.token (List.mem_of_getLast? last)
  · intro other
    rcases (isIdentifier_iff t).mp h with plain | ⟨token, -, rfl⟩
    · exact plain
    · exact absurd (by simp [ofString]) other

end Text

def FunctionDecl.names (f : FunctionDecl) : List Text :=
  f.name :: f.arguments.map (·.name) ++ f.types.filterMap ValueType.interfaceName?

def PropertyDecl.names (p : PropertyDecl) : List Text := p.name :: p.type.interfaceName?.toList

def ClassDecl.names (c : ClassDecl) : List Text :=
  c.constructor.names ++ c.properties.flatMap PropertyDecl.names ++
    c.methods.flatMap FunctionDecl.names

def Member.names : Member → List Text
  | function decl => decl.names
  | cls decl => decl.names

/-- All names that a unit declares or refers to. -/
def Module.names (m : Module) : List Text := m.id :: m.backing :: m.members.flatMap Member.names

section
variable {P : Text → Prop}

theorem FunctionDecl.forall_mem_names_iff {f : FunctionDecl} :
    (∀ name ∈ f.names, P name) ↔ P f.name ∧
      (∀ a ∈ f.arguments, P a.name ∧ ∀ name ∈ a.type.interfaceName?, P name) ∧
      ∀ name ∈ f.result.interfaceName?, P name := by
  have interfaces : (∀ name ∈ f.types.filterMap ValueType.interfaceName?, P name) ↔
      (∀ name ∈ f.result.interfaceName?, P name) ∧
        ∀ a ∈ f.arguments, ∀ name ∈ a.type.interfaceName?, P name := by
    simp only [FunctionDecl.types, List.forall_mem_filterMap, List.forall_mem_cons,
      List.forall_mem_map, Option.mem_def]
  rw [names, List.forall_mem_append, List.forall_mem_cons, List.forall_mem_map, interfaces]
  constructor
  · rintro ⟨⟨name, arguments⟩, result, types⟩
    exact ⟨name, fun a mem => ⟨arguments a mem, types a mem⟩, result⟩
  · rintro ⟨name, arguments, result⟩
    exact ⟨⟨name, fun a mem => (arguments a mem).1⟩, result, fun a mem => (arguments a mem).2⟩

theorem PropertyDecl.forall_mem_names_iff {p : PropertyDecl} :
    (∀ name ∈ p.names, P name) ↔ P p.name ∧ ∀ name ∈ p.type.interfaceName?, P name := by
  simp [names]

theorem ClassDecl.forall_mem_names_iff {c : ClassDecl} :
    (∀ name ∈ c.names, P name) ↔ (∀ name ∈ c.constructor.names, P name) ∧
      (∀ p ∈ c.properties, ∀ name ∈ p.names, P name) ∧
      ∀ f ∈ c.methods, ∀ name ∈ f.names, P name := by
  rw [names, List.forall_mem_append, List.forall_mem_append, List.forall_mem_flatMap,
    List.forall_mem_flatMap, and_assoc]

theorem Module.forall_mem_names_iff {m : Module} :
    (∀ name ∈ m.names, P name) ↔ P m.id ∧ P m.backing ∧
      ∀ member ∈ m.members, ∀ name ∈ member.names, P name := by
  rw [names, List.forall_mem_cons, List.forall_mem_cons, List.forall_mem_flatMap]

end

theorem ValueType.Spellable.isIdentifier {t : ValueType} (h : t.Spellable) {name : Text}
    (named : t.interfaceName? = some name) : name.isIdentifier :=
  h name ((t.interfaceName?_eq_some_iff name).mp named)

theorem FunctionDecl.WellFormed.isIdentifier_of_mem_names {f : FunctionDecl} (h : f.WellFormed) :
    ∀ name ∈ f.names, name.isIdentifier :=
  FunctionDecl.forall_mem_names_iff.mpr ⟨h.name, fun a mem =>
    ⟨h.argumentNames a mem, fun _ => (h.argumentTypes a mem).isIdentifier⟩,
    fun _ => h.result.isIdentifier⟩

theorem PropertyDecl.WellFormed.isIdentifier_of_mem_names {p : PropertyDecl} (h : p.WellFormed) :
    ∀ name ∈ p.names, name.isIdentifier :=
  PropertyDecl.forall_mem_names_iff.mpr ⟨h.name, fun _ => h.type.isIdentifier⟩

theorem ClassDecl.WellFormed.isIdentifier_of_mem_names {c : ClassDecl} {functions : List Text}
    (h : c.WellFormed functions) : ∀ name ∈ c.names, name.isIdentifier :=
  ClassDecl.forall_mem_names_iff.mpr ⟨h.constructor.isIdentifier_of_mem_names,
    fun p mem => (h.properties p mem).isIdentifier_of_mem_names,
    fun f mem => (h.methods f mem).isIdentifier_of_mem_names⟩

namespace Module

theorem WellFormed.isIdentifier_of_mem_names {m : Module} (h : m.WellFormed) :
    ∀ name ∈ m.names, name.isIdentifier := by
  refine forall_mem_names_iff.mpr ⟨h.id, h.backing, fun member declared => ?_⟩
  cases member with
  | function f =>
      have listed : f ∈ m.functions := List.mem_filterMap.mpr ⟨_, declared, rfl⟩
      exact (h.functions f listed).isIdentifier_of_mem_names
  | cls c =>
      have listed : c ∈ m.classes := List.mem_filterMap.mpr ⟨_, declared, rfl⟩
      exact (h.classes c listed).isIdentifier_of_mem_names

/-- An identifier is a name that is spelled as it is, or any token and a line feed. The names of an
accepted unit are all identifiers, and all of them are spelled as they are exactly if none ends in a
line feed. -/
theorem isPlainName_names_iff (m : Module) (t : Text) :
    (t.isIdentifier ↔
      t.IsPlainName ∨ ∃ token : Text, token.IsToken ∧ t = token ++ "\n") ∧
    (m.isValid →
      (∀ name ∈ m.names, name.isIdentifier) ∧
      ((∀ name ∈ m.names, name.IsPlainName) ↔
        ∀ name ∈ m.names, name.getLast? ≠ some (.scalar '\n'))) := by
  refine ⟨t.isIdentifier_iff, fun valid => ?_⟩
  have formed : m.WellFormed := m.violations_eq_nil_iff.mp (List.isEmpty_iff.mp valid)
  have identifiers := formed.isIdentifier_of_mem_names
  refine ⟨identifiers, ?_⟩
  constructor
  · exact fun plain name mem =>
      (Text.isPlainName_iff_of_isIdentifier (identifiers name mem)).mp (plain name mem)
  · exact fun other name mem =>
      (Text.isPlainName_iff_of_isIdentifier (identifiers name mem)).mpr (other name mem)

/-- A unit with an interface inside a sequence. -/
def gallery : Module :=
  { id := "gallery"
    backing := "Gallery"
    members :=
      [.function ⟨"show", [⟨"items", .sequence (.interface "Image"), true⟩], .owned "Frame"⟩]
    implementation := [] }

theorem isPlainName_names_gallery :
    gallery.isValid ∧
      gallery.names = (["gallery", "Gallery", "show", "items", "Frame", "Image"] : List Text) ∧
      ∀ name ∈ gallery.names, name.IsPlainName := by
  have valid : gallery.isValid := by decide
  have other : ∀ name ∈ gallery.names, name.getLast? ≠ some (.scalar '\n') := by decide
  exact ⟨valid, rfl, ((isPlainName_names_iff gallery []).2 valid).2.mpr other⟩

/-- A unit whose names all end in a line feed, one of them behind a reserved word. -/
def feedEnded : Module :=
  ⟨"page\n", "int\n", [.function ⟨"draw\n", [], .primitive .void⟩], []⟩

theorem not_isPlainName_names_feedEnded :
    feedEnded.isValid ∧ feedEnded.names = (["page\n", "int\n", "draw\n"] : List Text) ∧
      ∀ name ∈ feedEnded.names, name.isIdentifier ∧ ¬ name.IsPlainName := by
  have identifiers : ∀ name ∈ feedEnded.names, name.isIdentifier := by decide
  have ended : ∀ name ∈ feedEnded.names, CodePoint.scalar '\n' ∈ name := by decide
  refine ⟨by decide, rfl, fun name mem => ⟨identifiers name mem, fun plain => ?_⟩⟩
  exact Text.feed_not_mem_of_isToken plain.token (ended name mem)

end Module

end ScriptBinding
