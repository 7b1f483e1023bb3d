import ScriptBinding.Proofs.Assembly.AnyOperators
import ScriptBinding.Proofs.Text.Casing
import ScriptBinding.Proofs.Unit.CallbackNames
import ScriptBinding.Proofs.Unit.EntryPoints

/-!
The native setters of a class. Their names are made from those of the properties, with the first
letter raised, so that two properties that differ in the case of this letter have one setter; and
a method can be named like the setter of a property. The check compares declared names only.
-/
namespace ScriptBinding

namespace Text

/-- The native setter of a property of this name. -/
def nativeSetter (name : Text) : Text := "set" ++ name.capitalized

section
variable {name : Text} (h : name.isIdentifier)
include h

/-- A native setter can be spelled as it is: no reserved word begins as it does. -/
theorem isIdentifier_nativeSetter : name.nativeSetter.isIdentifier := by
  have free : ∀ word ∈ reservedWords, word.take 3 ≠ "set" := by decide
  rw [isIdentifier, Bool.and_eq_true, Bool.not_eq_true', ← Bool.not_eq_true, List.contains_iff_mem]
  refine ⟨?_, fun reserved => free _ reserved rfl⟩
  obtain ⟨p, rest, rfl, first, tail⟩ := exists_cons_of_isIdentifier h
  rw [nativeSetter, capitalized_eq_initialRaised h]
  show isNameTail (p.raised :: rest)
  rw [isNameTail, if_pos (CodePoint.continuesName_raised first)]
  exact tail

theorem stem_nativeSetter : name.nativeSetter.stem = "set" ++ name.stem.initialRaised := by
  obtain ⟨p, rest, rfl, first, -⟩ := exists_cons_of_isIdentifier h
  rw [nativeSetter, capitalized_eq_initialRaised h]
  have inside : stem (p :: rest) = p :: stem rest := by simp [stem, first]
  have raised : stem (p.raised :: rest) = p.raised :: stem rest := by
    simp [stem, CodePoint.continuesName_raised first]
  rw [inside]
  exact congrArg (fun t : Text => "set" ++ t) raised

end

/-- What `reading` leaves of a native setter is made from what it leaves of the property. -/
def ReadsSetters (reading : Text → Text) : Prop :=
  ∀ name : Text, name.isIdentifier →
    reading name.nativeSetter = "set" ++ (reading name).initialRaised

theorem readsSetters_names : ReadsSetters fun name => name := fun name word => by
  rw [nativeSetter, capitalized_eq_initialRaised word]

theorem readsSetters_stem : ReadsSetters stem := fun _ => stem_nativeSetter

end Text

/-- The native members that the setters of a unit write. -/
def ModulePlan.nativeSetters (p : ModulePlan) : List Text :=
  p.accessors.filterMap fun a => a.setter?.map (·.native)

namespace Module

def writable (m : Module) : List PropertyDecl := m.properties.filter (!·.readOnly)

theorem mem_writable_iff {m : Module} {q : PropertyDecl} :
    q ∈ m.writable ↔ q ∈ m.properties ∧ q.readOnly = false := by
  simp [writable]

/-- No native setter is that of two properties, and none is a declared method, where names are told
apart by what `reading` leaves of them. -/
structure SettersApart (m : Module) (reading : Text → Text) : Prop where
  properties : ∀ q ∈ m.writable, ∀ r ∈ m.writable, q.name ≠ r.name →
    reading q.name ≠ reading r.name ∧ reading q.name ≠ (reading r.name).initialRaised
  methods : ∀ f ∈ m.methods, ∀ q ∈ m.writable,
    reading f.name ≠ "set" ++ (reading q.name).initialRaised

theorem nativeSetters_planned (m : Module) (options : Options) :
    (m.planned options).nativeSetters = m.writable.map (·.name.nativeSetter) := by
  rw [ModulePlan.nativeSetters, accessors_planned, writable, List.filterMap_map,
    ← List.filterMap_eq_map, List.filterMap_filter]
  congr 1
  funext q
  cases writable : q.readOnly <;>
    simp [PropertyDecl.accessor, PropertyDecl.setter, Text.nativeSetter, writable]

namespace WellFormed

variable {m : Module} (h : m.WellFormed)
include h

theorem isIdentifier_of_mem_writable {q : PropertyDecl} (mem : q ∈ m.writable) :
    q.name.isIdentifier :=
  (h.property_wellFormed (mem_writable_iff.mp mem).1).name

theorem nodup_nativeSetters_iff {reading : Text → Text} (reads : Text.ReadsSetters reading) :
    ((m.writable.map (·.name.nativeSetter)).map reading).Nodup ↔
      ∀ q ∈ m.writable, ∀ r ∈ m.writable, q.name ≠ r.name →
        reading q.name ≠ reading r.name ∧ reading q.name ≠ (reading r.name).initialRaised := by
  have meet_iff {q r : PropertyDecl} (hq : q ∈ m.writable) (hr : r ∈ m.writable) :
      reading q.name.nativeSetter = reading r.name.nativeSetter ↔
        reading q.name = reading r.name ∨ reading q.name = (reading r.name).initialRaised ∨
          reading r.name = (reading q.name).initialRaised := by
    rw [reads _ (h.isIdentifier_of_mem_writable hq), reads _ (h.isIdentifier_of_mem_writable hr),
      List.append_cancel_left_eq, Text.initialRaised_eq_initialRaised_iff]
  have distinct : (m.writable.map (·.name)).Nodup :=
    h.nodup_properties.sublist (List.filter_sublist.map _)
  have named : (m.writable.map (·.name.nativeSetter)).map reading =
      (m.writable.map (·.name)).map fun name => reading name.nativeSetter := by
    simp [Function.comp_def]
  rw [named, List.nodup_map_iff_inj_on distinct]
  simp only [List.forall_mem_map]
  constructor
  · intro injective q hq r hr other
    have apart := mt (injective q hq r hr) other
    rw [meet_iff hq hr, not_or, not_or] at apart
    exact ⟨apart.1, apart.2.1⟩
  · intro apart q hq r hr same
    by_contra other
    rcases (meet_iff hq hr).mp same with same | same | same
    · exact (apart q hq r hr other).1 same
    · exact (apart q hq r hr other).2 same
    · exact (apart r hr q hq (Ne.symm other)).2 same

theorem not_mem_nativeSetters_iff {reading : Text → Text} (reads : Text.ReadsSetters reading)
    (name : Text) :
    reading name ∉ (m.writable.map (·.name.nativeSetter)).map reading ↔
      ∀ q ∈ m.writable, reading name ≠ "set" ++ (reading q.name).initialRaised := by
  simp only [List.mem_map, exists_exists_and_eq_and, not_exists, not_and]
  refine forall₂_congr fun q mem => ?_
  rw [reads _ (h.isIdentifier_of_mem_writable mem)]
  exact ne_comm

theorem settersApart_iff {reading : Text → Text} (reads : Text.ReadsSetters reading) :
    (((m.writable.map (·.name.nativeSetter)).map reading).Nodup ∧
      ∀ f ∈ m.methods, reading f.name ∉ (m.writable.map (·.name.nativeSetter)).map reading) ↔
        m.SettersApart reading := by
  simp only [h.nodup_nativeSetters_iff reads, h.not_mem_nativeSetters_iff reads]
  exact ⟨fun ⟨properties, methods⟩ => ⟨properties, methods⟩,
    fun apart => ⟨apart.properties, apart.methods⟩⟩

/-- As words, names are told apart by their stems. -/
theorem settersApart_words_iff :
    (((m.writable.map (·.name.nativeSetter)).map Text.words).Nodup ∧
      ∀ f ∈ m.methods, f.name.words ∉ (m.writable.map (·.name.nativeSetter)).map Text.words) ↔
        m.SettersApart Text.stem := by
  have alone : Function.Injective fun stem : Text => [stem] := fun _ _ => List.singleton_inj.mp
  have words : (m.writable.map (·.name.nativeSetter)).map Text.words =
      ((m.writable.map (·.name.nativeSetter)).map Text.stem).map ([·]) := by
    simp only [List.map_map]
    exact List.map_congr_left fun q mem => Text.words_of_isIdentifier
      (Text.isIdentifier_nativeSetter (h.isIdentifier_of_mem_writable mem))
  rw [← h.settersApart_iff Text.readsSetters_stem, words, List.nodup_map_iff alone]
  refine and_congr_right fun _ => forall₂_congr fun f mem => ?_
  have formed := h.declared_wellFormed (List.mem_append_right _ mem)
  rw [Text.words_of_isIdentifier formed.name, List.mem_map_of_injective alone]

end WellFormed

/-- The setter of each writable property of an accepted unit writes its native setter and nothing
else, and each method calls the native member of its name. The native setters differ from each other
and from the methods exactly if no property is named like another one with the first letter raised,
and no method like a property with the first letter raised and `set` before it. As names of the
generated language they do so exactly if this is true of the stems, and these differ. -/
theorem setters_apart_iff {m : Module} (valid : m.isValid) (options : Options) :
    ∃ p, m.plan options = .ok p ∧
      p.nativeSetters = m.writable.map (fun q => ("set" ++ q.name.capitalized : Text)) ∧
      (∀ q ∈ m.writable, ∃ b ∈ p.blocks,
        b.opening.callbackName? = some (q.name ++ "AttributeSetCallback") ∧
          b.accesses = ["set" ++ q.name.capitalized]) ∧
      (∀ f ∈ m.methods, ∃ b ∈ p.blocks,
        b.opening.callbackName? = some f.name ∧ b.Invokes .receiver f.name) ∧
      ((p.nativeSetters.Nodup ∧ ∀ f ∈ m.methods, f.name ∉ p.nativeSetters) ↔
        m.SettersApart fun name => name) ∧
      (((p.nativeSetters.map Text.words).Nodup ∧
        ∀ f ∈ m.methods, f.name.words ∉ p.nativeSetters.map Text.words) ↔
          m.SettersApart Text.stem) := by
  have formed := wellFormed_of_isValid valid
  have planned := m.nativeSetters_planned options
  refine ⟨_, plan_eq_ok valid options, planned, fun q mem => ?_, fun f mem => ?_, ?_, ?_⟩
  · obtain ⟨declared, writable⟩ := mem_writable_iff.mp mem
    obtain ⟨b, written, read⟩ := exists_block_of_setter options declared writable
    exact ⟨b, written, q.accesses_setterCode m.backing read⟩
  · obtain ⟨b, written, named, invokes⟩ := invokes_method formed options mem
    exact ⟨b, written, named, method_callee formed mem ▸ invokes⟩
  · have names := formed.settersApart_iff Text.readsSetters_names
    rwa [List.map_id', ← planned] at names
  · rw [planned, formed.settersApart_words_iff]

theorem setters_apart_page :
    page.isValid ∧ ∃ p, page.plan .standard = .ok p ∧
      p.nativeSetters = [Text.ofString "setTitle"] ∧
      ∀ f ∈ page.methods, f.name.words ∉ p.nativeSetters.map Text.words := by
  obtain ⟨p, planned, names, -, -, -, words⟩ := setters_apart_iff isValid_page .standard
  have apart : page.SettersApart Text.stem := ⟨by decide, by decide⟩
  exact ⟨isValid_page, p, planned, names.trans (by decide), (words.mpr apart).2⟩

/-- Two properties that differ in the case of their first letter, and a method that is named like
the native setter of both. -/
def overlapping : Module :=
  { id := "page"
    backing := "Page"
    members :=
      [.cls
        { constructor := ⟨"constructor", [], .primitive .void⟩
          properties := [⟨"title", .primitive .string, false⟩, ⟨"Title", .primitive .int32, false⟩]
          methods := [⟨"setTitle", [], .primitive .void⟩] }]
    implementation := [] }

theorem not_setters_apart_overlapping :
    overlapping.isValid ∧ ∃ p, overlapping.plan .standard = .ok p ∧
      p.nativeSetters = [Text.ofString "setTitle", Text.ofString "setTitle"] ∧
      overlapping.methods.map (·.name) = [Text.ofString "setTitle"] := by
  have valid : overlapping.isValid := by decide
  refine ⟨valid, _, plan_eq_ok valid .standard, ?_, by decide⟩
  rw [nativeSetters_planned]
  decide

end Module

end ScriptBinding
