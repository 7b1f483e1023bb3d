import Mathlib.Data.List.Nodup
import Mathlib.Data.List.Perm.Basic
import ScriptBinding.Proofs.Assembly.Planned
import ScriptBinding.Proofs.Text.Words
import ScriptBinding.Proofs.Unit.Contents

/-!
The names of the callbacks of a unit. They come in four families: those of the global functions and
of the methods, which are declared, and those of the getters and setters, which are made from the
names of the properties. The last two never meet each other; whether a declared name meets one of
them, or another declared name, is not decided by the check.
-/
namespace ScriptBinding

namespace PropertyDecl

/-- The callbacks of a property: one that reads it, and one that writes it if that is allowed. -/
def callbacks (q : PropertyDecl) : List Text :=
  (q.name ++ "AttributeGetCallback") ::
    if q.readOnly then [] else [q.name ++ "AttributeSetCallback"]

theorem row_accessor (q : PropertyDecl) :
    q.accessor.row = ⟨q.name, q.name ++ "AttributeGetCallback",
      if q.readOnly then none else some (q.name ++ "AttributeSetCallback")⟩ := by
  cases h : q.readOnly <;> simp [Accessor.row, accessor, setter, h]

/-- What the callbacks of a property are named behind its own name. -/
def callbackEndings : List Text :=
  [Text.ofString "AttributeGetCallback", Text.ofString "AttributeSetCallback"]

theorem exists_ending_of_mem_callbacks {q : PropertyDecl} {name : Text} (h : name ∈ q.callbacks) :
    ∃ ending ∈ callbackEndings, name = q.name ++ ending := by
  rw [callbacks, List.mem_cons] at h
  rcases h with rfl | written
  · exact ⟨_, by simp [callbackEndings], rfl⟩
  · split at written
    · exact absurd written (by simp)
    · exact ⟨_, by simp [callbackEndings], List.mem_singleton.mp written⟩

theorem callbackEndings_spec {ending : Text} (h : ending ∈ callbackEndings) :
    ending ≠ [] ∧ .scalar '\n' ∉ ending ∧ ending.length = 20 := by
  simp only [callbackEndings, List.mem_cons, List.not_mem_nil, or_false] at h
  rcases h with rfl | rfl <;> decide

theorem nodup_callbacks (q : PropertyDecl) : q.callbacks.Nodup := by
  have apart : q.name ++ ("AttributeGetCallback" : Text) ≠ q.name ++ "AttributeSetCallback" :=
    fun same => absurd (List.append_cancel_left same) (by decide)
  rw [callbacks]
  split
  · exact List.nodup_singleton _
  · simpa using apart

/-- The words of a property's callback tell the property. -/
theorem eq_of_words_eq {q r : PropertyDecl} (hq : q.name.isIdentifier) (hr : r.name.isIdentifier)
    {a b : Text} (ha : a ∈ q.callbacks) (hb : b ∈ r.callbacks) (same : a.words = b.words) :
    q.name = r.name ∧ a = b := by
  obtain ⟨s, listed, rfl⟩ := exists_ending_of_mem_callbacks ha
  obtain ⟨s', listed', rfl⟩ := exists_ending_of_mem_callbacks hb
  obtain ⟨some, plain, long⟩ := callbackEndings_spec listed
  obtain ⟨-, plain', long'⟩ := callbackEndings_spec listed'
  obtain ⟨names, endings⟩ :=
    Text.words_append_injective hq hr some plain plain' (long.trans long'.symm) same
  exact ⟨names, by rw [names, endings]⟩

end PropertyDecl

/-- The callbacks that a row of a table registers. -/
def PropertyRow.callbacks (r : PropertyRow) : List Text := r.getter :: r.setter?.toList

def Registrations.callbacks (r : Registrations) : List Text :=
  (r.globalFunctions ++ r.prototypeMethods).map (·.callback) ++
    r.prototypeProperties.flatMap PropertyRow.callbacks

/-- The names of the callbacks that a member defines, in the order in which they are written. -/
def MemberPlan.callbacks : MemberPlan → List Text
  | function plan => [plan.name]
  | cls c =>
    c.accessors.map (·.getter) ++ (c.accessors.filterMap fun a => a.setter?.map (·.callback)) ++
      c.methods.map (·.name)

/-- The name of the callback that code at the margin defines. -/
def Code.callback? (c : Code) : Option Text := c.block?.bind (·.opening.callbackName?)

theorem callback?_callback (name : Text) (body : List Code) :
    (callback name body).callback? = some name :=
  Text.callbackName?_eq_some_iff.mpr rfl

namespace ModulePlan

variable (p : ModulePlan)

theorem filterMap_callback?_memberCode (member : MemberPlan) :
    (p.memberCode member).filterMap Code.callback? = member.callbacks := by
  have written {α : Type} (items : List α) (name : α → Text) (body : α → List Code) :
      (items.map fun a => callback (name a) (body a)).filterMap Code.callback? =
        items.map name := by
    simp [List.filterMap_map, callback?_callback]
  cases member with
  | function plan => exact written [plan] (·.name) (·.bodyCode p.className)
  | cls c =>
      have constructor : (p.constructorCode c.constructor).callback? = none := rfl
      have setters : (c.accessors.filterMap fun a =>
          a.setter?.map (a.setterCode p.className)).filterMap Code.callback? =
            c.accessors.filterMap fun a => a.setter?.map (·.callback) := by
        rw [List.filterMap_filterMap]
        congr 1
        funext a
        cases a.setter? with
        | none => rfl
        | some s => exact Text.callbackName?_eq_some_iff.mpr rfl
      simp only [memberCode, List.filterMap_cons, constructor, List.filterMap_append, setters,
        MemberPlan.callbacks]
      congr 1
      · congr 1
        exact written c.accessors (·.getter) fun a => (receiverLines p.className ++ _).map .line
      · exact written c.methods (·.name) (·.bodyCode p.className)

theorem filterMap_callback?_installers : p.installers.filterMap Code.callback? = [] := by
  rw [installers]
  cases p.registrations.constructor? <;> rfl

theorem callbackNames_eq_flatMap : p.callbackNames = p.members.flatMap MemberPlan.callbacks := by
  have definitions : p.callbackNames = p.definitions.filterMap Code.callback? := by
    rw [callbackNames_eq, blocks_eq, List.filterMap_filterMap]
    rfl
  rw [definitions, ModulePlan.definitions, List.filterMap_append, filterMap_callback?_installers,
    List.append_nil, List.filterMap_flatMap]
  congr 1
  funext member
  exact p.filterMap_callback?_memberCode member

end ModulePlan

namespace Module

/-- The names of all callbacks of a unit, one family after the other. -/
def callbacks (m : Module) : List Text :=
  m.declared.map (·.name) ++ m.properties.flatMap PropertyDecl.callbacks

end Module

/-- A class defines all getters before the first setter. -/
theorem ClassDecl.callbacks_plan (c : ClassDecl) (backing : Text) (strictArity : Bool) :
    (MemberPlan.cls (c.plan backing strictArity)).callbacks.Perm
      (c.methods.map (·.name) ++ c.properties.flatMap PropertyDecl.callbacks) := by
  have getters : (c.properties.map PropertyDecl.accessor).map (·.getter) =
      c.properties.flatMap fun q => [q.name ++ ("AttributeGetCallback" : Text)] := by
    rw [List.map_map, List.map_eq_flatMap]
    rfl
  have setters : (c.properties.map PropertyDecl.accessor).filterMap
      (fun a => a.setter?.map (·.callback)) = c.properties.flatMap fun q =>
        if q.readOnly then [] else [q.name ++ ("AttributeSetCallback" : Text)] := by
    rw [List.filterMap_map, List.filterMap_eq_flatMap_toList]
    congr 1
    funext q
    cases h : q.readOnly <;> simp [PropertyDecl.accessor, PropertyDecl.setter, h]
  have names : (c.methods.map fun f => f.callPlan .method backing strictArity).map (·.name) =
      c.methods.map (·.name) := by
    rw [List.map_map]
    rfl
  simp only [ClassDecl.plan, MemberPlan.callbacks, getters, setters, names]
  exact List.perm_append_comm.trans ((List.flatMap_append_perm _ _ _).append_left _)

namespace Module

/-- The callbacks that are defined in a planned unit are those of its declarations. -/
theorem callbackNames_planned (m : Module) (options : Options) :
    (m.planned options).callbackNames.Perm m.callbacks := by
  let functions (member : Member) : List Text := (member.function?.map (·.name)).toList
  let methods (member : Member) : List Text :=
    member.class?.toList.flatMap fun c => c.methods.map (·.name)
  let accessors (member : Member) : List Text :=
    member.class?.toList.flatMap fun c => c.properties.flatMap PropertyDecl.callbacks
  have each (member : Member) : (member.plan m.backing options.strictArity).callbacks.Perm
      (functions member ++ methods member ++ accessors member) := by
    cases member with
    | function f => exact .refl _
    | cls c =>
        have written := c.callbacks_plan m.backing options.strictArity
        rw [Member.plan]
        simpa [functions, methods, accessors, Member.function?, Member.class?] using written
  have gathered : m.callbacks =
      m.members.flatMap functions ++ m.members.flatMap methods ++ m.members.flatMap accessors := by
    have first := flatMap_functions m.members functions (·.name) fun _ => rfl
    have second := flatMap_classes m.members methods (fun c => c.methods.map (·.name)) fun _ => rfl
    have third := flatMap_classes m.members accessors
      (fun c => c.properties.flatMap PropertyDecl.callbacks) fun _ => rfl
    rw [first, second, third, callbacks, declared, List.map_append, Module.methods, properties,
      List.map_flatMap, List.flatMap_assoc]
    rfl
  have merged := (List.flatMap_append_perm m.members (fun a => functions a ++ methods a)
    accessors).symm.trans
      ((List.flatMap_append_perm m.members functions methods).symm.append_right _)
  rw [ModulePlan.callbackNames_eq_flatMap, gathered, planned, List.flatMap_map]
  exact (List.Perm.flatMap_left _ fun member _ => each member).trans merged

/-- The tables list the callbacks of the declarations. -/
theorem callbacks_tables (m : Module) : m.tables.callbacks = m.callbacks := by
  have rows (q : PropertyDecl) : q.accessor.row.callbacks = q.callbacks := by
    rw [q.row_accessor, PropertyRow.callbacks, PropertyDecl.callbacks]
    cases q.readOnly <;> rfl
  rw [Registrations.callbacks, callbacks, tables, ← List.map_append, List.map_map,
    List.flatMap_map]
  congr 2
  exact funext rows

/-- No two callbacks of a unit have the same words. -/
structure CallbacksApart (m : Module) : Prop where
  declared : ∀ f ∈ m.declared, ∀ g ∈ m.declared, f.name ≠ g.name ++ "\n"
  accessors : ∀ f ∈ m.declared, ∀ q ∈ m.properties, f.name.stem ∉ q.callbacks

namespace WellFormed

variable {m : Module} (h : m.WellFormed)
include h

theorem nodup_declared : (m.declared.map (·.name)).Nodup := by
  rw [Module.declared, List.map_append]
  rcases h.classes_eq with none | ⟨c, single, formed⟩
  · simpa [methods, none] using h.functionsDistinct
  · have methods : m.methods = c.methods := by simp [methods, single]
    rw [methods]
    refine h.functionsDistinct.append formed.methodsDistinct fun name mem mem' => ?_
    obtain ⟨f, listed, rfl⟩ := List.mem_map.mp mem'
    exact formed.apartFromFunctions f listed mem

theorem nodup_properties : (m.properties.map (·.name)).Nodup := by
  rcases h.classes_eq with none | ⟨c, single, formed⟩
  · simp [properties, none]
  · simpa [properties, single] using formed.propertiesDistinct

/-- Two declared names are read as the same words only if a line feed tells them apart. -/
theorem nodup_words_declared_iff :
    ((m.declared.map (·.name)).map Text.words).Nodup ↔
      ∀ f ∈ m.declared, ∀ g ∈ m.declared, f.name ≠ g.name ++ "\n" := by
  have identifier {f : FunctionDecl} (mem : f ∈ m.declared) := (h.declared_wellFormed mem).name
  rw [List.nodup_map_iff_inj_on h.nodup_declared]
  simp only [List.forall_mem_map]
  constructor
  · intro injective f hf g hg ended
    have words := (Text.words_eq_words_iff (identifier hf) (identifier hg)).mpr (.inr (.inl ended))
    rw [injective f hf g hg words] at ended
    exact absurd (congrArg List.length ended) (by simp [Text.ofString])
  · intro apart f hf g hg words
    rcases (Text.words_eq_words_iff (identifier hf) (identifier hg)).mp words with
      same | ended | ended
    · exact same
    · exact absurd ended (apart f hf g hg)
    · exact absurd ended (apart g hg f hf)

/-- The accessors of a unit never meet. -/
theorem nodup_words_accessors :
    ((m.properties.flatMap PropertyDecl.callbacks).map Text.words).Nodup := by
  have tells {q r : PropertyDecl} (hq : q ∈ m.properties) (hr : r ∈ m.properties) {a b : Text}
      (ha : a ∈ q.callbacks) (hb : b ∈ r.callbacks) (same : a.words = b.words) :=
    PropertyDecl.eq_of_words_eq (h.property_wellFormed hq).name (h.property_wellFormed hr).name
      ha hb same
  have distinct : (m.properties.flatMap PropertyDecl.callbacks).Nodup := by
    rw [List.nodup_flatMap]
    refine ⟨fun q _ => q.nodup_callbacks, ?_⟩
    refine (List.pairwise_map.mp h.nodup_properties).imp_of_mem fun {q r} hq hr apart name mem mem' =>
      apart (tells hq hr mem mem' rfl).1
  refine distinct.map_on fun a ha b hb same => ?_
  obtain ⟨q, hq, ha⟩ := List.mem_flatMap.mp ha
  obtain ⟨r, hr, hb⟩ := List.mem_flatMap.mp hb
  exact (tells hq hr ha hb same).2

theorem nodup_words_callbacks_iff : (m.callbacks.map Text.words).Nodup ↔ m.CallbacksApart := by
  have meets_iff {f : FunctionDecl} (hf : f ∈ m.declared) {q : PropertyDecl} {name : Text}
      (mem : name ∈ q.callbacks) (hq : q ∈ m.properties) :
      f.name.words = name.words ↔ f.name.stem = name := by
    obtain ⟨s, listed, rfl⟩ := PropertyDecl.exists_ending_of_mem_callbacks mem
    obtain ⟨some, plain, -⟩ := PropertyDecl.callbackEndings_spec listed
    exact Text.words_eq_words_append_iff (h.property_wellFormed hq).name
      (h.declared_wellFormed hf).name some plain
  rw [callbacks, List.map_append, List.nodup_append, h.nodup_words_declared_iff,
    and_iff_right h.nodup_words_accessors]
  simp only [List.forall_mem_map, List.mem_flatMap]
  constructor
  · rintro ⟨declared, apart⟩
    refine ⟨declared, fun f hf q hq mem => ?_⟩
    exact apart f hf _ ⟨q, hq, mem⟩ ((meets_iff hf mem hq).mpr rfl)
  · rintro ⟨declared, accessors⟩
    refine ⟨declared, fun f hf name ⟨q, hq, mem⟩ same => ?_⟩
    rw [meets_iff hf mem hq] at same
    exact accessors f hf q hq (same ▸ mem)

theorem nodup_callbacks_iff :
    m.callbacks.Nodup ↔ ∀ f ∈ m.declared, ∀ q ∈ m.properties, f.name ∉ q.callbacks := by
  have accessors : (m.properties.flatMap PropertyDecl.callbacks).Nodup :=
    List.Nodup.of_map _ h.nodup_words_accessors
  rw [callbacks, List.nodup_append, and_iff_right h.nodup_declared, and_iff_right accessors]
  simp only [List.forall_mem_map, List.mem_flatMap]
  constructor
  · exact fun apart f hf q hq mem => apart f hf _ ⟨q, hq, mem⟩ rfl
  · rintro apart f hf name ⟨q, hq, mem⟩ rfl
    exact apart f hf q hq mem

end WellFormed

/-- A unit that is accepted defines and registers one callback for each function, method and getter,
and one for each setter that there is. No two have one name unless a function or a method is named
like an accessor; no two have the same words unless a declared name has the stem of an accessor, or
of another declared name. -/
theorem nodup_callbackNames_iff {m : Module} (valid : m.isValid) (options : Options) :
    ∃ p, m.plan options = .ok p ∧
      p.callbackNames.Perm m.callbacks ∧ p.registrations.callbacks = m.callbacks ∧
      (p.callbackNames.Nodup ↔
        ∀ f ∈ m.declared, ∀ q ∈ m.properties, f.name ∉ q.callbacks) ∧
      ((p.callbackNames.map Text.words).Nodup ↔ m.CallbacksApart) := by
  have formed := wellFormed_of_isValid valid
  have defined := m.callbackNames_planned options
  refine ⟨_, plan_eq_ok valid options, defined, m.callbacks_tables, ?_, ?_⟩
  · rw [defined.nodup_iff, formed.nodup_callbacks_iff]
  · rw [(defined.map Text.words).nodup_iff, formed.nodup_words_callbacks_iff]

theorem nodup_callbackNames_page :
    page.isValid ∧ ∃ p, page.plan .standard = .ok p ∧
      p.callbackNames.Perm ["open", "close", "titleAttributeGetCallback",
        "titleAttributeSetCallback", "rootAttributeGetCallback"] ∧
      (p.callbackNames.map Text.words).Nodup := by
  obtain ⟨p, planned, defined, -, -, apart⟩ := nodup_callbackNames_iff isValid_page .standard
  exact ⟨isValid_page, p, planned, defined, apart.mpr ⟨by decide, by decide⟩⟩

/-- A function named like the getter of a property. -/
def clashing : Module :=
  { id := "page"
    backing := "Page"
    members :=
      [.function ⟨"titleAttributeGetCallback", [], .primitive .void⟩,
        .cls ⟨⟨"constructor", [], .primitive .void⟩, [⟨"title", .primitive .string, false⟩], []⟩]
    implementation := [] }

theorem not_nodup_callbackNames_clashing :
    clashing.isValid ∧ ∃ p, clashing.plan .standard = .ok p ∧ ¬ p.callbackNames.Nodup := by
  have valid : clashing.isValid := by decide
  refine ⟨valid, _, plan_eq_ok valid .standard, ?_⟩
  rw [(clashing.callbackNames_planned .standard).nodup_iff]
  decide

end Module

end ScriptBinding
