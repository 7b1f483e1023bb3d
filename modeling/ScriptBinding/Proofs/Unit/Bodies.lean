import ScriptBinding.Proofs.Assembly.Planned
import ScriptBinding.Proofs.Callback.Calls
import ScriptBinding.Proofs.Unit.Contents

/-!
Where the declarations of a unit are defined: for each function, each constructor and each accessor
of a property there is a block of the file that is its code.
-/
namespace ScriptBinding

namespace Module

variable {m : Module} (options : Options)

/-- What is written for a class of a planned unit is a block of its file. -/
theorem mem_blocks_of_class {c : ClassDecl} (mem : c ∈ m.classes) {code : Code}
    (written : code ∈ (m.planned options).memberCode (.cls (c.plan m.backing options.strictArity)))
    {b : Block} (read : code.block? = some b) : b ∈ (m.planned options).blocks :=
  ModulePlan.mem_blocks_iff.mpr
    (.inl ⟨_, List.mem_map_of_mem (mem_classes_iff.mp mem), _, written, read⟩)

theorem exists_block_of_function {f : FunctionDecl} (mem : f ∈ m.functions) :
    ∃ b ∈ (m.planned options).blocks, b.opening.callbackName? = some f.name ∧
      b.inside = Code.allLinesAt glueIndent 1
        ((f.callPlan .function m.backing options.strictArity).bodyCode m.backing) := by
  have listed := List.mem_map_of_mem (f := Member.plan m.backing options.strictArity)
    (mem_functions_iff.mp mem)
  exact ⟨_, ModulePlan.mem_blocks_iff.mpr (.inl ⟨_, listed, _, List.mem_singleton.mpr rfl, rfl⟩),
    Text.callbackName?_eq_some_iff.mpr rfl, rfl⟩

theorem exists_block_of_method {f : FunctionDecl} (mem : f ∈ m.methods) :
    ∃ b ∈ (m.planned options).blocks, b.opening.callbackName? = some f.name ∧
      b.inside = Code.allLinesAt glueIndent 1
        ((f.callPlan .method m.backing options.strictArity).bodyCode m.backing) := by
  obtain ⟨c, declared, method⟩ := List.mem_flatMap.mp mem
  have written := ((m.planned options).mem_memberCode_cls
    (d := c.plan m.backing options.strictArity)).mpr
      (.inr (.inr (.inr ⟨_, List.mem_map_of_mem method, rfl⟩)))
  exact ⟨_, mem_blocks_of_class options declared written rfl,
    Text.callbackName?_eq_some_iff.mpr rfl, rfl⟩

theorem exists_block_of_constructor {c : ClassDecl} (mem : c ∈ m.classes) :
    ∃ b ∈ (m.planned options).blocks, b.opening = (m.planned options).constructorOpening ∧
      b.inside = Code.allLinesAt glueIndent 1
        ((c.constructor.callPlan .constructor m.backing options.strictArity).bodyCode m.backing) :=
  ⟨_, mem_blocks_of_class options mem List.mem_cons_self rfl, rfl, rfl⟩

theorem exists_block_of_getter {q : PropertyDecl} (mem : q ∈ m.properties) :
    ∃ b ∈ (m.planned options).blocks, (q.accessor.getterCode m.backing).block? = some b := by
  obtain ⟨c, declared, property⟩ := List.mem_flatMap.mp mem
  have written := ((m.planned options).mem_memberCode_cls
    (d := c.plan m.backing options.strictArity)).mpr
      (.inr (.inl ⟨_, List.mem_map_of_mem property, rfl⟩))
  exact ⟨_, mem_blocks_of_class options declared written rfl, rfl⟩

theorem exists_block_of_setter {q : PropertyDecl} (mem : q ∈ m.properties)
    (writable : q.readOnly = false) :
    ∃ b ∈ (m.planned options).blocks,
      (q.accessor.setterCode m.backing q.setter).block? = some b := by
  obtain ⟨c, declared, property⟩ := List.mem_flatMap.mp mem
  have set : q.accessor.setter? = some q.setter := by simp [PropertyDecl.accessor, writable]
  have written := ((m.planned options).mem_memberCode_cls
    (d := c.plan m.backing options.strictArity)).mpr
      (.inr (.inr (.inl ⟨_, List.mem_map_of_mem property, _, set, rfl⟩)))
  exact ⟨_, mem_blocks_of_class options declared written rfl, rfl⟩

end Module

end ScriptBinding
