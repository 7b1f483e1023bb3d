import Mathlib.Data.List.Induction
import ScriptBinding.Proofs.Assembly.Planned

/-!
Tables that are merged in any grouping. As long as at most one of them brings a constructor, all
groupings give the same tables, one behind the other; if two bring one, every grouping fails. So it
does not matter how the tables of a unit are gathered from its members.
-/
namespace ScriptBinding

/-- The rejection of two tables that bring a constructor each, the first of this name. -/
def Rejection.secondConstructor (name : Text) : Rejection :=
  ⟨name, [⟨.ofRoot name, .secondConstructor⟩]⟩

namespace Registrations

def constructors (rs : List Registrations) : List Text := rs.filterMap (·.constructor?)

theorem constructors_append (rs ss : List Registrations) :
    constructors (rs ++ ss) = constructors rs ++ constructors ss := List.filterMap_append

theorem constructors_singleton (r : Registrations) : constructors [r] = r.constructor?.toList := by
  cases h : r.constructor? <;> simp [constructors, h]

theorem constructor?_joined (rs : List Registrations) :
    (joined rs).constructor? = (constructors rs).head? := rfl

theorem joined_append (rs ss : List Registrations) :
    joined [joined rs, joined ss] = joined (rs ++ ss) := by
  cases h : constructors rs <;> cases h' : constructors ss <;> simp_all [joined, constructors]

theorem empty_merge (r : Registrations) : empty.merge r = .ok r := rfl

theorem merge_empty (r : Registrations) : r.merge empty = .ok r := by
  obtain ⟨_, constructor?, _, _⟩ := r
  cases constructor? <;> simp [merge, mergeConstructors, empty, bind, Except.bind]

/-- What two merges of tables gave can be merged as long as there is one constructor at most. -/
theorem merge_joined_eq_ok {rs ss : List Registrations}
    (one : (constructors (rs ++ ss)).length ≤ 1) :
    (joined rs).merge (joined ss) = .ok (joined (rs ++ ss)) := by
  have fewer (names : List Text) : names.head?.toList.length ≤ names.length := by
    cases names <;> simp
  have early := fewer (constructors rs)
  have late := fewer (constructors ss)
  rw [merge_eq_ok, joined_append]
  rw [constructors_append, List.length_append] at one
  show (constructors ([joined rs] ++ [joined ss])).length ≤ 1
  rw [constructors_append, constructors_singleton, constructors_singleton, constructor?_joined,
    constructor?_joined, List.length_append]
  omega

theorem merge_eq_error {r s : Registrations} {name : Text} (first : r.constructor? = some name)
    (second : s.constructor?.isSome) : r.merge s = .error (.secondConstructor name) := by
  obtain ⟨other, second⟩ := Option.isSome_iff_exists.mp second
  rw [merge, first, second]
  rfl

/-- Two constructors that were not met before are met in one merge, and the first is named. -/
theorem merge_joined_eq_error {rs ss : List Registrations}
    (several : 1 < (constructors (rs ++ ss)).length) (early : (constructors rs).length ≤ 1)
    (late : (constructors ss).length ≤ 1) :
    ∃ first second, constructors rs = [first] ∧ constructors ss = [second] ∧
      (joined rs).merge (joined ss) = .error (.secondConstructor first) := by
  rw [constructors_append, List.length_append] at several
  obtain ⟨first, met⟩ : ∃ first, constructors rs = [first] := by
    rw [← List.length_eq_one_iff]
    omega
  obtain ⟨second, met'⟩ : ∃ second, constructors ss = [second] := by
    rw [← List.length_eq_one_iff]
    omega
  refine ⟨first, second, met, met', merge_eq_error ?_ ?_⟩
  · rw [constructor?_joined, met]
    rfl
  · rw [constructor?_joined, met']
    rfl

/-- Merging from the left fails at the second constructor, and names the first. -/
theorem foldlM_merge_eq_error {rs : List Registrations} (several : 1 < (constructors rs).length) :
    ∃ first, (constructors rs).head? = some first ∧
      rs.foldlM merge empty = .error (.secondConstructor first) := by
  induction rs using List.reverseRecOn with
  | nil => exact absurd several (by decide)
  | append_singleton rs r ih =>
      rw [List.foldlM_append, constructors_append, List.head?_append]
      by_cases earlier : 1 < (constructors rs).length
      · obtain ⟨first, head, failed⟩ := ih earlier
        exact ⟨first, by rw [head]; rfl, by rw [failed]; rfl⟩
      · have merged : rs.foldlM merge empty = .ok (joined rs) :=
          foldlM_merge_eq_ok (Nat.not_lt.mp earlier)
        obtain ⟨first, _, met, -, failed⟩ :=
          merge_joined_eq_error several (Nat.not_lt.mp earlier) (List.length_filterMap_le _ [r])
        rw [joined_singleton] at failed
        refine ⟨first, by rw [met]; rfl, ?_⟩
        simp only [merged, List.foldlM_cons, List.foldlM_nil, bind_pure]
        exact failed

end Registrations

/-- Tables and the grouping in which they are merged. -/
inductive Merging where
  | empty
  | tables (r : Registrations)
  | both (first second : Merging)

namespace Merging

open Registrations (constructors constructors_append constructors_singleton joined)

/-- What is merged, in order. -/
def inputs : Merging → List Registrations
  | empty => []
  | tables r => [r]
  | both first second => first.inputs ++ second.inputs

def result : Merging → Except Rejection Registrations
  | empty => .ok .empty
  | tables r => .ok r
  | both first second => do (← first.result).merge (← second.result)

theorem result_eq_ok (t : Merging) (one : (constructors t.inputs).length ≤ 1) :
    t.result = .ok (joined t.inputs) := by
  induction t with
  | empty => rfl
  | tables r => rw [result, inputs, Registrations.joined_singleton]
  | both first second ih ih' =>
      have parts := one
      rw [inputs, constructors_append, List.length_append] at parts
      rw [result, ih (by omega), ih' (by omega), inputs]
      exact Registrations.merge_joined_eq_ok one

/-- With more than one constructor, the merge that meets two of them fails, and names the first of
the two. -/
theorem result_eq_error (t : Merging) (several : 1 < (constructors t.inputs).length) :
    ∃ name ∈ (constructors t.inputs).dropLast, t.result = .error (.secondConstructor name) := by
  induction t with
  | empty => exact absurd several (by decide)
  | tables r => exact absurd several (Nat.not_lt.mpr (List.length_filterMap_le _ [r]))
  | both first second ih ih' =>
      rw [result]
      by_cases early : 1 < (constructors first.inputs).length
      · obtain ⟨name, listed, failed⟩ := ih early
        rw [failed, inputs, constructors_append, List.dropLast_append]
        refine ⟨name, ?_, rfl⟩
        split
        · exact listed
        · exact List.mem_append_left _ (List.dropLast_subset _ listed)
      · rw [result_eq_ok first (Nat.not_lt.mp early)]
        by_cases late : 1 < (constructors second.inputs).length
        · obtain ⟨name, listed, failed⟩ := ih' late
          have some : constructors second.inputs ≠ [] :=
            List.ne_nil_of_mem (List.dropLast_subset _ listed)
          rw [failed, inputs, constructors_append, List.dropLast_append_of_ne_nil some]
          exact ⟨name, List.mem_append_right _ listed, rfl⟩
        · obtain ⟨name, _, met, met', failed⟩ := Registrations.merge_joined_eq_error several
            (Nat.not_lt.mp early) (Nat.not_lt.mp late)
          rw [result_eq_ok second (Nat.not_lt.mp late), inputs, constructors_append, met, met']
          exact ⟨name, List.mem_singleton_self _, failed⟩

/-- Each of the tables is added to what was merged before it. -/
def leftwards (rs : List Registrations) : Merging :=
  rs.foldl (fun before r => both before (tables r)) empty

theorem inputs_leftwards (rs : List Registrations) : (leftwards rs).inputs = rs := by
  induction rs using List.reverseRecOn with
  | nil => rfl
  | append_singleton rs r ih =>
      rw [leftwards, List.foldl_concat]
      exact congrArg (· ++ [r]) ih

/-- Merging from the left is a loop over the tables. -/
theorem result_leftwards (rs : List Registrations) :
    (leftwards rs).result = rs.foldlM Registrations.merge .empty := by
  induction rs using List.reverseRecOn with
  | nil => rfl
  | append_singleton rs r ih =>
      rw [leftwards, List.foldl_concat, List.foldlM_append, ← ih]
      simp only [List.foldlM_cons, List.foldlM_nil, bind_pure]
      rfl

end Merging

namespace Registrations

/-- In any grouping, tables are merged exactly if there is one constructor at most among them, and
then into one table after the other. The failure names a constructor before the last, from the left
the first of all. Empty tables make no difference. -/
theorem merge_in_any_grouping (rs : List Registrations) :
    (∀ t : Merging, t.inputs = rs →
      ((∃ r, t.result = .ok r) ↔ (constructors rs).length ≤ 1) ∧
      ((constructors rs).length ≤ 1 → t.result = .ok (joined rs)) ∧
      (1 < (constructors rs).length →
        ∃ name ∈ (constructors rs).dropLast, t.result = .error (.secondConstructor name))) ∧
    ((Merging.leftwards rs).inputs = rs ∧ (Merging.leftwards rs).result = rs.foldlM merge empty) ∧
    (1 < (constructors rs).length → ∃ first v, (constructors rs).head? = some first ∧
      rs.foldlM merge empty = .error ⟨first, [v]⟩ ∧ v.path.written = first ∧
      v.breach.category = ("classes" : Text)) ∧
    ∀ r : Registrations, r.merge empty = .ok r ∧ empty.merge r = .ok r := by
  refine ⟨?_, ⟨Merging.inputs_leftwards rs, Merging.result_leftwards rs⟩, ?_,
    fun r => ⟨r.merge_empty, r.empty_merge⟩⟩
  · rintro t rfl
    refine ⟨⟨?_, fun one => ⟨_, t.result_eq_ok one⟩⟩, t.result_eq_ok, t.result_eq_error⟩
    rintro ⟨r, merged⟩
    refine Nat.not_lt.mp fun several => ?_
    obtain ⟨name, -, failed⟩ := t.result_eq_error several
    exact absurd (merged.symm.trans failed) nofun
  · intro several
    obtain ⟨first, head, failed⟩ := foldlM_merge_eq_error several
    exact ⟨first, _, head, failed, List.append_nil first, rfl⟩

theorem merge_in_any_grouping_mixed :
    let function : Registrations := { empty with globalFunctions := [⟨"open", "open", 2⟩] }
    let cls (name : Text) : Registrations :=
      { empty with constructor? := some name, prototypeMethods := [⟨"close", "close", 0⟩] }
    Merging.result (.both (.tables function) (.both (.tables (cls "Page")) (.tables function))) =
        .ok ⟨[⟨"open", "open", 2⟩, ⟨"open", "open", 2⟩], some "Page", [⟨"close", "close", 0⟩], []⟩ ∧
      1 < (constructors [cls "Page", function, cls "Node"]).length ∧
      ∃ v, [cls "Page", function, cls "Node"].foldlM merge empty = .error ⟨"Page", [v]⟩ ∧
        v.breach.category = ("classes" : Text) := by
  intro function cls
  have several : 1 < (constructors [cls "Page", function, cls "Node"]).length := by decide
  refine ⟨?_, several, ?_⟩
  · exact ((merge_in_any_grouping [function, cls "Page", function]).1 _ rfl).2.1 (by decide)
  · obtain ⟨first, v, head, failed, -, category⟩ := (merge_in_any_grouping _).2.2.1 several
    obtain rfl := Option.some.inj head
    exact ⟨v, failed, category⟩

end Registrations

end ScriptBinding
