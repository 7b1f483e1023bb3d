import Mathlib.Data.List.Forall2
import ScriptBinding.Proofs.Call.Format

/-!
What a planned call does with any number of arguments. Its points convert one slot after the other;
the point that is reached is numbered by the arguments given beyond the required ones, and it is
reached with exactly the values of the slots before it. The description needs no check of the
declaration: required and optional arguments may stand in any order.
-/
namespace ScriptBinding

section
variable {α β : Type} (values : List α) (convert : Conversion → α → Except Unconvertible β)

/-- Every value is converted by the conversion beside it, to these results. -/
def Converts (pairs : List (Conversion × α)) (results : List β) : Prop :=
  List.Forall₂ (fun pair result => convert pair.1 pair.2 = .ok result) pairs results

/-- Conversions in order, up to the first that fails. -/
inductive ConvertsUpTo :
    List (Conversion × α) → List Conversion → Except Unconvertible (List β) → Prop
  | all {pairs results} (h : Converts convert pairs results) :
      ConvertsUpTo pairs (pairs.map (·.1)) (.ok results)
  | stopped {done results c v rest fault} (h : Converts convert done results)
      (failed : convert c v = .error fault) :
      ConvertsUpTo (done ++ (c, v) :: rest) (done.map (·.1) ++ [c]) (.error fault)

theorem convertAll_append (cs ds : List Conversion) :
    convertAll values convert (cs ++ ds) =
      match convertAll values convert cs with
      | (attempted, .error failure) => (attempted, .error failure)
      | (attempted, .ok converted) =>
        (attempted ++ (convertAll values convert ds).1,
          (convertAll values convert ds).2.map (converted ++ ·)) := by
  induction cs with
  | nil =>
      cases h : (convertAll values convert ds).2 <;> simp [convertAll, Except.map, ← h]
  | cons c rest ih =>
      simp only [List.cons_append, convertAll, ih]
      cases slotValue? values c.slot with
      | none => rfl
      | some v =>
          cases h : convert c v with
          | error fault => simp only [h]
          | ok w =>
              simp only [h]
              obtain ⟨attempted, outcome⟩ := convertAll values convert rest
              cases outcome with
              | error failure => rfl
              | ok converted =>
                  cases (convertAll values convert ds).2 <;> simp [Except.map]

/-- With a value in every slot, conversions end after the last or at the first that fails. -/
theorem convertAll_eq_of_readable (pairs : List (Conversion × α))
    (readable : ∀ pair ∈ pairs, slotValue? values pair.1.slot = some pair.2) :
    ∃ attempted outcome, ConvertsUpTo convert pairs attempted outcome ∧
      convertAll values convert (pairs.map (·.1)) =
        (attempted, outcome.mapError .unconvertible) := by
  induction pairs with
  | nil => exact ⟨[], .ok [], .all .nil, rfl⟩
  | cons pair rest ih =>
      obtain ⟨first, others⟩ := List.forall_mem_cons.mp readable
      simp only [List.map_cons, convertAll, first]
      cases h : convert pair.1 pair.2 with
      | error fault =>
          have none : Converts convert [] ([] : List β) := .nil
          exact ⟨[pair.1], .error fault, .stopped none h, rfl⟩
      | ok w =>
          obtain ⟨attempted, outcome, run, eq⟩ := ih others
          rw [eq]
          cases run with
          | @all _ results done =>
              have more : Converts convert (pair :: rest) (w :: results) := .cons h done
              exact ⟨_, _, .all more, rfl⟩
          | @stopped done results _ _ _ _ converted failed =>
              have more : Converts convert (pair :: done) (w :: results) := .cons h converted
              exact ⟨_, _, .stopped more failed, rfl⟩

namespace CallPlan
variable (plan : CallPlan)

/-- A chain is followed up to the first point that fires; all conversions on the way are one
sequence. -/
theorem runPoints_eq_of_fires {skipped : List DispatchPoint} {point : DispatchPoint}
    (skips : ∀ p ∈ skipped, p.fires values.length = false) (fires : point.fires values.length)
    (rest : List DispatchPoint) (before : List β) :
    plan.runPoints values convert before (skipped ++ point :: rest) =
      match convertAll values convert ((skipped ++ [point]).flatMap (·.conversions)) with
      | (attempted, .error failure) => .failed attempted failure
      | (attempted, .ok converted) =>
        ⟨attempted, .ok ⟨plan.callee, point, before ++ converted⟩⟩ := by
  induction skipped generalizing before with
  | nil =>
      cases converted : convertAll values convert point.conversions with
      | mk attempted outcome =>
          cases outcome with
          | error failure => simp [runPoints, converted]
          | ok results => simp [runPoints, converted, fires]
  | cons p others ih =>
      obtain ⟨skip, skips⟩ := List.forall_mem_cons.mp skips
      simp only [List.cons_append, List.flatMap_cons, runPoints, convertAll_append, skip,
        ih skips]
      cases convertAll values convert p.conversions with
      | mk attempted outcome =>
          cases outcome with
          | error failure => rfl
          | ok converted =>
              cases convertAll values convert ((others ++ [point]).flatMap (·.conversions)) with
              | mk attempted' outcome' =>
                  cases outcome' <;>
                    simp [CallTrace.after, CallTrace.failed, Except.map]

end CallPlan

end

end ScriptBinding
