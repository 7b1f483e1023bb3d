import ScriptBinding.Proofs.Layout.Lines

/-!
Writing code step by step. The steps of code that is nested as blocks leave what they enter, and
none between the first and the last leads below the depth at which the code begins.
-/
namespace ScriptBinding

namespace Emitter

/-- The emitter at the beginning and after each step. -/
def passed (e : Emitter) : List Step → List Emitter
  | [] => [e]
  | s :: rest => e :: (e.step s).passed rest

theorem run_append (e : Emitter) (steps others : List Step) :
    e.run (steps ++ others) = (e.run steps).run others := List.foldl_append

theorem getLast?_passed (e : Emitter) (steps : List Step) :
    (e.passed steps).getLast? = some (e.run steps) := by
  induction steps generalizing e with
  | nil => rfl
  | cons s rest ih =>
      rw [passed, List.getLast?_cons, ih]
      rfl

theorem forall_mem_passed_append {P : Emitter → Prop} {e : Emitter} {steps others : List Step}
    (first : ∀ between ∈ e.passed steps, P between)
    (later : ∀ between ∈ (e.run steps).passed others, P between) :
    ∀ between ∈ e.passed (steps ++ others), P between := by
  induction steps generalizing e with
  | nil => exact later
  | cons s rest ih =>
      rw [passed, List.forall_mem_cons] at first
      exact List.forall_mem_cons.mpr ⟨first.1, ih first.2 later⟩

end Emitter

namespace Code

open Emitter (Step)

mutual

def steps : Code → List Step
  | line text => [.line text]
  | verbatim text => [.verbatim text]
  | block opening body closing => .enter opening :: (allSteps body ++ [.leave closing])
  | deeper body => .deepen :: (allSteps body ++ [.raise])

def allSteps : List Code → List Step
  | [] => []
  | c :: rest => c.steps ++ allSteps rest

end

@[simp] theorem allSteps_append (code others : List Code) :
    allSteps (code ++ others) = allSteps code ++ allSteps others := by
  induction code with
  | nil => rfl
  | cons c rest ih => rw [List.cons_append, allSteps, ih, allSteps, List.append_assoc]

/-- Lines are written as they come. -/
@[simp] theorem allSteps_map_line (texts : List Text) :
    allSteps (texts.map .line) = texts.map .line := by
  induction texts with
  | nil => rfl
  | cons t rest ih => rw [List.map_cons, allSteps, ih]; rfl

@[simp] theorem allSteps_map_verbatim (texts : List Text) :
    allSteps (texts.map .verbatim) = texts.map .verbatim := by
  induction texts with
  | nil => rfl
  | cons t rest ih => rw [List.map_cons, allSteps, ih]; rfl

theorem allSteps_spaced (pieces : List Code) :
    allSteps (spaced pieces) = pieces.flatMap fun c => c.steps ++ [.blank] := by
  induction pieces with
  | nil => rfl
  | cons c rest ih =>
      rw [List.flatMap_cons, ← ih, List.append_assoc]
      rfl

mutual

theorem run_steps (e : Emitter) : (c : Code) → e.run c.steps = c.write e
  | line _ | verbatim _ => rfl
  | block opening body closing => by
    show Emitter.run (e.enter opening) (allSteps body ++ [.leave closing]) = _
    rw [Emitter.run_append, run_allSteps _ body]
    rfl
  | deeper body => by
    show Emitter.run e.deepen (allSteps body ++ [.raise]) = _
    rw [Emitter.run_append, run_allSteps _ body]
    rfl

theorem run_allSteps (e : Emitter) : (code : List Code) → e.run (allSteps code) = writeAll code e
  | [] => rfl
  | c :: rest => by
    rw [allSteps, Emitter.run_append, run_steps e c, run_allSteps _ rest, writeAll]

end

theorem depth_run_steps (e : Emitter) (c : Code) : (e.run c.steps).depth = e.depth := by
  rw [run_steps, write_eq]

theorem depth_run_allSteps (e : Emitter) (code : List Code) :
    (e.run (allSteps code)).depth = e.depth := by
  rw [run_allSteps, writeAll_eq]

/-- After the inside of a block the emitter is one level deeper than before the block, until the
block is left. -/
theorem le_depth_of_mem_leaving {e inner : Emitter} (body : List Code) {last : Step}
    (entered : inner.depth = e.depth + 1)
    (left : ((inner.run (allSteps body)).step last).depth =
      (inner.run (allSteps body)).depth - 1) :
    ∀ between ∈ (inner.run (allSteps body)).passed [last], e.depth ≤ between.depth := by
  have within : (inner.run (allSteps body)).depth = e.depth + 1 := by
    rw [depth_run_allSteps, entered]
  exact List.forall_mem_cons.mpr ⟨by omega, List.forall_mem_singleton.mpr (by omega)⟩

mutual

/-- Writing code never leads below the depth at which it begins. -/
theorem le_depth_of_mem_passed (e : Emitter) :
    (c : Code) → ∀ between ∈ e.passed c.steps, e.depth ≤ between.depth
  | line _ | verbatim _ => by
    refine List.forall_mem_cons.mpr ⟨Int.le_refl _, List.forall_mem_singleton.mpr (Int.le_refl _)⟩
  | block opening body closing => by
    have inside : ∀ between ∈ (e.enter opening).passed (allSteps body), e.depth ≤ between.depth :=
      fun between mem => Int.le_of_lt (le_depth_of_mem_allPassed _ body between mem)
    exact List.forall_mem_cons.mpr ⟨Int.le_refl _,
      Emitter.forall_mem_passed_append inside (le_depth_of_mem_leaving body rfl rfl)⟩
  | deeper body => by
    have inside : ∀ between ∈ e.deepen.passed (allSteps body), e.depth ≤ between.depth :=
      fun between mem => Int.le_of_lt (le_depth_of_mem_allPassed _ body between mem)
    exact List.forall_mem_cons.mpr ⟨Int.le_refl _,
      Emitter.forall_mem_passed_append inside (le_depth_of_mem_leaving body rfl rfl)⟩

theorem le_depth_of_mem_allPassed (e : Emitter) :
    (code : List Code) → ∀ between ∈ e.passed (allSteps code), e.depth ≤ between.depth
  | [] => List.forall_mem_singleton.mpr (Int.le_refl _)
  | c :: rest => by
    refine Emitter.forall_mem_passed_append (le_depth_of_mem_passed e c) ?_
    rw [← depth_run_steps e c]
    exact le_depth_of_mem_allPassed _ rest

end

end Code

end ScriptBinding
