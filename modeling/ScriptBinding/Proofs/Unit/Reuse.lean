import ScriptBinding.Proofs.Assembly.Planned
import ScriptBinding.Proofs.Layout.Routines

/-!
One backend for many files. Whatever a backend has been used for, a call gives back what a new one
would: nothing of the indentation, the lines or the plan that an earlier call has left is read, and
each call leaves the backend unindented.
-/
namespace ScriptBinding

namespace Backend

variable (b : Backend)

/-- A backend behind some calls. -/
def after (requests : List FileRequest) : Backend := requests.foldl (fun b r => (b.emit r).2) b

/-- The emitter at the beginning of a call, when it is cleared, and after each step of it. -/
def passed (r : FileRequest) : List Emitter :=
  (b.start r.plan).emitter.passed ((b.start r.plan).pending r.kind)

/-- The state in which a call writes does not depend on the state in which it is made. -/
theorem start_eq (p : ModulePlan) : b.start p = ⟨0, #[], some p⟩ := rfl

theorem emit_eq (r : FileRequest) : b.emit r = fresh.emit r := by
  rw [emit, b.start_eq, emit, fresh.start_eq]

/-- What is pending once a call has put its plan in place are the steps of a tree. -/
theorem pending_start (r : FileRequest) :
    (b.start r.plan).pending r.kind = Code.allSteps (r.plan.code r.kind) :=
  r.plan.steps_eq r.kind

theorem emitter_withEmitter {e : Emitter} (unit : e.unit = glueIndent) :
    (b.withEmitter e).emitter = e := by
  cases e with
  | mk _ depth lines => exact congrArg (Emitter.mk · depth lines) unit.symm

theorem depth_emit (r : FileRequest) : (b.emit r).2.depth = 0 := by
  show ((b.start r.plan).emitter.run ((b.start r.plan).pending r.kind)).depth = 0
  rw [pending_start, Code.depth_run_allSteps]
  rfl

/-- The last emitter of a call is the one that it leaves. -/
theorem getLast?_passed (r : FileRequest) :
    (b.passed r).getLast? = some (b.emit r).2.emitter := by
  have unit : ((b.start r.plan).emitter.run ((b.start r.plan).pending r.kind)).unit =
      glueIndent := by
    rw [pending_start, Code.run_allSteps, Code.writeAll_eq]
    rfl
  rw [passed, Emitter.getLast?_passed]
  exact congrArg some (emitter_withEmitter _ unit).symm

/-- No step of a call leads below the margin. -/
theorem nonneg_of_mem_passed (r : FileRequest) : ∀ between ∈ b.passed r, 0 ≤ between.depth := by
  rw [passed, pending_start]
  exact Code.le_depth_of_mem_allPassed _ _

/-- What a call is like, whatever the backend has been used for. -/
structure Unaffected (r : FileRequest) : Prop where
  file : (b.emit r).1 = (fresh.emit r).1
  above : ∀ between ∈ b.passed r, 0 ≤ between.depth
  last : (b.passed r).getLast? = some (b.emit r).2.emitter
  depth : (b.emit r).2.depth = 0
  lines : Text.join "\n" (b.emit r).2.lines.toList ++ "\n" = (b.emit r).1

theorem unaffected (r : FileRequest) : b.Unaffected r where
  file := congrArg Prod.fst (b.emit_eq r)
  above := b.nonneg_of_mem_passed r
  last := b.getLast?_passed r
  depth := b.depth_emit r
  lines := rfl

theorem emitAll_append (earlier later : List FileRequest) :
    b.emitAll (earlier ++ later) = b.emitAll earlier ++ (b.after earlier).emitAll later := by
  induction earlier generalizing b with
  | nil => rfl
  | cons r rest ih =>
      rw [List.cons_append, emitAll, ih]
      rfl

theorem length_emitAll (requests : List FileRequest) :
    (b.emitAll requests).length = requests.length := by
  induction requests generalizing b with
  | nil => rfl
  | cons r rest ih => rw [emitAll, List.length_cons, ih, List.length_cons]

/-- A backend in any state, used for any calls, gives back for each what a new one does. No step of
a call leads below the margin, and each call leaves at the margin an emitter that holds the lines of
its file. -/
theorem emitAll_reused (requests : List FileRequest) :
    (b.emitAll requests).map Prod.fst = requests.map (fun r => (fresh.emit r).1) ∧
      ∀ earlier r later, requests = earlier ++ r :: later →
        (b.emitAll requests)[earlier.length]? = some ((b.after earlier).emit r) ∧
          (b.after earlier).Unaffected r := by
  constructor
  · induction requests generalizing b with
    | nil => rfl
    | cons r rest ih =>
        rw [emitAll, List.map_cons, ih, List.map_cons, (b.unaffected r).file]
  · rintro earlier r later rfl
    refine ⟨?_, (b.after earlier).unaffected r⟩
    have passed := Nat.le_of_eq (b.length_emitAll earlier)
    rw [emitAll_append, List.getElem?_append_right passed, length_emitAll, Nat.sub_self]
    rfl

/-- A backend that an earlier use has left indented, with a line and the plan of another unit. -/
def leftOver : Backend :=
  ⟨3, #["  \x7d"], some (Module.planned ⟨"frame", "Frame", [], []⟩ .standard)⟩

theorem emitAll_reused_page :
    let p := page.planned .standard
    (leftOver.emitAll [⟨.source, p⟩, ⟨.header, p⟩]).map Prod.fst = [p.source, p.header] ∧
      (leftOver.after [⟨.source, p⟩]).Unaffected ⟨.header, p⟩ := by
  intro p
  obtain ⟨files, calls⟩ := leftOver.emitAll_reused [⟨.source, p⟩, ⟨.header, p⟩]
  exact ⟨files, (calls [⟨.source, p⟩] ⟨.header, p⟩ [] rfl).2⟩

end Backend

end ScriptBinding
