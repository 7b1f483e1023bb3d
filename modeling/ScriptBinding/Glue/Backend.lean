import ScriptBinding.Glue.Routines

/-!
A backend that writes one file after another. Between calls it keeps its indentation, its lines and
the plan of the last call; a call clears the emitter and puts its own plan in place before anything
is written, and reads the plan from there.
-/
namespace ScriptBinding

def glueIndent : Text := "  "

inductive FileKind where
  | header
  | source
deriving DecidableEq

def ModulePlan.steps (p : ModulePlan) : FileKind → List Emitter.Step
  | .header => p.headerSteps
  | .source => p.sourceSteps

/-- A call of a backend: which of the two files to write, and for which plan. -/
structure FileRequest where
  kind : FileKind
  plan : ModulePlan

structure Backend where
  depth : Int
  lines : Array Text
  current? : Option ModulePlan

namespace Backend

def fresh : Backend := ⟨0, #[], none⟩

def emitter (b : Backend) : Emitter := ⟨glueIndent, b.depth, b.lines⟩

def withEmitter (b : Backend) (e : Emitter) : Backend :=
  { b with depth := e.depth, lines := e.lines }

/-- The state in which a call writes: nothing is written yet, and its plan is the current one. -/
def start (b : Backend) (p : ModulePlan) : Backend :=
  { b.withEmitter b.emitter.reset with current? := some p }

/-- What is to be written for the current plan; nothing if there is none. -/
def pending (b : Backend) (kind : FileKind) : List Emitter.Step :=
  match b.current? with
  | some p => p.steps kind
  | none => []

/-- The file that a call gives back, and the backend as it leaves it. -/
def emit (b : Backend) (r : FileRequest) : Text × Backend :=
  let b := b.start r.plan
  let e := b.emitter.run (b.pending r.kind)
  (e.file, b.withEmitter e)

/-- The answers to one call after the other. -/
def emitAll (b : Backend) : List FileRequest → List (Text × Backend)
  | [] => []
  | r :: rest => b.emit r :: (b.emit r).2.emitAll rest

end Backend

end ScriptBinding
