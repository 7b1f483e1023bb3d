import ScriptBinding.Text.CodePoint

/-!
Lines of text under an indentation. The depth may be driven below zero by closing more than was
opened; the lines are then not indented.
-/
namespace ScriptBinding

structure Emitter where
  /-- What one level of indentation is. -/
  unit : Text
  depth : Int
  lines : Array Text

namespace Emitter

def fresh (unit : Text) : Emitter := ⟨unit, 0, #[]⟩

def verbatim (e : Emitter) (text : Text) : Emitter := { e with lines := e.lines.push text }

/-- A line at the current depth; an empty one is not indented. -/
def line (e : Emitter) (text : Text) : Emitter :=
  e.verbatim (if text.isEmpty then [] else Text.replicate e.depth e.unit ++ text)

def deepen (e : Emitter) : Emitter := { e with depth := e.depth + 1 }

def raise (e : Emitter) : Emitter := { e with depth := e.depth - 1 }

def enter (e : Emitter) (text : Text) : Emitter := (e.line text).deepen

def leave (e : Emitter) (text : Text) : Emitter := e.raise.line text

/-- What a routine can ask of an emitter. Nothing keeps it from leaving what it has not entered. -/
inductive Step where
  | line (text : Text)
  | verbatim (text : Text)
  | enter (text : Text)
  | leave (text : Text)
  | deepen
  | raise

def Step.blank : Step := .line []

def step (e : Emitter) : Step → Emitter
  | .line text => e.line text
  | .verbatim text => e.verbatim text
  | .enter text => e.enter text
  | .leave text => e.leave text
  | .deepen => e.deepen
  | .raise => e.raise

def run (e : Emitter) (steps : List Step) : Emitter := steps.foldl step e

def output (e : Emitter) : Text := Text.join "\n" e.lines.toList

/-- The lines as a file, which ends with a line feed. -/
def file (e : Emitter) : Text := e.output ++ "\n"

def reset (e : Emitter) : Emitter := fresh e.unit

end Emitter

end ScriptBinding
