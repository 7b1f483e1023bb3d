import ScriptBinding.Layout.Emitter

/-!
Code as nested blocks of lines. A block's closing line is never missing, so writing code leaves the
depth of an emitter as it was.
-/
namespace ScriptBinding

inductive Code where
  /-- A line at the current depth; the empty line if the text is empty. -/
  | line (text : Text)
  /-- A line that is not indented. -/
  | verbatim (text : Text)
  | block (opening : Text) (body : List Code) (closing : Text)
  /-- Code one level deeper, without lines of its own around it. -/
  | deeper (body : List Code)

namespace Code

def blank : Code := line []

mutual

def write : Code → Emitter → Emitter
  | line text, e => e.line text
  | verbatim text, e => e.verbatim text
  | block opening body closing, e => (writeAll body (e.enter opening)).leave closing
  | deeper body, e => (writeAll body e.deepen).raise

def writeAll : List Code → Emitter → Emitter
  | [], e => e
  | c :: rest, e => writeAll rest (c.write e)

end

/-- An empty line after each piece. -/
def spaced (pieces : List Code) : List Code := pieces.flatMap fun c => [c, blank]

end Code

/-- An emitter that holds the lines of code and nothing else. -/
def Emitter.hold (e : Emitter) (code : List Code) : Emitter := Code.writeAll code e.reset

end ScriptBinding
