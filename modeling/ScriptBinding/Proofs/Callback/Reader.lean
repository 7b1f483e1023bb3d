import ScriptBinding.Proofs.Callback.Machine

/-!
The lines of a callback, read as instructions. Every line is known by its first word and by what
follows that word; blocks are closed by lines of their own. A name is one word, spelled with the
line feed that may stand behind it. Lines of any other form are not read.
-/
namespace ScriptBinding

namespace Callback

open Text

inductive Line where
  | blank
  | instruction (i : Instruction)
  | openBranch (asked : Question)
  | openOnce
  | closeBranch
  | closeOnce

namespace Line

/-- The variables that are passed on, among the values of a native call. -/
def passed? : CallTarget → List Text → Option (List Text)
  | .backing _, first :: given =>
    if first = "context" ∧ given.getLast? = some (ofString "exception_state") then
      some given.dropLast
    else none
  | .receiver, given =>
    if given.getLast? = some (ofString "exception_state") then some given.dropLast else none
  | .backing _, [] => none

def callOn? (kept : Bool) (target : CallTarget) (t : Text) : Option Line := do
  let (callee, rest) := t.word
  let given ← before? ");" (← after? "(" rest)
  let passed ← passed? target (pieces given)
  some (.instruction (.call ⟨target, callee, passed, kept⟩))

def call? (kept : Bool) (first rest : Text) : Option Line :=
  if let some t := after? "::" rest then callOn? kept (.backing first) t
  else if let some t := after? "->" rest then
    if first = "self" then callOn? kept .receiver t else none
  else none

def declaration? (t : Text) : Option Line :=
  let (name, rest) := t.word
  if rest = ";" then some (.instruction (.declare name)) else none

/-- What a pointer is declared with, beside the instance behind the receiver. -/
def pointers : List Text := List.map ofString ["nullptr;", "ExecutingContext::From(ctx);"]

def pointer? (t : Text) : Option Line := do
  let (name, rest) := t.word
  let value ← after? " = " rest
  if pointers.contains value then some (.instruction (.declare name))
  else
    let _ ← before? ">(this_val);" (← after? "toScriptWrappable<" value)
    some (.instruction (.declare name))

/-- A template argument, and what follows the double colon behind it. -/
def templateArgument? (t : Text) : Option (Text × Text) := do
  let (argument, rest) ← cut? ':' t
  some (← before? ">" argument, ← after? ":" rest)

def typed? (t : Text) : Option Line := do
  let (_, rest) ← templateArgument? t
  declaration? (← after? "ImplType " rest)

def conversion? (t : Text) : Option Line := do
  let (name, rest) := t.word
  let (operator, rest) ← templateArgument? (← after? " = Converter<" rest)
  let slot ← before? "], exception_state);" (← after? "FromValue(ctx, argv[" rest)
  some (.instruction (.convert name operator (← slot.toNat?)))

def insistence? (t : Text) : Option Line :=
  let (name, rest) := t.word
  if rest = " != nullptr);" then some (.instruction (.insist name)) else none

def asked? (t : Text) : Option Line :=
  if let some n := after? "argc < " t then
    n.toNat?.bind fun n => some (.openBranch (.count (.below n)))
  else if let some n := after? "argc > " t then
    n.toNat?.bind fun n => some (.openBranch (.count (.above n)))
  else if let some n := after? "argc <= " t then
    n.toNat?.bind fun n => some (.openBranch (.count (.atMost n)))
  else if t = "exception_state.HasException()" then some (.openBranch .raised)
  else none

def question? (t : Text) : Option Line := (before? ") \x7b" t).bind asked?

def return? (t : Text) : Option Line :=
  if let some t := after? "JS_ThrowTypeError(ctx, \"" t then do
    let (format, rest) ← literal? t
    if rest = ", argc);" then some (.instruction (.throwMessage format)) else none
  else if let some [] := after? "exception_state.ToQuickJS();" t then
    some (.instruction .returnException)
  else (before? ";" t).map fun value => .instruction (.giveBack value)

/-- A line by its first word and what follows it. -/
def parts? (first rest : Text) : Option Line :=
  if let some t := after? "* " rest then pointer? t
  else if let some t := after? "&& " rest then if first = "auto" then conversion? t else none
  else if let some t := after? "<" rest then if first = "Converter" then typed? t else none
  else if let some t := after? "(" rest then if first = "assert" then insistence? t else none
  else if let some t := after? " (" rest then if first = "if" then question? t else none
  else if let some t := after? " \x7b" rest then
    if first = "do" ∧ (after? "  //" t).isSome then some .openOnce else none
  else if let some t := after? " = " rest then
    if first = "return_value" then call? true t.word.1 t.word.2 else none
  else if let some t := after? " " rest then
    if first = "return" then return? t else declaration? t
  else if let some [] := after? ";" rest then
    if first = "break" then some (.instruction .leave) else none
  else if first = [] then
    if rest = [] then some .blank
    else if rest = "\x7d" then some .closeBranch
    else if rest = "\x7d while (false);" then some .closeOnce
    else none
  else call? false first rest

end Line

def line? (t : Text) : Option Line :=
  let text : Text := t.dropWhile (· = .scalar ' ')
  Line.parts? text.word.1 text.word.2

inductive Opening where
  | branch (asked : Question)
  | once

/-- Where the reading of some lines stands. -/
structure Reading where
  /-- The open blocks, the innermost first, each behind the instructions before it. -/
  outer : List (List Instruction × Opening)
  read : List Instruction

namespace Reading

def add (r : Reading) (is : List Instruction) : Reading := { r with read := r.read ++ is }

def enter (r : Reading) (block : Opening) : Reading := ⟨(r.read, block) :: r.outer, []⟩

def next? (r : Reading) : Line → Option Reading
  | .blank => some r
  | .instruction i => some (r.add [i])
  | .openBranch asked => some (r.enter (.branch asked))
  | .openOnce => some (r.enter .once)
  | .closeBranch =>
    match r.outer with
    | (before, .branch asked) :: outer => some ⟨outer, before ++ [.branch asked r.read]⟩
    | _ => none
  | .closeOnce =>
    match r.outer with
    | (before, .once) :: outer => some ⟨outer, before ++ [.once r.read]⟩
    | _ => none

def lines? (r : Reading) : List Text → Option Reading
  | [] => some r
  | t :: rest => do
    let line ← line? t
    lines? (← r.next? line) rest

end Reading

/-- The instructions of some lines in which every block is closed. -/
def instructions? (lines : List Text) : Option (List Instruction) :=
  match Reading.lines? ⟨[], []⟩ lines with
  | some ⟨[], read⟩ => some read
  | _ => none

end Callback

end ScriptBinding
