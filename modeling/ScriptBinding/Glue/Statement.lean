import ScriptBinding.Call.Message
import ScriptBinding.Call.Plan
import ScriptBinding.Layout.Code
import ScriptBinding.Text.Quoted

/-!
The body of a callback as statements, and the lines they are written as. The statements are what the
chain of a call plan comes to: guards on the number of arguments, then a block that runs once and is
left after the native call that fits.
-/
namespace ScriptBinding

inductive CountTest where
  | below (n : Int)
  | above (n : Int)
  | atMost (n : Int)

def CountTest.written : CountTest → Text
  | below n => "argc < " ++ Text.signedDecimal n
  | above n => "argc > " ++ Text.signedDecimal n
  | atMost n => "argc <= " ++ Text.signedDecimal n

/-- What a native call is a member of: the backing class, or the instance behind the receiver. -/
inductive CallTarget where
  | backing (className : Text)
  | receiver

structure NativeCall where
  target : CallTarget
  callee : Text
  passed : List Text
  /-- The value given back is kept. -/
  kept : Bool

/-- A static call is given the context first; the exception state comes last. -/
def NativeCall.written (c : NativeCall) : Text :=
  let kept : Text := if c.kept then "return_value = " else ""
  let (target, first) : Text × List Text :=
    match c.target with
    | .backing className => (className ++ "::" ++ c.callee, ["context"])
    | .receiver => ("self->" ++ c.callee, [])
  let last : List Text := ["exception_state"]
  kept ++ target ++ "(" ++ Text.join ", " (first ++ c.passed ++ last) ++ ");"

inductive Statement where
  | blank
  /-- A declaration that touches no argument. -/
  | declare (text : Text)
  /-- Throws a message, a format for the number of arguments inside a string literal. -/
  | throwMessage (format : Text)
  | convert (localName : Text) (operator : Operator) (slot : Int)
  | returnOnException
  | call (c : NativeCall)
  /-- Leaves the block that runs once. -/
  | leave
  | branch (test : CountTest) (body : List Statement)
  | once (body : List Statement)
  | giveBack (value : Text)

namespace Statement

def throwLine (format : Text) : Text := "return JS_ThrowTypeError(ctx, \"" ++ format ++ "\", argc);"

def convertLine (localName : Text) (operator : Operator) (slot : Int) : Text :=
  "auto&& " ++ localName ++ " = Converter<" ++ operator.written ++ ">::FromValue(ctx, argv[" ++
    Text.signedDecimal slot ++ "], exception_state);"

def exceptionCheck : Code :=
  .block "if (exception_state.HasException()) \x7b"
    [.line "return exception_state.ToQuickJS();"] "\x7d"

mutual

def code : Statement → Code
  | blank => .blank
  | declare text => .line text
  | throwMessage format => .line (throwLine format)
  | convert localName operator slot => .line (convertLine localName operator slot)
  | returnOnException => exceptionCheck
  | call c => .line c.written
  | leave => .line "break;"
  | branch test body => .block ("if (" ++ test.written ++ ") \x7b") (codeAll body) "\x7d"
  | once body =>
    .block "do \x7b  // Dummy loop for use of 'break'." (codeAll body) "\x7d while (false);"
  | giveBack value => .line ("return " ++ value ++ ";")

def codeAll : List Statement → List Code
  | [] => []
  | s :: rest => s.code :: codeAll rest

end

end Statement

namespace CallResult

/-- The declaration of the variable for the result, if there is one. -/
def declaration? : CallResult → Option Text
  | nothing => none
  | promise => some "ScriptPromise return_value;"
  | owned type => some (type ++ "* return_value = nullptr;")
  | converted operator => some ("Converter<" ++ operator.written ++ ">::ImplType return_value;")

/-- What the callback returns. -/
def value : CallResult → Text
  | nothing => "JS_NULL"
  | promise => "return_value.ToQuickJS()"
  | owned _ => "return_value->ToQuickJS()"
  | converted operator => "Converter<" ++ operator.written ++ ">::ToValue(ctx, return_value)"

end CallResult

def receiverLines (className : Text) : List Text :=
  ["auto* self = toScriptWrappable<" ++ className ++ ">(this_val);", "assert(self != nullptr);"]

namespace CallPlan

def nativeCall (p : CallPlan) (className : Text) (point : DispatchPoint) : NativeCall :=
  { target := if p.isStatic then .backing className else .receiver
    callee := p.callee
    passed := point.callArguments.map localName
    kept := p.result ≠ .nothing }

def guards (p : CallPlan) : List Statement :=
  let guard (test : CountTest) (format : Text) : List Statement :=
    [.branch test [.throwMessage format], .blank]
  (if 0 < p.required then
    guard (.below p.required) (CallMessage.tooFewFormat p.name.quoted p.required) else []) ++
  (if p.strictArity then
    guard (.above p.accepted) (CallMessage.tooManyFormat p.name.quoted p.accepted) else [])

def declarations (p : CallPlan) (className : Text) : List Statement :=
  let context : Text := "ExecutingContext* context = ExecutingContext::From(ctx);"
  let state : Text := "ExceptionState exception_state;"
  (state :: p.result.declaration?.toList ++
    (if p.isStatic then [context] else receiverLines className)).map .declare

def conversionStatements (c : Conversion) : List Statement :=
  [.convert c.localName c.operator c.slot, .returnOnException]

def pointStatements (p : CallPlan) (className : Text) (point : DispatchPoint) : List Statement :=
  let call := Statement.call (p.nativeCall className point)
  point.conversions.flatMap conversionStatements ++
  (if point.conversions.isEmpty then [] else [.blank]) ++
  (if point.catchAll then [call] else [.branch (.atMost point.arity) [call, .leave]])

/-- The statements of a callback, in a unit with this backing class. -/
def body (p : CallPlan) (className : Text) : List Statement :=
  p.guards ++ p.declarations className ++
  [.blank,
    .once ([Statement.blank].intercalate (p.points.map (p.pointStatements className))),
    .blank, .returnOnException, .giveBack p.result.value]

end CallPlan

end ScriptBinding
