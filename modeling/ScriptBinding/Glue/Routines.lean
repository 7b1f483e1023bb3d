import ScriptBinding.Glue.Header

/-!
The routines that write the two files of a unit, as the steps they ask of an emitter. Each opens and
closes blocks on its own account, or moves the margin by itself; that none is left open is a matter
of the proofs.
-/
namespace ScriptBinding

open Emitter (Step)

def exceptionCheckSteps : List Step :=
  [.enter "if (exception_state.HasException()) \x7b",
    .line "return exception_state.ToQuickJS();",
    .leave "\x7d"]

/-- The instance behind the receiver, in a unit with this backing class. -/
def receiverSteps (className : Text) : List Step :=
  [.line ("auto* self = toScriptWrappable<" ++ className ++ ">(this_val);"),
    .line "assert(self != nullptr);"]

def Conversion.steps (c : Conversion) : List Step :=
  .line (Statement.convertLine c.localName c.operator c.slot) :: exceptionCheckSteps

namespace CallPlan

/-- A guard on the number of arguments, which throws a message. -/
def guardSteps (test : CountTest) (format : Text) : List Step :=
  [.enter ("if (" ++ test.written ++ ") \x7b"),
    .line (Statement.throwLine format),
    .leave "\x7d",
    .blank]

def pointSteps (p : CallPlan) (className : Text) (point : DispatchPoint) : List Step :=
  let call : Step := .line (p.nativeCall className point).written
  point.conversions.flatMap Conversion.steps ++
  if point.catchAll then
    (if point.conversions.isEmpty then [] else [.blank]) ++ [call]
  else
    (if point.conversions.isEmpty then [] else [.blank]) ++
    [.enter ("if (" ++ (CountTest.atMost point.arity).written ++ ") \x7b"),
      call,
      .line "break;",
      .leave "\x7d"]

/-- The points of a chain, from one of this index on, with an empty line in front of each but the
first of all. -/
def chainSteps (p : CallPlan) (className : Text) : Nat → List DispatchPoint → List Step
  | _, [] => []
  | i, point :: rest =>
    (if 0 < i then [.blank] else []) ++ p.pointSteps className point ++
      p.chainSteps className (i + 1) rest

def bodySteps (p : CallPlan) (className : Text) : List Step :=
  (if 0 < p.required then
    guardSteps (.below p.required) (CallMessage.tooFewFormat p.name.quoted p.required) else []) ++
  (if p.strictArity then
    guardSteps (.above p.accepted) (CallMessage.tooManyFormat p.name.quoted p.accepted) else []) ++
  [.line "ExceptionState exception_state;"] ++
  (match p.result.declaration? with
    | some declaration => [.line declaration]
    | none => []) ++
  (if p.isStatic then [.line "ExecutingContext* context = ExecutingContext::From(ctx);"]
    else receiverSteps className) ++
  [.blank, .enter "do \x7b  // Dummy loop for use of 'break'."] ++
  p.chainSteps className 0 p.points ++
  [.leave "\x7d while (false);", .blank] ++
  exceptionCheckSteps ++
  [.line ("return " ++ p.result.value ++ ";")]

def callbackSteps (p : CallPlan) (className : Text) : List Step :=
  [.enter (callbackOpening p.name)] ++ p.bodySteps className ++ [.leave "\x7d", .blank]

end CallPlan

namespace Accessor

def getterSteps (a : Accessor) (className : Text) : List Step :=
  [.enter (callbackOpening a.getter)] ++ receiverSteps className ++
  [.line a.readLine, .leave "\x7d", .blank]

def setterSteps (a : Accessor) (className : Text) : List Step :=
  match a.setter? with
  | none => []
  | some s =>
    [.enter (callbackOpening s.callback)] ++ receiverSteps className ++
    [.line "ExceptionState exception_state;",
      .line "JSValue value = argc > 0 ? argv[0] : JS_UNDEFINED;",
      .line a.convertLine] ++
    exceptionCheckSteps ++
    [.line s.writeLine, .line "return JS_NULL;", .leave "\x7d", .blank]

end Accessor

/-- The rows of a table, and the call that installs it. -/
def tableSteps (type name : Text) (rows : List Text) (call : Text) : List Step :=
  [.enter (tableOpening type name)] ++ rows.map .line ++
  [.leave "\x7d;", .blank, .line (installerCall call)]

def prototypeLookupSteps : List Step :=
  [.line "const WrapperTypeInfo* wrapper_type_info = GetWrapperTypeInfo();",
    .line "JSValue prototype = context->contextData()->prototypeForType(wrapper_type_info);",
    .blank]

namespace ModulePlan

variable (p : ModulePlan)

def bannerSteps : List Step :=
  if p.options.banner.isEmpty then []
  else p.options.banner.lines.map .verbatim ++ [.blank]

def typeInfoSteps : List Step := [.line p.typeInfoLine, .line p.typeReferenceLine]

def memberSteps : MemberPlan → List Step
  | .function plan => plan.callbackSteps p.className
  | .cls c =>
    [.enter p.constructorOpening] ++ c.constructor.bodySteps p.className ++
    [.leave "\x7d", .blank] ++
    c.accessors.flatMap (·.getterSteps p.className) ++
    c.accessors.flatMap (·.setterSteps p.className) ++
    c.methods.flatMap (·.callbackSteps p.className)

def installSteps : List Step :=
  [.enter (routineOpening p.wrapperName "Install"),
    .line "InstallGlobalFunctions(context);"] ++
  (if p.registrations.hasClass then
    [.line "InstallConstructor(context);",
      .line "InstallPrototypeMethods(context);",
      .line "InstallPrototypeProperties(context);"]
    else []) ++
  [.leave "\x7d"]

def globalFunctionsSteps : List Step :=
  [.enter (routineOpening p.wrapperName "InstallGlobalFunctions")] ++
  tableSteps "FunctionConfig" "functionConfig"
    (p.registrations.globalFunctions.map FunctionRow.written)
    "InstallFunctions(context, context->Global(), functionConfig)" ++
  [.leave "\x7d"]

def constructorTableSteps (name : Text) : List Step :=
  [.enter (routineOpening p.wrapperName "InstallConstructor"),
    .line "const WrapperTypeInfo* wrapper_type_info = GetWrapperTypeInfo();",
    .line "JSValue constructor = context->contextData()->constructorForType(wrapper_type_info);",
    .blank] ++
  tableSteps "AttributeConfig" "attributeConfig" [constructorRow name]
    "InstallAttributes(context, context->Global(), attributeConfig)" ++
  [.leave "\x7d"]

def prototypeMethodsSteps : List Step :=
  [.enter (routineOpening p.wrapperName "InstallPrototypeMethods")] ++ prototypeLookupSteps ++
  tableSteps "FunctionConfig" "functionConfig"
    (p.registrations.prototypeMethods.map FunctionRow.written)
    "InstallFunctions(context, prototype, functionConfig)" ++
  [.leave "\x7d"]

def prototypePropertiesSteps : List Step :=
  [.enter (routineOpening p.wrapperName "InstallPrototypeProperties")] ++ prototypeLookupSteps ++
  tableSteps "AttributeConfig" "attributesConfig"
    (p.registrations.prototypeProperties.map PropertyRow.written)
    "InstallAttributes(context, prototype, attributesConfig)" ++
  [.leave "\x7d"]

def sourceSteps : List Step :=
  p.bannerSteps ++
  p.includes.map (fun header => .line (includeText header)) ++
  [.blank, .line p.namespaceLine, .blank] ++
  (if p.classPlan?.isSome then p.typeInfoSteps ++ [.blank] else []) ++
  p.members.flatMap p.memberSteps ++
  p.installSteps ++ [.blank] ++ p.globalFunctionsSteps ++
  (match p.registrations.constructor? with
    | some name =>
      [.blank] ++ p.constructorTableSteps name ++ [.blank] ++ p.prototypeMethodsSteps ++
      [.blank] ++ p.prototypePropertiesSteps
    | none => []) ++
  [.blank, .line p.namespaceEnd]

def headerSteps : List Step :=
  p.bannerSteps ++
  [.line ("#ifndef " ++ p.includeGuard),
    .line ("#define " ++ p.includeGuard),
    .blank,
    .line "#include <quickjs/quickjs.h>"] ++
  (if p.registrations.hasClass then [.line (includeText "bindings/qjs/wrapper_type_info.h")]
    else []) ++
  [.blank,
    .line p.namespaceLine,
    .blank,
    .line "class ExecutingContext;",
    .blank,
    .line p.wrapperLine,
    .line " public:",
    .deepen,
    .line (routineDeclarationText "Install")] ++
  (if p.registrations.hasClass then
    [.blank,
      .line "static WrapperTypeInfo* GetWrapperTypeInfo() \x7b",
      .line "  return const_cast<WrapperTypeInfo*>(&wrapper_type_info_);",
      .line "\x7d",
      .blank,
      .line constructorDeclaration,
      .blank,
      .line "static const WrapperTypeInfo wrapper_type_info_;"]
    else []) ++
  [.raise,
    .blank,
    .line " private:",
    .deepen,
    .line (routineDeclarationText "InstallGlobalFunctions")] ++
  (if p.registrations.hasClass then
    [.line (routineDeclarationText "InstallConstructor"),
      .line (routineDeclarationText "InstallPrototypeMethods"),
      .line (routineDeclarationText "InstallPrototypeProperties")]
    else []) ++
  [.raise,
    .line "\x7d;",
    .blank,
    .line p.namespaceEnd,
    .blank,
    .line ("#endif  // " ++ p.includeGuard)]

end ModulePlan

end ScriptBinding
