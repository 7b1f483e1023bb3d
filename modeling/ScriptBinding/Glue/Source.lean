import ScriptBinding.Assembly.Plan
import ScriptBinding.Glue.Statement
import ScriptBinding.Text.SnakeCase

/-!
The source file of a unit: includes, the callbacks of every member, and the routines that install
them.
-/
namespace ScriptBinding

def callbackParameters : Text :=
  "JSContext* ctx, JSValueConst this_val, int argc, JSValueConst* argv"

def constructorParameters : Text :=
  "JSContext* ctx, JSValue func_obj, JSValue this_val, int argc, JSValue* argv, int flags"

def sourceName (id : Text) : Text := "qjs_" ++ id ++ ".cc"

def headerName (id : Text) : Text := "qjs_" ++ id ++ ".h"

def runtimeIncludes : List Text :=
  List.map Text.ofString
  ["bindings/qjs/member_installer.h", "bindings/qjs/qjs_function.h",
   "bindings/qjs/converter_impl.h", "bindings/qjs/script_wrappable.h",
   "bindings/qjs/script_promise.h", "core/executing_context.h"]

def includeText (header : Text) : Text := "#include \"" ++ header ++ "\""

def includeLine (header : Text) : Code := .line (includeText header)

/-- The lines of a banner, as they are; no line for an empty one. -/
def bannerCode (banner : Text) : List Code :=
  if banner.isEmpty then [] else banner.lines.map .verbatim ++ [.blank]

def callbackOpening (name : Text) : Text :=
  "static JSValue " ++ name ++ "(" ++ callbackParameters ++ ") \x7b"

/-- A function with the callback signature. -/
def callback (name : Text) (body : List Code) : Code := .block (callbackOpening name) body "\x7d"

def routineOpening (wrapper name : Text) : Text :=
  "void " ++ wrapper ++ "::" ++ name ++ "(ExecutingContext* context) \x7b"

/-- A routine of the wrapper class that is given the context. -/
def installRoutine (wrapper name : Text) (body : List Code) : Code :=
  .block (routineOpening wrapper name) body "\x7d"

def Setter.writeLine (s : Setter) : Text := "self->" ++ s.native ++ "(v);"

namespace Accessor

/-- The line that gives back what the native member holds. -/
def readLine (a : Accessor) : Text :=
  "return Converter<" ++ a.operator.written ++ ">::ToValue(ctx, self->" ++ a.nativeGetter ++ "());"

def getterCode (a : Accessor) (className : Text) : Code :=
  callback a.getter ((receiverLines className ++ [a.readLine]).map .line)

/-- The line that converts the value which is to be set. -/
def convertLine (a : Accessor) : Text :=
  "auto&& v = Converter<" ++ a.operator.written ++ ">::FromValue(ctx, value, exception_state);"

def setterCode (a : Accessor) (className : Text) (s : Setter) : Code :=
  callback s.callback
    ((receiverLines className).map .line ++
    [.line "ExceptionState exception_state;",
      .line "JSValue value = argc > 0 ? argv[0] : JS_UNDEFINED;",
      .line a.convertLine,
      Statement.exceptionCheck,
      .line s.writeLine,
      .line "return JS_NULL;"])

end Accessor

def CallPlan.bodyCode (p : CallPlan) (className : Text) : List Code :=
  Statement.codeAll (p.body className)

def CallPlan.callbackCode (p : CallPlan) (className : Text) : Code :=
  callback p.name (p.bodyCode className)

def FunctionRow.written (r : FunctionRow) : Text :=
  "\x7b\"" ++ r.name.quoted ++ "\", " ++ r.callback ++ ", " ++ Text.signedDecimal r.length ++
    "\x7d,"

def FunctionRow.code (r : FunctionRow) : Code := .line r.written

def PropertyRow.written (r : PropertyRow) : Text :=
  "\x7b\"" ++ r.name.quoted ++ "\", " ++ r.getter ++ ", " ++ r.setter?.getD "nullptr" ++ "\x7d,"

def PropertyRow.code (r : PropertyRow) : Code := .line r.written

/-- The row of the constructor, which is installed under this name. -/
def constructorRow (name : Text) : Text :=
  "\x7b\"" ++ name.quoted ++ "\", nullptr, nullptr, constructor\x7d,"

def tableOpening (type name : Text) : Text :=
  "std::initializer_list<MemberInstaller::" ++ type ++ "> " ++ name ++ " \x7b"

def tableCode (type name : Text) (rows : List Code) : Code :=
  .block (tableOpening type name) rows "\x7d;"

def installerCall (call : Text) : Text := "MemberInstaller::" ++ call ++ ";"

/-- A routine that installs a table, after the lines that find what it is installed on. -/
def installTable (lookup : List Code) (table : Code) (call : Text) : List Code :=
  lookup ++ [table, .blank, .line (installerCall call)]

def typeInfoLookup : Code :=
  .line "const WrapperTypeInfo* wrapper_type_info = GetWrapperTypeInfo();"

def prototypeLookup : List Code :=
  [typeInfoLookup,
    .line "JSValue prototype = context->contextData()->prototypeForType(wrapper_type_info);",
    .blank]

def constructorLookup : List Code :=
  [typeInfoLookup,
    .line "JSValue constructor = context->contextData()->constructorForType(wrapper_type_info);",
    .blank]

namespace ModulePlan

/-- The routines of the wrapper class that `Install` calls. -/
def installRoutines (p : ModulePlan) : List Text :=
  "InstallGlobalFunctions" ::
    if p.registrations.hasClass then
      ["InstallConstructor", "InstallPrototypeMethods", "InstallPrototypeProperties"]
    else []

def typeInfoLine (p : ModulePlan) : Text :=
  "const WrapperTypeInfo " ++ p.wrapperName ++ "::wrapper_type_info_ \x7bJS_CLASS_" ++
    p.className.screamingSnake ++ ", \"" ++ p.className.quoted ++ "\", nullptr, " ++
    p.wrapperName ++ "::ConstructorCallback\x7d;"

/-- The line by which the backing class refers to the type information. -/
def typeReferenceLine (p : ModulePlan) : Text :=
  "const WrapperTypeInfo& " ++ p.className ++ "::wrapper_type_info_ = " ++
    p.wrapperName ++ "::wrapper_type_info_;"

def typeInfoCode (p : ModulePlan) : List Code :=
  [.line p.typeInfoLine, .line p.typeReferenceLine]

def constructorOpening (p : ModulePlan) : Text :=
  "JSValue " ++ p.wrapperName ++ "::ConstructorCallback(" ++ constructorParameters ++ ") \x7b"

def constructorCode (p : ModulePlan) (c : CallPlan) : Code :=
  .block p.constructorOpening (c.bodyCode p.className) "\x7d"

/-- The functions that a member defines: for a class its constructor, all getters, all setters and
the methods. -/
def memberCode (p : ModulePlan) : MemberPlan → List Code
  | .function plan => [plan.callbackCode p.className]
  | .cls c =>
    p.constructorCode c.constructor ::
      (c.accessors.map (·.getterCode p.className) ++
      (c.accessors.filterMap fun a => a.setter?.map (a.setterCode p.className)) ++
      c.methods.map (·.callbackCode p.className))

def installCode (p : ModulePlan) : Code :=
  installRoutine p.wrapperName "Install"
    (p.installRoutines.map fun name => .line (name ++ "(context);"))

def globalFunctionsCode (p : ModulePlan) : Code :=
  installRoutine p.wrapperName "InstallGlobalFunctions"
    (installTable []
      (tableCode "FunctionConfig" "functionConfig"
        (p.registrations.globalFunctions.map FunctionRow.code))
      "InstallFunctions(context, context->Global(), functionConfig)")

def constructorTableCode (p : ModulePlan) (name : Text) : Code :=
  installRoutine p.wrapperName "InstallConstructor"
    (installTable constructorLookup
      (tableCode "AttributeConfig" "attributeConfig"
        [.line (constructorRow name)])
      "InstallAttributes(context, context->Global(), attributeConfig)")

def prototypeMethodsCode (p : ModulePlan) : Code :=
  installRoutine p.wrapperName "InstallPrototypeMethods"
    (installTable prototypeLookup
      (tableCode "FunctionConfig" "functionConfig"
        (p.registrations.prototypeMethods.map FunctionRow.code))
      "InstallFunctions(context, prototype, functionConfig)")

def prototypePropertiesCode (p : ModulePlan) : Code :=
  installRoutine p.wrapperName "InstallPrototypeProperties"
    (installTable prototypeLookup
      (tableCode "AttributeConfig" "attributesConfig"
        (p.registrations.prototypeProperties.map PropertyRow.code))
      "InstallAttributes(context, prototype, attributesConfig)")

def installers (p : ModulePlan) : List Code :=
  [p.installCode, p.globalFunctionsCode] ++
    match p.registrations.constructor? with
    | some name =>
      [p.constructorTableCode name, p.prototypeMethodsCode, p.prototypePropertiesCode]
    | none => []

/-- The header of the implementation, without its extension. -/
def implementation (p : ModulePlan) : Text :=
  if p.module.implementation.isEmpty then p.options.includeRoot ++ "/" ++ p.module.id
  else p.module.implementation

def includes (p : ModulePlan) : List Text :=
  headerName p.module.id :: runtimeIncludes ++ [p.implementation ++ ".h"] ++ p.options.extraIncludes

def namespaceLine (p : ModulePlan) : Text := "namespace " ++ p.options.namespaceName ++ " \x7b"

def namespaceEnd (p : ModulePlan) : Text := "\x7d  // namespace " ++ p.options.namespaceName

def namespaceOpening (p : ModulePlan) : Code := .line p.namespaceLine

def namespaceClosing (p : ModulePlan) : Code := .line p.namespaceEnd

def sourceCode (p : ModulePlan) : List Code :=
  bannerCode p.options.banner ++
  p.includes.map includeLine ++
  [.blank, p.namespaceOpening, .blank] ++
  (if p.classPlan?.isSome then p.typeInfoCode ++ [.blank] else []) ++
  Code.spaced (p.members.flatMap p.memberCode) ++
  Code.spaced p.installers ++
  [p.namespaceClosing]

end ModulePlan

end ScriptBinding
