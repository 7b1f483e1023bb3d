import ScriptBinding.Glue.Source

/-!
The header file of a unit: the wrapper class, between include guards.
-/
namespace ScriptBinding.ModulePlan

def includeGuard (p : ModulePlan) : Text := "BRIDGE_QJS_" ++ p.module.id.screamingSnake ++ "_H_"

def constructorDeclaration : Text :=
  "static JSValue ConstructorCallback(" ++ constructorParameters ++ ");"

def publicClassCode : List Code :=
  [.blank,
    .line "static WrapperTypeInfo* GetWrapperTypeInfo() \x7b",
    .line "  return const_cast<WrapperTypeInfo*>(&wrapper_type_info_);",
    .line "\x7d",
    .blank,
    .line constructorDeclaration,
    .blank,
    .line "static const WrapperTypeInfo wrapper_type_info_;"]

def routineDeclarationText (name : Text) : Text :=
  "static void " ++ name ++ "(ExecutingContext* context);"

def routineDeclaration (name : Text) : Code := .line (routineDeclarationText name)

def wrapperLine (p : ModulePlan) : Text := "class " ++ p.wrapperName ++ " final \x7b"

def wrapperCode (p : ModulePlan) : List Code :=
  [.line p.wrapperLine,
    .line " public:",
    .deeper (routineDeclaration "Install" ::
      if p.registrations.hasClass then publicClassCode else []),
    .blank,
    .line " private:",
    .deeper (p.installRoutines.map routineDeclaration),
    .line "\x7d;"]

def headerCode (p : ModulePlan) : List Code :=
  bannerCode p.options.banner ++
  [.line ("#ifndef " ++ p.includeGuard),
    .line ("#define " ++ p.includeGuard),
    .blank,
    .line "#include <quickjs/quickjs.h>"] ++
  (if p.registrations.hasClass then [includeLine "bindings/qjs/wrapper_type_info.h"] else []) ++
  [.blank, p.namespaceOpening, .blank, .line "class ExecutingContext;", .blank] ++
  p.wrapperCode ++
  [.blank, p.namespaceClosing, .blank, .line ("#endif  // " ++ p.includeGuard)]

end ScriptBinding.ModulePlan
