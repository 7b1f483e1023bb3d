import ScriptBinding.Assembly.Plan
import ScriptBinding.Json.Basic

/-!
Plans as JSON values.
-/
namespace ScriptBinding

def CallResult.report : CallResult → Json
  | nothing => .obj [("kind", .str "void")]
  | promise => .obj [("kind", .str "promise")]
  | owned type => .obj [("kind", .str "wrappable"), ("type", .str type)]
  | converted operator => .obj [("kind", .str "converted"), ("op", .str operator.written)]

def Conversion.report (c : Conversion) : Json :=
  .obj [("arg", .str c.argument.name), ("slot", .int c.slot), ("op", .str c.operator.written)]

def DispatchPoint.report (p : DispatchPoint) : Json :=
  .obj [("conversions", .arr (p.conversions.map Conversion.report)),
    ("when", .str (if p.catchAll then "always" else "argc <= " ++ Text.signedDecimal p.arity)),
    ("call_args", .arr (p.callArguments.map .str))]

def CallPlan.reportMembers (p : CallPlan) : List (Text × Json) :=
  [("name", .str p.name), ("callee", .str p.callee), ("mode", .str p.mode.name),
    ("required", .int p.required), ("accepted", .int p.accepted),
    ("strict_arity", .bool p.strictArity), ("points", .arr (p.points.map DispatchPoint.report)),
    ("result", p.result.report)]

def CallPlan.report (p : CallPlan) : Json := .obj p.reportMembers

def Accessor.report (a : Accessor) : Json :=
  .obj [("name", .str a.property.name), ("op", .str a.operator.written), ("getter", .str a.getter),
    ("setter", .optional (a.setter?.map (·.callback)))]

def FunctionRow.report (r : FunctionRow) : Json :=
  .obj [("name", .str r.name), ("callback", .str r.callback), ("length", .int r.length)]

def PropertyRow.report (r : PropertyRow) : Json :=
  .obj [("name", .str r.name), ("getter", .str r.getter), ("setter", .optional r.setter?)]

def Registrations.report (r : Registrations) : Json :=
  .obj [("global_functions", .arr (r.globalFunctions.map FunctionRow.report)),
    ("constructor", .optional r.constructor?),
    ("prototype_methods", .arr (r.prototypeMethods.map FunctionRow.report)),
    ("prototype_properties", .arr (r.prototypeProperties.map PropertyRow.report))]

def MemberPlan.report : MemberPlan → Json
  | function plan =>
    let kind : Text × Json := ("kind", .str "function")
    .obj (plan.reportMembers ++ [kind])
  | cls plan =>
    .obj [("kind", .str "class"), ("constructor", plan.constructor.report),
      ("accessors", .arr (plan.accessors.map Accessor.report)),
      ("methods", .arr (plan.methods.map CallPlan.report))]

def ModulePlan.report (p : ModulePlan) : Json :=
  .obj [("id", .str p.module.id), ("wrapper", .str p.wrapperName),
    ("members", .arr (p.members.map MemberPlan.report)), ("registrations", p.registrations.report)]

end ScriptBinding
