import ScriptBinding.Assembly.Accessor
import ScriptBinding.Assembly.Registrations
import ScriptBinding.Call.Plan

/-!
A unit ready for rendering: a plan for every member, in the order of declaration, and the tables
that install them. Only a unit without violations is planned.
-/
namespace ScriptBinding

structure ClassPlan where
  constructor : CallPlan
  accessors : List Accessor
  methods : List CallPlan

inductive MemberPlan where
  | function (plan : CallPlan)
  | cls (plan : ClassPlan)

def MemberPlan.function? : MemberPlan → Option CallPlan
  | function plan => some plan
  | cls _ => none

def MemberPlan.class? : MemberPlan → Option ClassPlan
  | function _ => none
  | cls plan => some plan

structure ModulePlan where
  module : Module
  options : Options
  members : List MemberPlan
  registrations : Registrations

namespace ModulePlan

def className (p : ModulePlan) : Text := p.module.backing

/-- The class that is generated around it. -/
def wrapperName (p : ModulePlan) : Text := "QJS" ++ p.module.backing

def functions (p : ModulePlan) : List CallPlan := p.members.filterMap MemberPlan.function?

def classPlan? (p : ModulePlan) : Option ClassPlan := p.members.findSome? MemberPlan.class?

end ModulePlan

def FunctionDecl.row (f : FunctionDecl) : FunctionRow := ⟨f.name, f.name, f.arguments.length⟩

def Accessor.row (a : Accessor) : PropertyRow :=
  ⟨a.property.name, a.getter, a.setter?.map (·.callback)⟩

namespace ClassDecl

def plan (c : ClassDecl) (backing : Text) (strictArity : Bool) : ClassPlan :=
  { constructor := c.constructor.callPlan .constructor backing strictArity
    accessors := c.properties.map PropertyDecl.accessor
    methods := c.methods.map fun f => f.callPlan .method backing strictArity }

def registrations (c : ClassDecl) (backing : Text) : Registrations :=
  { globalFunctions := []
    constructor? := some backing
    prototypeMethods := c.methods.map FunctionDecl.row
    prototypeProperties := c.properties.map fun p => p.accessor.row }

end ClassDecl

namespace Member

def plan (backing : Text) (strictArity : Bool) : Member → MemberPlan
  | function decl => .function (decl.callPlan .function backing strictArity)
  | cls decl => .cls (decl.plan backing strictArity)

def registrations (backing : Text) : Member → Registrations
  | function decl => { Registrations.empty with globalFunctions := [decl.row] }
  | cls decl => decl.registrations backing

end Member

/-- The plan of a valid unit; the violations of another one. -/
def Module.plan (m : Module) (options : Options) : Except Rejection ModulePlan := do
  if !m.isValid then .error ⟨m.id, m.violations⟩
  let registrations ←
    (m.members.map (Member.registrations m.backing)).foldlM Registrations.merge Registrations.empty
  .ok
    { module := m
      options
      members := m.members.map (Member.plan m.backing options.strictArity)
      registrations }

end ScriptBinding
