import ScriptBinding.Assembly.Report
import ScriptBinding.Proofs.Assembly.Planned
import ScriptBinding.Proofs.Json.Same
import ScriptBinding.Proofs.Text.Scan

/-!
What the report of a plan shows. Plans are alike if they agree in everything but the declared types
behind their operators, which arguments are required, and the number that a catch-all point is made
for. Planned units whose reports are the same JSON value are alike; the native members behind an
accessor are not reported, but follow from the name of the property.
-/
namespace ScriptBinding

namespace Text

theorem decimal_injective {n k : Nat} (same : decimal n = decimal k) : n = k := by
  have read := congrArg toNat? same
  rwa [toNat?_decimal, toNat?_decimal, Option.some.injEq] at read

theorem signedDecimal_injective {n k : Int} (same : signedDecimal n = signedDecimal k) : n = k := by
  have unsigned (n : Nat) (rest : Text) : decimal n ≠ .scalar '-' :: rest := by
    intro signed
    have digit := isDigit_of_mem_decimal (.scalar '-') (signed ▸ List.mem_cons_self)
    exact absurd digit (by decide)
  cases n <;> cases k
  · exact congrArg Int.ofNat (decimal_injective same)
  · exact absurd same (unsigned _ _)
  · exact absurd same.symm (unsigned _ _)
  · have digits := decimal_injective (List.cons.inj same).2
    rw [Nat.succ.inj digits]

end Text

theorem CallMode.name_injective {a b : CallMode} (same : a.name = b.name) : a = b := by
  cases a <;> cases b <;> first | rfl | exact absurd same (by decide)

structure Conversion.Alike (c d : Conversion) : Prop where
  argument : c.argument.name = d.argument.name
  slot : c.slot = d.slot
  operator : c.operator.written = d.operator.written

/-- The arity of a catch-all point is never compared with anything. -/
structure DispatchPoint.Alike (p q : DispatchPoint) : Prop where
  conversions : List.Forall₂ Conversion.Alike p.conversions q.conversions
  callArguments : p.callArguments = q.callArguments
  catchAll : p.catchAll = q.catchAll
  arity : p.catchAll = false → p.arity = q.arity

inductive CallResult.Alike : CallResult → CallResult → Prop where
  | nothing : Alike nothing nothing
  | promise : Alike promise promise
  | owned (type : Text) : Alike (owned type) (owned type)
  | converted {o o' : Operator} (same : o.written = o'.written) :
    Alike (converted o) (converted o')

structure CallPlan.Alike (p q : CallPlan) : Prop where
  name : p.name = q.name
  callee : p.callee = q.callee
  mode : p.mode = q.mode
  required : p.required = q.required
  accepted : p.accepted = q.accepted
  strictArity : p.strictArity = q.strictArity
  points : List.Forall₂ DispatchPoint.Alike p.points q.points
  result : p.result.Alike q.result

structure Accessor.Alike (a b : Accessor) : Prop where
  operator : a.operator.written = b.operator.written
  getter : a.getter = b.getter
  nativeGetter : a.nativeGetter = b.nativeGetter
  setter? : a.setter? = b.setter?

structure ClassPlan.Alike (c d : ClassPlan) : Prop where
  constructor : c.constructor.Alike d.constructor
  accessors : List.Forall₂ Accessor.Alike c.accessors d.accessors
  methods : List.Forall₂ CallPlan.Alike c.methods d.methods

inductive MemberPlan.Alike : MemberPlan → MemberPlan → Prop where
  | function {p q : CallPlan} (same : p.Alike q) : Alike (function p) (function q)
  | cls {c d : ClassPlan} (same : c.Alike d) : Alike (cls c) (cls d)

structure ModulePlan.Alike (p q : ModulePlan) : Prop where
  id : p.module.id = q.module.id
  backing : p.module.backing = q.module.backing
  members : List.Forall₂ MemberPlan.Alike p.members q.members
  registrations : p.registrations = q.registrations

open Json (Same)

theorem Conversion.alike_of_report {c d : Conversion} (same : Same c.report d.report) :
    c.Alike d where
  argument := (same.member "arg" rfl rfl).str_inj
  slot := (same.member "slot" rfl rfl).int_inj
  operator := (same.member "op" rfl rfl).str_inj

theorem DispatchPoint.alike_of_report {p q : DispatchPoint} (same : Same p.report q.report) :
    p.Alike q := by
  have fires := (same.member "when" rfl rfl).str_inj
  have apart (n : Int) : ("argc <= " ++ Text.signedDecimal n : Text) ≠ "always" := by
    intro equal
    have second := congrArg (·[1]?) equal
    exact absurd (show some (CodePoint.scalar 'r') = some (.scalar 'l') from second) (by decide)
  have limits : p.catchAll = q.catchAll ∧ (p.catchAll = false → p.arity = q.arity) := by
    cases first : p.catchAll <;> cases second : q.catchAll <;>
      simp only [first, second, Bool.false_eq_true, if_true, if_false] at fires
    · exact ⟨rfl, fun _ => Text.signedDecimal_injective (List.append_cancel_left fires)⟩
    · exact absurd fires (apart _)
    · exact absurd fires.symm (apart _)
    · exact ⟨rfl, nofun⟩
  have passed : List.Forall₂ (· = ·) p.callArguments q.callArguments :=
    Same.forall₂_of_map (fun _ _ => Same.str_inj) (same.member "call_args" rfl rfl)
  exact
    { conversions := Same.forall₂_of_map (fun _ _ => Conversion.alike_of_report)
        (same.member "conversions" rfl rfl)
      callArguments := List.forall₂_eq_eq_eq ▸ passed
      catchAll := limits.1
      arity := limits.2 }

theorem CallResult.alike_of_report {r s : CallResult} (same : Same r.report s.report) :
    r.Alike s := by
  have kinds {t u : Text} (kind : Same (.str t) (.str u)) (differ : t ≠ u) : False :=
    differ kind.str_inj
  cases r with
  | nothing =>
      cases s with
      | nothing => exact .nothing
      | promise | owned _ | converted _ =>
          exact (kinds (same.member "kind" rfl rfl) (by decide)).elim
  | promise =>
      cases s with
      | promise => exact .promise
      | nothing | owned _ | converted _ =>
          exact (kinds (same.member "kind" rfl rfl) (by decide)).elim
  | owned type =>
      cases s with
      | owned other =>
          obtain rfl := (same.member "type" rfl rfl).str_inj
          exact .owned type
      | nothing | promise | converted _ =>
          exact (kinds (same.member "kind" rfl rfl) (by decide)).elim
  | converted o =>
      cases s with
      | converted o' => exact .converted (same.member "op" rfl rfl).str_inj
      | nothing | promise | owned _ =>
          exact (kinds (same.member "kind" rfl rfl) (by decide)).elim

/-- The members of a report of a call may stand among others, as those of a function do. -/
theorem CallPlan.alike_of_members {p q : CallPlan} (more : List (Text × Json))
    (same : Same (.obj (p.reportMembers ++ more)) (.obj (q.reportMembers ++ more))) :
    p.Alike q where
  name := (same.member "name" rfl rfl).str_inj
  callee := (same.member "callee" rfl rfl).str_inj
  mode := CallMode.name_injective (same.member "mode" rfl rfl).str_inj
  required := (same.member "required" rfl rfl).int_inj
  accepted := (same.member "accepted" rfl rfl).int_inj
  strictArity := (same.member "strict_arity" rfl rfl).bool_inj
  points := Same.forall₂_of_map (fun _ _ => DispatchPoint.alike_of_report)
    (same.member "points" rfl rfl)
  result := CallResult.alike_of_report (same.member "result" rfl rfl)

theorem CallPlan.alike_of_report {p q : CallPlan} (same : Same p.report q.report) : p.Alike q :=
  alike_of_members [] ((List.append_nil p.reportMembers).symm ▸
    (List.append_nil q.reportMembers).symm ▸ same)

/-- The native members of a planned accessor are named after the property. -/
theorem PropertyDecl.alike_of_report {p q : PropertyDecl}
    (same : Same p.accessor.report q.accessor.report) : p.accessor.Alike q.accessor := by
  have name : p.name = q.name := (same.member "name" rfl rfl).str_inj
  have setter? : p.accessor.setter? = q.accessor.setter? := by
    have callbacks := (same.member "setter" rfl rfl).optional_inj
    simp only [accessor, setter, name] at callbacks ⊢
    cases first : p.readOnly <;> cases second : q.readOnly <;> simp [first, second] at callbacks ⊢
  exact
    { operator := (same.member "op" rfl rfl).str_inj
      getter := (same.member "getter" rfl rfl).str_inj
      nativeGetter := name
      setter? := setter? }

theorem FunctionRow.eq_of_report {r s : FunctionRow} (same : Same r.report s.report) : r = s := by
  cases r
  cases s
  exact FunctionRow.mk.injEq .. ▸ ⟨(same.member "name" rfl rfl).str_inj,
    (same.member "callback" rfl rfl).str_inj, (same.member "length" rfl rfl).int_inj⟩

theorem PropertyRow.eq_of_report {r s : PropertyRow} (same : Same r.report s.report) : r = s := by
  cases r
  cases s
  exact PropertyRow.mk.injEq .. ▸ ⟨(same.member "name" rfl rfl).str_inj,
    (same.member "getter" rfl rfl).str_inj, (same.member "setter" rfl rfl).optional_inj⟩

theorem Registrations.eq_of_report {r s : Registrations} (same : Same r.report s.report) :
    r = s := by
  have functions : List.Forall₂ (· = ·) r.globalFunctions s.globalFunctions :=
    Same.forall₂_of_map (fun _ _ => FunctionRow.eq_of_report)
      (same.member "global_functions" rfl rfl)
  have methods : List.Forall₂ (· = ·) r.prototypeMethods s.prototypeMethods :=
    Same.forall₂_of_map (fun _ _ => FunctionRow.eq_of_report)
      (same.member "prototype_methods" rfl rfl)
  have properties : List.Forall₂ (· = ·) r.prototypeProperties s.prototypeProperties :=
    Same.forall₂_of_map (fun _ _ => PropertyRow.eq_of_report)
      (same.member "prototype_properties" rfl rfl)
  rw [List.forall₂_eq_eq_eq] at functions methods properties
  have constructor? := (same.member "constructor" rfl rfl).optional_inj
  cases r
  cases s
  simp_all

/-- Members of two units, planned for their own backing classes. -/
theorem Member.alike_of_report {backing backing' : Text} {strict strict' : Bool} {a b : Member}
    (same : Same (a.plan backing strict).report (b.plan backing' strict').report) :
    (a.plan backing strict).Alike (b.plan backing' strict') := by
  cases a with
  | function f =>
      cases b with
      | function g => exact .function (CallPlan.alike_of_members _ same)
      | cls d =>
          have kind := (same.member "kind" rfl rfl).str_inj
          exact absurd kind (by decide)
  | cls c =>
      cases b with
      | function g =>
          have kind := (same.member "kind" rfl rfl).str_inj
          exact absurd kind (by decide)
      | cls d =>
          have accessors := same.member "accessors" rfl rfl
          have methods := same.member "methods" rfl rfl
          refine .cls ⟨CallPlan.alike_of_report (same.member "constructor" rfl rfl), ?_, ?_⟩
          · simp only [ClassDecl.plan, List.map_map] at accessors ⊢
            rw [List.forall₂_map_left_iff, List.forall₂_map_right_iff]
            exact Same.forall₂_of_map (fun _ _ => PropertyDecl.alike_of_report) accessors
          · exact Same.forall₂_of_map (fun _ _ => CallPlan.alike_of_report) methods

/-- Planned units with the same report are alike. -/
theorem Module.alike_of_report {m m' : Module} {options options' : Options}
    (same : Same (m.planned options).report (m'.planned options').report) :
    (m.planned options).Alike (m'.planned options') := by
  have members := same.member "members" rfl rfl
  simp only [planned, List.map_map] at members
  have wrapper : ("QJS" ++ m.backing : Text) = "QJS" ++ m'.backing :=
    (same.member "wrapper" rfl rfl).str_inj
  refine
    { id := (same.member "id" rfl rfl).str_inj
      backing := List.append_cancel_left wrapper
      members := ?_
      registrations := Registrations.eq_of_report (same.member "registrations" rfl rfl) }
  show List.Forall₂ _ (m.members.map _) (m'.members.map _)
  rw [List.forall₂_map_left_iff, List.forall₂_map_right_iff]
  exact Same.forall₂_of_map (fun _ _ => Member.alike_of_report) members

end ScriptBinding
