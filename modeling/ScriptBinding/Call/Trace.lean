import ScriptBinding.Call.Message
import ScriptBinding.Call.Plan

/-!
What a call does: the conversions in their order, up to the first that fails, and the native call it
ends in. The numbers of arguments are compared before anything is converted.
-/
namespace ScriptBinding

/-- What a converter says of a value that it does not take. -/
structure Unconvertible where
  argument : Text
  operator : Operator

inductive CallFailure where
  | tooFew (name : Text) (required : Int) (actual : Nat)
  | tooMany (name : Text) (required : Int) (actual : Nat) (accepted : Int)
  | unconvertible (fault : Unconvertible)
  | noValue (slot : Int)
  | noCatchAll (name : Text)

/-- The native call a chain ends in. -/
structure Invocation (β : Type) where
  callee : Text
  point : DispatchPoint
  values : List β

/-- A call from start to end. -/
structure CallTrace (β : Type) where
  /-- The conversions that were tried; if the last one failed, it is among them. -/
  attempted : List Conversion
  outcome : Except CallFailure (Invocation β)

namespace CallTrace

/-- The trace of what comes after some conversions. -/
def after {β : Type} (attempted : List Conversion) (t : CallTrace β) : CallTrace β :=
  { t with attempted := attempted ++ t.attempted }

def failed {β : Type} (attempted : List Conversion) (failure : CallFailure) : CallTrace β :=
  ⟨attempted, .error failure⟩

end CallTrace

section
variable {α β : Type} (values : List α) (convert : Conversion → α → Except Unconvertible β)

/-- Conversions in order, up to the first that fails: those tried, and the converted values. -/
def convertAll : List Conversion → List Conversion × Except CallFailure (List β)
  | [] => ([], .ok [])
  | c :: rest =>
    match slotValue? values c.slot with
    | none => ([], .error (.noValue c.slot))
    | some v =>
      match convert c v with
      | .error fault => ([c], .error (.unconvertible fault))
      | .ok w =>
        let (attempted, others) := convertAll rest
        (c :: attempted, others.map (w :: ·))

/-- The points of a chain in order, with the values converted before them. -/
def CallPlan.runPoints (plan : CallPlan) : List β → List DispatchPoint → CallTrace β
  | _, [] => .failed [] (.noCatchAll plan.name)
  | before, point :: rest =>
    match convertAll values convert point.conversions with
    | (attempted, .error failure) => .failed attempted failure
    | (attempted, .ok converted) =>
      let all := before ++ converted
      if point.fires values.length then ⟨attempted, .ok ⟨plan.callee, point, all⟩⟩
      else (plan.runPoints all rest).after attempted

def CallPlan.trace (plan : CallPlan) : CallTrace β :=
  if values.length < plan.required then
    .failed [] (.tooFew plan.name plan.required values.length)
  else if plan.strictArity && plan.accepted < values.length then
    .failed [] (.tooMany plan.name plan.required values.length plan.accepted)
  else plan.runPoints values convert [] plan.points

end

/-- What a failed call says, unless its format cannot be filled in. -/
def CallFailure.message : CallFailure → Except CallMessage.FormatFault Text
  | tooFew name required actual => CallMessage.tooFew name required actual
  | tooMany name _ actual accepted => CallMessage.tooMany name accepted actual
  | unconvertible fault =>
    .ok ("cannot convert argument '" ++ fault.argument ++ "' to " ++ fault.operator.written)
  | noValue slot => .ok ("no value in slot " ++ Text.signedDecimal slot)
  | noCatchAll name => .ok ("dispatch chain for '" ++ name ++ "' has no catch-all point")

end ScriptBinding
