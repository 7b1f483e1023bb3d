import Mathlib.Data.List.Forall2
import ScriptBinding.Json.Basic

/-!
When two values are the same as JSON: the members of an object are known by their names, and their
order does not matter.
-/
namespace ScriptBinding.Json

inductive Same : Json → Json → Prop where
  | null : Same null null
  | bool (b : Bool) : Same (bool b) (bool b)
  | int (n : Int) : Same (int n) (int n)
  | real (x : Binary64) : Same (real x) (real x)
  | str (t : Text) : Same (str t) (str t)
  | arr {items others : List Json} (each : List.Forall₂ Same items others) :
    Same (arr items) (arr others)
  | obj {members others : List (Text × Json)}
    (each : ∀ name, Option.Rel Same (find? members name) (find? others name)) :
    Same (obj members) (obj others)

namespace Same

mutual

theorem refl : (v : Json) → Same v v
  | .null => .null
  | .bool b => .bool b
  | .int n => .int n
  | .real x => .real x
  | .str t => .str t
  | .arr items => .arr (reflItems items)
  | .obj members => .obj (reflMembers members)

theorem reflItems : (items : List Json) → List.Forall₂ Same items items
  | [] => .nil
  | v :: rest => .cons (refl v) (reflItems rest)

theorem reflMembers : (members : List (Text × Json)) → (name : Text) →
    Option.Rel Same (find? members name) (find? members name)
  | [], _ => .none
  | (other, v) :: rest, name => by
    rw [find?, List.lookup_cons]
    split
    · exact .some (refl v)
    · exact reflMembers rest name

end

theorem bool_inj {b c : Bool} (same : Same (.bool b) (.bool c)) : b = c := by
  cases same
  rfl

theorem int_inj {n k : Int} (same : Same (.int n) (.int k)) : n = k := by
  cases same
  rfl

theorem str_inj {t u : Text} (same : Same (.str t) (.str u)) : t = u := by
  cases same
  rfl

theorem optional_inj {t? u? : Option Text} (same : Same (optional t?) (optional u?)) :
    t? = u? := by
  cases t? <;> cases u? <;> cases same <;> rfl

theorem items {vs ws : List Json} (same : Same (.arr vs) (.arr ws)) : List.Forall₂ Same vs ws := by
  cases same with
  | arr each => exact each

/-- Members of one name are the same. -/
theorem member {members others : List (Text × Json)} (same : Same (.obj members) (.obj others))
    (name : Text) {v w : Json} (first : find? members name = some v)
    (second : find? others name = some w) : Same v w := by
  cases same with
  | obj each =>
      have related := each name
      rw [first, second] at related
      cases related with
      | some found => exact found

/-- Arrays of reports are the same only if what is reported agrees item by item. -/
theorem forall₂_of_map {α β : Type} {R : α → β → Prop} {f : α → Json} {g : β → Json}
    (each : ∀ a b, Same (f a) (g b) → R a b) {as : List α} {bs : List β}
    (same : Same (.arr (as.map f)) (.arr (bs.map g))) : List.Forall₂ R as bs := by
  have related := same.items
  rw [List.forall₂_map_left_iff, List.forall₂_map_right_iff] at related
  exact related.imp each

end Same

end ScriptBinding.Json
