import ScriptBinding.Proofs.Interface.Judging

/-!
Whole inputs. An input is loaded exactly if it declares units, in a list under `modules` or as the
only one; what lies under `modules` is decisive, whatever else the object holds. The path of a load
error leads from the input to the node that is at fault.
-/
namespace ScriptBinding

/-- The places in an input that a load error names. -/
def Path.OfInput (path : Path) : Prop :=
  path = ⟨"$", []⟩ ∨ path = ⟨"modules", []⟩ ∨ (∃ i steps, path = ⟨"modules", .index i :: steps⟩) ∨
    ∃ steps, path = ⟨"module", steps⟩

/-- The path of an error, read from its text, leads to a node of the input that fails. -/
def LoadError.PointsAt (e : LoadError) (v : Json) : Prop :=
  ∃ path node, Path.read? e.path.written = some path ∧ path.OfInput ∧ v.at? path = some node ∧
    node.Fails e.problem.message

theorem LoadError.PointsInto.pointsAt {e : LoadError} {root : Text} {v node : Json}
    (inner : e.PointsInto (.ofRoot root) node) (unmarked : root.Unmarked)
    (found : v.root? root = some node) (named : ∀ steps node', node.follow? steps = some node' →
      (⟨root, steps⟩ : Path).OfInput) : e.PointsAt v := by
  obtain ⟨steps, last, at_last, others, followed, fails⟩ := inner
  have whole : e.path = ⟨root, steps⟩ := at_last
  refine ⟨e.path, last, Path.read?_written ?_ ?_, ?_, ?_, fails⟩
  · rw [whole]
    exact unmarked
  · rw [whole]
    exact others
  · rw [whole]
    exact named steps last followed
  · rw [whole, Json.at?, found]
    exact followed

namespace Load

/-- What is loaded from an input: units if it declares them, and else an error that points at a
node. -/
def Answers (loaded : Except LoadError (List Module)) (v : Json) : Prop :=
  match loaded with
  | .ok _ => v.DeclaresUnits
  | .error e => ¬ v.DeclaresUnits ∧ e.PointsAt v

theorem Judges.answers {x : Except LoadError (List Module)} {P : Prop} {root : Text} {v node : Json}
    (h : Judges x P (.ofRoot root) node) (declares : P ↔ v.DeclaresUnits)
    (unmarked : root.Unmarked) (found : v.root? root = some node)
    (named : ∀ steps last, node.follow? steps = some last → (⟨root, steps⟩ : Path).OfInput) :
    Answers x v := by
  cases x with
  | ok ms => exact declares.mp h
  | error e => exact ⟨mt declares.mpr h.1, h.2.pointsAt unmarked found named⟩

theorem modules_obj (members : List (Text × Json)) :
    modules (.obj members) =
      match Json.find? members "modules" with
      | some list =>
        items (.ofRoot "modules") list >>=
          eachFrom (fun i node => oneModule ((Path.ofRoot "modules").index i) node) 0
      | none => (oneModule (.ofRoot "module") (.obj members)).map ([·]) := rfl

/-- Units listed under `modules`. -/
theorem answers_several {members : List (Text × Json)} {list : Json}
    (given : Json.find? members "modules" = some list)
    (shallow : (Json.obj members).nesting ≤ typeDepth) :
    Answers (items (.ofRoot "modules") list >>=
      eachFrom (fun i node => oneModule ((Path.ofRoot "modules").index i) node) 0)
      (.obj members) := by
  have declares : list.IsUnitList ↔ (Json.obj members).DeclaresUnits := by
    refine ⟨.several given, fun declared => ?_⟩
    cases declared with
    | several found units => exact Option.some.inj (found.symm.trans given) ▸ units
    | one plain _ => simp [given] at plain
  have reached : (Json.obj members).at? ⟨"modules", []⟩ = some list := by
    show (Json.find? members "modules").bind _ = _
    rw [given]
    rfl
  cases list with
  | null => exact declares.mp (.inl rfl)
  | arr nodes =>
      have below := nesting_member_lt members "modules"
      rw [Json.member, given, Option.getD_some] at below
      have judged := judges_items judging_oneModule (.ofRoot "modules") (below.le.trans shallow)
      refine judged.answers declares (by decide) given fun steps last followed => ?_
      cases steps with
      | nil => exact .inr (.inl rfl)
      | cons step rest =>
          cases step with
          | index i => exact .inr (.inr (.inl ⟨i, rest, rfl⟩))
          | key name => simp [Json.follow?] at followed
  | bool _ | int _ | real _ | str _ | obj _ =>
      refine ⟨mt declares.mpr ?_, ⟨"modules", []⟩, _, rfl, .inr (.inl rfl), reached,
        .array (by simp) (by simp)⟩
      simp [Json.IsUnitList, Json.IsArrayOf]

theorem answers_one {members : List (Text × Json)}
    (plain : Json.find? members "modules" = none)
    (shallow : (Json.obj members).nesting ≤ typeDepth) :
    Answers ((oneModule (.ofRoot "module") (.obj members)).map ([·])) (.obj members) := by
  have declares : (Json.obj members).IsUnit ↔ (Json.obj members).DeclaresUnits := by
    constructor
    · rintro ⟨others, same, declared⟩
      obtain rfl := Json.obj.inj same
      exact .one plain declared
    · intro declared
      cases declared with
      | several found _ => simp [plain] at found
      | one _ declared => exact ⟨members, rfl, declared⟩
  have judged := (judging_oneModule (.ofRoot "module") _ shallow).map ([·])
  exact judged.answers declares (by decide) rfl fun steps _ _ => .inr (.inr (.inr ⟨steps, rfl⟩))

theorem answers_modules {v : Json} (shallow : v.nesting ≤ typeDepth) : Answers (modules v) v := by
  cases v with
  | obj members =>
      rw [modules_obj]
      cases given : Json.find? members "modules" with
      | some list => exact answers_several given shallow
      | none => exact answers_one given shallow
  | null | bool _ | int _ | real _ | str _ | arr _ =>
      exact ⟨by rintro ⟨⟩, ⟨"$", []⟩, _, rfl, .inl rfl, rfl, .object (by simp)⟩

/-- Units are loaded from exactly the inputs that declare some. -/
theorem loads_iff_declaresUnits {v : Json} (shallow : v.nesting ≤ Json.nestingLimit) :
    (∃ ms, modules v = .ok ms) ↔ v.DeclaresUnits := by
  have answers := answers_modules shallow
  cases loaded : modules v with
  | ok ms =>
      rw [loaded] at answers
      exact iff_of_true ⟨ms, rfl⟩ answers
  | error e =>
      rw [loaded] at answers
      exact iff_of_false (by simp) answers.1

/-- A list of two units: one with a function whose result is converted, and one with a class. -/
def listed : Json :=
  let resize : Json :=
    .obj [("name", .str "resize"), ("return", .obj [("converted", .str "Size")]),
      ("args", .arr [.obj [("name", .str "sizes"), ("type", .obj [("sequence", .str "double")]),
        ("required", .bool false)]])]
  let draw : Json :=
    .obj [("kind", .str "function"), ("name", .str "draw"), ("return", .str "Promise")]
  let cls : Json :=
    .obj [("kind", .str "class"), ("constructor", .obj [("name", .null)]),
      ("properties", .arr [.obj [("name", .str "width"), ("type", .str "double")]]),
      ("methods", .arr [resize])]
  .obj [("modules", .arr
    [.obj [("id", .str "page"), ("backing_type", .str "Page"), ("members", .arr [draw])],
      .obj [("id", .str "frame"), ("backing_type", .str "Frame"), ("members", .arr [cls]),
        ("impl", .null)]])]

theorem loads_listed :
    listed.nesting ≤ Json.nestingLimit ∧ (∃ ms, modules listed = .ok ms) ∧
      listed.DeclaresUnits := by
  have shallow : listed.nesting ≤ Json.nestingLimit := by decide
  have loads : ∃ ms, modules listed = .ok ms := ⟨_, rfl⟩
  exact ⟨shallow, loads, (loads_iff_declaresUnits shallow).mp loads⟩

/-- A unit with a member `modules` that is no list. -/
def crossed : Json :=
  .obj [("modules", .int 3), ("id", .str "a"), ("backing_type", .str "A")]

theorem not_loads_crossed :
    crossed.nesting ≤ Json.nestingLimit ∧ crossed.IsUnit ∧ ¬ ∃ ms, modules crossed = .ok ms := by
  have declared : crossed.IsUnit := by
    refine ⟨_, rfl, ⟨_, rfl, _, rfl, by decide⟩, ⟨_, rfl, _, rfl, by decide⟩, ?_, ?_⟩
    · exact Json.mayHave_iff.mpr (.inl rfl)
    · exact Json.mayHave_iff.mpr (.inl rfl)
  exact ⟨by decide, declared, nofun⟩

/-- A load error points at a node of the input: its path, read from its text, leads to a node that
fails the check which its message names. -/
theorem points_at_of_error {v : Json} (shallow : v.nesting ≤ Json.nestingLimit) {e : LoadError}
    (failed : modules v = .error e) :
    ∃ path node, Path.read? e.path.written = some path ∧ path.OfInput ∧ v.at? path = some node ∧
      node.Fails e.problem.message := by
  have answers := answers_modules shallow
  rw [failed] at answers
  exact answers.2

/-- A property whose type is a sequence of a number. -/
def numbered : Json :=
  let width : Json := .obj [("name", .str "width"), ("type", .obj [("sequence", .int 5)])]
  .obj [("modules", .arr
    [.obj [("id", .str "frame"), ("backing_type", .str "Frame"),
      ("members", .arr [.obj [("kind", .str "class"), ("properties", .arr [width])]])]])]

theorem points_at_numbered :
    ∃ e, modules numbered = .error e ∧
      e.path.written = ("modules[0].members[0].properties[0].type.sequence" : Text) ∧
      e.problem.message = ("unrecognized type 5" : Text) ∧
      ∃ path node, Path.read? e.path.written = some path ∧ path.OfInput ∧
        numbered.at? path = some node ∧ node.Fails e.problem.message := by
  have shallow : numbered.nesting ≤ Json.nestingLimit := by decide
  have failed : modules numbered = .error _ := rfl
  exact ⟨_, failed, rfl, rfl, points_at_of_error shallow failed⟩

end Load

end ScriptBinding
