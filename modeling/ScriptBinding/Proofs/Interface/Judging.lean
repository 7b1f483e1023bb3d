import ScriptBinding.Proofs.Interface.Loading
import ScriptBinding.Proofs.Interface.Paths
import ScriptBinding.Proofs.Interface.Schema
import ScriptBinding.Proofs.Json.Values

/-!
What each loader says of a node. The node is loaded exactly if it declares what is asked for; if it
does not, the error leads from this node to one below it that fails the check which the error names.
Parts that are loaded one after the other are judged one after the other, and what is said of a
member or an item is said of the node that holds it.
-/
namespace ScriptBinding

/-- A node fails the check that a message names. -/
inductive Json.Fails : Json → Text → Prop
  | object {v : Json} (other : ∀ members, v ≠ obj members) : v.Fails "expected an object"
  | array {v : Json} (some : v ≠ null) (other : ∀ items, v ≠ arr items) :
      v.Fails "expected an array"
  | text {v : Json} (other : ¬ v.IsText) : v.Fails "expected a non-empty string"
  | flag {v : Json} (some : v ≠ null) (other : ¬ v.IsFlag) : v.Fails "expected a boolean"
  | kind {v : Json} (function : v ≠ str "function") (cls : v ≠ str "class") :
      v.Fails "expected 'function' or 'class'"
  | type {v : Json} (unnamed : ∀ t, v ≠ str t)
      (plain : ∀ members, v = obj members → find? members "sequence" = none) :
      v.Fails ("unrecognized type " ++ v.oneLine)

/-- From a node at this path, the rest of the path of an error leads to a node that fails. -/
def LoadError.PointsInto (e : LoadError) (path : Path) (v : Json) : Prop :=
  ∃ steps node, e.path = ⟨path.root, path.steps ++ steps⟩ ∧ (∀ step ∈ steps, step.Unmarked) ∧
    v.follow? steps = some node ∧ node.Fails e.problem.message

namespace LoadError.PointsInto

theorem here {path : Path} {v : Json} {problem : LoadProblem} (fails : v.Fails problem.message) :
    (⟨path, problem⟩ : LoadError).PointsInto path v :=
  ⟨[], v, by simp, by simp, rfl, fails⟩

variable {e : LoadError} {path : Path}

theorem key {members : List (Text × Json)} {name : Text} (unmarked : name.Unmarked)
    (inner : e.PointsInto (path.key name) (Json.member members name)) :
    e.PointsInto path (.obj members) := by
  obtain ⟨steps, node, at_node, others, followed, fails⟩ := inner
  refine ⟨.key name :: steps, node, ?_, List.forall_mem_cons.mpr ⟨unmarked, others⟩, followed, fails⟩
  simpa [Path.key] using at_node

theorem index {items : List Json} {i : Nat} {item : Json} (found : items[i]? = some item)
    (inner : e.PointsInto (path.index i) item) : e.PointsInto path (.arr items) := by
  obtain ⟨steps, node, at_node, others, followed, fails⟩ := inner
  refine ⟨.index i :: steps, node, ?_, List.forall_mem_cons.mpr ⟨trivial, others⟩, ?_, fails⟩
  · simpa [Path.index] using at_node
  · simpa [Json.follow?, found] using followed

end LoadError.PointsInto

namespace Load

/-- What a loader makes of a node at this path: it is loaded and does what is asked for, or it does
not and the error points into it. -/
def Judges {α : Type} (loaded : Except LoadError α) (asked : Prop) (path : Path) (v : Json) : Prop :=
  match loaded with
  | .ok _ => asked
  | .error e => ¬ asked ∧ e.PointsInto path v

namespace Judges

variable {α β : Type} {x : Except LoadError α} {P Q : Prop} {path : Path} {v : Json}

theorem accepted (a : α) (asked : P) : Judges (.ok a) P path v := asked

theorem refused {problem : LoadProblem} (other : ¬ P) (fails : v.Fails problem.message) :
    Judges (.error ⟨path, problem⟩ : Except LoadError α) P path v :=
  ⟨other, .here fails⟩

theorem congr (same : P ↔ Q) (h : Judges x P path v) : Judges x Q path v := by
  rwa [← propext same]

theorem map (f : α → β) (h : Judges x P path v) : Judges (x.map f) P path v := by
  cases x with
  | error e => exact h
  | ok a => exact h

/-- One part after the other; the second is asked for only if the first is there. -/
theorem bind {f : α → Except LoadError β} (first : Judges x P path v)
    (rest : ∀ a, Judges (f a) Q path v) : Judges (x >>= f) (P ∧ Q) path v := by
  cases x with
  | error e => exact ⟨fun both => first.1 both.1, first.2⟩
  | ok a =>
      have later := rest a
      show Judges (f a) (P ∧ Q) path v
      exact later.congr (and_iff_right first).symm

/-- The last part, from which the whole is made. -/
theorem last {f : α → β} (h : Judges x P path v) :
    Judges (x >>= fun a => .ok (f a)) P path v := by
  cases x with
  | error e => exact h
  | ok a => exact h

theorem key {members : List (Text × Json)} {name : Text} (unmarked : name.Unmarked)
    (h : Judges x P (path.key name) (Json.member members name)) :
    Judges x P path (.obj members) := by
  cases x with
  | error e => exact ⟨h.1, h.2.key unmarked⟩
  | ok a => exact h

theorem index {items : List Json} {i : Nat} {item : Json} (found : items[i]? = some item)
    (h : Judges x P (path.index i) item) : Judges x P path (.arr items) := by
  cases x with
  | error e => exact ⟨h.1, h.2.index found⟩
  | ok a => exact h

theorem has {Asked : Json → Prop} {members : List (Text × Json)} {name : Text}
    (unmarked : name.Unmarked) (absent : ¬ Asked .null)
    (h : Judges x (Asked (Json.member members name)) (path.key name) (Json.member members name)) :
    Judges x (Json.Has members name Asked) path (.obj members) :=
  (h.key unmarked).congr (Json.has_iff absent).symm

theorem mayHave {Asked : Json → Prop} {members : List (Text × Json)} {name : Text}
    (unmarked : name.Unmarked)
    (h : Judges x (Json.member members name = .null ∨ Asked (Json.member members name))
      (path.key name) (Json.member members name)) :
    Judges x (Json.MayHave members name Asked) path (.obj members) :=
  (h.key unmarked).congr Json.mayHave_iff.symm

/-- A member for which there is a default; if it is not `null`, it is judged as another loader would
judge it. -/
theorem mayHaveOr {Asked : Json → Prop} {members : List (Text × Json)} {name : Text}
    {load given : Json → Except LoadError α} (unmarked : name.Unmarked)
    (default : ∃ a, load .null = .ok a) (others : ∀ node, node ≠ .null → load node = given node)
    (h : Judges (given (Json.member members name)) (Asked (Json.member members name))
      (path.key name) (Json.member members name)) :
    Judges (load (Json.member members name)) (Json.MayHave members name Asked) path
      (.obj members) := by
  refine .mayHave unmarked ?_
  by_cases null : Json.member members name = .null
  · obtain ⟨a, loaded⟩ := default
    rw [null, loaded]
    exact .inl rfl
  · rw [others _ null]
    exact h.congr (or_iff_right null).symm

/-- A loader that reads the members of an object. -/
theorem object {Asked : List (Text × Json) → Prop} {f : List (Text × Json) → Except LoadError α}
    (h : ∀ members, v = .obj members → Judges (f members) (Asked members) path v) :
    Judges (Load.object path v >>= f) (v.IsObjectWith Asked) path v := by
  cases v with
  | obj members =>
      refine (h members rfl).congr ?_
      simp [Json.IsObjectWith]
  | null | bool _ | int _ | real _ | str _ | arr _ =>
      exact refused (by simp [Json.IsObjectWith]) (.object (by simp))

end Judges

theorem judges_text (path : Path) (v : Json) : Judges (text path v) v.IsText path v := by
  cases v with
  | str t =>
      cases t with
      | nil =>
          have empty : ¬ Json.IsText (.str []) := by
            rintro ⟨t, same, filled⟩
            exact filled (Json.str.inj same).symm
          exact .refused empty (.text empty)
      | cons p rest => exact .accepted _ ⟨p :: rest, rfl, List.cons_ne_nil p rest⟩
  | null | bool _ | int _ | real _ | arr _ | obj _ =>
      exact .refused (by simp [Json.IsText]) (.text (by simp [Json.IsText]))

theorem judges_flag (path : Path) (absent : Bool) (v : Json) :
    Judges (flag path absent v) (v = .null ∨ v.IsFlag) path v := by
  cases v with
  | null => exact .accepted absent (.inl rfl)
  | bool b => exact .accepted b (.inr ⟨b, rfl⟩)
  | int _ | real _ | str _ | arr _ | obj _ =>
      exact .refused (by simp [Json.IsFlag]) (.flag (by simp) (by simp [Json.IsFlag]))

theorem type_obj (depth : Nat) (path : Path) (members : List (Text × Json)) :
    type depth path (.obj members) =
      match Json.find? members "sequence", depth with
      | none, _ => .error ⟨path, .unknownType (.obj members)⟩
      | some _, 0 => .error ⟨.ofRoot "$", .tooDeep⟩
      | some element, depth + 1 => (type depth (path.key "sequence") element).map .sequence := by
  have scan (node : Json) (rest : List (Text × Json)) :
      sequenceType depth path node rest =
        match Json.find? rest "sequence", depth with
        | none, _ => .error ⟨path, .unknownType node⟩
        | some _, 0 => .error ⟨.ofRoot "$", .tooDeep⟩
        | some element, depth + 1 => (type depth (path.key "sequence") element).map .sequence := by
    induction rest with
    | nil => rw [sequenceType]; rfl
    | cons pair rest ih =>
        obtain ⟨name, element⟩ := pair
        rw [sequenceType.eq_def]
        by_cases here : name = "sequence"
        · subst here
          cases depth <;> simp [Json.find?]
        · have other : ((Text.ofString "sequence") == name) = false := by
            simpa using Ne.symm here
          simpa [Json.find?, List.lookup_cons, here, other] using ih
  rw [type]
  exact scan (.obj members) members

/-- The nodes below one are nested no deeper than it is. -/
theorem nesting_member_lt (members : List (Text × Json)) (name : Text) :
    (Json.member members name).nesting < (Json.obj members).nesting := by
  rw [Json.member, Json.find?, Json.nesting]
  cases found : members.lookup name with
  | none => exact Nat.succ_pos _
  | some v =>
      obtain ⟨before, behind, split, -⟩ := List.lookup_eq_some_iff.mp found
      have listed : (name, v) ∈ members := split ▸ List.mem_append_right _ List.mem_cons_self
      exact Nat.lt_succ_of_le (Json.nesting_le_nestingMembers _ listed)

theorem judges_type {depth : Nat} (path : Path) {v : Json} (shallow : v.nesting ≤ depth) :
    Judges (type depth path v) v.IsType path v := by
  induction depth generalizing path v with
  | zero =>
      cases v with
      | str t => exact .accepted _ (.name t)
      | obj members => exact absurd shallow (Nat.not_succ_le_zero _)
      | null | bool _ | int _ | real _ | arr _ =>
          exact .refused (by rintro ⟨⟩) (.type (by simp) (by simp))
  | succ depth ih =>
      cases v with
      | str t => exact .accepted _ (.name t)
      | obj members =>
          rw [type_obj]
          cases given : Json.find? members "sequence" with
          | none =>
              have plain : ¬ (Json.obj members).IsType := fun typed => by
                cases typed with
                | sequence found _ => simp [given] at found
              refine .refused plain (.type (by simp) fun others same => ?_)
              exact Json.obj.inj same ▸ given
          | some element =>
              have read : Json.member members "sequence" = element := by simp [Json.member, given]
              have below := nesting_member_lt members "sequence"
              rw [read] at below
              have inner := ih (path.key "sequence") (v := element) (by omega)
              rw [← read] at inner ⊢
              refine ((inner.key (by decide)).map _).congr ⟨fun typed => ?_, fun typed => ?_⟩
              · exact .sequence given (read ▸ typed)
              · cases typed with
                | sequence found typed =>
                    obtain rfl := Option.some.inj (found.symm.trans given)
                    exact read ▸ typed
      | null | bool _ | int _ | real _ | arr _ =>
          exact .refused (by rintro ⟨⟩) (.type (by simp) (by simp))

theorem judges_result {depth : Nat} (path : Path) {v : Json} (shallow : v.nesting ≤ depth) :
    Judges (result depth path v) (v = .null ∨ v.IsResult) path v := by
  cases v with
  | null => exact .accepted _ (.inl rfl)
  | str name =>
      have asked : Json.str name = .null ∨ (Json.str name).IsResult := .inr (.name name)
      rw [result]
      split
      · exact .accepted _ asked
      · split
        · exact .accepted _ asked
        · exact .accepted _ asked
  | obj members =>
      rw [result]
      cases given : Json.find? members "converted" with
      | none =>
          refine (judges_type path shallow).congr ⟨fun typed => .inr (.sequence given typed), ?_⟩
          rintro (null | declared)
          · cases null
          · cases declared with
            | converted found _ => simp [given] at found
            | sequence _ typed => exact typed
      | some name =>
          have read : Json.member members "converted" = name := by simp [Json.member, given]
          have inner := judges_text (path.key "converted") name
          rw [← read] at inner ⊢
          refine ((inner.key (by decide)).map _).congr ⟨fun named => ?_, ?_⟩
          · exact .inr (.converted given (read ▸ named))
          · rintro (null | declared)
            · cases null
            · cases declared with
              | converted found named =>
                  obtain rfl := Option.some.inj (found.symm.trans given)
                  exact read ▸ named
              | sequence plain _ => simp [given] at plain
  | bool _ | int _ | real _ | arr _ =>
      exact .refused (not_or.mpr ⟨by simp, by rintro ⟨⟩⟩) (.type (by simp) (by simp))

/-- A loader judges every node that is nested no deeper than a type is read. -/
def Judging {α : Type} (load : Path → Json → Except LoadError α) (Asked : Json → Prop) : Prop :=
  ∀ path v, v.nesting ≤ typeDepth → Judges (load path v) (Asked v) path v

section
variable {α : Type} {load : Path → Json → Except LoadError α} {Asked : Json → Prop}

/-- The items from `start` on are judged one by one. -/
theorem judges_eachFrom (judging : Judging load Asked) (path : Path) {items : List Json}
    (shallow : ∀ item ∈ items, item.nesting ≤ typeDepth) {start : Nat} {rest : List Json}
    (behind : items.drop start = rest) :
    Judges (eachFrom (fun i node => load (path.index i) node) start rest)
      (∀ item ∈ rest, Asked item) path (.arr items) := by
  induction rest generalizing start with
  | nil => exact .accepted _ (fun _ mem => absurd mem List.not_mem_nil)
  | cons item rest ih =>
      have found : items[start]? = some item := by
        rw [← List.head?_drop, behind]
        rfl
      have later : items.drop (start + 1) = rest := by
        rw [← List.tail_drop, behind, List.tail_cons]
      have first := judging (path.index start) item (shallow item (List.mem_of_getElem? found))
      exact ((first.index found).bind fun a => (ih later).last).congr List.forall_mem_cons.symm

theorem judges_items (judging : Judging load Asked) (path : Path) {v : Json}
    (shallow : v.nesting ≤ typeDepth) :
    Judges (items path v >>= eachFrom (fun i node => load (path.index i) node) 0)
      (v = .null ∨ v.IsArrayOf Asked) path v := by
  cases v with
  | null => exact .accepted _ (.inl rfl)
  | arr items =>
      have below : ∀ item ∈ items, item.nesting ≤ typeDepth := fun item mem =>
        (Json.nesting_le_nestingItems item mem).trans (Nat.le_of_succ_le shallow)
      refine (judges_eachFrom judging path below List.drop_zero).congr ?_
      simp [Json.IsArrayOf]
  | bool _ | int _ | real _ | str _ | obj _ =>
      exact .refused (by simp [Json.IsArrayOf]) (.array (by simp) (by simp))

end

section
variable (path : Path) {members : List (Text × Json)} {name : Text}

theorem judges_hasText (unmarked : name.Unmarked) :
    Judges (text (path.key name) (Json.member members name)) (Json.Has members name Json.IsText)
      path (.obj members) :=
  .has unmarked Json.not_isText_null (judges_text _ _)

theorem judges_mayHaveFlag (unmarked : name.Unmarked) (absent : Bool) :
    Judges (flag (path.key name) absent (Json.member members name))
      (Json.MayHave members name Json.IsFlag) path (.obj members) :=
  .mayHave unmarked (judges_flag _ absent _)

variable (shallow : (Json.obj members).nesting ≤ typeDepth)
include shallow

theorem nesting_member_le : (Json.member members name).nesting ≤ typeDepth :=
  (nesting_member_lt members name).le.trans shallow

theorem judges_hasType (unmarked : name.Unmarked) :
    Judges (type typeDepth (path.key name) (Json.member members name))
      (Json.Has members name Json.IsType) path (.obj members) :=
  .has unmarked Json.not_isType_null (judges_type _ (nesting_member_le shallow))

theorem judges_each {α : Type} {load : Path → Json → Except LoadError α} {Asked : Json → Prop}
    (judging : Judging load Asked) (unmarked : name.Unmarked) :
    Judges (each path members name load) (Json.MayHave members name (Json.IsArrayOf Asked)) path
      (.obj members) :=
  .mayHave unmarked (judges_items judging (path.key name) (nesting_member_le shallow))

end

theorem judging_argument : Judging argument Json.IsArgument := by
  intro path v shallow
  refine Judges.object fun members same => ?_
  subst same
  refine ((judges_hasText path (by decide)).bind fun name =>
    (judges_hasType path shallow (by decide)).bind fun type =>
      (judges_mayHaveFlag path (by decide) true).last).congr ?_
  exact ⟨fun ⟨name, type, required⟩ => ⟨name, type, required⟩,
    fun declared => ⟨declared.name, declared.type, declared.required⟩⟩

theorem judging_property : Judging property Json.IsProperty := by
  intro path v shallow
  refine Judges.object fun members same => ?_
  subst same
  refine ((judges_hasText path (by decide)).bind fun name =>
    (judges_hasType path shallow (by decide)).bind fun type =>
      (judges_mayHaveFlag path (by decide) false).last).congr ?_
  exact ⟨fun ⟨name, type, readOnly⟩ => ⟨name, type, readOnly⟩,
    fun declared => ⟨declared.name, declared.type, declared.readOnly⟩⟩

/-- What a function needs besides its name. -/
theorem judges_signature (path : Path) {members : List (Text × Json)}
    (shallow : (Json.obj members).nesting ≤ typeDepth) (name : Text) :
    Judges (do
      let arguments ← each path members "args" argument
      let result ← result typeDepth (path.key "return") (Json.member members "return")
      .ok (⟨name, arguments, result⟩ : FunctionDecl))
      (Json.DeclaresSignature members) path (.obj members) := by
  have returned : Judges (result typeDepth (path.key "return") (Json.member members "return"))
      (Json.MayHave members "return" Json.IsResult) path (.obj members) :=
    .mayHave (by decide) (judges_result _ (nesting_member_le shallow))
  refine ((judges_each path shallow judging_argument (by decide)).bind fun arguments =>
    returned.last).congr ?_
  exact ⟨fun ⟨arguments, result⟩ => ⟨arguments, result⟩,
    fun declared => ⟨declared.arguments, declared.result⟩⟩

theorem judging_function : Judging (function []) Json.IsFunction := by
  intro path v shallow
  rw [function_eq_bind]
  refine Judges.object fun members same => ?_
  subst same
  have named : Judges (nameOr [] (path.key "name") (Json.member members "name"))
      (Json.Has members "name" Json.IsText) path (.obj members) := by
    have unnamed (node : Json) : nameOr [] (path.key "name") node = text (path.key "name") node := by
      cases node <;> rfl
    rw [unnamed]
    exact judges_hasText path (by decide)
  refine (named.bind fun name => judges_signature path shallow name).congr ?_
  exact ⟨fun ⟨name, signature⟩ => ⟨name, signature⟩,
    fun declared => ⟨declared.name, declared.signature⟩⟩

theorem judging_constructor : Judging (function constructorName) Json.IsConstructor := by
  intro path v shallow
  rw [function_eq_bind]
  refine Judges.object fun members same => ?_
  subst same
  have named : Judges (nameOr constructorName (path.key "name") (Json.member members "name"))
      (Json.MayHave members "name" Json.IsText) path (.obj members) := by
    have given (node : Json) (some : node ≠ .null) :
        nameOr constructorName (path.key "name") node = text (path.key "name") node := by
      cases node with
      | null => exact absurd rfl some
      | bool _ | int _ | real _ | str _ | arr _ | obj _ => rfl
    exact .mayHaveOr (by decide) ⟨constructorName, rfl⟩ given (judges_text _ _)
  refine (named.bind fun name => judges_signature path shallow name).congr ?_
  exact ⟨fun ⟨name, signature⟩ => ⟨name, signature⟩,
    fun declared => ⟨declared.name, declared.signature⟩⟩

theorem judges_classDecl (path : Path) {members : List (Text × Json)}
    (shallow : (Json.obj members).nesting ≤ typeDepth) :
    Judges (classDecl path members) (Json.DeclaresClass members) path (.obj members) := by
  have constructed : Judges
      (constructorOr (path.key "constructor") (Json.member members "constructor"))
      (Json.MayHave members "constructor" Json.IsConstructor) path (.obj members) := by
    have given (node : Json) (some : node ≠ .null) :
        constructorOr (path.key "constructor") node =
          function constructorName (path.key "constructor") node := by
      cases node with
      | null => exact absurd rfl some
      | bool _ | int _ | real _ | str _ | arr _ | obj _ => rfl
    exact .mayHaveOr (by decide) ⟨_, rfl⟩ given (judging_constructor _ _ (nesting_member_le shallow))
  rw [classDecl_eq_bind]
  refine (constructed.bind fun constructor =>
    (judges_each path shallow judging_property (by decide)).bind fun properties =>
      (judges_each path shallow judging_function (by decide)).last).congr ?_
  exact ⟨fun ⟨constructor, properties, methods⟩ => ⟨constructor, properties, methods⟩,
    fun declared => ⟨declared.constructor, declared.properties, declared.methods⟩⟩

theorem isMember_obj_iff {members : List (Text × Json)} :
    (Json.obj members).IsMember ↔
      Json.member members "kind" = .str "function" ∧ Json.DeclaresFunction members ∨
        Json.member members "kind" = .str "class" ∧ Json.DeclaresClass members := by
  constructor
  · intro declared
    cases declared with
    | function kind declared => exact .inl ⟨by simp [Json.member, kind], declared⟩
    | cls kind declared => exact .inr ⟨by simp [Json.member, kind], declared⟩
  · rintro (⟨kind, declared⟩ | ⟨kind, declared⟩)
    · exact .function (Json.find?_eq_some_of_member kind (by simp)) declared
    · exact .cls (Json.find?_eq_some_of_member kind (by simp)) declared

/-- The member of the kind that an object gives. -/
def memberOf (path : Path) (members : List (Text × Json)) : Json → Except LoadError Member
  | .str kind =>
    if kind = "function" then (function [] path (.obj members)).map .function
    else if kind = "class" then (classDecl path members).map .cls
    else .error ⟨path.key "kind", .notMemberKind⟩
  | _ => .error ⟨path.key "kind", .notMemberKind⟩

theorem member_obj (path : Path) (members : List (Text × Json)) :
    member path (.obj members) = memberOf path members (Json.member members "kind") := by
  show (match Json.member members "kind" with
    | .str kind => _
    | _ => _) = _
  cases Json.member members "kind" <;> rfl

theorem judging_member : Judging member Json.IsMember := by
  intro path v shallow
  cases v with
  | null | bool _ | int _ | real _ | str _ | arr _ =>
      exact .refused (by rintro ⟨⟩) (.object (by simp))
  | obj members =>
      rw [member_obj]
      have other (function : Json.member members "kind" ≠ .str "function")
          (cls : Json.member members "kind" ≠ .str "class") :
          Judges (.error ⟨path.key "kind", .notMemberKind⟩ : Except LoadError Member)
            (Json.obj members).IsMember path (.obj members) := by
        refine .key (by decide) (.refused ?_ (.kind function cls))
        rw [isMember_obj_iff]
        exact fun declared => declared.elim (fun h => function h.1) fun h => cls h.1
      cases read : Json.member members "kind" with
      | null | bool _ | int _ | real _ | arr _ | obj _ =>
          rw [read] at other
          exact other (by simp) (by simp)
      | str kind =>
          have kinds : Text.ofString "function" ≠ Text.ofString "class" := by decide
          rw [read] at other
          by_cases function : kind = "function"
          · rw [memberOf, if_pos function]
            refine ((judging_function path _ shallow).map _).congr ?_
            rw [isMember_obj_iff, read, function]
            simp [Json.IsFunction, Json.IsObjectWith, kinds]
          · by_cases cls : kind = "class"
            · rw [memberOf, if_neg function, if_pos cls]
              refine ((judges_classDecl path shallow).map _).congr ?_
              rw [isMember_obj_iff, read, cls]
              simp [kinds.symm]
            · rw [memberOf, if_neg function, if_neg cls]
              exact other (fun same => function (Json.str.inj same))
                fun same => cls (Json.str.inj same)

theorem judging_oneModule : Judging oneModule Json.IsUnit := by
  intro path v shallow
  rw [oneModule_eq_bind]
  refine Judges.object fun members same => ?_
  subst same
  have implemented : Judges (implementationOr (path.key "impl") (Json.member members "impl"))
      (Json.MayHave members "impl" Json.IsText) path (.obj members) := by
    have given (node : Json) (some : node ≠ .null) :
        implementationOr (path.key "impl") node = text (path.key "impl") node := by
      cases node with
      | null => exact absurd rfl some
      | bool _ | int _ | real _ | str _ | arr _ | obj _ => rfl
    exact .mayHaveOr (by decide) ⟨[], rfl⟩ given (judges_text _ _)
  refine ((judges_hasText path (by decide)).bind fun id =>
    (judges_each path shallow judging_member (by decide)).bind fun declared =>
      (judges_hasText path (by decide)).bind fun backing => implemented.last).congr ?_
  exact ⟨fun ⟨id, declared, backing, implementation⟩ => ⟨id, backing, implementation, declared⟩,
    fun declared => ⟨declared.id, declared.members, declared.backing, declared.implementation⟩⟩

end Load

end ScriptBinding
