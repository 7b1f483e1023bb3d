import ScriptBinding.CommandLine.Pipeline
import ScriptBinding.Proofs.Interface.Legible

/-!
The report that a run prints when it stops after loading. Put under `modules` it is a text of
declarations again, and loads as what was reported: nothing is lost on the way through the report,
the printed text, the reader and the loader.
-/
namespace ScriptBinding

namespace Load

theorem source_eq_ok_iff {source : Text} {modules : List Module} :
    Load.source source = .ok modules ↔
      ∃ node, Json.read source = .ok node ∧ Load.modules node = .ok modules := by
  rw [Load.source]
  cases Json.read source with
  | error f => cases f with | mk defect rest => cases defect <;> simp
  | ok node => simp

/-- Every loaded unit is loaded from a value whose strings are among those of the whole. -/
theorem exists_of_modules {node : Json} {loaded : List Module}
    (h : Load.modules node = .ok loaded) :
    ∀ m ∈ loaded, ∃ path part, (node.Joined → part.Joined) ∧ oneModule path part = .ok m := by
  obtain ⟨members, object, h⟩ := bind_eq_ok_iff.mp h
  obtain rfl := object_eq_ok_iff.mp object
  intro m mem
  cases several : Json.find? members "modules" with
  | none =>
      rw [several] at h
      obtain ⟨single, found, rfl⟩ := map_eq_ok_iff.mp h
      obtain rfl := List.mem_singleton.mp mem
      exact ⟨_, _, id, found⟩
  | some value =>
      rw [several] at h
      obtain ⟨nodes, listed, h⟩ := bind_eq_ok_iff.mp h
      obtain ⟨place, part, among, found⟩ := exists_of_eachFrom h m mem
      refine ⟨place, part, fun joined => ?_, found⟩
      have whole := joined_member (Json.joined_obj_iff.mp joined) "modules"
      rw [Json.member, several] at whole
      rcases items_eq_ok_iff.mp listed with ⟨-, rfl⟩ | rfl
      · exact absurd among List.not_mem_nil
      · exact Json.joined_arr_iff.mp whole part among

/-- The units that are loaded from a text can be reported. -/
theorem representable_of_source {source : Text} {loaded : List Module}
    (h : Load.source source = .ok loaded) : ∀ m ∈ loaded, m.Representable ∧ Shallow m.types := by
  obtain ⟨node, -, h⟩ := source_eq_ok_iff.mp h
  intro m mem
  obtain ⟨path, part, -, found⟩ := exists_of_modules h m mem
  exact representable_of_oneModule found

/-- The units that are loaded from a text of characters have joined strings. -/
theorem joined_of_source {source : String} {loaded : List Module}
    (h : Load.source source = .ok loaded) :
    ∀ m ∈ loaded, m.implementation.Joined ∧ ∀ name ∈ m.names, name.Joined := by
  obtain ⟨node, read, h⟩ := source_eq_ok_iff.mp h
  have joined := Json.joined_of_read (Text.not_hasSurrogate_ofString source) read
  intro m mem
  obtain ⟨path, part, among, found⟩ := exists_of_modules h m mem
  exact joined_of_oneModule (among joined) found

end Load

namespace CommandLine

open Load (oneModule eachFrom)

/-- Reports under `modules`, on one line but for the reports themselves. -/
def wrapped (report : Text) : Text := "\x7b\"modules\": " ++ report ++ "\x7d"

theorem wrapped_eq_join (v : Json) :
    wrapped v.indented =
      Text.ofString "\x7b" ++ [] ++
        Text.join [.scalar ','] ([(Text.ofString "modules", v)].map
          (Json.memberText Json.indented)) ++ [] ++ Text.ofString "\x7d" := by
  have opening : ("\x7b\"modules\": " : Text) = "\x7b" ++ (Json.literal "modules" ++ ": ") := by
    decide
  rw [wrapped, opening, List.map_singleton, Text.join, List.intercalate_singleton,
    Json.memberText, List.append_nil, List.append_nil]
  simp only [List.append_assoc]

theorem read_wrapped {nodes : List Json} (legible : ∀ node ∈ nodes, node.Legible)
    (shallow : (Json.arr nodes).nesting < Json.nestingLimit) :
    Json.read (wrapped (Json.arr nodes).indented) = .ok (.obj [("modules", .arr nodes)]) := by
  obtain ⟨depth, limit⟩ : ∃ depth, Json.nestingLimit = depth + 1 := ⟨999, rfl⟩
  have inside : (Json.arr nodes).indented.length ≤ (wrapped (Json.arr nodes).indented).length := by
    simp only [wrapped, List.length_append]
    omega
  have some : 1 ≤ (wrapped (Json.arr nodes).indented).length := Nat.succ_le_succ (Nat.zero_le _)
  have blank : Json.Blank [] := fun _ mem => absurd mem List.not_mem_nil
  refine Json.read_of_readAs Bool.false_ne_true ?_
  rw [limit] at shallow ⊢
  have value := Json.readAs_indentedAt (.arr legible) 0 (Nat.le_of_lt_succ shallow) inside
  generalize (wrapped (Json.arr nodes).indented).length = fuel at some value ⊢
  rw [wrapped_eq_join]
  exact Json.readAs_members blank blank blank
    (List.forall_mem_singleton.mpr (Text.joined_ofString "modules"))
    (List.forall_mem_singleton.mpr value)
    (List.nodup_cons.mpr ⟨List.not_mem_nil, List.nodup_nil⟩) (List.cons_ne_nil _ _) some

/-- The report of the units that are loaded from a text, put under `modules`, loads as these units
again, unless it is nested deeper than is read. A text consists of characters; a surrogate can stand
alone in it only as an escape. -/
theorem loadReport_loads {source : String} {modules : List Module}
    (loaded : Load.source source = .ok modules) :
    ∃ nodes, modules.mapM Module.report = .ok nodes ∧
      (∀ settings : Settings, settings.stopAt? = some .load →
        pipeline settings source = .ok (.report (Json.arr nodes).indented)) ∧
      ((Json.arr nodes).nesting < Json.nestingLimit →
        Load.source (wrapped (Json.arr nodes).indented) = .ok modules) := by
  have representable := Load.representable_of_source loaded
  have joined := Load.joined_of_source loaded
  obtain ⟨nodes, reported, again⟩ := Load.eachFrom_roundTrips fun m mem =>
    Load.oneModule_roundTrips (representable m mem).1 (representable m mem).2
  have legible : ∀ node ∈ nodes, node.Legible := by
    intro node mem
    obtain ⟨m, listed, ofModule⟩ := Load.exists_of_mapM reported node mem
    obtain ⟨implemented, named⟩ := joined m listed
    exact m.legible_report implemented named (representable m listed).1 ofModule
  refine ⟨nodes, reported, fun settings stopped => ?_, fun shallow => ?_⟩
  · simp [pipeline, loaded, stopped, reportModules, reported, Except.map]
  · exact Load.source_eq_ok_iff.mpr ⟨_, read_wrapped legible shallow, again _ 0⟩

/-- Declarations with a lone surrogate, a control character and a code point above U+FFFF in their
names. -/
def etchedSource : String :=
  "\x7b\"id\": \"\\ud800\\u0007\", \"backing_type\": \"\\ud83d\\ude00\", \"members\": [" ++
    "\x7b\"kind\": \"class\", \"methods\": [\x7b\"name\": \"é\\\"\", \"args\": [" ++
    "\x7b\"name\": \"a\", \"type\": \x7b\"sequence\": \"Node\"\x7d\x7d], " ++
    "\"return\": \"Promise\"\x7d]\x7d]\x7d"

def etched : Module :=
  { id := [.surrogate 0, .ofNat 7]
    backing := [.ofNat 0x1F600]
    members :=
      [.cls
        { constructor := ⟨"constructor", [], .primitive .void⟩
          properties := []
          methods := [⟨"é\"", [⟨"a", .sequence (.interface "Node"), true⟩], .promise⟩] }]
    implementation := [] }

theorem loadReport_loads_etched :
    Load.source etchedSource = .ok [etched] ∧
      ∃ nodes, [etched].mapM Module.report = .ok nodes ∧
        (Json.arr nodes).nesting < Json.nestingLimit ∧
        Load.source (wrapped (Json.arr nodes).indented) = .ok [etched] := by
  have loaded : Load.source etchedSource = .ok [etched] :=
    Load.eq_ok_of_toOption (by decide +kernel)
  obtain ⟨nodes, reported, -, again⟩ := loadReport_loads loaded
  have nested : ([etched].mapM Module.report).toOption.map (Json.nesting ∘ .arr) = some 9 := by
    decide +kernel
  rw [reported] at nested
  have shallow : (Json.arr nodes).nesting < Json.nestingLimit := by
    have nine : (Json.arr nodes).nesting = 9 := Option.some.inj nested
    rw [nine]
    decide
  exact ⟨loaded, nodes, reported, shallow, again shallow⟩

end CommandLine

end ScriptBinding
