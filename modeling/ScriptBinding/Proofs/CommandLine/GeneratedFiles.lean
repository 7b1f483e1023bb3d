import ScriptBinding.Proofs.CommandLine.Delivery
import ScriptBinding.Proofs.CommandLine.Runs
import ScriptBinding.Proofs.Interface.Loading
import ScriptBinding.Proofs.Unit.Generation

/-!
What a run that writes into a directory leaves there. A file is named after its unit, and units are
generated one by one, so that two of them may have one name; then only the last file is left.
-/
namespace ScriptBinding

/-- The files of a unit are named after it. -/
structure GeneratedUnit.Named (u : GeneratedUnit) : Prop where
  id : u.moduleId.isIdentifier
  header : u.headerName = ScriptBinding.headerName u.moduleId
  source : u.sourceName = ScriptBinding.sourceName u.moduleId

/-- What an accepted unit is generated into. -/
def Module.unit (m : Module) (options : Options) : GeneratedUnit :=
  ⟨m.id, ScriptBinding.headerName m.id, (m.planned options).header, ScriptBinding.sourceName m.id,
    (m.planned options).source⟩

theorem Module.generate_eq_ok {m : Module} (valid : m.isValid) (options : Options) :
    m.generate options = .ok (m.unit options) := by
  rw [generate_eq_map, plan_eq_ok valid]
  rfl

/-- Whatever is generated is the unit of an accepted module. -/
theorem Module.unit_of_generate {m : Module} {options : Options} {u : GeneratedUnit}
    (generated : m.generate options = .ok u) : m.isValid ∧ u = m.unit options := by
  rw [m.generate_eq_map, Load.map_eq_ok_iff] at generated
  obtain ⟨p, planned, rfl⟩ := generated
  have valid : m.isValid := by
    by_contra rejected
    rw [Module.plan_eq_error rejected] at planned
    exact nomatch planned
  rw [Module.plan_eq_ok valid] at planned
  obtain rfl := Except.ok.inj planned
  exact ⟨valid, rfl⟩

theorem Module.named_unit {m : Module} (valid : m.isValid) (options : Options) :
    (m.unit options).Named :=
  ⟨(wellFormed_of_isValid valid).id, rfl, rfl⟩

theorem generateAll_eq_ok {modules : List Module} (valid : ∀ m ∈ modules, m.isValid)
    (options : Options) : generateAll modules options = .ok (modules.map (·.unit options)) := by
  rw [generateAll, Load.mapM_eq_ok_iff, List.forall₂_map_right_iff, List.forall₂_same]
  exact fun m mem => Module.generate_eq_ok (valid m mem) options

theorem eq_map_of_generateAll {modules : List Module} {options : Options}
    {units : List GeneratedUnit} (generated : generateAll modules options = .ok units) :
    (∀ m ∈ modules, m.isValid) ∧ units = modules.map (·.unit options) := by
  rw [generateAll, Load.mapM_eq_ok_iff] at generated
  induction generated with
  | nil => exact ⟨List.forall_mem_nil _, rfl⟩
  | cons first _ ih =>
      obtain ⟨valid, rfl⟩ := Module.unit_of_generate first
      obtain ⟨othersValid, rfl⟩ := ih
      exact ⟨List.forall_mem_cons.mpr ⟨valid, othersValid⟩, rfl⟩

/-- There is one unit for each module, in order. -/
theorem named_of_generateAll {modules : List Module} {options : Options}
    {units : List GeneratedUnit} (generated : generateAll modules options = .ok units) :
    (∀ u ∈ units, u.Named) ∧ units.map (·.moduleId) = modules.map (·.id) := by
  obtain ⟨valid, rfl⟩ := eq_map_of_generateAll generated
  constructor
  · rw [List.forall_mem_map]
    exact fun m mem => Module.named_unit (valid m mem) options
  · rw [List.map_map]
    rfl

namespace CommandLine

theorem isFileName_of_isIdentifier {id ending : Text} (h : id.isIdentifier)
    (plain : .scalar '/' ∉ ending) : IsFileName ("qjs_" ++ id ++ ending) where
  plain := by
    have foreign : CodePoint.scalar '/' ∉ id := Text.not_mem_of_isIdentifier h rfl
    simp [Text.ofString, foreign, plain]
  moves := by
    simp [Disk.staysHere, Text.ofString]
  descends := by
    simp [Text.ofString]

namespace Selection

variable (s : Selection) {u v : GeneratedUnit} {f g : Text × Text}

theorem name_of_mem_files (hu : u.Named) (mem : f ∈ s.files u) :
    f.1 = headerName u.moduleId ∨ f.1 = sourceName u.moduleId := by
  cases s with
  | source => exact .inr (List.mem_singleton.mp mem ▸ hu.source)
  | header => exact .inl (List.mem_singleton.mp mem ▸ hu.header)
  | both =>
      rcases List.mem_pair.mp mem with rfl | rfl
      · exact .inl hu.header
      · exact .inr hu.source

theorem isFileName_of_mem_files (hu : u.Named) (mem : f ∈ s.files u) : IsFileName f.1 := by
  rcases s.name_of_mem_files hu mem with named | named
  · exact named ▸ isFileName_of_isIdentifier hu.id (by decide)
  · exact named ▸ isFileName_of_isIdentifier hu.id (by decide)

/-- A file of one unit is never named like a file of another. -/
theorem moduleId_eq_of_mem_files (hu : u.Named) (hv : v.Named) (hf : f ∈ s.files u)
    (hg : g ∈ s.files v) (same : f.1 = g.1) : u.moduleId = v.moduleId := by
  rcases s.name_of_mem_files hu hf with first | first <;>
    rcases s.name_of_mem_files hv hg with second | second <;> rw [first, second] at same
  · exact headerName_injective same
  · exact absurd same headerName_ne_sourceName
  · exact absurd same.symm headerName_ne_sourceName
  · exact sourceName_injective same

theorem files_eq_iff (hu : u.Named) (hv : v.Named) (same : u.moduleId = v.moduleId) :
    s.files u = s.files v ↔ ∀ f ∈ s.files u, ∀ g ∈ s.files v, f.1 = g.1 → f.2 = g.2 := by
  have header : u.headerName = v.headerName := by rw [hu.header, hv.header, same]
  have source : u.sourceName = v.sourceName := by rw [hu.source, hv.source, same]
  have apart : v.headerName ≠ v.sourceName := by
    rw [hv.header, hv.source]
    exact headerName_ne_sourceName
  cases s <;>
    simp [files, GeneratedUnit.headerFile, GeneratedUnit.sourceFile, header, source, apart,
      apart.symm]

/-- Among units the files of one name are of one text exactly if the units of one identifier are
alike. -/
theorem alike_iff {units : List GeneratedUnit} (named : ∀ u ∈ units, u.Named) :
    (∀ f ∈ units.flatMap s.files, ∀ g ∈ units.flatMap s.files, f.1 = g.1 → f.2 = g.2) ↔
      ∀ u ∈ units, ∀ v ∈ units, u.moduleId = v.moduleId → s.files u = s.files v := by
  constructor
  · intro alike u hu v hv same
    rw [s.files_eq_iff (named u hu) (named v hv) same]
    exact fun f hf g hg =>
      alike f (List.mem_flatMap.mpr ⟨u, hu, hf⟩) g (List.mem_flatMap.mpr ⟨v, hv, hg⟩)
  · intro alike f hf g hg same
    obtain ⟨u, hu, hf⟩ := List.mem_flatMap.mp hf
    obtain ⟨v, hv, hg⟩ := List.mem_flatMap.mp hg
    have ids := s.moduleId_eq_of_mem_files (named u hu) (named v hv) hf hg same
    exact (s.files_eq_iff (named u hu) (named v hv) ids).mp (alike u hu v hv ids) f hf g hg same

theorem isFileName_of_mem_flatMap {units : List GeneratedUnit} (named : ∀ u ∈ units, u.Named) :
    ∀ f ∈ units.flatMap s.files, IsFileName f.1 := by
  intro f mem
  obtain ⟨u, listed, mem⟩ := List.mem_flatMap.mp mem
  exact s.isFileName_of_mem_files (named u listed) mem

end Selection

/-- No file of some units is lost exactly if the units of one identifier are alike. -/
theorem Disk.Received.holds_files_iff {d d' : Disk} {directory : Text} {selection : Selection}
    {units : List GeneratedUnit} (h : d.Received d' directory (units.flatMap selection.files))
    (named : ∀ u ∈ units, u.Named) :
    (∀ f ∈ units.flatMap selection.files, d'.Holds (joinPath directory f.1) f.2) ↔
      ∀ u ∈ units, ∀ v ∈ units, u.moduleId = v.moduleId →
        selection.files u = selection.files v :=
  (h.holds_all_iff (selection.isFileName_of_mem_flatMap named)).trans (selection.alike_iff named)

/-- A run that is not stopped early brings forth the units of the modules it has loaded. -/
theorem units_of_pipeline {settings : Settings} {source : Text} {product : Product}
    (emitting : settings.stopAt? = none) (made : pipeline settings source = .ok product) :
    ∃ modules units, Load.source source = .ok modules ∧
      generateAll modules settings.options = .ok units ∧ product = .units units := by
  simp only [pipeline, emitting, reduceCtorEq, if_false] at made
  cases loaded : Load.source source with
  | error e =>
      rw [loaded] at made
      exact nomatch made
  | ok modules =>
      rw [loaded] at made
      simp only at made
      split at made
      · exact nomatch made
      · cases generated : generateAll modules settings.options with
        | error r =>
            rw [generated] at made
            exact nomatch made
        | ok units =>
            rw [generated] at made
            exact ⟨modules, units, rfl, generated, (Except.ok.inj made).symm⟩

namespace Surroundings

variable {s s' : Surroundings}

/-- What the bytes of the declarations are read as. -/
def decoded (input? : Option Text) : Option ByteArray → Except Text Text
  | none => .error ("error: cannot open '" ++ input?.getD [] ++ "'")
  | some bytes =>
    match Text.ofUtf8? bytes with
    | some text => .ok text
    | none => .error "error: invalid utf-8 in input"

/-- Reading the declarations leaves everything as it is. -/
theorem run_readSource (input? : Option Text) (s : Surroundings) :
    (readSource host input?).run s =
      (decoded input? (input?.elim (some s.input) s.disk.readFile), s) := by
  cases input? with
  | none => cases read : Text.ofUtf8? s.input <;> simp [readSource, host, decoded, read] <;> rfl
  | some path =>
      cases found : s.disk.readFile path with
      | none => simp [readSource, host, decoded, found]; rfl
      | some bytes =>
          cases read : Text.ofUtf8? bytes <;> simp [readSource, host, decoded, found, read] <;> rfl

theorem run_makeDirectory (path : Text) (s : Surroundings) :
    (host.makeDirectory path).run s =
      ((s.disk.makeDirectory path).1, { s with disk := (s.disk.makeDirectory path).2 }) := rfl

theorem received_of_deliver {settings : Settings} {directory : Text} {units : List GeneratedUnit}
    (directed : settings.outputDirectory? = some directory)
    (ran : (deliver host settings units).run s = (.exit 0, s')) :
    ∃ disk : Disk, disk.files = s.disk.files ∧
      disk.Received s'.disk directory (units.flatMap settings.selection.files) := by
  by_cases usable : isUsablePath directory
  · rw [deliver_of_usable host directed usable, run_bind, run_makeDirectory] at ran
    cases made : (s.disk.makeDirectory directory).1 with
    | false =>
        rw [made] at ran
        exact nomatch ran
    | true =>
        rw [made] at ran
        exact ⟨_, s.disk.files_makeDirectory directory, received_of_writeFiles ran⟩
  · rw [deliver_of_unusable host directed usable] at ran
    exact nomatch ran

/-- A run that ends well after its last phase has read its declarations, generated units from them,
and delivered these, if there are any. -/
theorem exists_units_of_run {arguments : List Text} {settings : Settings}
    (read : Settings.ofArguments arguments = .ok settings) (emitting : settings.stopAt? = none)
    (ran : s.run arguments = (.exit 0, s')) :
    ∃ source modules units, (readSource host settings.input?).run s = (.ok source, s) ∧
      Load.source source = .ok modules ∧ generateAll modules settings.options = .ok units ∧
      (units = [] ∧ s' = s ∨ (deliver host settings units).run s = (.exit 0, s')) := by
  rw [run] at ran
  by_cases usable : settings.input?.all isUsablePath
  · rw [run_of_understood host read usable, run_bind, run_readSource] at ran
    cases found : decoded settings.input? (settings.input?.elim (some s.input) s.disk.readFile) with
    | error message =>
        rw [found] at ran
        exact nomatch ran
    | ok source =>
        rw [found] at ran
        by_cases written : source.isBlank = false
        · rw [carryOn_of_written host written] at ran
          cases made : pipeline settings source with
          | error diagnostics =>
              rw [made, carryOut, run_bind] at ran
              exact nomatch ran
          | ok product =>
              obtain ⟨modules, units, loaded, generated, rfl⟩ := units_of_pipeline emitting made
              refine ⟨source, modules, units, ?_, loaded, generated, ?_⟩
              · rw [run_readSource, found]
              · rw [made] at ran
                cases units with
                | nil => exact .inl ⟨rfl, (Prod.mk.inj ran).2.symm⟩
                | cons u rest => exact .inr ran
        · rw [carryOn_of_blank host (eq_true_of_ne_false written)] at ran
          exact nomatch ran
  · rw [run_of_unusable host read usable] at ran
    exact nomatch ran

/-- What such a run leaves behind is what becomes of its disk, with a directory more perhaps, when
the selected files are written. -/
theorem received_of_run {arguments : List Text} {settings : Settings} {directory : Text}
    (read : Settings.ofArguments arguments = .ok settings) (emitting : settings.stopAt? = none)
    (directed : settings.outputDirectory? = some directory)
    (ran : s.run arguments = (.exit 0, s')) :
    ∃ source modules units, (readSource host settings.input?).run s = (.ok source, s) ∧
      Load.source source = .ok modules ∧ generateAll modules settings.options = .ok units ∧
      ∃ disk : Disk, disk.files = s.disk.files ∧
        disk.Received s'.disk directory (units.flatMap settings.selection.files) := by
  obtain ⟨source, modules, units, found, loaded, generated, delivered⟩ :=
    exists_units_of_run read emitting ran
  refine ⟨source, modules, units, found, loaded, generated, ?_⟩
  rcases delivered with ⟨rfl, rfl⟩ | delivered
  · exact ⟨s'.disk, rfl, Disk.received_nil s'.disk directory⟩
  · exact received_of_deliver directed delivered

/-- A run that ends well after its last phase leaves, under the name of each file that was selected,
the text of the last file of this name, and changes nothing else. No file is lost exactly if the
units of one identifier are alike in what was selected, and so if no two modules have one
identifier. -/
theorem files_kept_iff {arguments : List Text} {settings : Settings} {directory : Text}
    (read : Settings.ofArguments arguments = .ok settings) (emitting : settings.stopAt? = none)
    (directed : settings.outputDirectory? = some directory)
    (ran : s.run arguments = (.exit 0, s')) :
    ∃ source modules units, (readSource host settings.input?).run s = (.ok source, s) ∧
      Load.source source = .ok modules ∧ generateAll modules settings.options = .ok units ∧
      let files := units.flatMap settings.selection.files
      (∀ f ∈ files, ∃ text, lastText? files f.1 = some text ∧
        s'.disk.Holds (joinPath directory f.1) text) ∧
      (∀ place, s'.disk.content? place ≠ s.disk.content? place →
        ∃ f ∈ files, s'.disk.locate (joinPath directory f.1) = some place) ∧
      ((∀ f ∈ files, s'.disk.Holds (joinPath directory f.1) f.2) ↔
        ∀ u ∈ units, ∀ v ∈ units, u.moduleId = v.moduleId →
          settings.selection.files u = settings.selection.files v) ∧
      ((modules.map (·.id)).Nodup →
        ∀ f ∈ files, s'.disk.Holds (joinPath directory f.1) f.2) := by
  obtain ⟨source, modules, units, found, loaded, generated, disk, same, received⟩ :=
    received_of_run read emitting directed ran
  refine ⟨source, modules, units, found, loaded, generated, ?_⟩
  intro files
  obtain ⟨named, ids⟩ := named_of_generateAll generated
  have kept := received.holds_files_iff named
  refine ⟨?_, ?_, kept, ?_⟩
  · intro f mem
    obtain ⟨g, -, -, last⟩ := exists_lastText? mem
    have fileNames := settings.selection.isFileName_of_mem_flatMap named
    exact ⟨g.2, last, (received.holds_iff fileNames mem g.2).mpr last⟩
  · intro place changed
    apply received.exists_of_changed
    rwa [Disk.content?, Disk.content?, same]
  · intro apart
    rw [← ids] at apart
    exact kept.mpr fun u hu v hv alike =>
      congrArg _ (List.inj_on_of_nodup_map apart hu hv alike)

/-- Surroundings without files, where declarations stand on the standard input. -/
def reading (source : String) : Surroundings := ⟨⟨["work"], [], []⟩, source.toUTF8, [], []⟩

theorem run_readSource_reading (source : String) :
    (readSource host none).run (reading source) = (.ok (source : Text), reading source) := by
  have read : decoded none (some (reading source).input) = .ok (source : Text) := by
    rw [decoded, reading, Text.ofUtf8?_toUTF8]
  rw [run_readSource, Option.elim_none, read]

theorem run_eq_of_code {arguments : List Text} (code : (s.run arguments).1 = .exit 0) :
    s.run arguments = (.exit 0, (s.run arguments).2) :=
  Prod.ext code rfl

end Surroundings

/-- Two modules without members, the second of which has this identifier. -/
def pairModules (id : Text) : List Module := [⟨"a", "A", [], []⟩, ⟨id, "B", [], []⟩]

def pairSource (id : String) : String :=
  "\x7b\"modules\": [\x7b\"id\": \"a\", \"backing_type\": \"A\"\x7d, \x7b\"id\": \"" ++ id ++
    "\", \"backing_type\": \"B\"\x7d]\x7d"

def pairArguments (directory : Text) : List Text := ["-o", directory, "--emit", "header"]

def pairSettings (directory : Text) : Settings :=
  ⟨none, .header, "kraken", false, none, some directory, false⟩

theorem ofArguments_pairArguments (directory : Text) :
    Settings.ofArguments (pairArguments directory) = .ok (pairSettings directory) := rfl

theorem files_kept_pair :
    ∃ s' units, (Surroundings.reading (pairSource "b")).run (pairArguments "/out") = (.exit 0, s') ∧
      generateAll (pairModules "b") (pairSettings "/out").options = .ok units ∧
      ∀ f ∈ units.flatMap (pairSettings "/out").selection.files,
        s'.disk.Holds (joinPath "/out" f.1) f.2 := by
  have code : ((Surroundings.reading (pairSource "b")).run (pairArguments "/out")).1 = .exit 0 := by
    decide +kernel
  have loads : (Load.source (pairSource "b")).toOption = some (pairModules "b") := by
    decide +kernel
  have ran := Surroundings.run_eq_of_code code
  obtain ⟨source, modules, units, found, loaded, generated, -, -, -, kept⟩ :=
    Surroundings.files_kept_iff (ofArguments_pairArguments _) rfl rfl ran
  have read := (Surroundings.run_readSource_reading (pairSource "b")).symm.trans found
  obtain rfl := Except.ok.inj (Prod.mk.inj read).1
  rw [loaded] at loads
  obtain rfl := Option.some.inj loads
  exact ⟨_, units, ran, generated, kept (by decide)⟩

/-- Of two modules with one identifier the first is lost, though the run ends well. -/
theorem not_files_kept_pair :
    ∃ s' units, (Surroundings.reading (pairSource "a")).run (pairArguments "out") = (.exit 0, s') ∧
      Load.source (pairSource "a") = .ok (pairModules "a") ∧
      generateAll (pairModules "a") (pairSettings "out").options = .ok units ∧
      ¬ ∀ f ∈ units.flatMap (pairSettings "out").selection.files,
        s'.disk.Holds (joinPath "out" f.1) f.2 := by
  have code : ((Surroundings.reading (pairSource "a")).run (pairArguments "out")).1 = .exit 0 := by
    decide +kernel
  have loads : (Load.source (pairSource "a")).toOption = some (pairModules "a") := by
    decide +kernel
  have ran := Surroundings.run_eq_of_code code
  obtain ⟨source, modules, units, found, loaded, generated, disk, -, received⟩ :=
    Surroundings.received_of_run (ofArguments_pairArguments _) rfl rfl ran
  have read := (Surroundings.run_readSource_reading (pairSource "a")).symm.trans found
  obtain rfl := Except.ok.inj (Prod.mk.inj read).1
  rw [loaded] at loads
  obtain rfl := Option.some.inj loads
  refine ⟨_, units, ran, loaded, generated, fun kept => ?_⟩
  have alike := (received.holds_files_iff (named_of_generateAll generated).1).mp kept
  have both : units = (pairModules "a").map (·.unit .standard) := by
    have valid : ∀ m ∈ pairModules "a", m.isValid := by decide
    exact Except.ok.inj (generated.symm.trans (generateAll_eq_ok valid _))
  have listed : ∀ m ∈ pairModules "a", m.unit .standard ∈ units :=
    fun m mem => both ▸ List.mem_map_of_mem mem
  have same := alike (Module.unit ⟨"a", "A", [], []⟩ .standard) (listed _ List.mem_cons_self)
    (Module.unit ⟨"a", "B", [], []⟩ .standard)
    (listed _ (List.mem_cons_of_mem _ List.mem_cons_self)) rfl
  exact absurd (congrArg (List.map Prod.snd) same) (by decide +kernel)

end CommandLine

end ScriptBinding
