import ScriptBinding.Proofs.CommandLine.Faults
import ScriptBinding.Proofs.Unit.Alphabet

/-!
What of a run can be written. A text has an encoding if no surrogate stands alone in it, and all
that comes into a file has one, but for the header of an implementation, which is printed as it was
given. So this is the only text that can break off a delivery without a word; every other failure
comes from the disk, and is reported.
-/
namespace ScriptBinding

namespace CodePoint

theorem not_isSurrogate_of_value_lt {p : CodePoint} (low : p.value < 0x80) : ¬ p.isSurrogate := by
  rw [isSurrogate_iff]
  omega

theorem not_isSurrogate_of_isPrintable {p : CodePoint} (h : p.isPrintable) : ¬ p.isSurrogate := by
  rw [isPrintable, Bool.and_eq_true, decide_eq_true_eq, decide_eq_true_eq] at h
  exact not_isSurrogate_of_value_lt (by omega)

end CodePoint

namespace Text

variable {t : Text}

theorem over_not_isSurrogate_iff : t.Over (fun p => ¬ p.isSurrogate) ↔ ¬ t.hasSurrogate :=
  not_hasSurrogate_iff.symm

/-- Fixed texts may stand around a text. -/
theorem not_hasSurrogate_between (before after : String) (h : ¬ t.hasSurrogate) :
    ¬ (before ++ t ++ after : Text).hasSurrogate := by
  have fixed (s : String) : (s : Text).Over fun p => ¬ p.isSurrogate :=
    over_not_isSurrogate_iff.mpr (not_hasSurrogate_ofString s)
  rw [← over_not_isSurrogate_iff] at h ⊢
  exact over_append.mpr ⟨over_append.mpr ⟨fixed before, h⟩, fixed after⟩

theorem not_hasSurrogate_of_isIdentifier (h : t.isIdentifier) : ¬ t.hasSurrogate :=
  not_hasSurrogate_iff.mpr fun p mem => CodePoint.not_isSurrogate_of_value_lt
    (CodePoint.value_lt_of_isNamePart (isNamePart_of_isIdentifier h p mem))

/-- Exactly the texts without lone surrogates have an encoding. -/
theorem isSome_toUtf8?_iff : t.toUtf8?.isSome ↔ ¬ t.hasSurrogate := by
  rw [toUtf8?, Option.isSome_map]
  induction t with
  | nil => decide
  | cons p t ih =>
      cases p with
      | scalar c =>
          rw [toChars?, Option.isSome_map, ih]
          rfl
      | surrogate offset => simp [toChars?, hasSurrogate, CodePoint.isSurrogate]

/-- Lines make a file that has an encoding exactly if they have one. -/
theorem not_hasSurrogate_file {lines : List Text} :
    ¬ (join "\n" lines ++ "\n" : Text).hasSurrogate ↔
      ∀ t ∈ lines, t.Over fun p => ¬ p.isSurrogate := by
  have feed : ("\n" : Text).Over fun p => ¬ p.isSurrogate :=
    over_not_isSurrogate_iff.mpr (not_hasSurrogate_ofString "\n")
  rw [← over_not_isSurrogate_iff, over_append, and_iff_left feed, over_join feed]

end Text

namespace Module

theorem WellFormed.over_names {m : Module} (h : m.WellFormed) :
    ∀ name ∈ m.names, name.Over fun p => ¬ p.isSurrogate := fun name mem =>
  Text.over_not_isSurrogate_iff.mpr
    (Text.not_hasSurrogate_of_isIdentifier (h.isIdentifier_of_mem_names name mem))

variable {m : Module} (valid : m.isValid) {options : Options}
  (banner : ∀ t ∈ options.banner.lines, ¬ t.hasSurrogate)
  (plain : ¬ options.namespaceName.hasSurrogate)
include valid banner plain

theorem not_hasSurrogate_header : ¬ (m.unit options).header.hasSurrogate := by
  have formed := wellFormed_of_isValid valid
  simp only [← Text.over_not_isSurrogate_iff] at banner plain
  show ¬ (m.planned options).header.hasSurrogate
  rw [ModulePlan.header_eq_join]
  exact Text.not_hasSurrogate_file.mpr (over_headerLines
    (fun _ => CodePoint.not_isSurrogate_of_isPrintable) formed formed.over_names banner plain)

/-- The source file of a unit has an encoding exactly if the header of its implementation has
one. -/
theorem hasSurrogate_source_iff (root : ¬ options.includeRoot.hasSurrogate)
    (extra : ∀ t ∈ options.extraIncludes, ¬ t.hasSurrogate) :
    (m.unit options).source.hasSurrogate ↔ m.implementation.hasSurrogate := by
  have formed := wellFormed_of_isValid valid
  simp only [← Text.over_not_isSurrogate_iff] at banner plain root extra
  have lines := over_sourceLines_iff (fun _ => CodePoint.not_isSurrogate_of_isPrintable) formed
    formed.over_names banner plain root extra
  rw [Text.over_not_isSurrogate_iff] at lines
  show (m.planned options).source.hasSurrogate ↔ _
  rw [ModulePlan.source_eq_join]
  exact not_iff_not.mp (Text.not_hasSurrogate_file.trans lines)

end Module

namespace CommandLine

/-- If the headers of units have an encoding, then only their sources can lack one. -/
theorem Selection.forall_files_iff (selection : Selection) {units : List GeneratedUnit}
    (headers : ∀ u ∈ units, ¬ u.header.hasSurrogate) :
    (∀ f ∈ units.flatMap selection.files, ¬ f.2.hasSurrogate) ↔
      selection = .header ∨ ∀ u ∈ units, ¬ u.source.hasSurrogate := by
  rw [List.forall_mem_flatMap]
  cases selection with
  | header => simpa [files, GeneratedUnit.headerFile] using headers
  | source => simp [files, GeneratedUnit.sourceFile]
  | both =>
      have source (u : GeneratedUnit) (mem : u ∈ units) :
          (∀ f ∈ both.files u, ¬ f.2.hasSurrogate) ↔ ¬ u.source.hasSurrogate := by
        simp [files, GeneratedUnit.headerFile, GeneratedUnit.sourceFile, headers u mem]
      simpa using forall₂_congr source

/-- How a delivery of files can end that finds a disk in a certain state: well, if all of them have
an encoding; with a report of what the disk does not let it create or write; at the first text that
has no encoding; or at a path that is none. -/
inductive Delivered (settings : Settings) (d : Disk) (files : List (Text × Text)) :
    Ending × Surroundings → Prop where
  | all {s' : Surroundings} (encoded : ∀ f ∈ files, ¬ f.2.hasSurrogate) :
      Delivered settings d files (.exit 0, s')
  | uncreated {s' : Surroundings} {directory : Text}
      (directed : settings.outputDirectory? = some directory)
      (refused : (d.makeDirectory directory).1 = false)
      (reported : s'.diagnosed.head? =
        some ("error: cannot create '" ++ directory ++ "'" ++ "\n")) :
      Delivered settings d files (.exit 1, s')
  | unwritten {s' : Surroundings} {directory : Text} {f : Text × Text}
      (directed : settings.outputDirectory? = some directory) (mem : f ∈ files)
      (refused :
        s'.disk.writeFile (joinPath directory f.1) (f.2.toUtf8?.getD .empty) = none)
      (reported : s'.diagnosed.head? =
        some ("error: cannot write '" ++ joinPath directory f.1 ++ "'" ++ "\n")) :
      Delivered settings d files (.exit 1, s')
  | unencodable {s' : Surroundings} {before rest : List (Text × Text)} {f : Text × Text}
      (split : files = before ++ f :: rest) (encoded : ∀ g ∈ before, ¬ g.2.hasSurrogate)
      (broken : f.2.hasSurrogate) : Delivered settings d files (.unencodable, s')
  | unusable {s' : Surroundings} {directory : Text}
      (directed : settings.outputDirectory? = some directory)
      (null : ¬ isUsablePath directory) : Delivered settings d files (.unusablePath, s')

section
variable {settings : Settings} {d : Disk}

/-- Once a first file is written, a delivery ends as that of the others does. -/
theorem Delivered.cons {f : Text × Text} {rest : List (Text × Text)}
    {ran : Ending × Surroundings} (encoded : ¬ f.2.hasSurrogate)
    (others : Delivered settings d rest ran) : Delivered settings d (f :: rest) ran := by
  cases others with
  | all others => exact .all (List.forall_mem_cons.mpr ⟨encoded, others⟩)
  | uncreated directed refused reported => exact .uncreated directed refused reported
  | unwritten directed mem refused reported =>
      exact .unwritten directed (List.mem_cons_of_mem f mem) refused reported
  | unencodable split before broken =>
      exact .unencodable (congrArg (f :: ·) split) (List.forall_mem_cons.mpr ⟨encoded, before⟩)
        broken
  | unusable directed null => exact .unusable directed null

/-- Without a directory the disk has no part in a delivery. -/
theorem Delivered.direct {files : List (Text × Text)} {ran : Ending × Surroundings}
    (h : Delivered settings d files ran) (direct : settings.outputDirectory? = none) :
    ran.1 = .exit 0 ∧ (∀ f ∈ files, ¬ f.2.hasSurrogate) ∨
      ran.1 = .unencodable ∧ ∃ f ∈ files, f.2.hasSurrogate := by
  cases h with
  | all encoded => exact .inl ⟨rfl, encoded⟩
  | unencodable split _ broken => exact .inr ⟨rfl, _, split ▸ List.mem_append_cons_self, broken⟩
  | uncreated directed _ _ | unwritten directed _ _ _ | unusable directed _ =>
      exact nomatch direct.symm.trans directed

/-- Every list of files is without lone surrogates, or there is a first that has one. -/
theorem encoded_or_split (files : List (Text × Text)) :
    (∀ f ∈ files, ¬ f.2.hasSurrogate) ∨
      ∃ before f rest, files = before ++ f :: rest ∧ (∀ g ∈ before, ¬ g.2.hasSurrogate) ∧
        f.2.hasSurrogate := by
  induction files with
  | nil => exact .inl (List.forall_mem_nil _)
  | cons f rest ih =>
      by_cases broken : f.2.hasSurrogate
      · exact .inr ⟨[], f, rest, rfl, List.forall_mem_nil _, broken⟩
      · rcases ih with encoded | ⟨before, g, after, rfl, encoded, other⟩
        · exact .inl (List.forall_mem_cons.mpr ⟨broken, encoded⟩)
        · exact .inr ⟨f :: before, g, after, rfl, List.forall_mem_cons.mpr ⟨broken, encoded⟩, other⟩

namespace Surroundings

theorem delivered_writeFiles {directory : Text}
    (directed : settings.outputDirectory? = some directory) (verbose : Bool)
    (files : List (Text × Text)) (s : Surroundings) :
    Delivered settings d files ((writeFiles host directory verbose files).run s) := by
  induction files generalizing s with
  | nil => exact .all (List.forall_mem_nil _)
  | cons f rest ih =>
      rw [run_writeFiles_cons, run_writeFile]
      cases stored : s.disk.writeFile (joinPath directory f.1) (f.2.toUtf8?.getD .empty) with
      | none => exact .unwritten directed List.mem_cons_self stored rfl
      | some disk =>
          by_cases broken : f.2.hasSurrogate
          · have none : f.2.toUtf8?.isSome = false := by
              rw [Bool.eq_false_iff, Ne, Text.isSome_toUtf8?_iff, not_not]
              exact broken
            rw [none]
            exact .unencodable (List.nil_append (f :: rest)).symm (List.forall_mem_nil _) broken
          · rw [Text.isSome_toUtf8?_iff.mpr broken]
            exact (ih _).cons broken

theorem run_print (text : Text) (s : Surroundings) :
    (host.print text).run s =
      if text.hasSurrogate then (false, s)
      else (true, { s with printed := text :: s.printed }) := by
  change (print text).run s = _
  cases broken : text.hasSurrogate <;> simp [print, broken] <;> rfl

/-- Texts are printed one after the other, as long as they have an encoding. -/
theorem run_printAll_cons (text : Text) (rest : List Text) (s : Surroundings) :
    (printAll host (text :: rest)).run s =
      if text.hasSurrogate then (.unencodable, s)
      else (printAll host rest).run { s with printed := text :: s.printed } := by
  rw [printAll, run_bind, run_print]
  split <;> rfl

/-- What is printed are the texts up to the first that has no encoding. -/
theorem run_printAll (texts : List Text) (s : Surroundings) :
    (printAll host texts).run s =
      (if texts.any (·.hasSurrogate) then .unencodable else .exit 0,
        { s with printed := (texts.takeWhile fun t => !t.hasSurrogate).reverse ++ s.printed }) := by
  induction texts generalizing s with
  | nil => rfl
  | cons text rest ih =>
      rw [run_printAll_cons]
      cases broken : text.hasSurrogate with
      | true => simp [broken]
      | false => simp [broken, ih]

/-- What is printed of files has an encoding if the files have one, as far as their names do. -/
theorem encoded_printout {files : List (Text × Text)} (names : ∀ f ∈ files, ¬ f.1.hasSurrogate) :
    (∀ t ∈ printout files, ¬ t.hasSurrogate) ↔ ∀ f ∈ files, ¬ f.2.hasSurrogate := by
  rw [printout]
  split
  · rw [List.forall_mem_flatMap]
    refine forall₂_congr fun f mem => ?_
    have heading := Text.not_hasSurrogate_between "// " "\n" (names f mem)
    rw [List.forall_mem_cons, List.forall_mem_singleton, and_iff_right heading]
  · exact List.forall_mem_map

theorem delivered_printAll {files : List (Text × Text)} (names : ∀ f ∈ files, ¬ f.1.hasSurrogate)
    (s : Surroundings) :
    Delivered settings d files ((printAll host (printout files)).run s) := by
  rw [run_printAll]
  rcases encoded_or_split files with encoded | ⟨before, f, rest, split, encoded, broken⟩
  · have clean : (printout files).any (·.hasSurrogate) = false := by
      simpa using (encoded_printout names).mpr encoded
    rw [clean]
    exact .all encoded
  · have some : (printout files).any (·.hasSurrogate) = true := by
      by_contra clean
      have encoded := (encoded_printout names).mp (by simpa using clean)
      exact encoded f (split ▸ List.mem_append_cons_self) broken
    rw [some]
    exact .unencodable split encoded broken

theorem not_hasSurrogate_fileName {u : GeneratedUnit} (named : u.Named) :
    ¬ u.headerName.hasSurrogate ∧ ¬ u.sourceName.hasSurrogate := by
  have id := Text.not_hasSurrogate_of_isIdentifier named.id
  rw [named.header, named.source]
  exact ⟨Text.not_hasSurrogate_between "qjs_" ".h" id, Text.not_hasSurrogate_between "qjs_" ".cc" id⟩

theorem delivered_deliver {units : List GeneratedUnit} (named : ∀ u ∈ units, u.Named)
    (s : Surroundings) :
    Delivered settings s.disk (units.flatMap settings.selection.files)
      ((deliver host settings units).run s) := by
  have names : ∀ f ∈ units.flatMap settings.selection.files, ¬ f.1.hasSurrogate := by
    intro f mem
    obtain ⟨u, listed, mem⟩ := List.mem_flatMap.mp mem
    obtain ⟨header, source⟩ := not_hasSurrogate_fileName (named u listed)
    rcases settings.selection.name_of_mem_files (named u listed) mem with name | name
    · rwa [name, ← (named u listed).header]
    · rwa [name, ← (named u listed).source]
  cases directed : settings.outputDirectory? with
  | none =>
      rw [deliver_of_none host directed]
      exact delivered_printAll names s
  | some directory =>
      by_cases usable : isUsablePath directory
      · rw [deliver_of_usable host directed usable, run_bind, run_makeDirectory]
        cases made : (s.disk.makeDirectory directory).1 with
        | false => exact .uncreated directed made rfl
        | true => exact delivered_writeFiles directed settings.verbose _ _
      · rw [deliver_of_unusable host directed usable]
        exact .unusable directed usable

/-- A run that has generated units delivers the files that are selected of them. -/
theorem delivered_run {arguments : List Text} {source : Text} {units : List GeneratedUnit}
    {s : Surroundings} (reads : s.Reads arguments settings source)
    (made : pipeline settings source = .ok (.units units)) (named : ∀ u ∈ units, u.Named) :
    Delivered settings s.disk (units.flatMap settings.selection.files) (s.run arguments) := by
  rw [run_of_reads reads, carryOn_of_written host reads.written, made]
  cases units with
  | nil => exact .all (List.forall_mem_nil _)
  | cons u rest => exact delivered_deliver named s

end Surroundings

end

/-- The namespace is the only option of a run that may lack an encoding. -/
theorem encoded_unit {settings : Settings} (plain : ¬ settings.namespaceName.hasSurrogate)
    {m : Module} (valid : m.isValid) :
    ¬ (m.unit settings.options).header.hasSurrogate ∧
      ((m.unit settings.options).source.hasSurrogate ↔ m.implementation.hasSurrogate) := by
  have banner : ∀ t ∈ settings.options.banner.lines, ¬ t.hasSurrogate := by
    show ∀ t ∈ defaultBanner.lines, ¬ t.hasSurrogate
    decide +kernel
  have root : ¬ settings.options.includeRoot.hasSurrogate := Text.not_hasSurrogate_ofString "core"
  exact ⟨Module.not_hasSurrogate_header valid banner plain,
    Module.hasSurrogate_source_iff valid banner plain root (List.forall_mem_nil _)⟩

/-- Of units that a run brings forth every header has an encoding, and a source has one exactly if
the header of the implementation has. So what is selected of them can be written, whatever it is
written to, exactly if only headers are selected or no implementation stands in the way; a run that
delivers them ends at the first that cannot, and the disk is the only other reason for which it can
fail. -/
theorem files_encoded_iff {settings : Settings} {source : Text} {product : Product}
    (emitting : settings.stopAt? = none) (plain : ¬ settings.namespaceName.hasSurrogate)
    (made : pipeline settings source = .ok product) :
    ∃ modules units, Load.source source = .ok modules ∧
      generateAll modules settings.options = .ok units ∧ product = .units units ∧
      List.Forall₂ (fun m u => ¬ u.header.hasSurrogate ∧
        (u.source.hasSurrogate ↔ m.implementation.hasSurrogate)) modules units ∧
      let files := units.flatMap settings.selection.files
      ((∀ f ∈ files, ¬ f.2.hasSurrogate) ↔
        settings.selection = .header ∨ ∀ m ∈ modules, ¬ m.implementation.hasSurrogate) ∧
      ∀ (s : Surroundings) (arguments : List Text), s.Reads arguments settings source →
        Delivered settings s.disk files (s.run arguments) := by
  obtain ⟨modules, units, loaded, generated, rfl⟩ := units_of_pipeline emitting made
  obtain ⟨valid, same⟩ := eq_map_of_generateAll generated
  have encoded (m : Module) (mem : m ∈ modules) := encoded_unit plain (valid m mem)
  refine ⟨modules, units, loaded, generated, rfl, ?_, ?_, ?_⟩
  · rw [same, List.forall₂_map_right_iff, List.forall₂_same]
    exact encoded
  · have headers : ∀ u ∈ units, ¬ u.header.hasSurrogate := by
      rw [same, List.forall_mem_map]
      exact fun m mem => (encoded m mem).1
    rw [settings.selection.forall_files_iff headers, same, List.forall_mem_map]
    exact or_congr_right (forall₂_congr fun m mem => not_congr (encoded m mem).2)
  · exact fun s arguments reads =>
      Surroundings.delivered_run reads made (named_of_generateAll generated).1

/-- A unit without members whose implementation has a header of its own, given as it stands
between quotation marks. -/
def housedSource (implementation : String) : String :=
  "\x7b\"id\": \"page\", \"backing_type\": \"Page\", \"impl\": \"" ++ implementation ++ "\"\x7d"

def plainSettings : Settings := ⟨none, .both, "kraken", false, none, none, false⟩

section
variable {implementation : String}

theorem reads_housedSource (written : (housedSource implementation : Text).isBlank = false) :
    (Surroundings.reading (housedSource implementation)).Reads [] plainSettings
      (housedSource implementation) :=
  ⟨rfl, rfl, Surroundings.run_readSource_reading _, written⟩

theorem pipeline_housedSource {text : Text}
    (loads : (Load.source (housedSource implementation)).toOption = some [Module.housed text])
    (sound : plainSettings.faults (housedSource implementation) = []) :
    pipeline plainSettings (housedSource implementation) =
      .ok (.units [(Module.housed text).unit plainSettings.options]) := by
  rcases pipeline_eq plainSettings (housedSource implementation) with ⟨-, product, made⟩ | ⟨some, -⟩
  · obtain ⟨modules, units, loaded, generated, rfl⟩ := units_of_pipeline rfl made
    obtain ⟨-, rfl⟩ := eq_map_of_generateAll generated
    rw [loaded] at loads
    obtain rfl := Option.some.inj loads
    exact made
  · exact absurd sound some

end

theorem files_encoded_housed :
    ∃ units, pipeline plainSettings (housedSource "core/page") = .ok (.units units) ∧
      (∀ f ∈ units.flatMap plainSettings.selection.files, ¬ f.2.hasSurrogate) ∧
      ((Surroundings.reading (housedSource "core/page")).run []).1 = .exit 0 := by
  have loads : (Load.source (housedSource "core/page")).toOption =
      some [Module.housed "core/page"] := by decide +kernel
  have made := pipeline_housedSource loads (by decide +kernel)
  obtain ⟨modules, units, loaded, -, same, -, clean, delivered⟩ :=
    files_encoded_iff rfl (Text.not_hasSurrogate_ofString "kraken") made
  rw [loaded] at loads
  obtain rfl := Option.some.inj loads
  have encoded := clean.mpr (.inr (by decide))
  refine ⟨units, same ▸ made, encoded, ?_⟩
  rcases (delivered _ [] (reads_housedSource (by decide +kernel))).direct rfl with
    ⟨code, -⟩ | ⟨-, f, mem, broken⟩
  · exact code
  · exact absurd broken (encoded f mem)

/-- A surrogate that stands alone in the name of the header is accepted, and comes into a file that
then cannot be written: the run breaks off when the header of the unit is printed already. -/
theorem not_files_encoded_housed :
    ∃ u, pipeline plainSettings (housedSource "\\ud800") = .ok (.units [u]) ∧
      u.source.hasSurrogate ∧
      ((Surroundings.reading (housedSource "\\ud800")).run []).1 = .unencodable ∧
      ((Surroundings.reading (housedSource "\\ud800")).run []).2.output =
        "// " ++ u.headerName ++ "\n" ++ u.header ++ "// " ++ u.sourceName ++ "\n" := by
  have loads : (Load.source (housedSource "\\ud800")).toOption =
      some [Module.housed [.surrogate 0]] := by decide +kernel
  have valid := Module.isValid_housed [.surrogate 0]
  have plain : ¬ plainSettings.namespaceName.hasSurrogate := Text.not_hasSurrogate_ofString "kraken"
  obtain ⟨u, made, named, clean, broken⟩ :
      ∃ u, pipeline plainSettings (housedSource "\\ud800") = .ok (.units [u]) ∧ u.Named ∧
        ¬ u.header.hasSurrogate ∧ u.source.hasSurrogate :=
    ⟨_, pipeline_housedSource loads (by decide +kernel), Module.named_unit valid _,
      (encoded_unit plain valid).1, (encoded_unit plain valid).2.mpr (by decide)⟩
  have names := Surroundings.not_hasSurrogate_fileName named
  have header := Text.not_hasSurrogate_between "// " "\n" names.1
  have source := Text.not_hasSurrogate_between "// " "\n" names.2
  have ran : (Surroundings.reading (housedSource "\\ud800")).run [] =
      (printAll Surroundings.host ["// " ++ u.headerName ++ "\n", u.header,
        "// " ++ u.sourceName ++ "\n", u.source]).run
        (Surroundings.reading (housedSource "\\ud800")) := by
    have written : (housedSource "\\ud800" : Text).isBlank = false := by decide +kernel
    have reads := reads_housedSource written
    rw [Surroundings.run_of_reads reads, carryOn_of_written _ reads.written, made]
    rfl
  rw [Surroundings.run_printAll] at ran
  refine ⟨u, made, broken, ?_, ?_⟩
  · rw [ran]
    simp [broken]
  · rw [ran, Surroundings.output]
    simp only [List.takeWhile_cons, header, clean, source, broken, Bool.not_false, Bool.not_true,
      Bool.false_eq_true, if_true, if_false]
    simp [Surroundings.reading]

end CommandLine

end ScriptBinding
