import ScriptBinding.CommandLine.Disk

/-!
Where paths lead and what writing a file changes. Files of different names in one directory lie in
different places, so that a file that is written leaves the others as they were; only the files of a
disk change, and with them no path leads elsewhere.
-/
namespace ScriptBinding.CommandLine

/-- The name of a file, as it can follow a directory in a path. -/
structure IsFileName (name : Text) : Prop where
  plain : .scalar '/' ∉ name
  moves : Disk.staysHere name = false
  descends : name ≠ ".."

namespace Disk

theorem names_ne_nil (t : Text) : names t ≠ [] := by
  cases t with
  | nil => simp [names]
  | cons p t =>
      rw [names]
      split
      · simp
      · split <;> simp

theorem names_append_slash (t u : Text) :
    names (t ++ .scalar '/' :: u) = names t ++ names u := by
  induction t with
  | nil => rfl
  | cons p t ih =>
      rw [List.cons_append, names, names, ih]
      split
      · rfl
      · cases first : names t with
        | nil => exact absurd first (names_ne_nil t)
        | cons name others => rfl

theorem names_of_plain {t : Text} (plain : .scalar '/' ∉ t) : names t = [t] := by
  induction t with
  | nil => rfl
  | cons p t ih =>
      obtain ⟨first, others⟩ := not_or.mp (mt List.mem_cons.mpr plain)
      rw [names, if_neg (Ne.symm first), ih others]

/-- A path that ends in the name of a file leads to a directory, and to this name in it. -/
theorem exists_names_joinPath (directory : Text) :
    ∃ above, ∀ name, IsFileName name → names (joinPath directory name) = above ++ [name] := by
  by_cases empty : directory = []
  · refine ⟨[], fun name h => ?_⟩
    simp [joinPath, empty, names_of_plain h.plain]
  · by_cases closed : directory.getLast? = some (.scalar '/')
    · obtain ⟨start, rfl⟩ := List.getLast?_eq_some_iff.mp closed
      refine ⟨names start, fun name h => ?_⟩
      simp [joinPath, names_append_slash, names_of_plain h.plain]
    · refine ⟨names directory, fun name h => ?_⟩
      have joined : joinPath directory name = directory ++ .scalar '/' :: name := by
        simp [joinPath, empty, closed, Text.ofString]
      rw [joined, names_append_slash, names_of_plain h.plain]

variable {d d' : Disk}

theorem locateFrom_append (place : Location) (above below : List Text) :
    d.locateFrom place (above ++ below) =
      (d.locateFrom place above).bind fun place => d.locateFrom place below := by
  induction above generalizing place with
  | nil => rfl
  | cons name above ih =>
      simp only [List.cons_append, locateFrom]
      split
      · rfl
      · split
        · exact ih place
        · split
          · exact ih place.dropLast
          · split
            · rfl
            · exact ih (place ++ [name])

theorem locateFrom_fileName {name : Text} (h : IsFileName name) {place found : Location}
    (located : d.locateFrom place [name] = some found) : found = place ++ [name] := by
  simp only [locateFrom, h.moves, h.descends, Bool.false_eq_true, if_false] at located
  split at located
  · exact nomatch located
  · split at located
    · exact nomatch located
    · exact (Option.some.inj located).symm

/-- The path of a file starts where the path of its directory does. -/
theorem start_joinPath (d : Disk) (directory : Text) {name : Text} (h : IsFileName name) :
    d.start (joinPath directory name) = d.start directory := by
  cases directory with
  | nil =>
      cases name with
      | nil => exact absurd h.moves (by decide)
      | cons p name =>
          have here : p ≠ .scalar '/' := fun same => h.plain (same ▸ List.mem_cons_self)
          simp [start, joinPath, Text.beginsWith, here]
  | cons p directory =>
      rw [joinPath]
      split <;> rfl

/-- All files of a directory lie in one folder, each under its own name. -/
theorem exists_folder (d : Disk) (directory : Text) :
    ∃ folder : Location, ∀ name place, IsFileName name →
      d.locate (joinPath directory name) = some place → place = folder ++ [name] := by
  obtain ⟨above, split⟩ := exists_names_joinPath directory
  refine ⟨(d.locateFrom (d.start directory) above).getD [], fun name place h located => ?_⟩
  rw [locate] at located
  split at located
  · exact nomatch located
  · rw [d.start_joinPath directory h, split name h, locateFrom_append] at located
    obtain ⟨folder, reached, last⟩ := Option.bind_eq_some_iff.mp located
    rw [reached]
    exact locateFrom_fileName h last

/-- Two disks have one working directory and the same directories. -/
def SameFolders (d d' : Disk) : Prop :=
  d.workingDirectory = d'.workingDirectory ∧ d.directories = d'.directories

theorem locateFrom_congr (same : d.SameFolders d') (place : Location) (names : List Text) :
    d.locateFrom place names = d'.locateFrom place names := by
  have directory (place : Location) : d.isDirectory place = d'.isDirectory place := by
    rw [isDirectory, isDirectory, same.1, same.2]
  induction names generalizing place with
  | nil => rfl
  | cons name rest ih => simp only [locateFrom, directory, ih]

/-- Where a path leads does not depend on the files. -/
theorem locate_congr (same : d.SameFolders d') (path : Text) : d.locate path = d'.locate path := by
  rw [locate, locate, start, start, same.1, locateFrom_congr same]

theorem lookup_put (place other : Location) (content : ByteArray)
    (files : List (Location × ByteArray)) :
    (put place content files).lookup other =
      if other = place then some content else files.lookup other := by
  induction files with
  | nil =>
      rw [put, List.lookup_cons]
      by_cases here : other = place <;> simp [here, beq_eq_false_iff_ne.mpr]
  | cons file rest ih =>
      obtain ⟨first, old⟩ := file
      rw [put]
      split
      case isTrue same =>
        by_cases here : other = place <;>
          simp [List.lookup_cons, here, same, beq_eq_false_iff_ne.mpr]
      case isFalse apart =>
        by_cases found : other = first
        · simp [found, apart]
        · simp [List.lookup_cons, found, beq_eq_false_iff_ne.mpr, ih]

/-- A file that is written changes its own place and no directory. -/
theorem writeFile_eq_some {path : Text} {content : ByteArray}
    (written : d.writeFile path content = some d') :
    ∃ place, d.locate path = some place ∧ d'.SameFolders d ∧
      ∀ other, d'.content? other = if other = place then some content else d.content? other := by
  rw [writeFile] at written
  cases located : d.locate path with
  | none => simp [located] at written
  | some place =>
      simp only [located] at written
      split at written
      · exact nomatch written
      · obtain rfl := Option.some.inj written
        exact ⟨place, rfl, ⟨rfl, rfl⟩, fun other => lookup_put place other content d.files⟩

/-- Making directories changes no file. -/
theorem files_makeFrom (d : Disk) (place : Location) (names : List Text) :
    (d.makeFrom place names).2.files = d.files := by
  induction names generalizing d place with
  | nil => rfl
  | cons name rest ih =>
      rw [makeFrom]
      split
      · exact ih d place
      · split
        · exact ih d place.dropLast
        · split
          · rfl
          · simp only
            split
            · exact ih d (place ++ [name])
            · split
              · rfl
              · exact ih _ _

theorem files_makeDirectory (d : Disk) (path : Text) :
    (d.makeDirectory path).2.files = d.files := by
  rw [makeDirectory]
  split
  · rfl
  · exact d.files_makeFrom _ _

end Disk

end ScriptBinding.CommandLine
