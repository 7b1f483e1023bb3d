import Mathlib.Data.List.Find
import ScriptBinding.Proofs.CommandLine.Places

/-!
Files written one after the other into a directory.
-/
namespace ScriptBinding

namespace Text

theorem eq_map_of_toChars? {t : Text} {cs : List Char} (h : t.toChars? = some cs) :
    t = cs.map .scalar := by
  induction t generalizing cs with
  | nil => exact Option.some.inj h ▸ rfl
  | cons p t ih =>
      cases p with
      | scalar c =>
          obtain ⟨rest, read, rfl⟩ := Option.map_eq_some_iff.mp h
          rw [ih read, List.map_cons]
      | surrogate _ => exact nomatch h

/-- A text is known by its bytes. -/
theorem eq_of_toUtf8? {t u : Text} {content : ByteArray} (ht : t.toUtf8? = some content)
    (hu : u.toUtf8? = some content) : t = u := by
  obtain ⟨cs, readT, rfl⟩ := Option.map_eq_some_iff.mp ht
  obtain ⟨ds, readU, same⟩ := Option.map_eq_some_iff.mp hu
  obtain rfl : ds = cs := String.ofList_inj.mp (String.toByteArray_inj.mp same)
  rw [eq_map_of_toChars? readT, eq_map_of_toChars? readU]

theorem ofUtf8?_toUTF8 (t : String) : ofUtf8? t.toUTF8 = some (ofString t) := by
  have valid : t.toUTF8.IsValidUTF8 := t.isValidUTF8
  rw [ofUtf8?, String.fromUTF8?, dif_pos valid]
  rfl

end Text

namespace CommandLine

/-- The text of the last file of a name. -/
def lastText? (files : List (Text × Text)) (name : Text) : Option Text :=
  (files.reverse.find? fun f => f.1 = name).map (·.2)

theorem exists_lastText? {files : List (Text × Text)} {f : Text × Text} (mem : f ∈ files) :
    ∃ g ∈ files, g.1 = f.1 ∧ lastText? files f.1 = some g.2 := by
  cases found : files.reverse.find? fun g => g.1 = f.1 with
  | none => simpa using List.find?_eq_none.mp found f (List.mem_reverse.mpr mem)
  | some g =>
      have listed := List.mem_reverse.mp (List.mem_of_find?_eq_some found)
      refine ⟨g, listed, ?_, by simp [lastText?, found]⟩
      simpa using List.find?_some found

namespace Disk

/-- The file that a path leads to is there, with this text. -/
def Holds (d : Disk) (path text : Text) : Prop :=
  ∃ content, text.toUtf8? = some content ∧ d.readFile path = some content

/-- The last of some files in a directory that lies in a place. -/
def lastAt? (d : Disk) (directory : Text) (files : List (Text × Text)) (place : Location) :
    Option (Text × Text) :=
  files.reverse.find? fun f => d.locate (joinPath directory f.1) = some place

/-- One disk is what becomes of another when files are written into a directory of it: every place
holds the last file that lies there, and a place without one is as it was. -/
structure Received (d d' : Disk) (directory : Text) (files : List (Text × Text)) : Prop where
  folders : d'.SameFolders d
  located : ∀ f ∈ files, (d.locate (joinPath directory f.1)).isSome
  encoded : ∀ f ∈ files, f.2.toUtf8?.isSome
  contents : ∀ place, d'.content? place =
    match d.lastAt? directory files place with
    | some f => f.2.toUtf8?
    | none => d.content? place

theorem received_nil (d : Disk) (directory : Text) : d.Received d directory [] where
  folders := ⟨rfl, rfl⟩
  located _ mem := absurd mem List.not_mem_nil
  encoded _ mem := absurd mem List.not_mem_nil
  contents _ := rfl

/-- What a first file leaves behind receives the others. -/
theorem received_cons {d first d' : Disk} {directory : Text} {f : Text × Text}
    {rest : List (Text × Text)} {content : ByteArray} (encoded : f.2.toUtf8? = some content)
    (stored : d.writeFile (joinPath directory f.1) content = some first)
    (others : first.Received d' directory rest) : d.Received d' directory (f :: rest) := by
  obtain ⟨place, located, folders, contents⟩ := writeFile_eq_some stored
  have locate := locate_congr folders
  refine
    { folders := ⟨others.folders.1.trans folders.1, others.folders.2.trans folders.2⟩
      located := List.forall_mem_cons.mpr ⟨by simp [located], ?_⟩
      encoded := List.forall_mem_cons.mpr ⟨by simp [encoded], others.encoded⟩
      contents := fun other => ?_ }
  · intro g mem
    rw [← locate]
    exact others.located g mem
  · have last : d.lastAt? directory (f :: rest) other =
        (first.lastAt? directory rest other).or (if place = other then some f else none) := by
      simp only [lastAt?, List.reverse_cons, List.find?_append, locate]
      by_cases here : place = other <;> simp [located, here]
    rw [others.contents, last, contents]
    cases first.lastAt? directory rest other with
    | some g => rfl
    | none =>
        by_cases here : place = other
        · simp [here, encoded]
        · simp [here, Ne.symm here]

namespace Received

variable {d d' : Disk} {directory : Text} {files : List (Text × Text)}
  (h : d.Received d' directory files)
include h

theorem exists_of_changed {place : Location} (changed : d'.content? place ≠ d.content? place) :
    ∃ f ∈ files, d'.locate (joinPath directory f.1) = some place := by
  rw [h.contents] at changed
  cases last : d.lastAt? directory files place with
  | none => simp [last] at changed
  | some f =>
      refine ⟨f, List.mem_reverse.mp (List.mem_of_find?_eq_some last), ?_⟩
      rw [locate_congr h.folders]
      simpa using List.find?_some last

/-- A file holds the last text that was written under its name. -/
theorem holds_iff (names : ∀ f ∈ files, IsFileName f.1) {f : Text × Text} (mem : f ∈ files)
    (text : Text) :
    d'.Holds (joinPath directory f.1) text ↔ lastText? files f.1 = some text := by
  obtain ⟨folder, lies⟩ := d.exists_folder directory
  obtain ⟨place, located⟩ := Option.isSome_iff_exists.mp (h.located f mem)
  have last : d.lastAt? directory files place = files.reverse.find? fun g => g.1 = f.1 := by
    refine List.find?_congr fun g listed => ?_
    rw [List.mem_reverse] at listed
    obtain ⟨other, there⟩ := Option.isSome_iff_exists.mp (h.located g listed)
    rw [there, lies f.1 place (names f mem) located, lies g.1 other (names g listed) there]
    simp
  obtain ⟨g, listed, -, kept⟩ := exists_lastText? mem
  have found := kept
  rw [lastText?, ← last, Option.map_eq_some_iff] at found
  obtain ⟨g', found, same⟩ := found
  obtain ⟨content, encoded⟩ := Option.isSome_iff_exists.mp (h.encoded g listed)
  have stored : d'.readFile (joinPath directory f.1) = some content := by
    rw [readFile, locate_congr h.folders, located, Option.bind_some, h.contents, found]
    exact (congrArg Text.toUtf8? same).trans encoded
  rw [kept, Option.some.injEq]
  constructor
  · rintro ⟨_, written, read⟩
    obtain rfl := Option.some.inj (stored.symm.trans read)
    exact Text.eq_of_toUtf8? encoded written
  · rintro rfl
    exact ⟨content, encoded, stored⟩

/-- All files are kept exactly if those of one name are of one text. -/
theorem holds_all_iff (names : ∀ f ∈ files, IsFileName f.1) :
    (∀ f ∈ files, d'.Holds (joinPath directory f.1) f.2) ↔
      ∀ f ∈ files, ∀ g ∈ files, f.1 = g.1 → f.2 = g.2 := by
  constructor
  · intro kept f hf g hg same
    have first := (h.holds_iff names hf f.2).mp (kept f hf)
    have second := (h.holds_iff names hg g.2).mp (kept g hg)
    rw [same] at first
    exact Option.some.inj (first.symm.trans second)
  · intro alike f mem
    obtain ⟨g, listed, same, last⟩ := exists_lastText? mem
    rw [h.holds_iff names mem, last, alike g listed f mem same]

end Received

end Disk

namespace Surroundings

variable {s s' : Surroundings}

theorem run_bind {α β : Type} (x : StateM Surroundings α) (f : α → StateM Surroundings β)
    (s : Surroundings) : (x >>= f).run s = (f (x.run s).1).run (x.run s).2 := rfl

/-- A file that is written is put on the disk, and nothing else happens. -/
theorem run_writeFile (path text : Text) (s : Surroundings) :
    (writeFile path text).run s =
      match s.disk.writeFile path (text.toUtf8?.getD .empty) with
      | some disk => (if text.toUtf8?.isSome then .done else .unencodable, { s with disk })
      | none => (.refused, s) := by
  cases stored : s.disk.writeFile path (text.toUtf8?.getD .empty) <;>
    simp [writeFile, stored] <;> rfl

theorem run_writeFile_eq_done {path text : Text}
    (done : (writeFile path text).run s = (.done, s')) :
    ∃ content, text.toUtf8? = some content ∧
      ∃ disk, s.disk.writeFile path content = some disk ∧ s' = { s with disk } := by
  rw [run_writeFile] at done
  cases stored : s.disk.writeFile path (text.toUtf8?.getD .empty) with
  | none =>
      rw [stored] at done
      exact nomatch done
  | some disk =>
      rw [stored] at done
      obtain ⟨written, rfl⟩ := Prod.mk.inj done
      cases encoded : text.toUtf8? with
      | none => simp [encoded] at written
      | some content =>
          rw [encoded] at stored
          exact ⟨content, rfl, disk, stored, rfl⟩

/-- Files are written one after the other, as long as that goes well. -/
theorem run_writeFiles_cons (directory : Text) (verbose : Bool) (f : Text × Text)
    (rest : List (Text × Text)) (s : Surroundings) :
    (writeFiles host directory verbose (f :: rest)).run s =
      match (writeFile (joinPath directory f.1) f.2).run s with
      | (.done, next) => (writeFiles host directory verbose rest).run
          (if verbose then ((diagnose ("bindgen: wrote " ++ joinPath directory f.1)).run next).2
            else next)
      | (.refused, next) => (.exit 1,
          ((diagnose ("error: cannot write '" ++ joinPath directory f.1 ++ "'")).run next).2)
      | (.unencodable, next) => (.unencodable, next) := by
  rw [writeFiles, run_bind]
  change StateT.run _ ((writeFile (joinPath directory f.1) f.2).run s).2 = _
  cases ended : (writeFile (joinPath directory f.1) f.2).run s with
  | mk answer written =>
      have answered : ((host.writeFile (joinPath directory f.1) f.2).run s).1 = answer :=
        congrArg Prod.fst ended
      rw [answered]
      cases answer with
      | refused | unencodable => rfl
      | done => cases verbose <;> rfl

theorem received_of_writeFiles {directory : Text} {verbose : Bool} {files : List (Text × Text)}
    (ran : (writeFiles host directory verbose files).run s = (.exit 0, s')) :
    s.disk.Received s'.disk directory files := by
  induction files generalizing s with
  | nil =>
      obtain ⟨-, rfl⟩ := Prod.mk.inj ran
      exact Disk.received_nil s.disk directory
  | cons f rest ih =>
      rw [run_writeFiles_cons] at ran
      cases first : (writeFile (joinPath directory f.1) f.2).run s with
      | mk answer written =>
          rw [first] at ran
          cases answer with
          | refused | unencodable => exact nomatch ran
          | done =>
              obtain ⟨content, encoded, disk, stored, rfl⟩ := run_writeFile_eq_done first
              cases verbose with
              | false | true => exact Disk.received_cons encoded stored (ih ran)

end Surroundings

end CommandLine

end ScriptBinding
