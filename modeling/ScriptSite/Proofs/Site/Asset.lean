import ScriptSite.Proofs.Disk.Run
import ScriptSite.Proofs.Site.Setting
import ScriptSite.Site.Publish

/-!
# The paths of assets

A configuration that has been read has paths of plain names, without slashes in them. So an asset is
copied to the root of the output, or to a name in it (`assetTarget_eq`), which is the name of the
directory above if the path of the asset ends in two dots.
-/

namespace ScriptSite

namespace Path

variable {path other : Path} {name : Text}

/-- Whether the names of a path are names. -/
def IsProper (path : Path) : Prop :=
  ∀ name ∈ path.names, isName name = true ∧ '/' ∉ name

instance (path : Path) : Decidable path.IsProper :=
  inferInstanceAs (Decidable (∀ name ∈ path.names, _))

theorem notMem_of_mem_splitWhere {text piece : Text} {c : Char}
    (mem : piece ∈ Text.splitWhere (· == c) text) : c ∉ piece := by
  induction text generalizing piece with
  | nil =>
      simp only [Text.splitWhere, List.mem_singleton] at mem
      simp [mem]
  | cons first text ih =>
      rw [Text.splitWhere] at mem
      split at mem
      · rcases List.mem_cons.mp mem with rfl | mem
        · simp
        · exact ih mem
      · rename_i different
        have differs : c ≠ first := by
          rintro rfl
          simp at different
        rcases pieces : Text.splitWhere (· == c) text with _ | ⟨next, rest⟩
        · rw [pieces] at mem
          simp only [List.mem_singleton] at mem
          simp [mem, differs]
        · rw [pieces] at mem ih
          rcases List.mem_cons.mp mem with rfl | mem
          · simp [differs, ih List.mem_cons_self]
          · exact ih (List.mem_cons_of_mem _ mem)

theorem splitWhere_of_notMem {text : Text} {c : Char} (notMem : c ∉ text) :
    Text.splitWhere (· == c) text = [text] := by
  induction text with
  | nil => rfl
  | cons first text ih =>
      rw [List.mem_cons, not_or] at notMem
      rw [Text.splitWhere, if_neg (by simpa using Ne.symm notMem.1), ih notMem.2]

theorem isProper_ofText (text : Text) : (ofText text).IsProper := by
  intro name mem
  rw [ofText, List.mem_filter] at mem
  exact ⟨mem.2, notMem_of_mem_splitWhere mem.1⟩

theorem IsProper.join (proper : path.IsProper) (otherProper : other.IsProper) :
    (path.join other).IsProper := by
  rw [Path.join]
  split
  · exact otherProper
  · intro name mem
    rcases List.mem_append.mp mem with mem | mem
    · exact proper name mem
    · exact otherProper name mem

/-- The path that a name spells. -/
theorem ofText_of_isName (isName : Path.isName name = true) (plain : '/' ∉ name) :
    ofText name = { names := [name] } := by
  have noSlash : name.takeWhile (· == '/') = [] := by
    cases name with
    | nil => rfl
    | cons c name =>
        rw [List.mem_cons, not_or] at plain
        exact List.takeWhile_cons_of_neg (by simpa using Ne.symm plain.1)
  simp [ofText, noSlash, splitWhere_of_notMem plain, isName]

/-- The last name of a path that has any. -/
theorem name_mem (some : path.names ≠ []) : path.name ∈ path.names := by
  rw [name, List.getLast?_eq_some_getLast some]
  exact List.getLast_mem some

end Path

namespace SiteConfig

variable {config : SiteConfig} {before after : Disk} {asset path : Path}

/-- The assets of a site, directories first. -/
def assets (config : SiteConfig) : List Path :=
  config.assetDirectories ++ config.assetFiles

/-- An asset has its own name below the root of the output, if it has a name. -/
theorem assetTarget_eq (proper : asset.IsProper) :
    config.assetTarget asset =
      if asset.names = [] then config.outputRoot else config.outputRoot.child asset.name := by
  rw [assetTarget]
  split
  · rename_i none
    simp [Path.name, none, Path.ofText, Path.join, Path.isAbsolute, Text.splitWhere, Path.isName]
  · rename_i some
    rcases proper _ (Path.name_mem some) with ⟨isName, plain⟩
    rw [Path.ofText_of_isName isName plain]
    rfl

theorem exists_of_ofData {root : Path} {data : Yaml.Data}
    (read : Settings.ofData root path data = .ok config) :
    ∃ entries, Settings.config root path data entries = .ok config := by
  rw [Settings.ofData] at read
  simp only at read
  split at read
  · cases read
  · split at read
    · cases read
    · exact ⟨_, read⟩
    · cases read

theorem exists_of_runOn_load {root : Path} {path? : Option Path}
    (run : runOn (load root path?) before = (.ok config, after)) :
    ∃ path data entries, Settings.config root path data entries = .ok config := by
  rw [load, runOn_bind, runOn_get] at run
  simp only at run
  split at run
  · cases run
  · rw [readFile, runOn_bind_eq_ok_iff] at run
    rcases run with ⟨bytes, _, _, run⟩
    rw [runOn_liftExcept, Prod.mk.injEq, Settings.ofBytes] at run
    replace run := run.1
    split at run
    · cases run
    · simp only at run
      split at run
      · cases run
      · exact ⟨_, _, exists_of_ofData run⟩
  · cases run
  · rw [runOn_liftExcept, Prod.mk.injEq] at run
    exact ⟨_, _, exists_of_ofData run.1⟩

/-- The configuration in the root of a project is read from its file there. -/
theorem runOn_load_of_find {root : Path} {disk : Disk} {address : Address} {bytes : Bytes}
    (found : disk.findReadable (root.child fileName) = .ok (address, .file bytes))
    (read : Settings.ofBytes root (root.child fileName) bytes = .ok config) :
    runOn (load root none) disk = (.ok config, disk) := by
  have isFile : disk.isFile (root.child fileName) = .ok true := by
    rw [Disk.isFile, Disk.test, Disk.find_of_findReadable found]
    rfl
  have fileRead : runOn (Disk.readFile (root.child fileName)) disk = (.ok bytes, disk) := by
    rw [Disk.readFile, runOn_bind, runOn_get]
    simp only [found]
    rfl
  rw [load, runOn_bind, runOn_get]
  simp only [Option.getD_none, isFile]
  rw [readFile, runOn_bind, runOn_adapt, fileRead]
  simp only [Except.mapError, runOn_liftExcept, read]

/-- What a configuration that has been read from a file has, whatever the file says. -/
theorem exists_of_config {root : Path} {data : Yaml.Data} {entries : List (Yaml.Value × Yaml.Value)}
    (made : Settings.config root path data entries = .ok config) :
    ∃ texts, config = Setting.assemble root texts := by
  rw [Setting.config_eq] at made
  split at made
  · exact ⟨_, (Except.ok.inj made).symm⟩
  · cases made

/-- The assets of a configuration that has been read have paths of names. -/
theorem isProper_of_runOn_load {root : Path} {path? : Option Path} (proper : root.IsProper)
    (run : runOn (load root path?) before = (.ok config, after)) :
    ∀ asset ∈ config.assets, asset.IsProper := by
  rcases exists_of_runOn_load run with ⟨path, data, entries, made⟩
  rcases exists_of_config made with ⟨texts, rfl⟩
  intro asset mem
  simp only [assets, Setting.assemble, ← List.map_append] at mem
  rcases List.mem_map.mp mem with ⟨text, _, rfl⟩
  exact proper.join (Path.isProper_ofText text)

end SiteConfig

end ScriptSite
