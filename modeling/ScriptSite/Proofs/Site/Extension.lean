import ScriptSite.Proofs.Site.Stops

/-!
# The extension that is configured

An extension can be any text that begins with a dot, because a dot is put in front of a setting that
has none. But a source is recognized by the extension of its name, which begins at the last dot. So
an extension with another dot in it, or with nothing behind the dot, is the extension of no name,
and the files whose names end with it are no sources.

Which of the two it is decides everything about a file in a group whose name ends with what is
configured (`mem_sources_iff_of_runOn_load`): whether it is found, and whether its page has the name
that is left without the extension.
-/

namespace ScriptSite

namespace Path

variable {stem text : Text}

/-- Whether a text is a dot with something behind it that has no dots. -/
def IsExtension (text : Text) : Prop :=
  ∃ tail, text = '.' :: tail ∧ tail ≠ [] ∧ '.' ∉ tail

theorem extension_eq_nil_or_isExtension (name : Text) :
    extension name = [] ∨ IsExtension (extension name) := by
  rcases extension_cases name with none | ⟨_, tail, _, isExtension, _, visible, noDot⟩
  · exact Or.inl none
  · exact Or.inr ⟨tail, isExtension, visible, noDot⟩

/-- What a name ends with is its extension if it can be one. -/
theorem extension_append_eq_iff (visible : stem ≠ []) (dotted : text.head? = some '.') :
    extension (stem ++ text) = text ↔ IsExtension text := by
  constructor
  · intro same
    rcases extension_eq_nil_or_isExtension (stem ++ text) with none | isExtension
    · rw [same] at none
      simp [none] at dotted
    · rwa [same] at isExtension
  · rintro ⟨tail, rfl, tailVisible, noDot⟩
    rw [extension_append noDot, if_neg (by simp [visible, tailVisible])]

end Path

namespace SiteConfig

open Disk

variable {config : SiteConfig} {before loading loaded : Disk} {root : Path} {path? : Option Path}
  {group stem : Text}

/-- A configuration that has been read asks for no groups, and has an extension with a dot in front.
-/
theorem groups_and_extension_of_runOn_load
    (read : runOn (load root path?) loading = (.ok config, loaded)) :
    config.groups = none ∧ config.extension.head? = some '.' := by
  rcases exists_of_runOn_load read with ⟨_, _, _, made⟩
  have dotted : ∀ text, (Settings.dotted text).head? = some '.' := by
    intro text
    rw [Settings.dotted]
    split
    · assumption
    · rfl
  rcases exists_of_config made with ⟨texts, rfl⟩
  exact ⟨rfl, dotted _⟩

/-- The page of a file has the name that is left without an extension if that is the extension. -/
theorem outputPath_eq_iff (dotted : config.extension.head? = some '.') (visible : stem ≠ []) :
    config.outputPath ((config.inputRoot.child group).child (stem ++ config.extension)) =
        .ok ((config.outputRoot.child group).child (stem ++ ".html".toList)) ↔
      Path.IsExtension config.extension := by
  have whole := Path.stem_append_extension (stem ++ config.extension)
  rw [outputPath_child_child, ← Path.extension_append_eq_iff visible dotted, Except.ok.injEq]
  constructor
  · intro same
    have isStem : Path.stem (stem ++ config.extension) = stem := by
      simpa [Path.child, pageName] using same
    rw [isStem] at whole
    exact List.append_cancel_left whole
  · intro same
    rw [same] at whole
    rw [pageName, List.append_cancel_right whole]

/-- A file in a group is found if its extension is the one that is configured. -/
theorem exists_isSourceOf_iff (wellFormed : before.WellFormed) (all : config.groups = none)
    (dotted : config.extension.head? = some '.') (groupNotUp : group ≠ Path.upName)
    (visible : stem ≠ [])
    (isFile : before.isFile
      ((config.inputRoot.child group).child (stem ++ config.extension)) = .ok true) :
    (∃ other, config.IsSourceOf before other
        ((config.inputRoot.child group).child (stem ++ config.extension))) ↔
      Path.IsExtension config.extension := by
  constructor
  · rintro ⟨other, isSource⟩
    rcases isSource.isSourcePath with ⟨name, isPath⟩
    have sameName : stem ++ config.extension = name := by
      simpa [Path.name] using congrArg Path.name isPath.eq_child
    have extension := isPath.extension_eq
    rwa [← sameName, Path.extension_append_eq_iff visible dotted] at extension
  · intro isExtension
    have extension := (Path.extension_append_eq_iff visible dotted).mpr isExtension
    refine ⟨group, isSourceOf_of_isFile wellFormed groupNotUp isFile extension ?_⟩
    simp [includes, all]

/-- A file in a group, with a name that ends with the extension which is configured, is found if
that is the extension of a name, and has the page of its name without it if it is. The look for the
sources may fail only because the disk refuses a look. -/
theorem mem_sources_iff_of_runOn_load
    (read : runOn (load root path?) loading = (.ok config, loaded)) (wellFormed : before.WellFormed)
    (groupNotUp : group ≠ Path.upName) (visible : stem ≠ [])
    (isFile : before.isFile
      ((config.inputRoot.child group).child (stem ++ config.extension)) = .ok true) :
    (∀ failure after, runOn config.sources before = (.error failure, after) →
      config.Refuses before failure) ∧
    (∀ sources after, runOn config.sources before = (.ok sources, after) →
      ((config.inputRoot.child group).child (stem ++ config.extension) ∈ sources ↔
        Path.IsExtension config.extension)) ∧
    (config.outputPath ((config.inputRoot.child group).child (stem ++ config.extension)) =
        .ok ((config.outputRoot.child group).child (stem ++ ".html".toList)) ↔
      Path.IsExtension config.extension) := by
  rcases groups_and_extension_of_runOn_load read with ⟨all, dotted⟩
  refine ⟨?_, ?_, outputPath_eq_iff dotted visible⟩
  · intro failure after run
    rcases exists_directory_of_isFile_child isFile with ⟨_, groupFound, _⟩
    rcases exists_directory_of_find_child groupNotUp groupFound with ⟨_, rootFound, _⟩
    exact refuses_of_runOn_sources rootFound all run
  · intro sources after run
    rw [(pairwise_and_mem_iff_of_runOn_sources wellFormed run).2,
      exists_isSourceOf_iff wellFormed all dotted groupNotUp visible isFile]

/-- A project whose configuration has an extension with two dots. -/
def archiveRoot : Path :=
  { slashes := 1, names := ["p".toList] }

def archiveText : Text :=
  "extension: tar.gz\n".toList

def archive : SiteConfig where
  inputRoot := archiveRoot.child "src".toList
  outputRoot := archiveRoot.child "html".toList
  assetDirectories := [archiveRoot.child "sh".toList, archiveRoot.child "img".toList]
  assetFiles := [archiveRoot.child "examples.css".toList]
  extension := ".tar.gz".toList
  indexCatalog := "index.xml".toList
  demosCatalog := "demos.xml".toList
  siteName := Page.defaultSiteName

def archiveDisk : Disk where
  entries :=
    [(["p".toList], .directory), (["p".toList, "src".toList], .directory),
      (["p".toList, "src".toList, "g".toList], .directory),
      (["p".toList, "src".toList, "g".toList, "a.tar.gz".toList],
        .file (Utf8.encode "# T\n".toList)),
      (["p".toList, "bipdoc.yaml".toList], .file (Utf8.encode archiveText))]

theorem runOn_load_archive :
    runOn (load archiveRoot none) archiveDisk = (.ok archive, archiveDisk) := by
  have found : archiveDisk.findReadable (archiveRoot.child fileName) =
      .ok (["p".toList, fileName], .file (Utf8.encode archiveText)) := by
    decide +kernel
  have read : Settings.ofBytes archiveRoot (archiveRoot.child fileName) (Utf8.encode archiveText) =
      .ok archive := by
    decide +kernel
  exact runOn_load_of_find found read

theorem isFile_archive : archiveDisk.isFile
    ((archive.inputRoot.child "g".toList).child ("a".toList ++ archive.extension)) = .ok true := by
  decide +kernel

/-- In that project a file in a group has a name with the extension, and is no source. -/
theorem misses_archive :
    runOn (load archiveRoot none) archiveDisk = (.ok archive, archiveDisk) ∧
      archiveDisk.WellFormed ∧
      archiveDisk.isFile
        ((archive.inputRoot.child "g".toList).child ("a".toList ++ archive.extension)) = .ok true ∧
      ∃ sources, runOn archive.sources archiveDisk = (.ok sources, archiveDisk) ∧
        (archive.inputRoot.child "g".toList).child ("a".toList ++ archive.extension) ∉ sources := by
  have found : (runOn archive.sources archiveDisk).1 = .ok [] := by
    delta sources sourcesOf children Disk.list
    rw [sortedNames_eq_insertionSort]
    decide +kernel
  exact ⟨runOn_load_archive, ⟨by decide, by decide⟩, isFile_archive, [],
    (onlyLooks_sources archive).runOn_eq found, List.not_mem_nil⟩

theorem not_isExtension_archive : ¬Path.IsExtension archive.extension := by
  rintro ⟨tail, same, _, noDot⟩
  rw [← (List.cons.inj same).2] at noDot
  exact absurd noDot (by decide)

/-- The theorem about what the extension decides, where it decides against a file. -/
theorem archive_not_built :
    runOn (load archiveRoot none) archiveDisk = (.ok archive, archiveDisk) ∧
      archiveDisk.WellFormed ∧
      (∀ sources after, runOn archive.sources archiveDisk = (.ok sources, after) →
        (archive.inputRoot.child "g".toList).child ("a".toList ++ archive.extension) ∉ sources) ∧
      archive.outputPath
          ((archive.inputRoot.child "g".toList).child ("a".toList ++ archive.extension)) ≠
        .ok ((archive.outputRoot.child "g".toList).child ("a".toList ++ ".html".toList)) := by
  have wellFormed : archiveDisk.WellFormed := ⟨by decide, by decide⟩
  rcases mem_sources_iff_of_runOn_load runOn_load_archive wellFormed (by decide) (by decide)
    isFile_archive with ⟨_, mem_iff, page_iff⟩
  refine ⟨runOn_load_archive, wellFormed, ?_, ?_⟩
  · intro sources after run mem
    exact not_isExtension_archive ((mem_iff sources after run).mp mem)
  · intro same
    exact not_isExtension_archive (page_iff.mp same)

end SiteConfig

end ScriptSite
