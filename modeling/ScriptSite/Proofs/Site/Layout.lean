import ScriptSite.Proofs.Disk.Apart
import ScriptSite.Site.Build

/-!
# Where pages are written

The name of a page is the name of its source with another extension. A name is its stem and its
extension, so sources with one extension in a group have pages with different names, and a page that
has the name of a source is the page of that source. Therefore the page of a source is apart from
every other page and from every other source, wherever the two roots are, and it is apart from the
pages of the catalogs, which are not in a group.
-/

namespace ScriptSite

namespace Path

variable {name other front tail : Text}

/-- A name without its extension. -/
def stem (name : Text) : Text :=
  name.take (name.length - (extension name).length)

/-- The extension of a name with a dot, which is the last one. -/
theorem extension_append (noDot : '.' ∉ tail) :
    extension (front ++ '.' :: tail) = if tail = [] ∨ front = [] then [] else '.' :: tail := by
  have behind : (front ++ '.' :: tail).reverse.takeWhile (· ≠ '.') = tail.reverse := by
    have backwards : (front ++ '.' :: tail).reverse = tail.reverse ++ '.' :: front.reverse := by
      simp
    rw [backwards, List.takeWhile_append_of_pos]
    · simp
    · intro c mem
      have notDot : c ≠ '.' := by
        rintro rfl
        exact noDot (List.mem_reverse.mp mem)
      simpa using notDot
  have before : (front ++ '.' :: tail).take
      ((front ++ '.' :: tail).length - tail.length - 1) = front := by
    have length : (front ++ '.' :: tail).length - tail.length - 1 = front.length := by
      simp only [List.length_append, List.length_cons]
      omega
    rw [length, List.take_left]
  have hasDot : (front ++ '.' :: tail).contains '.' = true := by
    simp
  simp only [extension, behind, List.reverse_reverse, before, hasDot, List.isEmpty_iff,
    Bool.not_true, Bool.false_eq_true, or_false]

theorem exists_last_dot (hasDot : '.' ∈ name) :
    ∃ front tail, name = front ++ '.' :: tail ∧ '.' ∉ tail := by
  rcases List.eq_append_cons_of_mem (List.mem_reverse.mpr hasDot) with
    ⟨back, backFront, backwards, noDot⟩
  refine ⟨backFront.reverse, back.reverse, ?_, by simpa using noDot⟩
  rw [← List.reverse_reverse name, backwards]
  simp

theorem extension_of_notMem (noDot : '.' ∉ name) : extension name = [] := by
  simp [extension, noDot]

/-- A name has no extension, or a last dot with something on both sides. -/
theorem extension_cases (name : Text) :
    extension name = [] ∨ ∃ front tail, name = front ++ '.' :: tail ∧
      extension name = '.' :: tail ∧ front ≠ [] ∧ tail ≠ [] ∧ '.' ∉ tail := by
  by_cases hasDot : '.' ∈ name
  · rcases exists_last_dot hasDot with ⟨front, tail, rfl, noDot⟩
    rw [extension_append noDot]
    split
    · exact Or.inl rfl
    · rename_i visible
      exact Or.inr ⟨front, tail, rfl, rfl, (not_or.mp visible).2, (not_or.mp visible).1, noDot⟩
  · exact Or.inl (extension_of_notMem hasDot)

/-- A name has no extension, or something in front of it. -/
theorem extension_eq_nil_or (name : Text) :
    extension name = [] ∨ ∃ front, front ≠ [] ∧ name = front ++ extension name := by
  rcases extension_cases name with none | ⟨front, tail, split, isExtension, visible, _⟩
  · exact Or.inl none
  · exact Or.inr ⟨front, visible, isExtension ▸ split⟩

theorem stem_append_extension (name : Text) : stem name ++ extension name = name := by
  rcases extension_eq_nil_or name with none | ⟨front, _, split⟩
  · simp [stem, none]
  · have isStem : stem name = front := by
      rw [stem]
      have length : name.length - (extension name).length = front.length := by
        have total := congrArg List.length split
        rw [List.length_append] at total
        omega
      rw [length]
      conv =>
        lhs
        rw [split]
      exact List.take_left
    rw [isStem]
    exact split.symm

theorem stem_ne_nil (visible : name ≠ []) : stem name ≠ [] := by
  intro empty
  have whole := stem_append_extension name
  rcases extension_eq_nil_or name with none | ⟨front, frontVisible, split⟩
  · rw [empty, none] at whole
    exact visible whole.symm
  · rw [empty, List.nil_append] at whole
    rw [whole] at split
    exact frontVisible (List.append_left_eq_self.mp split.symm)

end Path

namespace SiteConfig

variable {config : SiteConfig} {group name otherGroup otherName : Text} {source other out : Path}

/-- The name of the page of a source. -/
def pageName (name : Text) : Text :=
  Path.stem name ++ ".html".toList

theorem extension_pageName (visible : name ≠ []) :
    Path.extension (pageName name) = ".html".toList := by
  have split : pageName name = Path.stem name ++ '.' :: "html".toList := rfl
  rw [split, Path.extension_append (by decide), if_neg (by simp [Path.stem_ne_nil visible])]
  rfl

theorem pageName_ne_upName (name : Text) : pageName name ≠ Path.upName := by
  intro same
  have length := congrArg List.length same
  simp [pageName, Path.upName] at length

/-- Names with the same extension and the same page are the same. -/
theorem eq_of_pageName_eq (sameExtension : Path.extension name = Path.extension otherName)
    (same : pageName name = pageName otherName) : name = otherName := by
  rw [pageName, pageName, List.append_left_inj] at same
  rw [← Path.stem_append_extension name, ← Path.stem_append_extension otherName, same,
    sameExtension]

/-- A page that has the name of a source with the same extension is its own source. -/
theorem eq_of_pageName_eq_name (visible : name ≠ [])
    (sameExtension : Path.extension name = Path.extension otherName)
    (same : pageName name = otherName) : name = otherName := by
  have isPage : Path.extension name = ".html".toList := by
    rw [sameExtension, ← same]
    exact extension_pageName visible
  rw [← same, pageName, ← isPage, Path.stem_append_extension]

/-- Whether a path is that of a source: an entry with the extension of sources in a group. -/
structure IsSourcePath (config : SiteConfig) (source : Path) (group name : Text) : Prop where
  eq_child : source = (config.inputRoot.child group).child name
  group_ne_upName : group ≠ Path.upName
  ne_upName : name ≠ Path.upName
  ne_nil : name ≠ []
  extension_eq : Path.extension name = config.extension

/-- What is written for an entry of a group has the same group. -/
theorem outputPath_child_child (config : SiteConfig) (group name : Text) :
    config.outputPath ((config.inputRoot.child group).child name) =
      .ok ((config.outputRoot.child group).child (pageName name)) := by
  have names : ((config.inputRoot.child group).child name).names =
      config.inputRoot.names ++ [group, name] := by
    simp
  have sameSlashes : ((config.inputRoot.child group).child name).slashes =
      config.inputRoot.slashes := rfl
  have below : ((config.inputRoot.child group).child name).below? config.inputRoot =
      some { names := [group, name] } := by
    rw [Path.below?, if_pos sameSlashes, Path.namesBehind?_eq_some_iff.mpr names, Option.map_some]
  have path : config.outputPath? ((config.inputRoot.child group).child name) =
      some ((config.outputRoot.child group).child (pageName name)) := by
    rw [outputPath?, below]
    simp [Path.join, Path.isAbsolute, Path.withExtension?, Path.child, pageName, Path.stem]
  rw [outputPath, path]

/-- The page of a source has the same group. -/
theorem IsSourcePath.outputPath_eq (isSource : config.IsSourcePath source group name) :
    config.outputPath source = .ok ((config.outputRoot.child group).child (pageName name)) := by
  rw [isSource.eq_child, outputPath_child_child]

namespace IsSourcePath

variable {otherOut : Path}

theorem eq_of_pageName_eq (isSource : config.IsSourcePath source group name)
    (isOther : config.IsSourcePath other otherGroup otherName) (sameGroup : group = otherGroup)
    (same : pageName name = pageName otherName) : source = other := by
  have sameExtension := isSource.extension_eq.trans isOther.extension_eq.symm
  rw [isSource.eq_child, isOther.eq_child, sameGroup,
    SiteConfig.eq_of_pageName_eq sameExtension same]

/-- Different sources have different pages. -/
theorem eq_of_outputPath_eq (isSource : config.IsSourcePath source group name)
    (isOther : config.IsSourcePath other otherGroup otherName)
    (same : config.outputPath source = config.outputPath other) : source = other := by
  rw [isSource.outputPath_eq, isOther.outputPath_eq, Except.ok.injEq] at same
  have sameNames := congrArg Path.names same
  simp only [Path.names_child, List.append_assoc, List.append_cancel_left_eq, List.cons_append,
    List.nil_append, List.cons.injEq, and_true] at sameNames
  exact isSource.eq_of_pageName_eq isOther sameNames.1 sameNames.2

theorem page_apart_page (isSource : config.IsSourcePath source group name)
    (isOther : config.IsSourcePath other otherGroup otherName) (different : source ≠ other)
    (isOut : config.outputPath source = .ok out)
    (isOtherOut : config.outputPath other = .ok otherOut) :
    out.Apart otherOut := by
  rw [isSource.outputPath_eq, Except.ok.injEq] at isOut
  rw [isOther.outputPath_eq, Except.ok.injEq] at isOtherOut
  rw [← isOut, ← isOtherOut]
  exact Disk.apart_of_ne isSource.group_ne_upName (pageName_ne_upName name)
    isOther.group_ne_upName (pageName_ne_upName otherName)
    (fun sameGroup same => different (isSource.eq_of_pageName_eq isOther sameGroup same))

theorem apart_page (isSource : config.IsSourcePath source group name)
    (isOther : config.IsSourcePath other otherGroup otherName) (different : source ≠ other)
    (isOtherOut : config.outputPath other = .ok otherOut) : source.Apart otherOut := by
  rw [isOther.outputPath_eq, Except.ok.injEq] at isOtherOut
  rw [isSource.eq_child, ← isOtherOut]
  refine Disk.apart_of_ne isSource.group_ne_upName isSource.ne_upName isOther.group_ne_upName
    (pageName_ne_upName otherName) ?_
  intro sameGroup same
  have sameExtension := isOther.extension_eq.trans isSource.extension_eq.symm
  have sameName := eq_of_pageName_eq_name isOther.ne_nil sameExtension same.symm
  rw [isSource.eq_child, isOther.eq_child, sameGroup, sameName] at different
  exact different rfl

/-- The page of a source is in a group, not beside the groups. -/
theorem child_apart_page {top : Text} (notUp : top ≠ Path.upName)
    (isSource : config.IsSourcePath source group name)
    (isOut : config.outputPath source = .ok out) : (config.outputRoot.child top).Apart out := by
  rw [isSource.outputPath_eq, Except.ok.injEq] at isOut
  rw [← isOut]
  exact Disk.apart_child_child_child notUp isSource.group_ne_upName (pageName_ne_upName name)

end IsSourcePath

end SiteConfig

end ScriptSite
