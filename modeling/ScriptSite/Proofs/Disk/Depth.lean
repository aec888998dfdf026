import ScriptSite.Proofs.Disk.Nameable

/-!
# How deep copies go

Copying a directory gives up where it would enter too many directories inside each other, and only
there: at a path with so many more names there is a directory then (`exists_names_of_tooDeep`). A
path with very many names has more bytes than a path may have. So a program that can enter that many
directories copies directories however deep they are inside each other
(`runOn_copyTree_ne_tooDeep`).
-/

namespace ScriptSite

theorem Utf8.length_le_length_encode (text : Text) : text.length ≤ (Utf8.encode text).length := by
  induction text with
  | nil => exact Nat.le_refl 0
  | cons c text ih =>
      have bytes := String.length_utf8EncodeChar c
      have visible := c.utf8Size_pos
      rw [Utf8.encode, List.flatMap_cons, List.length_append, ← Utf8.encode, List.length_cons]
      omega

namespace Path

/-- Between any two names stands a slash. -/
theorem length_le_length_joinWith (names : List Text) :
    names.length ≤ (Text.joinWith ['/'] names).length + 1 := by
  simp only [Text.joinWith, List.intercalate]
  induction names with
  | nil => exact Nat.zero_le _
  | cons first names ih =>
      cases names with
      | nil => simp
      | cons second names =>
          simp only [List.intersperse_cons_cons, List.flatten_cons, List.length_append,
            List.length_cons, List.length_nil] at ih ⊢
          omega

theorem length_names_le (path : Path) :
    path.names.length ≤ (Utf8.encode path.toText).length + 1 := by
  refine Nat.le_trans ?_ (Nat.succ_le_succ (Utf8.length_le_length_encode path.toText))
  rw [toText]
  split
  · rename_i empty
    simp [List.isEmpty_iff.mp empty.2]
  · have names := length_le_length_joinWith path.names
    rw [List.length_append]
    omega

end Path

namespace Disk

variable {before mid after : Disk} {source target : Path} {depth : Nat} {names : List Text}

/-- Whether there is a directory so many directories below the one that a path finds. -/
def GoesDown (disk : Disk) (path : Path) (depth : Nat) : Prop :=
  ∃ names, names.length = depth ∧
    ∃ address, disk.find { path with names := path.names ++ names } = .ok (address, .directory)

theorem GoesDown.of_child {disk : Disk} {path : Path} {name : Text}
    (down : disk.GoesDown (path.child name) depth) : disk.GoesDown path (depth + 1) := by
  rcases down with ⟨names, rfl, address, found⟩
  refine ⟨name :: names, rfl, address, ?_⟩
  rwa [Path.child, List.append_assoc] at found

/-- When copying entries gives up, copying one of them has given up, and nothing is done after it.
-/
theorem exists_of_runOn_copyEntries_error {copy : Path → Path → Text → DiskAction CopyError Unit}
    {error : CopyError}
    (run : runOn (copyEntries copy source target names) before = (.error error, after)) :
    ∃ name mid,
      runOn (copy (source.child name) (target.child name) name) mid = (.error error, after) := by
  induction names generalizing before with
  | nil => cases run
  | cons name names ih =>
      rw [copyEntries, runOn_bind_eq_error_iff] at run
      rcases run with first | ⟨troubles, mid, _, rest⟩
      · rw [runOn_tryCatch, runOn_bind] at first
        rcases copied : runOn (copy (source.child name) (target.child name) name) before with
          ⟨other | _, mid⟩
        · rw [copied] at first
          simp only at first
          split at first
          · cases first
            exact ⟨name, before, copied⟩
          · cases first
        · rw [copied] at first
          cases first
      · rcases runOn_bind_eq_error_iff.mp rest with later | ⟨_, _, _, final⟩
        · exact ih later
        · cases final

theorem ofFault_ne_tooDeep (path : Path) (fault : DiskFault) :
    CopyError.ofFault path fault ≠ .tooDeep := by
  cases fault <;> simp [CopyError.ofFault]

theorem copyFileWith_ne_tooDeep (shown : Text) (showTarget : Path → Text) (source target : Path) :
    FailsOnly (· ≠ .tooDeep) (copyFileWith shown showTarget source target) := by
  have atPath : ∀ (path : Path) {α : Type} (action : DiskAction DiskFault α),
      FailsOnly (· ≠ .tooDeep) (atPath path action) :=
    fun path _ action => .adapt (p := (· ≠ CopyError.tooDeep)) (ofFault_ne_tooDeep path) action
  exact failsOnly_copyFileWith_of (by simp) (by simp) (atPath _ _) (fun _ _ => atPath _ _) shown
    showTarget

/-- Copying a directory gives up only when there is a directory so many directories below it. -/
theorem exists_names_of_tooDeep {address : Address}
    (found : before.find source = .ok (address, .directory))
    (run : runOn (copyDirectory depth source target) before = (.error .tooDeep, after)) :
    after.GoesDown source depth := by
  induction depth generalizing source target before address with
  | zero =>
      cases run
      exact ⟨[], rfl, address, by rwa [List.append_nil]⟩
  | succ depth ih =>
      rw [copyDirectory_succ, runOn_bind_eq_error_iff] at run
      rcases run with listing | ⟨names, _, _, run⟩
      · rcases runOn_adapt_eq_error_iff.mp listing with ⟨fault, _, same⟩
        exact absurd same (ofFault_ne_tooDeep source fault)
      · rw [runOn_bind_eq_error_iff] at run
        rcases run with ensuring | ⟨_, _, _, run⟩
        · rcases runOn_adapt_eq_error_iff.mp ensuring with ⟨fault, _, same⟩
          exact absurd same (ofFault_ne_tooDeep target fault)
        · rw [runOn_bind_eq_error_iff] at run
          rcases run with entries | ⟨troubles, _, _, run⟩
          · rcases exists_of_runOn_copyEntries_error entries with ⟨name, mid, copied⟩
            rw [copyEntry, runOn_bind, runOn_get] at copied
            simp only at copied
            split at copied
            · rename_i inner innerFound
              exact (ih innerFound copied).of_child
            · exact absurd rfl (copyFileWith_ne_tooDeep _ _ _ _ _ _ _ copied)
            · exact absurd rfl (copyFileWith_ne_tooDeep _ _ _ _ _ _ _ copied)
            · rename_i fault _ _
              rw [runOn_throw, Prod.mk.injEq, Except.error.injEq] at copied
              exact absurd copied.1 (ofFault_ne_tooDeep _ fault)
          · rw [runOn_bind_eq_error_iff] at run
            rcases run with rights | ⟨_, _, _, run⟩
            · cases rights
            · cases troubles <;> cases run

theorem length_names_le_of_find {disk : Disk} {path : Path} {address : Address} {entry : Entry}
    (found : disk.find path = .ok (address, entry)) : path.names.length ≤ longestPath + 1 := by
  by_contra many
  have tooLong : longestPath < (Utf8.encode path.toText).length := by
    have names := path.length_names_le
    omega
  rw [find, locate, Path.isNameable_iff.mp (isNameable_of_find found), if_neg Bool.false_ne_true,
    if_pos tooLong] at found
  cases found

/-- Whether a program can enter as many directories inside each other on one disk as on another. -/
def SameReach (before after : Disk) : Prop :=
  after.reach = before.reach

instance : IsPreorder Disk SameReach where
  refl _ := rfl
  trans _ _ _ first second := second.trans first

theorem sameReach_writeFile (path : Path) (bytes : Bytes) :
    Respects SameReach (writeFile path bytes) := by
  intro before outcome after run
  rcases outcome with fault | _
  · rw [eq_of_runOn_writeFile_error run]
    exact refl_of SameReach before
  · rcases runOn_writeFile_eq_ok_iff.mp run with ⟨_, _, _, _, rfl⟩
    rfl

theorem sameReach_copyRights {ε : Type} (source target : Path) :
    Respects SameReach (modify (·.copyRights source target) : DiskAction ε PUnit) := by
  intro before outcome after run
  cases run
  rfl

theorem sameReach_ensureDirectory (path : Path) : Respects SameReach (ensureDirectory path) := by
  refine respects_ensureDirectory ?_
  intro before outcome after run
  rw [makeDirectory, runOn_bind, runOn_get] at run
  simp only at run
  split at run <;> (cases run; rfl)

theorem sameReach_copyDirectory (depth : Nat) (source target : Path) :
    Respects SameReach (copyDirectory depth source target) := by
  induction depth generalizing source target with
  | zero => exact .of_onlyLooks fun _ => rfl
  | succ depth ih =>
      have entries : ∀ names : List Text,
          Respects SameReach (copyEntries (copyEntry depth) source target names) :=
        fun names => respects_copyEntries fun name _ => respects_copyEntry (ih _ _)
          (respects_copyFileWith (fun _ _ => sameReach_writeFile _ _)
            fun _ => sameReach_copyRights _ _) name
      rw [copyDirectory_succ]
      refine Respects.bind (.of_onlyLooks ((onlyLooks_list source).adapt _)) fun names => ?_
      refine (sameReach_ensureDirectory target).adapt.bind fun _ => (entries names).bind fun _ => ?_
      refine (sameReach_copyRights source target).bind fun _ => ?_
      split <;> exact .of_onlyLooks fun _ => rfl

/-- What is copied as a directory is one, or the first look at it has failed. -/
theorem directory_or_error_of_runOn_copyDirectory {error : CopyError}
    (run : runOn (copyDirectory (depth + 1) source target) before = (.error error, after)) :
    (∃ address, before.find source = .ok (address, .directory)) ∨
      ∃ fault, CopyError.ofFault source fault = error := by
  rw [copyDirectory_succ, runOn_bind_eq_error_iff] at run
  rcases run with listing | ⟨names, _, listing, _⟩
  · rcases runOn_adapt_eq_error_iff.mp listing with ⟨fault, _, same⟩
    exact Or.inr ⟨fault, same⟩
  · rcases exists_of_runOn_list (runOn_adapt_eq_ok_iff.mp listing) with ⟨address, readable, _⟩
    exact Or.inl ⟨address, find_of_findReadable readable⟩

/-- Copying a directory gives up only when there is a directory more directories below it than can
be entered. -/
theorem goesDown_of_tooDeep
    (run : runOn (copyTree source target) before = (.error .tooDeep, after)) :
    after.GoesDown source (after.reach + 1) := by
  rw [runOn_copyTree] at run
  have sameReach : after.reach = before.reach := sameReach_copyDirectory _ _ _ _ _ _ run
  rcases directory_or_error_of_runOn_copyDirectory run with ⟨_, found⟩ | ⟨fault, same⟩
  · rw [sameReach]
    exact exists_names_of_tooDeep found run
  · exact absurd same (ofFault_ne_tooDeep source fault)

/-- Directories are copied however deep they are inside each other, if the program can enter as many
as there can be. -/
theorem runOn_copyTree_ne_tooDeep (enough : longestPath < before.reach) :
    runOn (copyTree source target) before ≠ (.error .tooDeep, after) := by
  intro run
  have sameReach : after.reach = before.reach := sameReach_copyDirectory _ _ _ _ _ _ run
  rcases goesDown_of_tooDeep run with ⟨names, length, _, deepest⟩
  have few := length_names_le_of_find deepest
  rw [List.length_append, length] at few
  omega

end Disk

end ScriptSite
