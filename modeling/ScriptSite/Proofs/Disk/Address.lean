import ScriptSite.Proofs.Disk.Write

/-!
# The address that a path leads to

On a disk without links the address that a path leads to can be told from the path alone: two dots
take away the name before them, and any other name is one more step down. `addressOf` is that
address, whether anything is there or not, and `address_eq_of_find` says that the path finds nothing
elsewhere. So whether a path leads into what another one leads to does not change while directories
are made and files are written.

What a path finds in a directory depends on what stands there only (`find_child_eq`). What is below
one of two addresses is elsewhere than what is below the other, unless one of them is below the
other itself (`Separate`).
-/

namespace ScriptSite

namespace Path

variable {here address : Address} {front back names : List Text} {path base : Path} {name : Text}

/-- The address that names lead to from a directory. -/
def follow (here : Address) (names : List Text) : Address :=
  names.foldl (fun here name => if name = upName then here.dropLast else here ++ [name]) here

@[simp]
theorem follow_nil (here : Address) : follow here [] = here := rfl

theorem follow_append (here : Address) (front back : List Text) :
    follow here (front ++ back) = follow (follow here front) back := by
  rw [follow, List.foldl_append]
  rfl

theorem follow_cons_up (here : Address) (names : List Text) :
    follow here (upName :: names) = follow here.dropLast names := by
  rw [follow, List.foldl_cons, if_pos rfl]
  rfl

theorem follow_cons (notUp : name ≠ upName) (here : Address) (names : List Text) :
    follow here (name :: names) = follow (here ++ [name]) names := by
  rw [follow, List.foldl_cons, if_neg notUp]
  rfl

/-- Names that do not lead up lead straight down. -/
theorem follow_of_up_notMem (here : Address) (noUp : upName ∉ names) :
    follow here names = here ++ names := by
  induction names generalizing here with
  | nil => simp
  | cons name names ih =>
      rw [List.mem_cons, not_or] at noUp
      rw [follow_cons (Ne.symm noUp.1), ih _ noUp.2, List.append_assoc]
      rfl

/-- Whether a path leads on from another one, and only down from there. -/
def IsWithin (path base : Path) : Prop :=
  ∃ rest, upName ∉ rest ∧ path = { base with names := base.names ++ rest }

theorem isWithin_refl (path : Path) : path.IsWithin path :=
  ⟨[], by simp, by simp⟩

theorem isWithin_child (notUp : name ≠ upName) (path : Path) : (path.child name).IsWithin path :=
  ⟨[name], by simpa using Ne.symm notUp, rfl⟩

theorem IsWithin.trans {top : Path} (inner : path.IsWithin base) (outer : base.IsWithin top) :
    path.IsWithin top := by
  rcases inner with ⟨rest, noUp, rfl⟩
  rcases outer with ⟨way, wayNoUp, rfl⟩
  exact ⟨way ++ rest, by simp [noUp, wayNoUp], by simp⟩

/-- What a path leads through on the way to an entry of a directory is that entry, or on the way to
the directory. -/
theorem leadsThrough_child_iff {above : Path} :
    (path.child name).LeadsThrough above ↔ path.LeadsThrough above ∨ above = path.child name := by
  rcases above with ⟨slashes, aboveNames⟩
  simp only [LeadsThrough, List.prefix_concat_iff, child, mk.injEq]
  tauto

theorem joinWith_prefix (separator : Text) (front back : List Text) :
    Text.joinWith separator front <+: Text.joinWith separator (front ++ back) := by
  simp only [Text.joinWith, List.intercalate]
  induction front with
  | nil => exact List.nil_prefix
  | cons first front ih =>
      cases front with
      | nil =>
          cases back with
          | nil => exact List.prefix_refl _
          | cons => simp [List.intersperse]
      | cons second front =>
          simp only [List.cons_append, List.intersperse_cons_cons, List.flatten_cons,
            List.prefix_append_right_inj] at ih ⊢
          exact ih

/-- A path that can be used can be used up to any of its names. -/
theorem IsUsable.of_leadsThrough {above : Path} (usable : path.IsUsable)
    (leads : path.LeadsThrough above) : above.IsUsable := by
  rcases leads with ⟨sameSlashes, rest, names⟩
  constructor
  · have nameable := usable.nameable
    rw [← names, List.any_append, Bool.or_eq_false_iff] at nameable
    exact nameable.1
  · rw [toText]
    split
    · decide
    · rename_i notEmpty
      have text : List.replicate above.slashes '/' ++ Text.joinWith ['/'] above.names <+:
          path.toText := by
        rw [toText, if_neg, ← names, sameSlashes, List.prefix_append_right_inj]
        · exact joinWith_prefix _ _ _
        · rintro ⟨noSlashes, none⟩
          rw [← names, List.isEmpty_iff, List.append_eq_nil_iff] at none
          exact notEmpty ⟨sameSlashes.trans noSlashes, by simp [none.1]⟩
      rcases text with ⟨more, whole⟩
      have short := usable.short
      rw [← whole, Utf8.encode, List.flatMap_append, List.length_append] at short
      exact Nat.le_trans (Nat.le_add_right _ _) short

end Path

namespace Disk

variable {disk before after : Disk} {path base other : Path} {here address directory : Address}
  {front back names : List Text} {name : Text} {place : Place} {entry : Entry}
  {made written : Path → Prop}

/-- The address that a path leads to, if no link is on the way. -/
def addressOf (disk : Disk) (path : Path) : Address :=
  Path.follow (disk.start path) path.names

/-- Whether none of two addresses is at or below the other. -/
def Separate (address other : Address) : Prop :=
  ¬address <+: other ∧ ¬other <+: address

instance (address other : Address) : Decidable (Separate address other) :=
  inferInstanceAs (Decidable (_ ∧ _))

theorem Separate.symm {other : Address} (separate : Separate address other) :
    Separate other address :=
  ⟨separate.2, separate.1⟩

/-- What is at or below one of two separate addresses is separate from what is at or below the
other. -/
theorem Separate.below {other deep otherDeep : Address} (separate : Separate address other)
    (below : address <+: deep) (otherBelow : other <+: otherDeep) : Separate deep otherDeep := by
  constructor
  · intro isPrefix
    rcases List.prefix_or_prefix_of_prefix (below.trans isPrefix) otherBelow with first | second
    · exact separate.1 first
    · exact separate.2 second
  · intro isPrefix
    rcases List.prefix_or_prefix_of_prefix below (otherBelow.trans isPrefix) with first | second
    · exact separate.1 first
    · exact separate.2 second

theorem Separate.ne {other : Address} (separate : Separate address other) : address ≠ other := by
  rintro rfl
  exact separate.1 (List.prefix_refl _)

theorem Leads.address_eq (leads : disk.Leads here names place) :
    place.address = Path.follow here names := by
  induction leads with
  | arrived => rfl
  | up _ ih => rw [ih, Path.follow_cons_up]
  | enter step _ _ ih => rw [ih, Path.follow_cons step.ne_up]
  | entry step => rw [Path.follow_cons step.ne_up]; rfl
  | vacant step => rw [Path.follow_cons step.ne_up]; rfl

theorem address_eq_of_locate (linkless : disk.Linkless) {followLast : Bool}
    (located : disk.locate followLast path = .ok place) : place.address = disk.addressOf path :=
  ((locate_eq_ok_iff linkless followLast).mp located).2.address_eq

theorem address_eq_of_find (linkless : disk.Linkless)
    (found : disk.find path = .ok (address, entry)) : address = disk.addressOf path :=
  ((find_eq_ok_iff linkless).mp found).2.address_eq

theorem addressOf_congr (same : after.current = before.current) (path : Path) :
    after.addressOf path = before.addressOf path := by
  rw [addressOf, addressOf, start, start, same]

theorem addressOf_child (notUp : name ≠ Path.upName) (disk : Disk) (path : Path) :
    disk.addressOf (path.child name) = disk.addressOf path ++ [name] := by
  rw [addressOf, Path.names_child, Path.follow_append, Path.follow_cons notUp]
  rfl

/-- The directory above the one that a path leads to. -/
theorem addressOf_child_up (disk : Disk) (path : Path) :
    disk.addressOf (path.child Path.upName) = (disk.addressOf path).dropLast := by
  rw [addressOf, Path.names_child, Path.follow_append, Path.follow_cons_up]
  rfl

theorem addressOf_prefix_of_isWithin (disk : Disk) (within : path.IsWithin base) :
    disk.addressOf base <+: disk.addressOf path := by
  rcases within with ⟨rest, noUp, rfl⟩
  have below : disk.addressOf { base with names := base.names ++ rest } =
      disk.addressOf base ++ rest := by
    rw [addressOf, Path.follow_append, Path.follow_of_up_notMem _ noUp]
    rfl
  rw [below]
  exact List.prefix_append _ _

/-- A path that leads to a directory leads through directories. -/
theorem exists_find_of_leadsThrough {above : Path} (linkless : disk.Linkless)
    (found : disk.find path = .ok (address, .directory)) (leads : path.LeadsThrough above) :
    ∃ there, disk.find above = .ok (there, .directory) := by
  rcases (find_eq_ok_iff linkless).mp found with ⟨usable, leadsTo⟩
  have aboveUsable := usable.of_leadsThrough leads
  rcases leads with ⟨sameSlashes, rest, names⟩
  have sameStart : disk.start above = disk.start path := by
    rw [start, start, Path.isAbsolute, Path.isAbsolute, sameSlashes]
  rw [LeadsTo, ← names] at leadsTo
  by_cases last : rest = []
  · rw [last, List.append_nil, ← sameStart] at leadsTo
    exact ⟨address, (find_eq_ok_iff linkless).mpr ⟨aboveUsable, leadsTo⟩⟩
  · rcases leadsTo.exists_of_append last with ⟨there, first, _⟩
    rw [← sameStart] at first
    exact ⟨there, (find_eq_ok_iff linkless).mpr ⟨aboveUsable, first⟩⟩

/-- A path that ends in two dots leads to a directory, if anywhere. -/
theorem eq_directory_of_find_up (linkless : disk.Linkless) (up : path.name = Path.upName)
    (found : disk.find path = .ok (address, entry)) : entry = .directory := by
  have leads := ((find_eq_ok_iff linkless).mp found).2
  rw [LeadsTo] at leads
  rcases List.eq_nil_or_concat path.names with none | ⟨front, last, names⟩
  · rw [none] at leads
    cases leads
    rfl
  · have isUp : last = Path.upName := by
      simpa [Path.name, names] using up
    rw [names, List.concat_eq_append, isUp] at leads
    rcases leads.exists_of_append (by simp) with ⟨middle, _, last⟩
    cases last with
    | up rest =>
        cases rest
        rfl
    | enter step => exact absurd rfl step.ne_up
    | entry step => exact absurd rfl step.ne_up

theorem name_ne_up_of_find (linkless : disk.Linkless)
    (found : disk.find path = .ok (address, entry)) (notDirectory : entry ≠ .directory) :
    path.name ≠ Path.upName :=
  fun up => notDirectory (eq_directory_of_find_up linkless up found)

/-- What names lead to is found at their last name in the directory that the others lead to. -/
theorem walkNames_append (leads : disk.Leads here front (.found directory .directory))
    (followLast : Bool) (jump : Address → List Text → Except DiskError Place) (back : List Text) :
    disk.walkNames followLast jump here (front ++ back) =
      disk.walkNames followLast jump directory back := by
  induction leads using Leads.directory_induction with
  | arrived => rfl
  | up _ ih => rw [List.cons_append, walkNames, if_pos rfl, ih]
  | enter step found _ ih =>
      simp only [List.cons_append, walkNames, if_neg step.ne_up,
        if_neg (Nat.not_lt.mpr step.short), found]
      exact ih

/-- On a disk without links a single name leads where it leads by what stands there. -/
theorem walkNames_singleton_congr (linkless : before.Linkless)
    (same : after.get? (here ++ [name]) = before.get? (here ++ [name])) (followLast : Bool)
    (jump otherJump : Address → List Text → Except DiskError Place) :
    after.walkNames followLast jump here [name] =
      before.walkNames followLast otherJump here [name] := by
  by_cases up : name = Path.upName
  · rw [up]
    rfl
  · simp only [walkNames, if_neg up, same]
    split
    · rfl
    · rcases stands : before.get? (here ++ [name]) with _ | _ | _ | target | _
      · rfl
      · rfl
      · rfl
      · exact absurd stands (linkless _ target)
      · rfl

/-- What the path of an entry of a directory finds depends on what stands there only. -/
theorem find_child_eq (linkless : before.Linkless) (keeps : KeepsDirectories before after)
    (found : before.find path = .ok (directory, .directory))
    (same : after.get? (directory ++ [name]) = before.get? (directory ++ [name])) :
    after.find (path.child name) = before.find (path.child name) := by
  have leads := ((find_eq_ok_iff linkless).mp found).2
  have afterLeads := leads.mono keeps
  have located : after.locate true (path.child name) = before.locate true (path.child name) := by
    have walked :
        after.walk true 41 (after.start (path.child name)) (path.child name).names =
          before.walk true 41 (before.start (path.child name)) (path.child name).names :=
      (walkNames_append afterLeads true _ [name]).trans
        ((walkNames_singleton_congr linkless same true _ _).trans
          (walkNames_append leads true _ [name]).symm)
    rw [start, start] at walked
    rw [locate, locate, walked]
  rw [find, find, located]

/-- The path of an entry of a directory finds it, unless the path cannot be used. -/
theorem find_child_cases (linkless : disk.Linkless) (notUp : name ≠ Path.upName)
    (found : disk.find path = .ok (directory, .directory))
    (there : disk.get? (directory ++ [name]) = some entry) :
    disk.find (path.child name) = .ok (directory ++ [name], entry) ∨
      disk.find (path.child name) = .error (.refused .nameTooLong) ∨
      disk.find (path.child name) = .error .unnameable := by
  have leads := ((find_eq_ok_iff linkless).mp found).2
  by_cases nameable : ((path.child name).names.any fun name => name.contains '\x00') = true
  · exact Or.inr (Or.inr (by rw [find, locate, if_pos nameable]))
  by_cases tooLong : longestPath < (Utf8.encode (path.child name).toText).length
  · exact Or.inr (Or.inl (by rw [find, locate, if_neg nameable, if_pos tooLong]))
  by_cases longName : longestName < (Utf8.encode name).length
  · have walked : disk.walk true 41 (disk.start (path.child name)) (path.child name).names =
        .error .nameTooLong := by
      refine (walkNames_append leads true _ [name]).trans ?_
      rw [walkNames, if_neg notUp, if_pos longName]
    rw [start] at walked
    exact Or.inr (Or.inl (by rw [find, locate, if_neg nameable, if_neg tooLong, walked]))
  · have step : Path.IsStep name := ⟨notUp, Nat.not_lt.mp longName⟩
    have last : disk.Leads directory [name] (.found (directory ++ [name]) entry) := by
      by_cases isDirectory : entry = .directory
      · rw [isDirectory] at there ⊢
        exact .enter step there .arrived
      · exact .entry step there isDirectory
    exact Or.inl ((find_eq_ok_iff linkless).mpr
      ⟨⟨Bool.eq_false_iff.mpr nameable, Nat.not_lt.mp tooLong⟩, leads.append last⟩)

/-- Where a disk has changed, a directory was made or a file was written at the end of a path. -/
theorem Changes.exists_of_get?_ne (changes : Changes made written before after)
    (linkless : before.Linkless) (changed : after.get? address ≠ before.get? address) :
    (∃ path, made path ∧ address = before.addressOf path ∧ before.get? address = none ∧
        after.get? address = some .directory) ∨
      ∃ path, written path ∧ address = before.addressOf path := by
  have afterLinkless := changes.linkless linkless
  cases changes.change address with
  | nothing same => exact absurd same changed
  | directory absent new isMade found =>
      refine Or.inl ⟨_, isMade, ?_, absent, new⟩
      rw [address_eq_of_find afterLinkless found, addressOf_congr changes.current_eq]
  | file _ _ isWritten found =>
      refine Or.inr ⟨_, isWritten, ?_⟩
      rw [address_eq_of_find afterLinkless found, addressOf_congr changes.current_eq]

/-- Where no file is written nothing changes, but a directory may be made that was missing. -/
theorem Changes.get?_eq_or_made (changes : Changes made written before after)
    (linkless : before.Linkless)
    (elsewhere : ∀ path, written path → before.addressOf path ≠ address) :
    after.get? address = before.get? address ∨
      (before.get? address = none ∧ after.get? address = some .directory) := by
  by_cases changed : after.get? address = before.get? address
  · exact Or.inl changed
  · rcases changes.exists_of_get?_ne linkless changed with
      ⟨_, _, _, absent, new⟩ | ⟨path, isWritten, rfl⟩
    · exact Or.inr ⟨absent, new⟩
    · exact absurd rfl (elsewhere path isWritten)

end Disk

end ScriptSite
