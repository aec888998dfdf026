import Mathlib.Data.List.Perm.Subperm
import ScriptSite.Yaml.SetOrder

/-!
# How values are shown

A value is shown with all that can be reached from it, and a collection is not shown again inside of
itself. There are never more collections around a place than a document has, so the depth that a
value is shown to is always enough (`Enough.next`). Only integers can have too many digits, so a
value has no text exactly if such an integer can be reached from it (`textOf_eq_none_iff`). A set
shows the members that are written, though not always in their order (`perm_setOrder`).
-/

namespace ScriptSite.Yaml

/-- What a collection is, apart from its values. -/
inductive Shape
  | sequence
  | pairs
  | mapping
  | set
  deriving DecidableEq

namespace Collection

def shape : Collection → Shape
  | .sequence _ => .sequence
  | .pairs _ => .pairs
  | .mapping _ => .mapping
  | .set _ => .set

/-- The values in a collection, those of an entry one after the other. -/
def values : Collection → List Value
  | .sequence items | .set items => items
  | .pairs entries | .mapping entries => entries.flatMap fun entry => [entry.1, entry.2]

end Collection

theorem mapM_eq_of_map_eq {α β γ : Type} {f : α → Option γ} {g : β → Option γ} {items : List α}
    {others : List β} (same : items.map f = others.map g) : items.mapM f = others.mapM g := by
  induction items generalizing others with
  | nil =>
      have none : others = [] := by
        simpa using same.symm
      simp [none]
  | cons item items ih =>
      cases others with
      | nil => simp at same
      | cons other others =>
          simp only [List.map_cons, List.cons.injEq] at same
          simp [List.mapM_cons, same.1, ih same.2]

theorem mapM_eq_none_iff {α β : Type} {f : α → Option β} {items : List α} :
    items.mapM f = none ↔ ∃ item ∈ items, f item = none := by
  induction items with
  | nil => simp
  | cons item items ih =>
      rw [List.mapM_cons, List.exists_mem_cons_iff, ← ih]
      cases f item <;> cases items.mapM f <;> simp

namespace Data

open Collection

variable {data left right : Data} {collection other : Collection} {value found : Value}
  {shown shownOther : Value → Option Text} {depth : Nat} {around : List NodeId} {id : NodeId}

theorem map_eq_of_flatMap_eq {entries others : List (Value × Value)} {γ : Type}
    (layout : Option Text → Option Text → γ)
    (same : (entries.flatMap fun entry => [entry.1, entry.2]).map shown =
      (others.flatMap fun entry => [entry.1, entry.2]).map shownOther) :
    entries.map (fun entry => layout (shown entry.1) (shown entry.2)) =
      others.map fun entry => layout (shownOther entry.1) (shownOther entry.2) := by
  induction entries generalizing others with
  | nil => cases others <;> simp at same ⊢
  | cons entry entries ih =>
      cases others with
      | nil => simp at same
      | cons other others =>
          simp only [List.flatMap_cons, List.map_cons, List.cons_append, List.nil_append,
            List.cons.injEq] at same
          simp [same.1, same.2.1, ih same.2.2]

theorem map_shownPair_eq {entries others : List (Value × Value)}
    (same : (pairs entries).values.map shown = (pairs others).values.map shownOther) :
    entries.map (shownPair shown) = others.map (shownPair shownOther) :=
  map_eq_of_flatMap_eq (fun first second => do return listed ['('] [← first, ← second] [')']) same

theorem map_shownEntry_eq {entries others : List (Value × Value)}
    (same : (mapping entries).values.map shown = (mapping others).values.map shownOther) :
    entries.map (shownEntry shown) = others.map (shownEntry shownOther) :=
  map_eq_of_flatMap_eq (fun first second => do return (← first) ++ ':' :: ' ' :: (← second)) same

theorem shownPair_eq_none_iff {entry : Value × Value} :
    shownPair shown entry = none ↔ shown entry.1 = none ∨ shown entry.2 = none := by
  cases first : shown entry.1 <;> cases second : shown entry.2 <;> simp [shownPair, first, second]

theorem shownEntry_eq_none_iff {entry : Value × Value} :
    shownEntry shown entry = none ↔ shown entry.1 = none ∨ shown entry.2 = none := by
  cases first : shown entry.1 <;> cases second : shown entry.2 <;> simp [shownEntry, first, second]

/-- What a collection is shown as depends on its shape and on what its values are shown as. -/
theorem shownCollection_congr (sameShape : collection.shape = other.shape)
    (same : collection.values.map shown = other.values.map shownOther) :
    shownCollection shown collection = shownCollection shownOther other := by
  cases collection with
  | sequence items =>
      cases other with
      | sequence others =>
          have each : items.mapM shown = others.mapM shownOther := mapM_eq_of_map_eq same
          simp [shownCollection, each]
      | _ => cases sameShape
  | pairs entries =>
      cases other with
      | pairs others =>
          have each : entries.mapM (shownPair shown) = others.mapM (shownPair shownOther) :=
            mapM_eq_of_map_eq (map_shownPair_eq same)
          simp [shownCollection, each]
      | _ => cases sameShape
  | mapping entries =>
      cases other with
      | mapping others =>
          have each : entries.mapM (shownEntry shown) = others.mapM (shownEntry shownOther) :=
            mapM_eq_of_map_eq (map_shownEntry_eq same)
          simp [shownCollection, each]
      | _ => cases sameShape
  | set items =>
      cases other with
      | set others =>
          have each : items.mapM shown = others.mapM shownOther := mapM_eq_of_map_eq same
          cases items with
          | nil =>
              have none : others = [] := by
                simpa [values] using same.symm
              simp [none, shownCollection]
          | cons item items =>
              cases others with
              | nil => simp [values] at same
              | cons other others => simp only [shownCollection, each]
      | _ => cases sameShape

theorem exists_mem_flatMap_iff {entries : List (Value × Value)} {p : Value → Prop} :
    (∃ value ∈ entries.flatMap fun entry => [entry.1, entry.2], p value) ↔
      ∃ entry ∈ entries, p entry.1 ∨ p entry.2 := by
  constructor
  · rintro ⟨value, mem, holds⟩
    rcases List.mem_flatMap.mp mem with ⟨entry, entryMem, inside⟩
    refine ⟨entry, entryMem, ?_⟩
    rcases List.mem_pair.mp inside with rfl | rfl
    · exact Or.inl holds
    · exact Or.inr holds
  · rintro ⟨entry, entryMem, holds | holds⟩
    · exact ⟨_, List.mem_flatMap.mpr ⟨entry, entryMem, by simp⟩, holds⟩
    · exact ⟨_, List.mem_flatMap.mpr ⟨entry, entryMem, by simp⟩, holds⟩

theorem shownCollection_eq_none_iff :
    shownCollection shown collection = none ↔ ∃ value ∈ collection.values, shown value = none := by
  cases collection with
  | sequence items => simp only [shownCollection, values, Option.map_eq_none_iff, mapM_eq_none_iff]
  | pairs entries =>
      simp only [shownCollection, values, Option.map_eq_none_iff, mapM_eq_none_iff,
        shownPair_eq_none_iff, exists_mem_flatMap_iff]
  | mapping entries =>
      simp only [shownCollection, values, Option.map_eq_none_iff, mapM_eq_none_iff,
        shownEntry_eq_none_iff, exists_mem_flatMap_iff]
  | set items =>
      cases items with
      | nil => simp [shownCollection, values]
      | cons item items =>
          simp only [shownCollection, values, Option.map_eq_none_iff, mapM_eq_none_iff]

/-- Whether a depth is enough for showing the values inside of the collections `around`. -/
structure Enough (data : Data) (depth : Nat) (around : List NodeId) : Prop where
  distinct : around.Nodup
  built : ∀ id ∈ around, (data.collection? id).isSome = true
  below : data.collections.length < depth + around.length

theorem enough_nil (data : Data) : data.Enough (data.collections.length + 1) [] where
  distinct := List.nodup_nil
  built := by simp
  below := by simp

theorem mem_of_collection? (built : (data.collection? id).isSome = true) :
    id ∈ data.collections.map Prod.fst := by
  rw [collection?, List.lookup_isSome_iff] at built
  simpa using built

/-- There are fewer collections around a place than there are in all, so one more can be shown. -/
theorem Enough.next (enough : data.Enough depth around) (new : id ∉ around)
    (built : (data.collection? id).isSome = true) :
    ∃ fewer, depth = fewer + 1 ∧ data.Enough fewer (id :: around) := by
  have distinct : (id :: around).Nodup := List.nodup_cons.mpr ⟨new, enough.distinct⟩
  have allBuilt : ∀ other ∈ id :: around, (data.collection? other).isSome = true := by
    intro other mem
    rcases List.mem_cons.mp mem with rfl | mem
    · exact built
    · exact enough.built other mem
  have inside : (id :: around).length ≤ (data.collections.map Prod.fst).length := by
    apply List.Subperm.length_le
    apply distinct.subperm
    intro other mem
    exact mem_of_collection? (allBuilt other mem)
  have below := enough.below
  simp only [List.length_cons, List.length_map] at inside
  refine ⟨depth - 1, by omega, distinct, allBuilt, ?_⟩
  simp only [List.length_cons]
  omega

theorem shown_of_absent (absent : data.collection? id = none) :
    data.shown depth around (.collection id) = some [] := by
  cases depth <;> simp [shown, absent]

theorem shown_of_mem (mem : id ∈ around) (holds : data.collection? id = some collection) :
    data.shown depth around (.collection id) = some (repeated collection) := by
  cases depth <;> simp [shown, holds, mem]

theorem shown_of_notMem (new : id ∉ around) (holds : data.collection? id = some collection) :
    data.shown (depth + 1) around (.collection id) =
      shownCollection (data.shown depth (id :: around)) collection := by
  simp [shown, holds, new]

def shapeAt (data : Data) (id : NodeId) : Option Shape :=
  (data.collection? id).map Collection.shape

def valuesAt (data : Data) (id : NodeId) : List Value :=
  (data.collection? id).elim [] Collection.values

theorem valuesAt_of_holds (holds : data.collection? id = some collection) :
    data.valuesAt id = collection.values := by
  simp [valuesAt, holds]

/-- Whether a value is reached from another one without entering the collections `around`. -/
inductive Reaches (data : Data) (around : List NodeId) : Value → Value → Prop
  | refl (value : Value) : Reaches data around value value
  | inside {id : NodeId} {inner value : Value} (new : id ∉ around) (mem : inner ∈ data.valuesAt id)
      (reaches : Reaches data around inner value) : Reaches data around (.collection id) value

namespace Reaches

theorem trans {middle : Value} (first : data.Reaches around value middle)
    (second : data.Reaches around middle found) : data.Reaches around value found := by
  induction first with
  | refl => exact second
  | inside new mem _ ih => exact .inside new mem (ih second)

theorem mono (reaches : data.Reaches (id :: around) value found) :
    data.Reaches around value found := by
  induction reaches with
  | refl value => exact .refl value
  | inside new mem _ ih => exact .inside (fun old => new (List.mem_cons_of_mem _ old)) mem ih

theorem eq_of_plain (reaches : data.Reaches around value found)
    (plain : ∀ id, value ≠ .collection id) : found = value := by
  cases reaches with
  | refl => rfl
  | inside => exact absurd rfl (plain _)

/-- What is reached at all is reached without entering a collection, or from one of its values. -/
theorem avoid (reaches : data.Reaches around value found) (id : NodeId) :
    data.Reaches (id :: around) value found ∨
      ∃ inner ∈ data.valuesAt id, data.Reaches (id :: around) inner found := by
  induction reaches with
  | refl value => exact Or.inl (.refl value)
  | @inside entered inner _ new mem _ ih =>
      rcases ih with reaches | elsewhere
      · by_cases same : entered = id
        · subst same
          exact Or.inr ⟨inner, mem, reaches⟩
        · refine Or.inl (.inside ?_ mem reaches)
          simp [same, new]
      · exact Or.inr elsewhere

end Reaches

theorem reaches_collection_iff (new : id ∉ around) (different : found ≠ .collection id) :
    data.Reaches around (.collection id) found ↔
      ∃ inner ∈ data.valuesAt id, data.Reaches (id :: around) inner found := by
  constructor
  · intro reaches
    rcases reaches.avoid id with reaches | elsewhere
    · cases reaches with
      | refl => exact absurd rfl different
      | inside new => simp at new
    · exact elsewhere
  · rintro ⟨inner, mem, reaches⟩
    exact .inside new mem reaches.mono

def IsLong (number : Int) : Prop :=
  Number.mostDigits < (Text.ofNat number.natAbs).length

/-- Whether there is an integer in a value with more digits than are written. -/
def HoldsLong (data : Data) (value : Value) : Prop :=
  ∃ number, data.Reaches [] value (.integer number) ∧ IsLong number

theorem shown_eq_none_iff_of_plain (plain : ∀ id, value ≠ .collection id) :
    data.shown depth around value = none ↔ ∃ number, value = .integer number ∧ IsLong number := by
  cases value with
  | collection id => exact absurd rfl (plain id)
  | integer number => simp [shown, shownInteger, IsLong]
  | _ => simp [shown]

theorem shown_eq_none_iff (enough : data.Enough depth around) :
    data.shown depth around value = none ↔
      ∃ number, data.Reaches around value (.integer number) ∧ IsLong number := by
  -- By the depth that is left. A collection around the place is shown by its brackets alone, and is
  -- not entered on the way to an integer either; entering another one uses up some depth.
  induction depth using Nat.strongRecOn generalizing around value with
  | ind depth ih =>
      by_cases plain : ∀ id, value ≠ .collection id
      · rw [shown_eq_none_iff_of_plain plain]
        constructor
        · rintro ⟨number, rfl, long⟩
          exact ⟨number, .refl _, long⟩
        · rintro ⟨number, reaches, long⟩
          exact ⟨number, (reaches.eq_of_plain plain).symm, long⟩
      · push Not at plain
        rcases plain with ⟨id, rfl⟩
        rcases holds : data.collection? id with _ | collection
        · simp only [shown_of_absent holds, reduceCtorEq, false_iff]
          rintro ⟨number, reaches, _⟩
          cases reaches with
          | inside _ mem => simp [valuesAt, holds] at mem
        · by_cases mem : id ∈ around
          · simp only [shown_of_mem mem holds, reduceCtorEq, false_iff]
            rintro ⟨number, reaches, _⟩
            cases reaches with
            | inside new => exact new mem
          · rcases enough.next mem (by simp [holds]) with ⟨fewer, rfl, enoughInside⟩
            have through : ∀ number, data.Reaches around (.collection id) (.integer number) ↔
                ∃ inner ∈ collection.values,
                  data.Reaches (id :: around) inner (.integer number) := by
              intro number
              rw [← valuesAt_of_holds holds]
              exact reaches_collection_iff mem (by simp)
            rw [shown_of_notMem mem holds, shownCollection_eq_none_iff]
            simp only [ih fewer (Nat.lt_succ_self fewer) enoughInside, through]
            constructor
            · rintro ⟨inner, innerMem, number, reaches, long⟩
              exact ⟨number, ⟨inner, innerMem, reaches⟩, long⟩
            · rintro ⟨number, ⟨inner, innerMem, reaches⟩, long⟩
              exact ⟨inner, innerMem, number, reaches, long⟩

/-- A value has no text exactly if an integer in it has too many digits. -/
theorem textOf_eq_none_iff : data.textOf value = none ↔ data.HoldsLong value := by
  rw [HoldsLong, ← shown_eq_none_iff (enough_nil data)]
  cases value <;> simp [textOf, shown]

theorem pairText_eq_none_iff {entry : Value × Value} :
    data.pairText entry = none ↔ data.HoldsLong entry.1 ∨ data.HoldsLong entry.2 := by
  simp only [pairText, shownPair_eq_none_iff, shown_eq_none_iff (enough_nil data), HoldsLong]

theorem holdsLong_collection_iff :
    data.HoldsLong (.collection id) ↔ ∃ inner ∈ data.valuesAt id, data.HoldsLong inner := by
  constructor
  · rintro ⟨number, reaches, long⟩
    cases reaches with
    | inside _ mem reaches => exact ⟨_, mem, number, reaches, long⟩
  · rintro ⟨inner, mem, number, reaches, long⟩
    exact ⟨number, .inside List.not_mem_nil mem reaches, long⟩

end Data

theorem SetTable.perm_fill (size : Nat) (table : List (Nat × Value))
    (hashed : List (Value × Int)) :
    ((fill size table hashed).map Prod.snd).Perm
      (hashed.map Prod.fst ++ table.map Prod.snd) := by
  induction hashed generalizing table with
  | nil => exact .refl _
  | cons first rest ih => exact (ih _).trans List.perm_middle

theorem map_fst_eq_of_mapM {f : Value → Option Int} {members : List Value}
    {hashed : List (Value × Int)}
    (isHashed : (members.mapM fun member => (f member).map fun hash => (member, hash)) =
      some hashed) : hashed.map Prod.fst = members := by
  induction members generalizing hashed with
  | nil =>
      have none : hashed = [] := by
        simpa using isHashed.symm
      simp [none]
  | cons member members ih =>
      rw [List.mapM_cons] at isHashed
      simp only [Option.bind_eq_bind, Option.bind_eq_some_iff, Option.map_eq_some_iff] at isHashed
      rcases isHashed with ⟨_, ⟨hash, _, rfl⟩, rest, isRest, same⟩
      cases same
      simp [ih isRest]

/-- A set shows all of its members and nothing else, in whatever order. -/
theorem perm_setOrder (members : List Value) : (setOrder members).Perm members := by
  rw [setOrder]
  split
  · exact .refl _
  · rename_i hashed isHashed
    have sameMembers := map_fst_eq_of_mapM isHashed
    have filled := SetTable.perm_fill (SetTable.size members.length) [] hashed
    rw [List.map_nil, List.append_nil, sameMembers] at filled
    exact ((List.mergeSort_perm _ _).map Prod.snd).trans filled

end ScriptSite.Yaml
