import ScriptSite.Proofs.Yaml.Shown

/-!
# The same value in two documents

Two documents may number their nodes differently, and still hold the same value: the numbers of the
collections can be related so that related collections hold the same values in the same order
(`Alike`). It does not matter whether a collection that stands at several places is one or several,
unless it is inside of itself. Values that are the same have the same text, whatever else the
documents hold (`textOf_eq_of_alike`).
-/

namespace ScriptSite.Yaml

theorem Collection.repeated_eq_of_shape {collection other : Collection}
    (same : collection.shape = other.shape) :
    Data.repeated collection = Data.repeated other := by
  cases collection <;> cases other <;> first | rfl | cases same

namespace Data

variable {left right : Data} {same : NodeId → NodeId → Prop} {value other : Value}
  {depth depthOther : Nat} {around aroundOther : List NodeId}

/-- Whether two values are the same if collections are related by their numbers. -/
inductive Related (same : NodeId → NodeId → Prop) : Value → Value → Prop
  | plain {value : Value} (plain : ∀ id, value ≠ .collection id) : Related same value value
  | collection {id other : NodeId} (related : same id other) :
      Related same (.collection id) (.collection other)

/-- Whether a collection is inside of itself. -/
def IsCyclic (data : Data) (id : NodeId) : Prop :=
  ∃ inner ∈ data.valuesAt id, data.Reaches [] inner (.collection id)

/-- Whether collections that are related by their numbers are the same: they have one shape, and the
same values in one order. Those that are inside of themselves are related to one collection only. -/
structure Matches (left right : Data) (same : NodeId → NodeId → Prop) : Prop where
  shape : ∀ {id other}, same id other → left.shapeAt id = right.shapeAt other
  values : ∀ {id other}, same id other →
    List.Forall₂ (Related same) (left.valuesAt id) (right.valuesAt other)
  right_eq : ∀ {id other another}, same id other → same id another → left.IsCyclic id →
    other = another
  left_eq : ∀ {id other another}, same id other → same another other → right.IsCyclic other →
    id = another

/-- Whether a value of one document is the same as a value of another one. -/
def Alike (left right : Data) (value other : Value) : Prop :=
  ∃ same, Matches left right same ∧ Related same value other

theorem alike_refl (data : Data) (value : Value) : Alike data data value value := by
  have related : ∀ value, Related Eq value value := by
    intro value
    cases value with
    | collection id => exact .collection rfl
    | _ => exact .plain (by simp)
  refine ⟨Eq, ⟨?_, ?_, ?_, ?_⟩, related value⟩
  · intro id other same
    rw [same]
  · intro id other same
    rw [same]
    exact List.forall₂_same.mpr fun value _ => related value
  · intro id other another first second _
    rw [← first, second]
  · intro id other another first second _
    rw [first, second]

theorem map_eq_map_of_forall₂ {R : Value → Value → Prop} {items others : List Value}
    {f g : Value → Option Text} (related : List.Forall₂ R items others)
    (each : ∀ item ∈ items, ∀ other ∈ others, R item other → f item = g other) :
    items.map f = others.map g := by
  induction related with
  | nil => rfl
  | cons first _ ih =>
      rw [List.map_cons, List.map_cons, each _ List.mem_cons_self _ List.mem_cons_self first]
      rw [ih fun item mem other otherMem =>
        each item (List.mem_cons_of_mem _ mem) other (List.mem_cons_of_mem _ otherMem)]

theorem exists_of_mem_left {id : NodeId} (related : List.Forall₂ same around aroundOther)
    (mem : id ∈ around) : ∃ other ∈ aroundOther, same id other := by
  induction related with
  | nil => cases mem
  | cons first _ ih =>
      rcases List.mem_cons.mp mem with rfl | mem
      · exact ⟨_, List.mem_cons_self, first⟩
      · rcases ih mem with ⟨other, otherMem, isSame⟩
        exact ⟨other, List.mem_cons_of_mem _ otherMem, isSame⟩

/-- Whether a value stands inside of each of some collections. -/
def IsInside (data : Data) (around : List NodeId) (value : Value) : Prop :=
  ∀ id ∈ around, ∃ inner ∈ data.valuesAt id, data.Reaches [] inner value

theorem IsInside.cons {data : Data} {id : NodeId} (isInside : data.IsInside around (.collection id))
    (mem : value ∈ data.valuesAt id) : data.IsInside (id :: around) value := by
  intro outer outerMem
  rcases List.mem_cons.mp outerMem with rfl | outerMem
  · exact ⟨value, mem, .refl value⟩
  · rcases isInside outer outerMem with ⟨inner, innerMem, reaches⟩
    exact ⟨inner, innerMem, reaches.trans (.inside List.not_mem_nil mem (.refl value))⟩

namespace Matches

/-- Of related collections both are around a place, or neither is. -/
theorem mem_iff (matching : Matches left right same) {id another : NodeId}
    (isSame : same id another) (related : List.Forall₂ same around aroundOther)
    (isInside : left.IsInside around (.collection id))
    (isInsideOther : right.IsInside aroundOther (.collection another)) :
    id ∈ around ↔ another ∈ aroundOther := by
  constructor
  · intro mem
    rcases exists_of_mem_left related mem with ⟨found, foundMem, foundSame⟩
    rwa [matching.right_eq isSame foundSame (isInside id mem)]
  · intro mem
    rcases exists_of_mem_left related.flip mem with ⟨found, foundMem, foundSame⟩
    rwa [matching.left_eq isSame foundSame (isInsideOther another mem)]

theorem shown_eq (matching : Matches left right same) (related : Related same value other)
    (enough : left.Enough depth around) (enoughOther : right.Enough depthOther aroundOther)
    (outer : List.Forall₂ same around aroundOther) (isInside : left.IsInside around value)
    (isInsideOther : right.IsInside aroundOther other) :
    left.shown depth around value = right.shown depthOther aroundOther other := by
  -- By the depth on the left. The collections around on both sides stay related, so one that stands
  -- inside of itself is shown as repeated on both sides or on neither.
  induction depth using Nat.strongRecOn generalizing depthOther around aroundOther value other with
  | ind depth ih =>
      cases related with
      | plain plain =>
          cases value with
          | collection id => exact absurd rfl (plain id)
          | _ => simp [shown]
      | @collection id another isSame =>
          have shape := matching.shape isSame
          have values := matching.values isSame
          have mem_iff := matching.mem_iff isSame outer isInside isInsideOther
          rcases holds : left.collection? id with _ | collection
          · have absent : right.collection? another = none := by
              simpa [shapeAt, holds] using shape.symm
            rw [shown_of_absent holds, shown_of_absent absent]
          · rcases holdsOther : right.collection? another with _ | counterpart
            · simp [shapeAt, holds, holdsOther] at shape
            · have sameShape : collection.shape = counterpart.shape := by
                simpa [shapeAt, holds, holdsOther] using shape
              by_cases mem : id ∈ around
              · rw [shown_of_mem mem holds, shown_of_mem (mem_iff.mp mem) holdsOther,
                  Collection.repeated_eq_of_shape sameShape]
              · have notMem : another ∉ aroundOther := fun otherMem => mem (mem_iff.mpr otherMem)
                rcases enough.next mem (by simp [holds]) with ⟨fewer, rfl, enoughInside⟩
                rcases enoughOther.next notMem (by simp [holdsOther]) with
                  ⟨fewerOther, rfl, enoughInsideOther⟩
                rw [shown_of_notMem mem holds, shown_of_notMem notMem holdsOther]
                apply shownCollection_congr sameShape
                rw [← valuesAt_of_holds holds, ← valuesAt_of_holds holdsOther]
                apply map_eq_map_of_forall₂ values
                intro inner innerMem innerOther innerOtherMem innerRelated
                exact ih fewer (Nat.lt_succ_self fewer) innerRelated enoughInside enoughInsideOther
                  (.cons isSame outer) (isInside.cons innerMem) (isInsideOther.cons innerOtherMem)

theorem shown_eq_nil (matching : Matches left right same) (related : Related same value other) :
    left.shown (left.collections.length + 1) [] value =
      right.shown (right.collections.length + 1) [] other :=
  matching.shown_eq related (enough_nil left) (enough_nil right) .nil (by simp [IsInside])
    (by simp [IsInside])

theorem textOf_eq (matching : Matches left right same) (related : Related same value other) :
    left.textOf value = right.textOf other := by
  have shown := matching.shown_eq_nil related
  cases related with
  | plain plain =>
      cases value with
      | text | date | moment => rfl
      | _ => exact shown
  | collection => exact shown

end Matches

/-- Values that are the same have the same text. -/
theorem textOf_eq_of_alike (alike : Alike left right value other) :
    left.textOf value = right.textOf other := by
  rcases alike with ⟨same, matching, related⟩
  exact matching.textOf_eq related

end Data

end ScriptSite.Yaml
