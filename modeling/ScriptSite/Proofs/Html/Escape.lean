import ScriptSite.Html.Escape
import ScriptSite.Proofs.Text.Search
import ScriptSite.Proofs.Text.Trim

/-!
# Reading escaped texts back

Escaping writes each character of a text on its own: as an entity, or as it is
(`codeEntity_cases`, `textEntity_cases`). The only ampersands that it leaves begin entities
(`exists_entity_of_ampersand`), so one pass from left to right reads the text back
(`decodeCodeEntities_escapeCode`), also with a table that has more entities than escaping writes
(`IsTable.decodeWith_escape`), and no bracket is left in it.

A text in which no entity of a table occurs stands for itself, and no other text does
(`decodeWith_eq_self_iff`).
-/

namespace ScriptSite.Html

variable {c : Char} {text : Text} {known : List (Text × Char)}

/-- A character of a code is written as its entity, or as it is. -/
theorem codeEntity_cases (c : Char) :
    (codeEntity c, c) ∈ entities.take 3 ∨ codeEntity c = [c] ∧ c ≠ '&' ∧ c ≠ '<' ∧ c ≠ '>' := by
  by_cases ampersand : c = '&'
  · subst ampersand
    exact Or.inl (by decide)
  by_cases less : c = '<'
  · subst less
    exact Or.inl (by decide)
  by_cases greater : c = '>'
  · subst greater
    exact Or.inl (by decide)
  exact Or.inr ⟨by simp [codeEntity, ampersand, less, greater], ampersand, less, greater⟩

/-- A character of a text is written as its entity, or as it is. -/
theorem textEntity_cases (c : Char) :
    (textEntity c, c) ∈ entities ∨ textEntity c = [c] ∧ c ≠ '&' ∧ c ≠ '<' := by
  by_cases double : c = '"'
  · subst double
    exact Or.inl (by decide)
  by_cases single : c = '\''
  · subst single
    exact Or.inl (by decide)
  have plain : textEntity c = codeEntity c := by simp [textEntity, double, single]
  rw [plain]
  rcases codeEntity_cases c with isEntity | ⟨same, noAmpersand, noLess, _⟩
  · exact Or.inl (List.mem_of_mem_take isEntity)
  · exact Or.inr ⟨same, noAmpersand, noLess⟩

theorem bracket_notMem_codeEntity (c : Char) : '<' ∉ codeEntity c ∧ '>' ∉ codeEntity c := by
  rcases codeEntity_cases c with isEntity | ⟨same, _, noLess, noGreater⟩
  · have each : ∀ known ∈ entities.take 3, '<' ∉ known.1 ∧ '>' ∉ known.1 := by decide
    exact each _ isEntity
  · rw [same, List.mem_singleton, List.mem_singleton]
    exact ⟨Ne.symm noLess, Ne.symm noGreater⟩

theorem lt_notMem_escapeCode (code : Text) : '<' ∉ escapeCode code := by
  intro mem
  rcases List.mem_flatMap.mp mem with ⟨c, _, inside⟩
  exact (bracket_notMem_codeEntity c).1 inside

theorem gt_notMem_escapeCode (code : Text) : '>' ∉ escapeCode code := by
  intro mem
  rcases List.mem_flatMap.mp mem with ⟨c, _, inside⟩
  exact (bracket_notMem_codeEntity c).2 inside

theorem lt_notMem_escape (text : Text) : '<' ∉ escape text := by
  intro mem
  rcases List.mem_flatMap.mp mem with ⟨c, _, inside⟩
  rcases textEntity_cases c with isEntity | ⟨same, _, noLess⟩
  · have each : ∀ known ∈ entities, '<' ∉ known.1 := by decide
    exact each _ isEntity inside
  · rw [same, List.mem_singleton] at inside
    exact noLess inside.symm

/-- What is written for a character has an ampersand at its front only, and then it is an entity. -/
theorem eq_nil_of_codeEntity_eq {before after : Text}
    (stands : codeEntity c = before ++ '&' :: after) :
    before = [] ∧ (codeEntity c, c) ∈ entities.take 3 := by
  rcases codeEntity_cases c with isEntity | ⟨same, noAmpersand, _, _⟩
  · refine ⟨?_, isEntity⟩
    have atFront : ∀ known ∈ entities.take 3, '&' ∉ known.1.tail := by decide
    cases before with
    | nil => rfl
    | cons first before => exact absurd (by simp [stands]) (atFront _ isEntity)
  · rw [same, List.singleton_eq_append_iff] at stands
    simp [Ne.symm noAmpersand] at stands

/-- An ampersand in an escaped code begins an entity. -/
theorem exists_entity_of_ampersand {code before after : Text}
    (stands : escapeCode code = before ++ '&' :: after) :
    ∃ known ∈ entities.take 3, known.1 <+: '&' :: after := by
  induction code generalizing before with
  | nil => simp [escapeCode] at stands
  | cons c code ih =>
      have whole : codeEntity c ++ escapeCode code = before ++ '&' :: after := stands
      rcases List.append_eq_append_iff.mp whole with ⟨more, _, later⟩ | ⟨more, entity, later⟩
      · exact ih later
      · cases more with
        | nil => exact ih (show escapeCode code = [] ++ '&' :: after by simpa using later.symm)
        | cons first more =>
            rw [List.cons_append, List.cons.injEq] at later
            rw [← later.1] at entity
            rcases eq_nil_of_codeEntity_eq entity with ⟨rfl, isEntity⟩
            refine ⟨_, isEntity, escapeCode code, ?_⟩
            rw [entity, later.2]
            rfl

/-- What is written for each character of a text is read back if one step reads back what is written
for one character. -/
theorem decodeWith_flatMap {encode : Char → Text} (nonempty : ∀ c, encode c ≠ [])
    (step : ∀ c steps rest, decodeWith known (steps + 1) (encode c ++ rest) =
      c :: decodeWith known steps rest) (text : Text) {steps : Nat}
    (enough : (text.flatMap encode).length ≤ steps) :
    decodeWith known steps (text.flatMap encode) = text := by
  induction text generalizing steps with
  | nil => cases steps <;> rfl
  | cons c text ih =>
      have positive := List.length_pos_iff.mpr (nonempty c)
      rw [List.flatMap_cons, List.length_append] at enough
      obtain ⟨steps, rfl⟩ : ∃ fewer, steps = fewer + 1 := ⟨steps - 1, by omega⟩
      rw [List.flatMap_cons, step, ih (by omega)]

/-- An entity begins with an ampersand, so nothing else is taken for one. -/
theorem leadingEntity?_of_ne (marked : ∀ entity ∈ known, entity.1.head? = some '&')
    (plain : c ≠ '&')
    (rest : Text) : leadingEntity? known (c :: rest) = none := by
  rw [leadingEntity?, List.findSome?_eq_none_iff]
  rintro ⟨entity, d⟩ mem
  have begins := marked _ mem
  cases entity with
  | nil => simp at begins
  | cons e entity =>
      rw [List.head?_cons, Option.some.injEq] at begins
      subst begins
      simp [Text.dropPrefix?, Ne.symm plain]

theorem decodeWith_codeEntity_append (c : Char) (steps : Nat) (rest : Text) :
    decodeWith (entities.take 3) (steps + 1) (codeEntity c ++ rest) =
      c :: decodeWith (entities.take 3) steps rest := by
  rcases codeEntity_cases c with isEntity | ⟨same, noAmpersand, _, _⟩
  · generalize codeEntity c = written at isEntity
    simp only [entities, List.take, List.mem_cons, Prod.mk.injEq, List.not_mem_nil, or_false]
      at isEntity
    rcases isEntity with ⟨rfl, rfl⟩ | ⟨rfl, rfl⟩ | ⟨rfl, rfl⟩ <;> rfl
  · rw [same, List.singleton_append, decodeWith, leadingEntity?_of_ne (by decide) noAmpersand]

/-- Reading the entities of an escaped code gives the code back. -/
theorem decodeCodeEntities_escapeCode (code : Text) :
    decodeCodeEntities (escapeCode code) = code := by
  refine decodeWith_flatMap (fun c none => ?_) decodeWith_codeEntity_append code (Nat.le_refl _)
  have read := decodeWith_codeEntity_append c 0 []
  simp [none, decodeWith] at read

theorem exists_of_leadingEntity? {after : Text}
    (found : leadingEntity? known text = some (c, after)) :
    ∃ entity, (entity, c) ∈ known ∧ text = entity ++ after := by
  rw [leadingEntity?] at found
  rcases List.exists_of_findSome?_eq_some found with ⟨⟨entity, d⟩, mem, begins⟩
  rcases Option.map_eq_some_iff.mp begins with ⟨rest, dropped, same⟩
  rw [Prod.mk.injEq] at same
  rcases same with ⟨rfl, rfl⟩
  exact ⟨entity, mem, Text.dropPrefix?_eq_some_iff.mp dropped⟩

theorem leadingEntity?_eq_none_iff :
    leadingEntity? known text = none ↔ ∀ entity ∈ known, ¬entity.1 <+: text := by
  simp only [leadingEntity?, List.findSome?_eq_none_iff, Option.map_eq_none_iff,
    Text.dropPrefix?_eq_none_iff]

/-- A table of entities: each of them is a name between an ampersand and a semicolon that stands for
one character, and those that escaping writes are in it. -/
structure IsTable (known : List (Text × Char)) : Prop where
  spelled : ∀ entity ∈ known, ∃ name : Text, entity.1 = '&' :: (name ++ [';']) ∧
    ∀ c ∈ name, c.isAlphanum = true ∨ c = '#'
  single : ∀ text c d, (text, c) ∈ known → (text, d) ∈ known → c = d
  escapes : ∀ entity ∈ entities, entity ∈ known

theorem isTable_entities : IsTable entities where
  spelled := by
    have each : ∀ entity ∈ entities, entity.1 = '&' :: (entity.1.tail.dropLast ++ [';']) ∧
        entity.1.tail.dropLast.all (fun c => c.isAlphanum || c = '#') = true := by decide
    intro entity mem
    refine ⟨entity.1.tail.dropLast, (each entity mem).1, ?_⟩
    simpa only [List.all_eq_true, Bool.or_eq_true, decide_eq_true_eq] using (each entity mem).2
  single := by
    have each : ∀ entity ∈ entities, ∀ other ∈ entities,
        entity.1 = other.1 → entity.2 = other.2 := by
      decide
    exact fun text c d first second => each _ first _ second rfl
  escapes := fun _ mem => mem

namespace IsTable

variable {entity : Text}

theorem longer (table : IsTable known) : ∀ entity ∈ known, 1 < entity.1.length := by
  intro entity mem
  rcases table.spelled entity mem with ⟨name, spelled, _⟩
  simp [spelled]

theorem head? (table : IsTable known) : ∀ entity ∈ known, entity.1.head? = some '&' := by
  intro entity mem
  rcases table.spelled entity mem with ⟨name, spelled, _⟩
  simp [spelled]

/-- A character that is not in the names of entities is in no entity. -/
theorem notMem (table : IsTable known) (mem : (entity, c) ∈ known) {d : Char}
    (special : d ∉ ['&', ';', '#']) (noName : d.isAlphanum = false) : d ∉ entity := by
  rcases table.spelled _ mem with ⟨name, spelled, each⟩
  simp only at spelled
  simp only [List.mem_cons, List.not_mem_nil, or_false, not_or] at special
  rw [spelled, List.mem_cons, List.mem_append, List.mem_singleton]
  rintro (ampersand | inName | semicolon)
  · exact special.1 ampersand
  · rcases each d inName with alphanum | hash
    · simp [noName] at alphanum
    · exact special.2.2 hash
  · exact special.2.1 semicolon

/-- An entity ends with its semicolon, so no other one is read in its place. -/
theorem leadingEntity?_append (table : IsTable known) (mem : (entity, c) ∈ known) (rest : Text) :
    leadingEntity? known (entity ++ rest) = some (c, rest) := by
  rcases found : leadingEntity? known (entity ++ rest) with _ | ⟨d, after⟩
  · exact absurd (List.prefix_append entity rest) (leadingEntity?_eq_none_iff.mp found _ mem)
  · rcases exists_of_leadingEntity? found with ⟨other, otherMem, whole⟩
    have noSemicolon : ∀ name : Text, (∀ c ∈ name, c.isAlphanum = true ∨ c = '#') → ';' ∉ name := by
      intro name each inName
      simpa using each ';' inName
    rcases table.spelled _ mem with ⟨name, spelled, each⟩
    rcases table.spelled _ otherMem with ⟨otherName, otherSpelled, otherEach⟩
    simp only at spelled otherSpelled
    rw [spelled, otherSpelled, List.cons_append, List.cons_append, List.cons.injEq,
      List.append_assoc, List.append_assoc] at whole
    rcases Text.eq_of_append_cons (noSemicolon name each) (noSemicolon otherName otherEach)
      whole.2 with ⟨rfl, rfl⟩
    rw [spelled, ← otherSpelled] at mem
    rw [table.single _ c d mem otherMem]
    rfl

theorem decodeWith_textEntity_append (table : IsTable known) (c : Char) (steps : Nat)
    (rest : Text) :
    decodeWith known (steps + 1) (textEntity c ++ rest) = c :: decodeWith known steps rest := by
  rcases textEntity_cases c with isEntity | ⟨same, noAmpersand, _⟩
  · have found := table.leadingEntity?_append (table.escapes _ isEntity) rest
    have long := table.longer _ (table.escapes _ isEntity)
    rcases shape : textEntity c with _ | ⟨first, others⟩
    · simp [shape] at long
    · rw [shape] at found
      rw [List.cons_append, decodeWith, ← List.cons_append, found]
  · rw [same, List.singleton_append, decodeWith, leadingEntity?_of_ne table.head? noAmpersand]

/-- Reading the entities of an escaped text gives the text back. -/
theorem decodeWith_escape (table : IsTable known) (text : Text) :
    decodeWith known (escape text).length (escape text) = text := by
  refine decodeWith_flatMap (fun c none => ?_) table.decodeWith_textEntity_append text
    (Nat.le_refl _)
  have read := table.decodeWith_textEntity_append c 0 []
  simp [none, decodeWith] at read

end IsTable

theorem decodeEntities_escape (text : Text) : decodeEntities (escape text) = text :=
  isTable_entities.decodeWith_escape text

theorem length_decodeWith_le (longer : ∀ entity ∈ known, 1 < entity.1.length) (steps : Nat)
    (text : Text) : (decodeWith known steps text).length ≤ text.length := by
  induction steps generalizing text with
  | zero => exact Nat.le_refl _
  | succ steps ih =>
      cases text with
      | nil => exact Nat.le_refl _
      | cons c rest =>
          rw [decodeWith]
          split
          · rename_i d after found
            rcases exists_of_leadingEntity? found with ⟨entity, mem, whole⟩
            have long : 1 < entity.length := longer _ mem
            have shorter := ih after
            simp only [whole, List.length_append, List.length_cons]
            omega
          · exact Nat.succ_le_succ (ih rest)

/-- A text in which an entity occurs gets shorter. -/
theorem length_decodeWith_lt (longer : ∀ entity ∈ known, 1 < entity.1.length) {steps : Nat}
    (enough : text.length ≤ steps) {entity : Text × Char} (mem : entity ∈ known)
    (occurs : entity.1 <:+: text) : (decodeWith known steps text).length < text.length := by
  induction steps generalizing text with
  | zero =>
      rw [List.length_eq_zero_iff.mp (Nat.le_zero.mp enough), List.infix_nil] at occurs
      simpa [occurs] using longer _ mem
  | succ steps ih =>
      cases text with
      | nil =>
          rw [List.infix_nil] at occurs
          simpa [occurs] using longer _ mem
      | cons c rest =>
          rw [decodeWith]
          split
          · rename_i d after found
            rcases exists_of_leadingEntity? found with ⟨leading, leadingMem, whole⟩
            have long : 1 < leading.length := longer _ leadingMem
            have shorter := length_decodeWith_le longer steps after
            simp only [whole, List.length_append, List.length_cons]
            omega
          · rename_i none
            rcases List.infix_cons_iff.mp occurs with begins | occurs
            · exact absurd begins (leadingEntity?_eq_none_iff.mp none _ mem)
            · exact Nat.succ_lt_succ (ih (Nat.le_of_succ_le_succ enough) occurs)

/-- A text stands for itself exactly if no entity occurs in it. -/
theorem decodeWith_eq_self_iff (longer : ∀ entity ∈ known, 1 < entity.1.length) {steps : Nat}
    (enough : text.length ≤ steps) :
    decodeWith known steps text = text ↔ ∀ entity ∈ known, ¬entity.1 <:+: text := by
  constructor
  · intro same entity mem occurs
    have shorter := length_decodeWith_lt longer enough mem occurs
    rw [same] at shorter
    exact Nat.lt_irrefl _ shorter
  · intro absent
    induction steps generalizing text with
    | zero => rfl
    | succ steps ih =>
        cases text with
        | nil => rfl
        | cons c rest =>
            have none : leadingEntity? known (c :: rest) = none :=
              leadingEntity?_eq_none_iff.mpr fun entity mem begins =>
                absent entity mem begins.isInfix
            have later : ∀ entity ∈ known, ¬entity.1 <:+: rest :=
              fun entity mem occurs => absent entity mem (List.infix_cons occurs)
            rw [decodeWith, none]
            simp only
            rw [ih (Nat.le_of_succ_le_succ enough) later]

end ScriptSite.Html
