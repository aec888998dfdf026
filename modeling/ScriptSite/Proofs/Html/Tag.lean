import ScriptSite.Proofs.Html.Escape

/-!
# Reading tags

A tag goes from a bracket to the next closing bracket that is not in double quotes, and its name is
what stands in front of its first blank. The value of an attribute in double quotes ends at the next
double quote, and the entities in it are replaced. So a text stands for itself as a value exactly if
there is neither a double quote nor an entity in it (`quotedValue_eq_self_iff`).
-/

namespace ScriptSite.Html

variable {known : List (Text × Char)} {value : Text}

/-- How far the tag is read that a place in a text belongs to, if any. -/
inductive TagState
  | outside
  | name (read : Text)
  | attributes
  | quoted

/-- The names of the tags in a text, when what stands before it has led to a state. -/
def tagNamesFrom : TagState → Text → List Text
  | _, [] => []
  | .outside, c :: rest =>
      if c = '<' then tagNamesFrom (.name []) rest else tagNamesFrom .outside rest
  | .name read, c :: rest =>
      if c = '>' then read :: tagNamesFrom .outside rest
      else if isBlank c then read :: tagNamesFrom .attributes rest
      else tagNamesFrom (.name (read ++ [c])) rest
  | .attributes, c :: rest =>
      if c = '>' then tagNamesFrom .outside rest
      else if c = '"' then tagNamesFrom .quoted rest
      else tagNamesFrom .attributes rest
  | .quoted, c :: rest =>
      if c = '"' then tagNamesFrom .attributes rest else tagNamesFrom .quoted rest

/-- The names of the tags in a text, in their order; that of an end tag has its slash. -/
def tagNames (text : Text) : List Text :=
  tagNamesFrom .outside text

/-- The value of an attribute, given the text behind the quote that opens it, with the entities of a
table replaced. -/
def quotedValue (known : List (Text × Char)) (behind : Text) : Text :=
  let value := behind.takeWhile (· ≠ '"')
  decodeWith known value.length value

/-- There are no tags in a value. -/
theorem tagNamesFrom_quoted_append (noQuote : '"' ∉ value) (rest : Text) :
    tagNamesFrom .quoted (value ++ '"' :: rest) = tagNamesFrom .attributes rest := by
  induction value with
  | nil => rfl
  | cons c value ih =>
      rw [List.mem_cons, not_or] at noQuote
      rw [List.cons_append, tagNamesFrom, if_neg (Ne.symm noQuote.1), ih noQuote.2]

/-- What stands behind the quote that ends a value does not belong to it. -/
theorem quotedValue_append (known : List (Text × Char)) (value rest : Text) :
    quotedValue known (value ++ '"' :: rest) = quotedValue known value := by
  have same : (value ++ '"' :: rest).takeWhile (· ≠ '"') = value.takeWhile (· ≠ '"') := by
    induction value with
    | nil => rfl
    | cons c value ih =>
        by_cases quote : c = '"'
        · simp [quote]
        · simpa [quote] using ih
  rw [quotedValue, same, quotedValue]

theorem takeWhile_ne_quote_eq_self_iff : value.takeWhile (· ≠ '"') = value ↔ '"' ∉ value := by
  induction value with
  | nil => simp
  | cons c value ih =>
      by_cases quote : c = '"'
      · simp [quote]
      · rw [List.takeWhile_cons_of_pos (by simpa using quote), List.cons_inj_right, ih,
          List.mem_cons, not_or]
        exact ⟨fun noQuote => ⟨Ne.symm quote, noQuote⟩, And.right⟩

/-- A text stands for itself as a value exactly if it has no double quote and no entity in it. -/
theorem quotedValue_eq_self_iff (longer : ∀ entity ∈ known, 1 < entity.1.length) :
    quotedValue known value = value ↔ '"' ∉ value ∧ ∀ entity ∈ known, ¬entity.1 <:+: value := by
  rw [← takeWhile_ne_quote_eq_self_iff, quotedValue]
  constructor
  · intro same
    -- A value is no longer than what stands before the first quote.
    have shorter := length_decodeWith_le longer (value.takeWhile (· ≠ '"')).length
      (value.takeWhile (· ≠ '"'))
    rw [same] at shorter
    have whole := (List.takeWhile_prefix (p := (· ≠ '"'))).eq_of_length_le shorter
    rw [whole] at same
    exact ⟨whole, (decodeWith_eq_self_iff longer (Nat.le_refl _)).mp same⟩
  · rintro ⟨whole, plain⟩
    rw [whole]
    exact (decodeWith_eq_self_iff longer (Nat.le_refl _)).mpr plain

end ScriptSite.Html
