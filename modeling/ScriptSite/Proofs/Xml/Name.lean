import ScriptSite.Proofs.Text.Trim
import ScriptSite.Proofs.Xml.Grammar

/-!
# Names and references

A scan of a name stops at the first character that no name holds. A scan of a reference finds the
character that it refers to (`reference_append`): the number that its digits spell is not changed by
the bound that keeps it small, and without declarations only the predefined entities have names.
-/

namespace ScriptSite.Xml

variable {name digits reference blanks rest text : Text} {c : Char}

theorem isSpace_iff : isSpace c = true ↔ c = ' ' ∨ c = '\t' ∨ c = '\n' ∨ c = '\r' := by
  simp [isSpace, or_assoc]

theorem IsSpaces.nil : IsSpaces [] := by
  simp [IsSpaces]

theorem isNameChar_of_isSpace (space : isSpace c = true) : isNameChar c = false := by
  rcases isSpace_iff.mp space with rfl | rfl | rfl | rfl <;> rfl

theorem isNameStart_of_isSpace (space : isSpace c = true) : isNameStart c = false := by
  rcases isSpace_iff.mp space with rfl | rfl | rfl | rfl <;> rfl

theorem head?_any_isSpace (begins : text.head?.any isNameStart = true) :
    text.head?.any isSpace = false := by
  cases text with
  | nil => rfl
  | cons c text =>
      cases space : isSpace c with
      | false => simpa using space
      | true => simp [isNameStart_of_isSpace space] at begins

theorem IsName.head?_any (isName : IsName name) (rest : Text) :
    (name ++ rest).head?.any isNameStart = true := by
  cases isName with
  | intro begins _ => simpa using begins

theorem IsName.isNameChar (isName : IsName name) : ∀ c ∈ name, isNameChar c = true := by
  cases isName with
  | intro begins goesOn =>
      intro c mem
      rcases List.mem_cons.mp mem with rfl | later
      · exact isNameChar_of_isNameStart begins
      · exact goesOn c later

theorem IsQualifiedName.head?_any (isName : IsQualifiedName name) (rest : Text) :
    (name ++ rest).head?.any isNameStart = true := by
  cases isName with
  | plain isName => exact isName.head?_any rest
  | prefixed isLabel _ =>
      rw [List.append_assoc]
      exact isLabel.head?_any _

namespace Scan

theorem name_append (isName : IsName name) (stops : rest.head?.any isNameChar = false) :
    Scan.name (name ++ rest) = .ok (name, rest) := by
  rw [Scan.name, if_pos (isName.head?_any rest),
    Text.takeWhile_append_stop isName.isNameChar stops,
    Text.dropWhile_append_stop isName.isNameChar stops]

theorem char_cons : char c (c :: rest) = .ok rest := by
  simp [char]

/-- Whether a character goes on with a name that may have colons inside. -/
def inName (c : Char) : Bool :=
  isNameChar c || c == ':'

theorem inName_of_isSpace (space : isSpace c = true) : inName c = false := by
  rcases isSpace_iff.mp space with rfl | rfl | rfl | rfl <;> rfl

theorem inName_stops (blank : IsSpaces blanks) (stops : rest.head?.any inName = false) :
    (blanks ++ rest).head?.any inName = false := by
  cases blanks with
  | nil => exact stops
  | cons c blanks => simpa using inName_of_isSpace (blank c (by simp))

theorem qualifiedName_append (isName : IsQualifiedName name)
    (stops : rest.head?.any inName = false) :
    qualifiedName (name ++ rest) = .ok (name, rest) := by
  have apart : rest.head?.any isNameChar = false ∧ rest.head? ≠ some ':' := by
    cases rest with
    | nil => simp
    | cons c rest => simpa [inName] using stops
  cases isName with
  | plain isName =>
      simp only [qualifiedName, name_append isName apart.1, bind, Except.bind]
      split
      · simp at apart
      · rfl
  | prefixed isLabel isName =>
      rename_i label localPart
      have first : Scan.name (label ++ ':' :: (localPart ++ rest)) =
          .ok (label, ':' :: (localPart ++ rest)) := name_append isLabel rfl
      simp only [List.append_assoc, List.cons_append, qualifiedName, first,
        name_append isName apart.1, bind, Except.bind, if_neg apart.2]
      rfl

/-- The character that a scanned reference stands for where no entity is declared. -/
def Reference.char? : Reference → Option Char
  | entity name => predefined.lookup name
  | character c => c

theorem foldl_saturating (digits : Text) {base : Nat} (positive : 0 < base) (bound n : Nat) :
    digits.foldl (fun n c => min bound (n * base + digitValue c)) (min bound n) =
      min bound (digits.foldl (fun n c => n * base + digitValue c) n) := by
  induction digits generalizing n with
  | nil => simp
  | cons c digits ih =>
      have grows : bound ≤ bound * base := Nat.le_mul_of_pos_right bound positive
      have step : min bound (min bound n * base + digitValue c) =
          min bound (n * base + digitValue c) := by
        rcases Nat.le_total n bound with small | large
        · rw [Nat.min_eq_right small]
        · have grown : bound * base ≤ n * base := Nat.mul_le_mul_right base large
          rw [Nat.min_eq_left large]
          omega
      rw [List.foldl_cons, step, List.foldl_cons, ih]

theorem charOfDigits?_of_digitsValue {base : Nat} (positive : 0 < base)
    (isNumber : digitsValue base digits = c.toNat) (allowed : isAllowed c = true) :
    charOfDigits? base digits = some c := by
  have number : digits.foldl (fun n c => min 0x110000 (n * base + digitValue c)) 0 = c.toNat := by
    have saturated := foldl_saturating digits positive 0x110000 0
    rw [Nat.min_zero] at saturated
    rw [saturated, ← digitsValue, isNumber]
    rcases c.valid with low | high <;> simp only [Char.toNat] <;> omega
  have valid : c.toNat < 0xD800 ∨ (0xE000 ≤ c.toNat ∧ c.toNat < 0x110000) := by
    rcases c.valid with low | high <;> simp only [Char.toNat] <;> omega
  simp only [digitValue] at number
  rw [charOfDigits?, number, if_pos valid, Char.ofNat_toNat, if_pos allowed]

theorem number_append (base : Nat) {isDigit : Char → Bool} (nonempty : digits ≠ [])
    (areDigits : ∀ d ∈ digits, isDigit d = true) (stops : isDigit ';' = false) (rest : Text) :
    number base isDigit (digits ++ ';' :: rest) =
      .ok (.character (charOfDigits? base digits), rest) := by
  have begins : (digits ++ ';' :: rest).head?.any isDigit = true := by
    rcases List.exists_cons_of_ne_nil nonempty with ⟨first, digits, rfl⟩
    simpa using areDigits first (by simp)
  have stopsHere : (';' :: rest).head?.any isDigit = false := by simpa using stops
  rw [number, begins, Text.takeWhile_append_stop areDigits stopsHere,
    Text.dropWhile_append_stop areDigits stopsHere, char_cons]
  rfl

theorem reference_of_name (isName : IsName name) (rest : Text) :
    Scan.reference (name ++ ';' :: rest) = .ok (.entity name, rest) := by
  have scanned : Scan.name (name ++ ';' :: rest) = .ok (name, ';' :: rest) :=
    name_append isName rfl
  have unmarked : ∀ more, name ++ ';' :: rest ≠ '#' :: more := by
    cases isName with
    | @intro c tail begins goesOn =>
        intro more equal
        rw [List.cons_append, List.cons.injEq] at equal
        rw [equal.1] at begins
        exact absurd begins (by decide)
  rw [Scan.reference.eq_3 _ (fun _ => unmarked _) unmarked]
  simp only [scanned, bind, Except.bind, char_cons]
  rfl

theorem isAlphanum_iff : c.isAlphanum = true ↔
    (('A' ≤ c ∧ c ≤ 'Z') ∨ ('a' ≤ c ∧ c ≤ 'z')) ∨ ('0' ≤ c ∧ c ≤ '9') := by
  have upper : c.isUpper = true ↔ 'A' ≤ c ∧ c ≤ 'Z' := decide_eq_true_iff
  have lower : c.isLower = true ↔ 'a' ≤ c ∧ c ≤ 'z' :=
    Bool.and_eq_true_iff.trans (and_congr decide_eq_true_iff decide_eq_true_iff)
  have digit : c.isDigit = true ↔ '0' ≤ c ∧ c ≤ '9' :=
    Bool.and_eq_true_iff.trans (and_congr decide_eq_true_iff decide_eq_true_iff)
  have letter : c.isAlpha = true ↔ c.isUpper = true ∨ c.isLower = true := Bool.or_eq_true_iff
  rw [← upper, ← lower, ← digit, ← letter]
  exact Bool.or_eq_true_iff

/-- Whether a character may stand between the ampersand and the end of a reference that is used
here. -/
def isReferenceChar (c : Char) : Bool :=
  c.isAlphanum || c == '#' || c == ';'

theorem toNat_of_isReferenceChar (inReference : isReferenceChar c = true) :
    0x20 ≤ c.val.toNat ∧ c.val.toNat < 0x80 := by
  simp only [isReferenceChar, Bool.or_eq_true, isAlphanum_iff, beq_iff_eq] at inReference
  rcases inReference with (((upper | lower) | digit) | rfl) | rfl
  · exact ⟨Nat.le_trans (by decide) upper.1, Nat.lt_of_le_of_lt upper.2 (by decide)⟩
  · exact ⟨Nat.le_trans (by decide) lower.1, Nat.lt_of_le_of_lt lower.2 (by decide)⟩
  · exact ⟨Nat.le_trans (by decide) digit.1, Nat.lt_of_le_of_lt digit.2 (by decide)⟩
  · decide
  · decide

theorem isReferenceChar_of_isHexDigit (digit : isHexDigit c = true) : isReferenceChar c = true := by
  have inAlphanum : c.isAlphanum = true := by
    simp only [isHexDigit, Bool.or_eq_true, Bool.and_eq_true, decide_eq_true_eq] at digit
    rcases digit with (digit | lower) | upper
    · simp [Char.isAlphanum, digit]
    · exact isAlphanum_iff.mpr (.inl (.inr ⟨lower.1, Char.le_trans lower.2 (by decide)⟩))
    · exact isAlphanum_iff.mpr (.inl (.inl ⟨upper.1, Char.le_trans upper.2 (by decide)⟩))
  simp [isReferenceChar, inAlphanum]

/-- The predefined entities have names of letters. -/
theorem isName_of_lookup_predefined (known : predefined.lookup name = some c) :
    IsName name ∧ ∀ d ∈ name, isReferenceChar d = true := by
  have letters : predefined.all (fun entry => !entry.1.isEmpty && entry.1.all Char.isAlpha) := by
    decide +kernel
  rcases List.lookup_eq_some_iff.mp known with ⟨before, after, equal, _⟩
  have mem : (name, c) ∈ predefined := equal ▸ by simp
  have ofLetters := List.all_eq_true.mp letters (name, c) mem
  have nonempty : name ≠ [] := by rintro rfl; simp at ofLetters
  have alpha : ∀ d ∈ name, d.isAlpha = true := by
    rw [Bool.and_eq_true] at ofLetters
    exact List.all_eq_true.mp ofLetters.2
  refine ⟨?_, fun d mem => by simp [isReferenceChar, Char.isAlphanum, alpha d mem]⟩
  rcases List.exists_cons_of_ne_nil nonempty with ⟨first, tail, rfl⟩
  refine .intro (by simp [isNameStart, alpha first]) fun d mem => ?_
  exact isNameChar_of_isNameStart (by simp [isNameStart, alpha d (by simp [mem])])

/-- A reference to a character is scanned as such. -/
theorem reference_append (refers : RefersTo reference c) (rest : Text) :
    ∃ found, Scan.reference (reference ++ rest) = .ok (found, rest) ∧ found.char? = some c := by
  cases refers with
  | @named name c known =>
      refine ⟨.entity name, ?_, known⟩
      rw [List.append_assoc]
      exact reference_of_name (isName_of_lookup_predefined known).1 rest
  | @decimal digits c nonempty areDigits isNumber allowed =>
      refine ⟨.character (charOfDigits? 10 digits), ?_,
        charOfDigits?_of_digitsValue (by decide) isNumber allowed⟩
      have scanned := number_append 10 nonempty areDigits rfl rest
      rw [List.cons_append, List.append_assoc, List.singleton_append, ← scanned]
      refine Scan.reference.eq_2 _ fun more equal => ?_
      rcases List.exists_cons_of_ne_nil nonempty with ⟨first, digits, rfl⟩
      simp only [List.cons_append, List.cons.injEq] at equal
      have digit := areDigits first (by simp)
      rw [equal.1] at digit
      exact absurd digit (by decide)
  | @hexadecimal digits c nonempty areDigits isNumber allowed =>
      refine ⟨.character (charOfDigits? 16 digits), ?_,
        charOfDigits?_of_digitsValue (by decide) isNumber allowed⟩
      have scanned := number_append 16 nonempty areDigits rfl rest
      rw [List.cons_append, List.cons_append, List.append_assoc, List.singleton_append, ← scanned]
      rfl

theorem isReferenceChar_of_refersTo (refers : RefersTo reference c) :
    ∀ d ∈ reference, isReferenceChar d = true := by
  cases refers with
  | named known =>
      simpa [or_imp, forall_and] using
        ⟨(isName_of_lookup_predefined known).2, (by rfl : isReferenceChar ';' = true)⟩
  | decimal _ areDigits _ _ =>
      intro d mem
      simp only [List.mem_cons, List.mem_append, List.not_mem_nil, or_false] at mem
      rcases mem with rfl | mem | rfl
      · rfl
      · exact isReferenceChar_of_isHexDigit (by simp [isHexDigit, areDigits d mem])
      · rfl
  | hexadecimal _ areDigits _ _ =>
      intro d mem
      simp only [List.mem_cons, List.mem_append, List.not_mem_nil, or_false] at mem
      rcases mem with rfl | rfl | mem | rfl
      · rfl
      · rfl
      · exact isReferenceChar_of_isHexDigit (areDigits d mem)
      · rfl

end Scan

end ScriptSite.Xml
