import ScriptSite.Text.Utf8

/-!
# Decoding what was encoded

Every text is read back from its bytes. One lemma for each kind of byte says where it takes the
decoder; a character goes through one, two, three or four of them.
-/

namespace ScriptSite.Utf8

variable {offset start n low high owed value : Nat} {byte : UInt8} {done : Text} {rest : Bytes}

theorem toNat_byte (small : n < 256) : (UInt8.ofNat n).toNat = n :=
  UInt8.toNat_ofNat_of_lt' small

theorem decodeFrom_single (small : n < 0x80) :
    decodeFrom .between offset done (UInt8.ofNat n :: rest) =
      decodeFrom .between (offset + 1) (Char.ofNat n :: done) rest := by
  have byteEq : (UInt8.ofNat n).toNat = n := toNat_byte (by omega)
  rw [decodeFrom, byteEq, if_pos small]

/-- The first of several bytes. -/
theorem decodeFrom_first {next : State} (large : 0x80 ≤ byte.toNat)
    (begins : begin? offset byte = some next) :
    decodeFrom .between offset done (byte :: rest) = decodeFrom next (offset + 1) done rest := by
  rw [decodeFrom, if_neg (by omega), begins]

/-- A byte behind the first that is not the last. -/
theorem decodeFrom_between (small : n < 64) (bounds : low ≤ n + 0x80 ∧ n + 0x80 ≤ high) :
    decodeFrom (.inside start byte (owed + 2) low high value) offset done
        (UInt8.ofNat (n + 0x80) :: rest) =
      decodeFrom (.inside start byte (owed + 1) 0x80 0xBF (value * 64 + n)) (offset + 1) done
        rest := by
  have byteEq : (UInt8.ofNat (n + 0x80)).toNat = n + 0x80 := toNat_byte (by omega)
  rw [decodeFrom, byteEq, if_pos bounds, if_neg (by omega), Nat.add_sub_cancel]
  rfl

/-- The last of several bytes. -/
theorem decodeFrom_last (small : n < 64) (bounds : low ≤ n + 0x80 ∧ n + 0x80 ≤ high) :
    decodeFrom (.inside start byte 1 low high value) offset done
        (UInt8.ofNat (n + 0x80) :: rest) =
      decodeFrom .between (offset + 1) (Char.ofNat (value * 64 + n) :: done) rest := by
  have byteEq : (UInt8.ofNat (n + 0x80)).toNat = n + 0x80 := toNat_byte (by omega)
  rw [decodeFrom, byteEq, if_pos bounds, if_pos (Nat.le_refl 1), Nat.add_sub_cancel]

theorem begin?_two (bounds : 2 ≤ n ∧ n < 32) :
    begin? start (UInt8.ofNat (n + 192)) =
      some (.inside start (UInt8.ofNat (n + 192)) 1 0x80 0xBF n) := by
  have byteEq : (UInt8.ofNat (n + 192)).toNat = n + 192 := toNat_byte (by omega)
  rw [begin?, byteEq, if_neg (by omega), if_pos (by omega), Nat.add_sub_cancel]

theorem begin?_three (small : n < 16) :
    begin? start (UInt8.ofNat (n + 224)) =
      some (.inside start (UInt8.ofNat (n + 224)) 2 (if n = 0 then 0xA0 else 0x80)
        (if n = 13 then 0x9F else 0xBF) n) := by
  have byteEq : (UInt8.ofNat (n + 224)).toNat = n + 224 := toNat_byte (by omega)
  rw [begin?, byteEq, if_neg (by omega), if_neg (by omega), if_pos (by omega), Nat.add_sub_cancel]
  simp

theorem begin?_four (small : n < 5) :
    begin? start (UInt8.ofNat (n + 240)) =
      some (.inside start (UInt8.ofNat (n + 240)) 3 (if n = 0 then 0x90 else 0x80)
        (if n = 4 then 0x8F else 0xBF) n) := by
  have byteEq : (UInt8.ofNat (n + 240)).toNat = n + 240 := toNat_byte (by omega)
  rw [begin?, byteEq, if_neg (by omega), if_neg (by omega), if_neg (by omega), if_pos (by omega),
    Nat.add_sub_cancel]
  simp

/-- The bytes of a character take the decoder past that character. -/
theorem decodeFrom_utf8EncodeChar (c : Char) (offset : Nat) (done : Text) (rest : Bytes) :
    ∃ later, decodeFrom .between offset done (String.utf8EncodeChar c ++ rest) =
      decodeFrom .between later (c :: done) rest := by
  have charEq : Char.ofNat c.val.toNat = c := Char.ofNat_toNat c
  have valid : c.val.toNat < 0xD800 ∨ (0xDFFF < c.val.toNat ∧ c.val.toNat < 0x110000) := c.valid
  fun_cases String.utf8EncodeChar c with
  | case1 v small =>
      subst v
      generalize c.val.toNat = v at *
      rw [List.singleton_append, decodeFrom_single (by omega), charEq]
      exact ⟨_, rfl⟩
  | case2 v large small =>
      subst v
      generalize c.val.toNat = v at *
      have whole : v / 64 % 32 * 64 + v % 64 = v := by omega
      simp only [List.cons_append, List.nil_append]
      rw [decodeFrom_first (by rw [toNat_byte (by omega)]; omega) (begin?_two (by omega)),
        decodeFrom_last (by omega) (by omega), whole, charEq]
      exact ⟨_, rfl⟩
  | case3 v large larger small =>
      subst v
      generalize c.val.toNat = v at *
      have whole : (v / 4096 % 16 * 64 + v / 64 % 64) * 64 + v % 64 = v := by omega
      simp only [List.cons_append, List.nil_append]
      rw [decodeFrom_first (by rw [toNat_byte (by omega)]; omega) (begin?_three (by omega)),
        decodeFrom_between (by omega) (by split <;> split <;> omega),
        decodeFrom_last (by omega) (by omega), whole, charEq]
      exact ⟨_, rfl⟩
  | case4 v large larger largest =>
      subst v
      generalize c.val.toNat = v at *
      have whole :
          ((v / 262144 % 8 * 64 + v / 4096 % 64) * 64 + v / 64 % 64) * 64 + v % 64 = v := by
        omega
      simp only [List.cons_append, List.nil_append]
      rw [decodeFrom_first (by rw [toNat_byte (by omega)]; omega) (begin?_four (by omega)),
        decodeFrom_between (by omega) (by split <;> split <;> omega),
        decodeFrom_between (by omega) (by omega), decodeFrom_last (by omega) (by omega), whole,
        charEq]
      exact ⟨_, rfl⟩

theorem decodeFrom_encode (text : Text) (offset : Nat) (done : Text) :
    decodeFrom .between offset done (encode text) = .ok (done.reverse ++ text) := by
  induction text generalizing offset done with
  | nil => simp [encode, decodeFrom]
  | cons c text ih =>
      rcases decodeFrom_utf8EncodeChar c offset done (encode text) with ⟨later, read⟩
      rw [encode, List.flatMap_cons, ← encode, read, ih]
      simp

/-- A text is read back from its bytes. -/
theorem decode_encode (text : Text) : decode (encode text) = .ok text :=
  decodeFrom_encode text 0 []

end ScriptSite.Utf8
