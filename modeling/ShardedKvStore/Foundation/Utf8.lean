import Mathlib.Data.List.Basic

/-!
# UTF-8 in byte strings

A byte string is valid UTF-8 when it is the encodings of some characters, one
after the other.  An ASCII byte is always a character of its own, so it divides a
byte string into parts that are valid or not by themselves, and rewriting ASCII
bytes to ASCII bytes neither repairs nor breaks anything.
-/

namespace ShardedKvStore.Foundation

/-- Valid UTF-8. -/
def ValidUtf8 (text : List UInt8) : Prop :=
  ∃ characters : List Char,
    text = characters.flatMap String.utf8EncodeChar

/-- The bytes of ASCII. -/
def IsAscii (byte : UInt8) : Prop :=
  byte < 128

instance (byte : UInt8) : Decidable (IsAscii byte) :=
  inferInstanceAs (Decidable (byte < 128))

theorem isAscii_iff {byte : UInt8} : IsAscii byte ↔ byte.toNat < 128 :=
  UInt8.lt_iff_toNat_lt

theorem isAscii_of_all
    {text : List UInt8}
    (all : text.all (fun byte => decide (IsAscii byte)) = true) :
    ∀ byte ∈ text, IsAscii byte :=
  fun byte member => of_decide_eq_true (List.all_eq_true.mp all byte member)

/-- A character is one ASCII byte, or it has none and none from `0xF8` on. -/
theorem utf8EncodeChar_cases (character : Char) :
    (∃ byte, IsAscii byte ∧ String.utf8EncodeChar character = [byte]) ∨
      ∀ byte ∈ String.utf8EncodeChar character,
        128 ≤ byte.toNat ∧ byte.toNat < 248 := by
  unfold String.utf8EncodeChar
  simp only
  split
  case isTrue small =>
    refine Or.inl ⟨_, ?_, rfl⟩
    rw [isAscii_iff, UInt8.toNat_ofNat']
    omega
  case isFalse =>
    refine Or.inr ?_
    have continues (value : Nat) (inRange : 128 ≤ value ∧ value < 248) :
        128 ≤ (UInt8.ofNat value).toNat ∧
          (UInt8.ofNat value).toNat < 248 := by
      rw [UInt8.toNat_ofNat']
      omega
    split
    · simp only [List.forall_mem_cons, List.not_mem_nil, false_implies,
        implies_true, and_true]
      exact ⟨continues _ (by omega), continues _ (by omega)⟩
    · split
      · simp only [List.forall_mem_cons, List.not_mem_nil, false_implies,
          implies_true, and_true]
        exact ⟨continues _ (by omega), continues _ (by omega),
          continues _ (by omega)⟩
      · simp only [List.forall_mem_cons, List.not_mem_nil, false_implies,
          implies_true, and_true]
        exact ⟨continues _ (by omega), continues _ (by omega),
          continues _ (by omega), continues _ (by omega)⟩

theorem validUtf8_nil : ValidUtf8 [] :=
  ⟨[], rfl⟩

theorem ValidUtf8.append
    {left right : List UInt8}
    (leftValid : ValidUtf8 left) (rightValid : ValidUtf8 right) :
    ValidUtf8 (left ++ right) := by
  obtain ⟨leftCharacters, rfl⟩ := leftValid
  obtain ⟨rightCharacters, rfl⟩ := rightValid
  exact ⟨leftCharacters ++ rightCharacters, List.flatMap_append.symm⟩

theorem utf8EncodeChar_ascii {byte : UInt8} (ascii : IsAscii byte) :
    String.utf8EncodeChar (Char.ofNat byte.toNat) = [byte] := by
  have encodes :
      ∀ value : Fin 128,
        String.utf8EncodeChar (Char.ofNat value) = [UInt8.ofNat value] := by
    decide
  have encoded := encodes ⟨byte.toNat, isAscii_iff.mp ascii⟩
  rw [UInt8.ofNat_toNat] at encoded
  exact encoded

theorem validUtf8_singleton {byte : UInt8} (ascii : IsAscii byte) :
    ValidUtf8 [byte] :=
  ⟨[Char.ofNat byte.toNat], by
    rw [List.flatMap_singleton, utf8EncodeChar_ascii ascii]⟩

/-- An ASCII byte divides a byte string. -/
theorem validUtf8_append_cons
    {left right : List UInt8} {byte : UInt8} (ascii : IsAscii byte) :
    ValidUtf8 (left ++ byte :: right) ↔
      ValidUtf8 left ∧ ValidUtf8 right := by
  constructor
  · rintro ⟨characters, isText⟩
    induction characters generalizing left with
    | nil =>
        simp at isText
    | cons first rest inductionHypothesis =>
        rw [List.flatMap_cons] at isText
        have firstValid : ValidUtf8 (String.utf8EncodeChar first) :=
          ⟨[first], by simp⟩
        rcases List.append_eq_append_iff.mp isText with
          ⟨inside, isFirst, isRest⟩ | ⟨after, isLeft, isRest⟩
        · cases inside with
          | nil =>
              have atStart : [] ++ byte :: right = _ := isRest
              obtain ⟨_, rightValid⟩ := inductionHypothesis atStart
              rw [List.append_nil] at isFirst
              exact ⟨isFirst ▸ firstValid, rightValid⟩
          | cons second others =>
              -- The byte is in the first character, which is then the byte.
              obtain ⟨rfl, isRight⟩ := List.cons.inj isRest
              rcases utf8EncodeChar_cases first with
                ⟨single, _, isSingle⟩ | noAscii
              · rw [isSingle] at isFirst
                rcases List.append_eq_singleton_iff.mp isFirst.symm with
                  ⟨isLeft, isByte⟩ | ⟨_, nothing⟩
                · rw [(List.cons.inj isByte).2] at isRight
                  rw [isLeft]
                  exact ⟨validUtf8_nil, rest, isRight⟩
                · cases nothing
              · have member : byte ∈ String.utf8EncodeChar first := by
                  rw [isFirst]
                  simp
                exact absurd (isAscii_iff.mp ascii)
                  (Nat.not_lt.mpr (noAscii byte member).1)
        · obtain ⟨afterValid, rightValid⟩ :=
            inductionHypothesis isRest.symm
          rw [isLeft]
          exact ⟨firstValid.append afterValid, rightValid⟩
  · rintro ⟨leftValid, rightValid⟩
    exact leftValid.append
      ((validUtf8_singleton ascii).append rightValid)

theorem validUtf8_cons
    {right : List UInt8} {byte : UInt8} (ascii : IsAscii byte) :
    ValidUtf8 (byte :: right) ↔ ValidUtf8 right := by
  have atStart := @validUtf8_append_cons [] right byte ascii
  rw [List.nil_append, and_iff_right validUtf8_nil] at atStart
  exact atStart

/-- ASCII at the start makes no difference. -/
theorem validUtf8_ascii_append
    {text right : List UInt8} (ascii : ∀ byte ∈ text, IsAscii byte) :
    ValidUtf8 (text ++ right) ↔ ValidUtf8 right := by
  induction text with
  | nil =>
      rfl
  | cons first rest inductionHypothesis =>
      obtain ⟨firstAscii, restAscii⟩ := List.forall_mem_cons.mp ascii
      rw [List.cons_append, validUtf8_cons firstAscii]
      exact inductionHypothesis restAscii

theorem validUtf8_of_ascii
    {text : List UInt8} (ascii : ∀ byte ∈ text, IsAscii byte) :
    ValidUtf8 text := by
  rw [← List.append_nil text, validUtf8_ascii_append ascii]
  exact validUtf8_nil

/-- Parts with an ASCII byte between them. -/
theorem validUtf8_intercalate
    {separator : UInt8} (ascii : IsAscii separator)
    (parts : List (List UInt8)) :
    ValidUtf8 (List.intercalate [separator] parts) ↔
      ∀ part ∈ parts, ValidUtf8 part := by
  induction parts with
  | nil =>
      exact iff_of_true validUtf8_nil (List.forall_mem_nil _)
  | cons first rest inductionHypothesis =>
      rw [List.forall_mem_cons, ← inductionHypothesis]
      cases rest with
      | nil =>
          rw [List.intercalate_singleton]
          exact (and_iff_left validUtf8_nil).symm
      | cons second others =>
          rw [List.intercalate_cons_cons, List.append_assoc]
          exact validUtf8_append_cons ascii

/-- ASCII bytes in a row divide a byte string. -/
theorem validUtf8_append_append
    {left middle right : List UInt8}
    (ascii : ∀ byte ∈ middle, IsAscii byte) (some_ : middle ≠ []) :
    ValidUtf8 (left ++ (middle ++ right)) ↔
      ValidUtf8 left ∧ ValidUtf8 right := by
  cases middle with
  | nil =>
      exact absurd rfl some_
  | cons first rest =>
      obtain ⟨firstAscii, restAscii⟩ := List.forall_mem_cons.mp ascii
      rw [List.cons_append, validUtf8_append_cons firstAscii,
        validUtf8_ascii_append restAscii]

/-- Rewriting every ASCII byte to ASCII bytes, and no other byte, keeps a byte
string as valid as it was. -/
theorem validUtf8_flatMap_iff
    {rewrite : UInt8 → List UInt8}
    (ascii :
      ∀ byte, IsAscii byte →
        rewrite byte ≠ [] ∧ ∀ written ∈ rewrite byte, IsAscii written)
    (other : ∀ byte, ¬ IsAscii byte → rewrite byte = [byte])
    (text : List UInt8) :
    ValidUtf8 (text.flatMap rewrite) ↔ ValidUtf8 text := by
  -- What comes before the rest of the text is divided off by the next ASCII byte.
  have behind (left : List UInt8) :
      ValidUtf8 (left ++ text.flatMap rewrite) ↔
        ValidUtf8 (left ++ text) := by
    induction text generalizing left with
    | nil =>
        rfl
    | cons byte rest inductionHypothesis =>
        rw [List.flatMap_cons]
        by_cases isAscii : IsAscii byte
        · obtain ⟨written, allAscii⟩ := ascii byte isAscii
          rw [validUtf8_append_append allAscii written,
            validUtf8_append_cons isAscii]
          exact and_congr_right fun _ => inductionHypothesis []
        · rw [other byte isAscii, ← List.append_assoc]
          have next := inductionHypothesis (left ++ [byte])
          rw [List.append_assoc left [byte] rest] at next
          exact next
  exact behind []

/-- No character has a byte from `0xF8` on. -/
theorem ValidUtf8.byte_lt
    {text : List UInt8} (valid : ValidUtf8 text) {byte : UInt8}
    (member : byte ∈ text) : byte < 0xF8 := by
  obtain ⟨characters, rfl⟩ := valid
  obtain ⟨character, _, inEncoding⟩ := List.mem_flatMap.mp member
  rw [UInt8.lt_iff_toNat_lt]
  rcases utf8EncodeChar_cases character with
    ⟨single, ascii, isSingle⟩ | inRange
  · rw [isSingle, List.mem_singleton] at inEncoding
    have small := isAscii_iff.mp ascii
    rw [inEncoding]
    exact Nat.lt_trans small (by decide)
  · exact (inRange byte inEncoding).2

end ShardedKvStore.Foundation
