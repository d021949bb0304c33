import ShardedKvStore.Foundation.Json
import ShardedKvStore.Foundation.Utf8
import ShardedKvStore.Gateway

/-!
# What the gateway answers

The body of a response is written from byte strings that clients choose: the
key, the stored value, an identifier in a path.  `json_escape` keeps each of them
inside its quotation marks, so a body reads as the one object the code meant to
write, and every string in it as the bytes it was written from.
-/

namespace ShardedKvStore

open Foundation

/-! ## Strings -/

/-- The bytes `json_escape` does not write as they are. -/
def IsEscaped (byte : UInt8) : Prop :=
  byte = 34 ∨ byte = 92 ∨ byte < 32

instance (byte : UInt8) : Decidable (IsEscaped byte) :=
  inferInstanceAs (Decidable (_ ∨ _))

theorem IsEscaped.isAscii {byte : UInt8} (escaped : IsEscaped byte) :
    IsAscii byte := by
  rcases escaped with rfl | rfl | control
  · decide
  · decide
  · exact UInt8.lt_trans control (by decide)

/-- An escaped byte is written as an escape of its own code. -/
theorem jsonEscapeByte_of_isEscaped
    {byte : UInt8} (escaped : IsEscaped byte) :
    (∃ letter,
      shortEscape letter = some byte.toNat ∧
        jsonEscapeByte byte = [92, letter]) ∨
      ∃ first second third fourth,
        hexUnit first second third fourth = some byte.toNat ∧
          jsonEscapeByte byte = [92, 117, first, second, third, fourth] := by
  have hexDigits :
      ∀ value : Fin 32,
        hexUnit 48 48 (hexDigit (value / 16)) (hexDigit (value % 16)) =
          some value.val := by
    decide
  unfold jsonEscapeByte
  split
  case isTrue isQuote =>
    exact Or.inl ⟨34, by rw [isQuote]; rfl, rfl⟩
  split
  case isTrue isBackslash =>
    exact Or.inl ⟨92, by rw [isBackslash]; rfl, rfl⟩
  split
  case isTrue isBackspace =>
    exact Or.inl ⟨98, by rw [isBackspace]; rfl, rfl⟩
  split
  case isTrue isFormFeed =>
    exact Or.inl ⟨102, by rw [isFormFeed]; rfl, rfl⟩
  split
  case isTrue isNewline =>
    exact Or.inl ⟨110, by rw [isNewline]; rfl, rfl⟩
  split
  case isTrue isReturn =>
    exact Or.inl ⟨114, by rw [isReturn]; rfl, rfl⟩
  split
  case isTrue isTab =>
    exact Or.inl ⟨116, by rw [isTab]; rfl, rfl⟩
  split
  case isTrue control =>
    exact Or.inr ⟨48, 48, _, _,
      hexDigits ⟨byte.toNat, UInt8.lt_iff_toNat_lt.mp control⟩, rfl⟩
  case isFalse notQuote notBackslash _ _ _ _ _ notControl =>
    rcases escaped with isQuote | isBackslash | control
    · exact absurd isQuote notQuote
    · exact absurd isBackslash notBackslash
    · exact absurd control notControl

/-- Every other byte is written as it is. -/
theorem jsonEscapeByte_of_not_isEscaped
    {byte : UInt8} (plain : ¬ IsEscaped byte) :
    jsonEscapeByte byte = [byte] := by
  have notControl {other : UInt8} (control : other < 32) : byte ≠ other := by
    rintro rfl
    exact plain (Or.inr (Or.inr control))
  unfold jsonEscapeByte
  rw [if_neg fun isQuote => plain (Or.inl isQuote),
    if_neg fun isBackslash => plain (Or.inr (Or.inl isBackslash)),
    if_neg (notControl (by decide)), if_neg (notControl (by decide)),
    if_neg (notControl (by decide)), if_neg (notControl (by decide)),
    if_neg (notControl (by decide)),
    if_neg fun control => plain (Or.inr (Or.inr control))]

/-- The string characters `json_escape` writes for a byte string. -/
def escapedCharacters (text : Bytes) : List JsonCharacter :=
  text.map fun byte =>
    if IsEscaped byte then .escaped byte.toNat else .plain byte

theorem jsonEscape_body (text : Bytes) :
    StringBody (escapedCharacters text) (jsonEscape text) := by
  induction text with
  | nil =>
      exact .nil
  | cons byte rest inductionHypothesis =>
      unfold escapedCharacters jsonEscape at *
      rw [List.map_cons, List.flatMap_cons]
      split
      case isTrue escaped =>
        rcases jsonEscapeByte_of_isEscaped escaped with
          ⟨letter, isShort, written⟩ |
          ⟨first, second, third, fourth, isHex, written⟩
        · rw [written]
          exact .short isShort inductionHypothesis
        · rw [written]
          exact .hex isHex inductionHypothesis
      case isFalse plain =>
        rw [jsonEscapeByte_of_not_isEscaped plain]
        exact .plain
          (UInt8.not_lt.mp fun control => plain (Or.inr (Or.inr control)))
          (fun isQuote => plain (Or.inl isQuote))
          (fun isBackslash => plain (Or.inr (Or.inl isBackslash)))
          inductionHypothesis

theorem unescape_escapedCharacters (text : Bytes) :
    unescape (escapedCharacters text) = some text := by
  induction text with
  | nil =>
      rfl
  | cons byte rest inductionHypothesis =>
      unfold escapedCharacters at *
      rw [List.map_cons]
      split
      case isTrue escaped =>
        have ascii := escaped.isAscii
        have small : byte.toNat < 0xD800 :=
          Nat.lt_trans (isAscii_iff.mp ascii) (by decide)
        rw [unescape_escaped_cons small, inductionHypothesis,
          utf8EncodeChar_ascii ascii]
        rfl
      case isFalse =>
        rw [unescape, inductionHypothesis]
        rfl

/-- An escaped text is a string in one way only, and stands for the text. -/
theorem unescape_jsonEscape
    {text : Bytes} {characters : List JsonCharacter}
    (body : StringBody characters (jsonEscape text)) :
    unescape characters = some text := by
  obtain ⟨rfl, _⟩ :=
    @StringBody.unique _ _ _ _ (jsonEscape_body text) body [] [] rfl
  exact unescape_escapedCharacters text

/-! ## Numbers -/

/-- The digit bytes of a number, from the highest. -/
private theorem toDecimal_eq (number : Nat) :
    ∃ digits : List Nat,
      toDecimal number = digits.map (fun digit => UInt8.ofNat (48 + digit)) ∧
        (∀ digit ∈ digits, digit < 10) ∧
        Nat.ofDigits 10 digits.reverse = number ∧
        (digits = [0] ∨ ∃ first rest, digits = first :: rest ∧ first ≠ 0) := by
  unfold toDecimal
  split
  case isTrue isZero =>
    exact ⟨[0], rfl, by simp, by simp [isZero], Or.inl rfl⟩
  case isFalse positive =>
    refine ⟨(Nat.digits 10 number).reverse, rfl, ?_, ?_, Or.inr ?_⟩
    · intro digit member
      exact Nat.digits_lt_base (by decide) (List.mem_reverse.mp member)
    · rw [List.reverse_reverse, Nat.ofDigits_digits]
    · have some_ : Nat.digits 10 number ≠ [] :=
        Nat.digits_ne_nil_iff_ne_zero.mpr positive
      refine ⟨(Nat.digits 10 number).getLast some_,
        (Nat.digits 10 number).dropLast.reverse, ?_,
        Nat.getLast_digit_ne_zero 10 positive⟩
      rw [← List.reverse_concat, List.dropLast_append_getLast]

private theorem digitByte_toNat {digit : Nat} (small : digit < 10) :
    (UInt8.ofNat (48 + digit)).toNat = 48 + digit := by
  rw [UInt8.toNat_ofNat']
  omega

theorem toDecimal_isDigit (number : Nat) :
    ∀ byte ∈ toDecimal number, IsDigit byte := by
  obtain ⟨digits, isDecimal, small, _⟩ := toDecimal_eq number
  rw [isDecimal, List.forall_mem_map]
  intro digit member
  have digitSmall := small digit member
  unfold IsDigit
  rw [UInt8.le_iff_toNat_le, UInt8.le_iff_toNat_le,
    digitByte_toNat digitSmall]
  exact ⟨Nat.le_add_right 48 digit,
    Nat.add_le_add_left (Nat.le_of_lt_succ digitSmall) 48⟩

/-- A decimal number is zero or starts with another digit. -/
theorem toDecimal_shape (number : Nat) :
    toDecimal number = [48] ∨
      ∃ first digits,
        toDecimal number = first :: digits ∧ IsDigit first ∧ first ≠ 48 ∧
          ∀ digit ∈ digits, IsDigit digit := by
  have areDigits := toDecimal_isDigit number
  obtain ⟨digits, isDecimal, small, _, shape⟩ := toDecimal_eq number
  rw [isDecimal] at areDigits ⊢
  rcases shape with rfl | ⟨first, rest, rfl, positive⟩
  · exact Or.inl rfl
  · obtain ⟨firstDigit, restDigits⟩ := List.forall_mem_cons.mp areDigits
    refine Or.inr ⟨_, _, rfl, firstDigit, ?_, restDigits⟩
    intro isZero
    have sum : 48 + first = 48 := by
      rw [← digitByte_toNat (small first List.mem_cons_self)]
      exact congrArg UInt8.toNat isZero
    exact positive (Nat.add_left_cancel sum)

theorem toDecimal_jsonNumber (number : Nat) :
    JsonNumber (toDecimal number) :=
  ⟨[], toDecimal number, [], [], by simp, Or.inl rfl,
    toDecimal_shape number, Or.inl rfl, Or.inl rfl⟩

theorem digitsValue_toDecimal (number : Nat) :
    digitsValue (toDecimal number) = some number := by
  have areDigits :
      (toDecimal number).all (fun digit => decide (IsDigit digit)) = true :=
    List.all_eq_true.mpr fun digit member =>
      decide_eq_true (toDecimal_isDigit number digit member)
  unfold digitsValue
  rw [if_pos areDigits]
  obtain ⟨digits, isDecimal, small, isNumber, _⟩ := toDecimal_eq number
  rw [isDecimal, List.foldl_map, ← isNumber, Nat.ofDigits_eq_foldr,
    List.foldr_reverse]
  refine congrArg some (List.foldl_ext _ _ 0 fun value digit member => ?_)
  rw [digitByte_toNat (small digit member)]
  simp only [Nat.cast_id]
  omega

/-! ## Bodies -/

/-- A member as the gateway writes it. -/
def fieldText (field : Bytes × JsonScalar) : Bytes :=
  34 :: (jsonEscape field.1 ++ 34 :: 58 ::
    match field.2 with
    | .text content => 34 :: (jsonEscape content ++ [34])
    | .natural number => toDecimal number)

theorem fieldText_writes (field : Bytes × JsonScalar) :
    WritesField field (fieldText field) := by
  obtain ⟨name, scalar⟩ := field
  cases scalar with
  | text content =>
      refine ⟨escapedCharacters name, .string (escapedCharacters content),
        derives_member (jsonEscape_body name)
          (.string (jsonEscape_body content)),
        unescape_escapedCharacters name, ?_⟩
      rw [Json.scalar, unescape_escapedCharacters]
      rfl
  | natural number =>
      refine ⟨escapedCharacters name, .number (toDecimal number),
        derives_member (jsonEscape_body name)
          (.number (toDecimal_jsonNumber number)),
        unescape_escapedCharacters name, ?_⟩
      rw [Json.scalar, digitsValue_toDecimal]
      rfl

/-- An object as the gateway writes it. -/
def objectText (fields : List (Bytes × JsonScalar)) : Bytes :=
  123 :: (List.intercalate [44] (fields.map fieldText) ++ [125])

theorem objectText_reads
    {fields : List (Bytes × JsonScalar)} (some_ : fields ≠ []) :
    ∃ object,
      (∀ value, JsonText value (objectText fields) ↔ value = object) ∧
        object.fields = some fields := by
  refine jsonText_object ?_ some_
  rw [List.forall₂_map_right_iff]
  exact List.forall₂_same.mpr fun field _ => fieldText_writes field

namespace KvRequest

/-- The members of the body for a result, in their order. -/
def responseFields (request : KvRequest) (result : OperationResult) :
    List (Bytes × JsonScalar) :=
  if result.ok = true then
    [(bytes "status", .text result.message),
      (bytes "key", .text request.key),
      (bytes "shard", .natural result.shard),
      (bytes "leader", .text result.leader)] ++
      if request.operation = .get then
        [(bytes "value", .text result.value)]
      else
        []
  else
    [(bytes "error", .text result.message),
      (bytes "key", .text request.key),
      (bytes "shard", .natural result.shard)] ++
      if result.leader ≠ [] then
        [(bytes "leader", .text result.leader)]
      else
        []

/-- A body is written member by member. -/
theorem responseBody_eq (request : KvRequest) (result : OperationResult) :
    request.responseBody result =
      objectText (request.responseFields result) := by
  unfold responseBody responseFields
  split
  case isTrue =>
    split
    · simp [objectText, fieldText, List.intercalate_cons_cons, bytes, jsonEscape, jsonEscapeByte]
    · simp [objectText, fieldText, List.intercalate_cons_cons, bytes, jsonEscape, jsonEscapeByte]
  case isFalse =>
    split
    · simp [objectText, fieldText, List.intercalate_cons_cons, bytes, jsonEscape, jsonEscapeByte]
    · simp [objectText, fieldText, List.intercalate_cons_cons, bytes, jsonEscape, jsonEscapeByte]

theorem responseFields_ne_nil
    (request : KvRequest) (result : OperationResult) :
    request.responseFields result ≠ [] := by
  unfold responseFields
  split
  · exact List.cons_ne_nil _ _
  · exact List.cons_ne_nil _ _

/-- Whatever bytes the key, the value, the message and the leader are, a body is
one JSON text, an object with the members the code wrote.  An escaped byte string
is the inside of one string, which stands for the bytes escaped. -/
theorem response_not_forged :
    (∀ (request : KvRequest) (result : OperationResult),
      ∃ object,
        (∀ value,
          JsonText value (request.response result).body ↔ value = object) ∧
          object.fields = some (request.responseFields result)) ∧
      ∀ text : Bytes,
        (∃ characters, StringBody characters (jsonEscape text)) ∧
          (∀ characters,
            StringBody characters (jsonEscape text) →
              unescape characters = some text) ∧
          hasBareQuote (jsonEscape text) = false ∧
          ∀ byte ∈ jsonEscape text, 32 ≤ byte := by
  constructor
  · intro request result
    have reads :=
      objectText_reads (request.responseFields_ne_nil result)
    rw [← responseBody_eq] at reads
    exact reads
  · intro text
    have body := jsonEscape_body text
    exact ⟨⟨_, body⟩, fun _ other => unescape_jsonEscape other,
      body.no_bareQuote, body.no_control⟩

/-- A key that tries to close its string and add a member. -/
theorem forged_key_stays_key :
    ∃ object,
      (∀ value,
        JsonText value
          (({ operation := .get
              key := bytes "k\",\"value\":\"v" } : KvRequest).response
            { ok := true
              status := 200
              message := bytes "ok"
              value := [0, 255, 34]
              leader := bytes "s0-r0" }).body ↔
          value = object) ∧
        object.fields =
          some
            [(bytes "status", .text (bytes "ok")),
              (bytes "key", .text (bytes "k\",\"value\":\"v")),
              (bytes "shard", .natural 0),
              (bytes "leader", .text (bytes "s0-r0")),
              (bytes "value", .text [0, 255, 34])] :=
  response_not_forged.1 _ _

end KvRequest

/-- The response of an open circuit breaker says which shard it is about. -/
theorem circuitOpenResponse_reads (shardId : Nat) :
    ∃ object,
      (∀ value,
        JsonText value (circuitOpenResponse shardId).body ↔
          value = object) ∧
        object.fields =
          some
            [(bytes "error", .text (bytes "circuit breaker is open")),
              (bytes "shard", .natural shardId)] := by
  have written :
      (circuitOpenResponse shardId).body =
        objectText
          [(bytes "error", .text (bytes "circuit breaker is open")),
            (bytes "shard", .natural shardId)] := by
    simp [circuitOpenResponse, jsonResponse, objectText, fieldText,
      List.intercalate_cons_cons, bytes, jsonEscape, jsonEscapeByte]
  rw [written]
  exact objectText_reads (List.cons_ne_nil _ _)

/-! ## UTF-8 -/

/-- Escaping neither repairs a byte string nor breaks it. -/
theorem jsonEscape_validUtf8 (text : Bytes) :
    ValidUtf8 (jsonEscape text) ↔ ValidUtf8 text := by
  have escapes :
      ∀ value : Fin 128,
        jsonEscapeByte (UInt8.ofNat value) ≠ [] ∧
          (jsonEscapeByte (UInt8.ofNat value)).all
            (fun written => decide (IsAscii written)) = true := by
    decide
  refine validUtf8_flatMap_iff ?_ ?_ text
  · intro byte ascii
    have escaped := escapes ⟨byte.toNat, isAscii_iff.mp ascii⟩
    rw [UInt8.ofNat_toNat] at escaped
    exact ⟨escaped.1, isAscii_of_all escaped.2⟩
  · intro byte notAscii
    exact jsonEscapeByte_of_not_isEscaped fun escaped =>
      notAscii escaped.isAscii

theorem toDecimal_isAscii (number : Nat) :
    ∀ byte ∈ toDecimal number, IsAscii byte :=
  fun byte member =>
    UInt8.lt_of_le_of_lt (toDecimal_isDigit number byte member).2
      (by decide)

/-- The byte strings of a field are valid. -/
def FieldValid (field : Bytes × JsonScalar) : Prop :=
  ValidUtf8 field.1 ∧
    ∀ content, field.2 = .text content → ValidUtf8 content

@[simp]
theorem fieldValid_text {name content : Bytes} :
    FieldValid (name, .text content) ↔
      ValidUtf8 name ∧ ValidUtf8 content := by
  refine and_congr_right fun _ => ⟨fun valid => valid content rfl, ?_⟩
  rintro valid _ ⟨⟩
  exact valid

@[simp]
theorem fieldValid_natural {name : Bytes} {number : Nat} :
    FieldValid (name, .natural number) ↔ ValidUtf8 name :=
  and_iff_left nofun

theorem fieldText_validUtf8 (field : Bytes × JsonScalar) :
    ValidUtf8 (fieldText field) ↔ FieldValid field := by
  obtain ⟨name, scalar⟩ := field
  unfold fieldText
  rw [validUtf8_cons (by decide), validUtf8_append_cons (by decide),
    validUtf8_cons (by decide), jsonEscape_validUtf8]
  cases scalar with
  | text content =>
      rw [validUtf8_cons (by decide), validUtf8_append_cons (by decide),
        and_iff_left validUtf8_nil, jsonEscape_validUtf8, fieldValid_text]
  | natural number =>
      rw [fieldValid_natural]
      exact and_iff_left (validUtf8_of_ascii (toDecimal_isAscii number))

theorem objectText_validUtf8 (fields : List (Bytes × JsonScalar)) :
    ValidUtf8 (objectText fields) ↔ ∀ field ∈ fields, FieldValid field := by
  unfold objectText
  rw [validUtf8_cons (by decide), validUtf8_append_cons (by decide),
    and_iff_left validUtf8_nil, validUtf8_intercalate (by decide),
    List.forall_mem_map]
  exact forall₂_congr fun field _ => fieldText_validUtf8 field

/-- A body is well-formed when the byte strings it is written from are UTF-8. -/
theorem KvRequest.response_wellFormed_iff
    (request : KvRequest) (result : OperationResult) :
    WellFormedJson (request.response result).body ↔
      ∀ field ∈ request.responseFields result, FieldValid field := by
  obtain ⟨object, isObject, _⟩ :=
    objectText_reads (request.responseFields_ne_nil result)
  change ValidUtf8 (request.responseBody result) ∧
    (∃ value, JsonText value (request.responseBody result)) ↔ _
  rw [responseBody_eq, objectText_validUtf8]
  exact and_iff_left ⟨object, (isObject object).mpr rfl⟩

end ShardedKvStore
