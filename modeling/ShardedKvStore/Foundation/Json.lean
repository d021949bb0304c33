import ShardedKvStore.Foundation.Utf8

/-!
# JSON texts as byte strings

The grammar of RFC 8259 over bytes.  A string keeps for each of its characters
whether it was written plainly or as an escape; bytes from `0x80` on are written
plainly and stand for themselves.  A number keeps its text.

No byte string is two texts: what a phrase is shows in its first byte, and where
it ends in the byte that follows.
-/

namespace ShardedKvStore.Foundation

/-! ## Strings -/

/-- A character of a string: a byte that stands for itself, or the code unit of an
escape. -/
inductive JsonCharacter where
  | plain (byte : UInt8)
  | escaped (unit : Nat)
  deriving DecidableEq, Repr

/-- The code unit of a two-byte escape, by the second byte. -/
def shortEscape (letter : UInt8) : Option Nat :=
  if letter = 34 then some 34
  else if letter = 92 then some 92
  else if letter = 47 then some 47
  else if letter = 98 then some 8
  else if letter = 102 then some 12
  else if letter = 110 then some 10
  else if letter = 114 then some 13
  else if letter = 116 then some 9
  else none

/-- The value of a hexadecimal digit. -/
def hexValue (digit : UInt8) : Option Nat :=
  if 48 ≤ digit ∧ digit ≤ 57 then some (digit.toNat - 48)
  else if 97 ≤ digit ∧ digit ≤ 102 then some (digit.toNat - 87)
  else if 65 ≤ digit ∧ digit ≤ 70 then some (digit.toNat - 55)
  else none

/-- The code unit of four hexadecimal digits. -/
def hexUnit (first second third fourth : UInt8) : Option Nat := do
  let a ← hexValue first
  let b ← hexValue second
  let c ← hexValue third
  let d ← hexValue fourth
  return ((a * 16 + b) * 16 + c) * 16 + d

/-- What may stand between the quotation marks. -/
inductive StringBody : List JsonCharacter → List UInt8 → Prop
  | nil : StringBody [] []
  | plain {byte : UInt8} {characters : List JsonCharacter}
      {text : List UInt8} :
      32 ≤ byte → byte ≠ 34 → byte ≠ 92 →
      StringBody characters text →
      StringBody (.plain byte :: characters) (byte :: text)
  | short {letter : UInt8} {unit : Nat} {characters : List JsonCharacter}
      {text : List UInt8} :
      shortEscape letter = some unit →
      StringBody characters text →
      StringBody (.escaped unit :: characters) (92 :: letter :: text)
  | hex {first second third fourth : UInt8} {unit : Nat}
      {characters : List JsonCharacter} {text : List UInt8} :
      hexUnit first second third fourth = some unit →
      StringBody characters text →
      StringBody (.escaped unit :: characters)
        (92 :: 117 :: first :: second :: third :: fourth :: text)

/-- The bytes a string stands for.  Escaped code units are encoded in UTF-8, two
surrogates as one character; a surrogate alone stands for nothing. -/
def unescape : List JsonCharacter → Option (List UInt8)
  | [] => some []
  | .plain byte :: rest => (unescape rest).map (byte :: ·)
  | .escaped unit :: rest =>
      if unit < 0xD800 ∨ 0xDFFF < unit then
        (unescape rest).map (String.utf8EncodeChar (Char.ofNat unit) ++ ·)
      else
        match rest with
        | .escaped low :: others =>
            if unit < 0xDC00 ∧ 0xDC00 ≤ low ∧ low ≤ 0xDFFF then
              (unescape others).map
                (String.utf8EncodeChar
                  (Char.ofNat
                    (0x10000 + (unit - 0xD800) * 0x400 +
                      (low - 0xDC00))) ++ ·)
            else
              none
        | _ => none

/-- A code unit below the surrogates is a character of its own. -/
theorem unescape_escaped_cons
    {unit : Nat} (small : unit < 0xD800) (rest : List JsonCharacter) :
    unescape (.escaped unit :: rest) =
      (unescape rest).map (String.utf8EncodeChar (Char.ofNat unit) ++ ·) := by
  rcases rest with _ | ⟨_ | low, others⟩
  · simp only [unescape, if_pos (Or.inl small)]
  · simp only [unescape, if_pos (Or.inl small)]
  · simp only [unescape, if_pos (Or.inl small)]

/-- A quotation mark that no backslash escapes. -/
def hasBareQuote : List UInt8 → Bool
  | [] => false
  | [byte] => byte = 34
  | byte :: next :: rest =>
      if byte = 92 then
        hasBareQuote rest
      else
        byte = 34 || hasBareQuote (next :: rest)

/-- The end of a string is its first bare quotation mark. -/
theorem StringBody.unique
    {characters others : List JsonCharacter} {text text' : List UInt8}
    (first : StringBody characters text)
    (second : StringBody others text') {rest rest' : List UInt8}
    (same : text ++ 34 :: rest = text' ++ 34 :: rest') :
    others = characters ∧ text' = text := by
  induction first generalizing others text' with
  | nil =>
      cases second with
      | nil =>
          exact ⟨rfl, rfl⟩
      | plain _ notQuote =>
          exact absurd (List.cons.inj same).1.symm notQuote
      | short =>
          exact absurd (List.cons.inj same).1 (by decide)
      | hex =>
          exact absurd (List.cons.inj same).1 (by decide)
  | plain _ notQuote notBackslash _ inductionHypothesis =>
      cases second with
      | nil =>
          exact absurd (List.cons.inj same).1 notQuote
      | plain _ _ _ body =>
          obtain ⟨rfl, rest_⟩ := List.cons.inj same
          obtain ⟨rfl, rfl⟩ := inductionHypothesis body rest_
          exact ⟨rfl, rfl⟩
      | short =>
          exact absurd (List.cons.inj same).1 notBackslash
      | hex =>
          exact absurd (List.cons.inj same).1 notBackslash
  | short isShort _ inductionHypothesis =>
      cases second with
      | nil =>
          exact absurd (List.cons.inj same).1 (by decide)
      | plain _ _ notBackslash =>
          exact absurd (List.cons.inj same).1.symm notBackslash
      | short isShort' body =>
          obtain ⟨rfl, rest_⟩ := List.cons.inj (List.cons.inj same).2
          obtain ⟨rfl, rfl⟩ := inductionHypothesis body rest_
          rw [isShort] at isShort'
          obtain rfl := Option.some.inj isShort'
          exact ⟨rfl, rfl⟩
      | hex =>
          obtain ⟨rfl, _⟩ := List.cons.inj (List.cons.inj same).2
          cases isShort
  | hex isHex _ inductionHypothesis =>
      cases second with
      | nil =>
          exact absurd (List.cons.inj same).1 (by decide)
      | plain _ _ notBackslash =>
          exact absurd (List.cons.inj same).1.symm notBackslash
      | short isShort =>
          obtain ⟨isLetter, _⟩ := List.cons.inj (List.cons.inj same).2
          rw [← isLetter] at isShort
          cases isShort
      | hex isHex' body =>
          simp only [List.cons_append, List.cons.injEq, true_and] at same
          obtain ⟨rfl, rfl, rfl, rfl, rest_⟩ := same
          obtain ⟨rfl, rfl⟩ := inductionHypothesis body rest_
          rw [isHex] at isHex'
          obtain rfl := Option.some.inj isHex'
          exact ⟨rfl, rfl⟩

private theorem shortEscape_printable
    {letter : UInt8} {unit : Nat}
    (isShort : shortEscape letter = some unit) : 32 ≤ letter := by
  have letters :
      ∀ value : Fin 256,
        (shortEscape (UInt8.ofNat value)).isSome = true →
          32 ≤ UInt8.ofNat value := by
    decide +kernel
  have printable := letters ⟨letter.toNat, letter.toNat_lt⟩
  rw [UInt8.ofNat_toNat, isShort] at printable
  exact printable rfl

/-- Hexadecimal digits are neither quotation marks nor backslashes nor control
bytes. -/
private theorem hexValue_plain
    {digit : UInt8} {value : Nat} (isHex : hexValue digit = some value) :
    48 ≤ digit ∧ digit ≠ 92 := by
  unfold hexValue at isHex
  split at isHex
  case isTrue inRange =>
    refine ⟨inRange.1, ?_⟩
    rintro rfl
    exact absurd inRange.2 (by decide)
  case isFalse =>
    split at isHex
    case isTrue inRange =>
      refine ⟨UInt8.le_trans (by decide) inRange.1, ?_⟩
      rintro rfl
      exact absurd inRange.1 (by decide)
    case isFalse =>
      split at isHex
      case isTrue inRange =>
        refine ⟨UInt8.le_trans (by decide) inRange.1, ?_⟩
        rintro rfl
        exact absurd inRange.2 (by decide)
      case isFalse =>
        cases isHex

private theorem hexUnit_digits
    {first second third fourth : UInt8} {unit : Nat}
    (isHex : hexUnit first second third fourth = some unit) :
    (48 ≤ first ∧ first ≠ 92) ∧ (48 ≤ second ∧ second ≠ 92) ∧
      (48 ≤ third ∧ third ≠ 92) ∧ 48 ≤ fourth ∧ fourth ≠ 92 := by
  unfold hexUnit at isHex
  simp only [Option.bind_eq_bind, Option.bind_eq_some_iff] at isHex
  obtain ⟨_, isFirst, _, isSecond, _, isThird, _, isFourth, _⟩ := isHex
  exact ⟨hexValue_plain isFirst, hexValue_plain isSecond,
    hexValue_plain isThird, hexValue_plain isFourth⟩

/-- A string has no control bytes. -/
theorem StringBody.no_control
    {characters : List JsonCharacter} {text : List UInt8}
    (body : StringBody characters text) : ∀ byte ∈ text, 32 ≤ byte := by
  induction body with
  | nil =>
      exact List.forall_mem_nil _
  | plain printable _ _ _ inductionHypothesis =>
      exact List.forall_mem_cons.mpr ⟨printable, inductionHypothesis⟩
  | short isShort _ inductionHypothesis =>
      exact List.forall_mem_cons.mpr ⟨by decide,
        List.forall_mem_cons.mpr
          ⟨shortEscape_printable isShort, inductionHypothesis⟩⟩
  | hex isHex _ inductionHypothesis =>
      obtain ⟨first, second, third, fourth⟩ := hexUnit_digits isHex
      have printable {digit : UInt8} (inRange : 48 ≤ digit ∧ digit ≠ 92) :
          32 ≤ digit :=
        UInt8.le_trans (by decide) inRange.1
      simp only [List.forall_mem_cons]
      exact ⟨by decide, by decide, printable first, printable second,
        printable third, printable fourth, inductionHypothesis⟩

private theorem hasBareQuote_cons
    {byte : UInt8} (notBackslash : byte ≠ 92) (text : List UInt8) :
    hasBareQuote (byte :: text) =
      (decide (byte = 34) || hasBareQuote text) := by
  cases text with
  | nil =>
      simp [hasBareQuote]
  | cons next rest =>
      rw [hasBareQuote, if_neg notBackslash]

/-- Every quotation mark in a string is escaped. -/
theorem StringBody.no_bareQuote
    {characters : List JsonCharacter} {text : List UInt8}
    (body : StringBody characters text) : hasBareQuote text = false := by
  induction body with
  | nil =>
      rfl
  | plain _ notQuote notBackslash _ inductionHypothesis =>
      rw [hasBareQuote_cons notBackslash, inductionHypothesis]
      simp [notQuote]
  | short _ _ inductionHypothesis =>
      exact inductionHypothesis
  | hex isHex _ inductionHypothesis =>
      obtain ⟨first, second, third, fourth⟩ := hexUnit_digits isHex
      have notQuote {digit : UInt8} (inRange : 48 ≤ digit ∧ digit ≠ 92) :
          digit ≠ 34 := by
        rintro rfl
        exact absurd inRange.1 (by decide)
      rw [hasBareQuote, if_pos rfl, hasBareQuote_cons first.2,
        hasBareQuote_cons second.2, hasBareQuote_cons third.2,
        hasBareQuote_cons fourth.2, inductionHypothesis]
      simp [notQuote first, notQuote second, notQuote third,
        notQuote fourth]

/-! ## Numbers -/

/-- A decimal digit. -/
def IsDigit (byte : UInt8) : Prop :=
  48 ≤ byte ∧ byte ≤ 57

instance (byte : UInt8) : Decidable (IsDigit byte) :=
  inferInstanceAs (Decidable (_ ∧ _))

/-- The text of a number: an optional sign, an integer without leading zeros, and
optionally a fraction and an exponent. -/
structure JsonNumber (text : List UInt8) : Prop where
  parts :
    ∃ sign integer fraction exponent,
      text = sign ++ (integer ++ (fraction ++ exponent)) ∧
        (sign = [] ∨ sign = [45]) ∧
        (integer = [48] ∨
          ∃ first digits,
            integer = first :: digits ∧ IsDigit first ∧ first ≠ 48 ∧
              ∀ digit ∈ digits, IsDigit digit) ∧
        (fraction = [] ∨
          ∃ digits,
            fraction = 46 :: digits ∧ digits ≠ [] ∧
              ∀ digit ∈ digits, IsDigit digit) ∧
        (exponent = [] ∨
          ∃ mark direction digits,
            exponent = mark :: (direction ++ digits) ∧
              (mark = 101 ∨ mark = 69) ∧
              (direction = [] ∨ direction = [43] ∨ direction = [45]) ∧
              digits ≠ [] ∧ ∀ digit ∈ digits, IsDigit digit)

/-- The bytes of numbers. -/
def IsNumberByte (byte : UInt8) : Prop :=
  IsDigit byte ∨ byte = 45 ∨ byte = 46 ∨ byte = 101 ∨ byte = 69 ∨ byte = 43

theorem JsonNumber.bytes
    {text : List UInt8} (number : JsonNumber text) :
    ∀ byte ∈ text, IsNumberByte byte := by
  obtain ⟨sign, integer, fraction, exponent, rfl, isSign, isInteger,
    isFraction, isExponent⟩ := number.parts
  have digitBytes {digits : List UInt8}
      (allDigits : ∀ digit ∈ digits, IsDigit digit) :
      ∀ byte ∈ digits, IsNumberByte byte :=
    fun byte member => Or.inl (allDigits byte member)
  simp only [List.forall_mem_append]
  refine ⟨?_, ?_, ?_, ?_⟩
  · rcases isSign with rfl | rfl
    · exact List.forall_mem_nil _
    · exact List.forall_mem_singleton.mpr (by simp [IsNumberByte])
  · rcases isInteger with rfl | ⟨first, digits, rfl, isDigit, _, allDigits⟩
    · exact List.forall_mem_singleton.mpr
        (Or.inl ⟨by decide, by decide⟩)
    · exact List.forall_mem_cons.mpr
        ⟨Or.inl isDigit, digitBytes allDigits⟩
  · rcases isFraction with rfl | ⟨digits, rfl, _, allDigits⟩
    · exact List.forall_mem_nil _
    · exact List.forall_mem_cons.mpr
        ⟨by simp [IsNumberByte], digitBytes allDigits⟩
  · rcases isExponent with
      rfl | ⟨mark, direction, digits, rfl, isMark, isDirection, _, allDigits⟩
    · exact List.forall_mem_nil _
    · refine List.forall_mem_cons.mpr
        ⟨?_, List.forall_mem_append.mpr ⟨?_, digitBytes allDigits⟩⟩
      · rcases isMark with rfl | rfl
        · simp [IsNumberByte]
        · simp [IsNumberByte]
      · rcases isDirection with rfl | rfl | rfl
        · exact List.forall_mem_nil _
        · exact List.forall_mem_singleton.mpr (by simp [IsNumberByte])
        · exact List.forall_mem_singleton.mpr (by simp [IsNumberByte])

/-- A number starts with a sign or a digit. -/
theorem JsonNumber.head
    {text : List UInt8} (number : JsonNumber text) :
    ∃ first rest, text = first :: rest ∧ (first = 45 ∨ IsDigit first) := by
  obtain ⟨sign, integer, fraction, exponent, rfl, isSign, isInteger, _, _⟩ :=
    number.parts
  rcases isSign with rfl | rfl
  · rcases isInteger with rfl | ⟨first, digits, rfl, isDigit, _⟩
    · exact ⟨48, _, rfl, Or.inr ⟨by decide, by decide⟩⟩
    · exact ⟨first, _, rfl, Or.inr isDigit⟩
  · exact ⟨45, _, rfl, Or.inl rfl⟩

/-! ## Values -/

/-- The white space between tokens. -/
def IsJsonBlank (byte : UInt8) : Prop :=
  byte = 32 ∨ byte = 9 ∨ byte = 10 ∨ byte = 13

/-- Any amount of white space. -/
def JsonBlanks (text : List UInt8) : Prop :=
  ∀ byte ∈ text, IsJsonBlank byte

/-- A JSON value. -/
inductive Json where
  | null
  | boolean (value : Bool)
  | number (text : List UInt8)
  | string (characters : List JsonCharacter)
  | array (elements : List Json)
  | object (members : List (List JsonCharacter × Json))

/-- The phrases of the grammar. -/
inductive JsonPhrase where
  | value (value : Json)
  /-- a value with white space around it -/
  | padded (value : Json)
  /-- the inside of an array that is not empty -/
  | elements (elements : List Json)
  | member (name : List JsonCharacter) (value : Json)
  /-- the inside of an object that is not empty -/
  | members (members : List (List JsonCharacter × Json))

/-- The byte string is the phrase. -/
inductive Derives : JsonPhrase → List UInt8 → Prop
  | nullWord : Derives (.value .null) [110, 117, 108, 108]
  | trueWord : Derives (.value (.boolean true)) [116, 114, 117, 101]
  | falseWord : Derives (.value (.boolean false)) [102, 97, 108, 115, 101]
  | number {text : List UInt8} :
      JsonNumber text → Derives (.value (.number text)) text
  | string {characters : List JsonCharacter} {text : List UInt8} :
      StringBody characters text →
      Derives (.value (.string characters)) (34 :: (text ++ [34]))
  | emptyArray {blanks : List UInt8} :
      JsonBlanks blanks →
      Derives (.value (.array [])) (91 :: (blanks ++ [93]))
  | array {elements : List Json} {text : List UInt8} :
      Derives (.elements elements) text →
      Derives (.value (.array elements)) (91 :: (text ++ [93]))
  | emptyObject {blanks : List UInt8} :
      JsonBlanks blanks →
      Derives (.value (.object [])) (123 :: (blanks ++ [125]))
  | object {members : List (List JsonCharacter × Json)}
      {text : List UInt8} :
      Derives (.members members) text →
      Derives (.value (.object members)) (123 :: (text ++ [125]))
  | padded {value : Json} {before text after : List UInt8} :
      JsonBlanks before → Derives (.value value) text →
      JsonBlanks after →
      Derives (.padded value) (before ++ (text ++ after))
  | element {value : Json} {text : List UInt8} :
      Derives (.padded value) text →
      Derives (.elements [value]) text
  | moreElements {value : Json} {elements : List Json}
      {text others : List UInt8} :
      Derives (.padded value) text →
      Derives (.elements elements) others →
      Derives (.elements (value :: elements)) (text ++ 44 :: others)
  | member {name : List JsonCharacter} {value : Json}
      {before nameText after text : List UInt8} :
      JsonBlanks before → StringBody name nameText → JsonBlanks after →
      Derives (.padded value) text →
      Derives (.member name value)
        (before ++ 34 :: (nameText ++ 34 :: (after ++ 58 :: text)))
  | oneMember {name : List JsonCharacter} {value : Json}
      {text : List UInt8} :
      Derives (.member name value) text →
      Derives (.members [(name, value)]) text
  | moreMembers {name : List JsonCharacter} {value : Json}
      {members : List (List JsonCharacter × Json)}
      {text others : List UInt8} :
      Derives (.member name value) text →
      Derives (.members members) others →
      Derives (.members ((name, value) :: members)) (text ++ 44 :: others)

/-- A JSON text: one value, with white space around it. -/
def JsonText (value : Json) (text : List UInt8) : Prop :=
  Derives (.padded value) text

/-- JSON that another program can read: a JSON text in UTF-8. -/
def WellFormedJson (text : List UInt8) : Prop :=
  ValidUtf8 text ∧ ∃ value, JsonText value text

/-! ## How phrases start -/

/-- The kinds of values. -/
inductive JsonKind where
  | null
  | boolean
  | number
  | string
  | array
  | object
  deriving DecidableEq, Repr

/-- The kind of a value. -/
def Json.kind : Json → JsonKind
  | .null => .null
  | .boolean _ => .boolean
  | .number _ => .number
  | .string _ => .string
  | .array _ => .array
  | .object _ => .object

/-- The kind of value that starts with a byte. -/
def openingKind (byte : UInt8) : Option JsonKind :=
  if byte = 110 then some .null
  else if byte = 116 ∨ byte = 102 then some .boolean
  else if byte = 45 ∨ IsDigit byte then some .number
  else if byte = 34 then some .string
  else if byte = 91 then some .array
  else if byte = 123 then some .object
  else none

theorem openingKind_number
    {byte : UInt8} (starts : byte = 45 ∨ IsDigit byte) :
    openingKind byte = some .number := by
  have notLetter {letter : UInt8} (beyond : 57 < letter) :
      byte ≠ letter := by
    rintro rfl
    rcases starts with rfl | ⟨_, atMost⟩
    · exact absurd beyond (by decide)
    · exact absurd atMost (UInt8.not_le.mpr beyond)
  unfold openingKind
  rw [if_neg (notLetter (by decide)),
    if_neg (not_or.mpr ⟨notLetter (by decide), notLetter (by decide)⟩),
    if_pos starts]

theorem openingKind_blank
    {byte : UInt8} (blank : IsJsonBlank byte) : openingKind byte = none := by
  rcases blank with rfl | rfl | rfl | rfl
  · rfl
  · rfl
  · rfl
  · rfl

theorem Derives.opening
    {value : Json} {text : List UInt8}
    (derives : Derives (.value value) text) :
    ∃ first rest, text = first :: rest ∧
      openingKind first = some value.kind := by
  cases derives with
  | nullWord =>
      exact ⟨_, _, rfl, rfl⟩
  | trueWord =>
      exact ⟨_, _, rfl, rfl⟩
  | falseWord =>
      exact ⟨_, _, rfl, rfl⟩
  | number isNumber =>
      obtain ⟨first, rest, isText, starts⟩ := isNumber.head
      exact ⟨first, rest, isText, openingKind_number starts⟩
  | string =>
      exact ⟨_, _, rfl, rfl⟩
  | emptyArray =>
      exact ⟨_, _, rfl, rfl⟩
  | array =>
      exact ⟨_, _, rfl, rfl⟩
  | emptyObject =>
      exact ⟨_, _, rfl, rfl⟩
  | object =>
      exact ⟨_, _, rfl, rfl⟩

theorem Derives.elements_start
    {elements : List Json} {text : List UInt8}
    (derives : Derives (.elements elements) text) :
    ∃ before first rest, text = before ++ first :: rest ∧
      JsonBlanks before ∧ (openingKind first).isSome = true := by
  have padded {value : Json} {text : List UInt8}
      (derives : Derives (.padded value) text) :
      ∃ before first rest, text = before ++ first :: rest ∧
        JsonBlanks before ∧ (openingKind first).isSome = true := by
    cases derives with
    | @padded _ before text after blanks isValue _ =>
        obtain ⟨first, rest, rfl, opening⟩ := isValue.opening
        exact ⟨before, first, rest ++ after, rfl, blanks, by simp [opening]⟩
  cases derives with
  | element isPadded =>
      exact padded isPadded
  | moreElements isPadded _ =>
      obtain ⟨before, first, rest, rfl, blanks, opening⟩ := padded isPadded
      exact ⟨before, first, _, List.append_assoc _ _ _, blanks, opening⟩

theorem Derives.members_start
    {members : List (List JsonCharacter × Json)} {text : List UInt8}
    (derives : Derives (.members members) text) :
    ∃ before rest, text = before ++ 34 :: rest ∧ JsonBlanks before := by
  have member {name : List JsonCharacter} {value : Json}
      {text : List UInt8} (derives : Derives (.member name value) text) :
      ∃ before rest, text = before ++ 34 :: rest ∧ JsonBlanks before := by
    cases derives with
    | @member _ _ before nameText after text blanks _ _ _ =>
        exact ⟨before, _, rfl, blanks⟩
  cases derives with
  | oneMember isMember =>
      exact member isMember
  | moreMembers isMember _ =>
      obtain ⟨before, rest, rfl, blanks⟩ := member isMember
      exact ⟨before, _, List.append_assoc _ _ _, blanks⟩

/-! ## Every text is one value -/

/-- Where a run of like bytes ends is determined by the first other byte. -/
theorem append_unique
    {Item : Type} {like : Item → Prop} {left left' right right' : List Item}
    (alike : ∀ item ∈ left, like item)
    (alike' : ∀ item ∈ left', like item)
    (stops : ∀ item ∈ right.head?, ¬ like item)
    (stops' : ∀ item ∈ right'.head?, ¬ like item)
    (same : left ++ right = left' ++ right') :
    left' = left ∧ right' = right := by
  induction left generalizing left' with
  | nil =>
      cases left' with
      | nil =>
          exact ⟨rfl, same.symm⟩
      | cons first rest =>
          rw [List.nil_append] at same
          rw [same] at stops
          exact absurd (alike' first List.mem_cons_self)
            (stops first rfl)
  | cons first rest inductionHypothesis =>
      cases left' with
      | nil =>
          rw [List.nil_append] at same
          rw [← same] at stops'
          exact absurd (alike first List.mem_cons_self)
            (stops' first rfl)
      | cons first' rest' =>
          obtain ⟨rfl, rest_⟩ := List.cons.inj same
          obtain ⟨rfl, rfl⟩ :=
            inductionHypothesis (List.forall_mem_cons.mp alike).2
              (List.forall_mem_cons.mp alike').2 rest_
          exact ⟨rfl, rfl⟩

/-- What may follow a value: no byte that could belong to a number. -/
def AfterValue (rest : List UInt8) : Prop :=
  ∀ byte ∈ rest.head?, ¬ IsNumberByte byte

/-- What may follow the white space after a value. -/
def AfterPadded (rest : List UInt8) : Prop :=
  ∀ byte ∈ rest.head?, byte = 44 ∨ byte = 93 ∨ byte = 125

/-- No other phrase of the same sort starts the same way. -/
def JsonPhrase.Unique : JsonPhrase → List UInt8 → Prop
  | .value found, text =>
      ∀ {other : Json} {text' rest rest' : List UInt8},
        Derives (.value other) text' → AfterValue rest →
        AfterValue rest' → text ++ rest = text' ++ rest' →
          other = found ∧ text' = text
  | .padded found, text =>
      ∀ {other : Json} {text' rest rest' : List UInt8},
        Derives (.padded other) text' → AfterPadded rest →
        AfterPadded rest' → text ++ rest = text' ++ rest' →
          other = found ∧ text' = text
  | .elements list, text =>
      ∀ {others : List Json} {text' rest rest' : List UInt8},
        Derives (.elements others) text' →
        text ++ 93 :: rest = text' ++ 93 :: rest' →
          others = list ∧ text' = text
  | .member name found, text =>
      ∀ {name' : List JsonCharacter} {other : Json}
        {text' rest rest' : List UInt8},
        Derives (.member name' other) text' → AfterPadded rest →
        AfterPadded rest' → text ++ rest = text' ++ rest' →
          name' = name ∧ other = found ∧ text' = text
  | .members list, text =>
      ∀ {others : List (List JsonCharacter × Json)}
        {text' rest rest' : List UInt8},
        Derives (.members others) text' →
        text ++ 125 :: rest = text' ++ 125 :: rest' →
          others = list ∧ text' = text

private theorem Derives.kind_eq
    {value other : Json} {text text' rest rest' : List UInt8}
    (first : Derives (.value value) text)
    (second : Derives (.value other) text')
    (same : text ++ rest = text' ++ rest') : other.kind = value.kind := by
  obtain ⟨byte, _, rfl, opening⟩ := first.opening
  obtain ⟨byte', _, rfl, opening'⟩ := second.opening
  obtain ⟨rfl, _⟩ := List.cons.inj same
  exact Option.some.inj (opening'.symm.trans opening)

private theorem unique_number
    {text : List UInt8} (isNumber : JsonNumber text) :
    (JsonPhrase.value (.number text)).Unique text := by
  intro other text' rest rest' second stops stops' same
  have kinds := (Derives.number isNumber).kind_eq second same
  cases second with
  | number isNumber' =>
      obtain ⟨rfl, _⟩ :=
        append_unique isNumber.bytes isNumber'.bytes stops stops' same
      exact ⟨rfl, rfl⟩
  | _ =>
      cases kinds

/-- Two phrases between the same brackets. -/
private theorem inside_eq
    {opening closing : UInt8} {text text' rest rest' : List UInt8}
    (same :
      opening :: (text ++ [closing]) ++ rest =
        opening :: (text' ++ [closing]) ++ rest') :
    text ++ closing :: rest = text' ++ closing :: rest' := by
  simpa using same

private theorem unique_string
    {characters : List JsonCharacter} {text : List UInt8}
    (body : StringBody characters text) :
    (JsonPhrase.value (.string characters)).Unique
      (34 :: (text ++ [34])) := by
  intro other text' rest rest' second _ _ same
  have kinds := (Derives.string body).kind_eq second same
  cases second with
  | string body' =>
      obtain ⟨rfl, rfl⟩ := body.unique body' (inside_eq same)
      exact ⟨rfl, rfl⟩
  | _ =>
      cases kinds

/-- White space ends at the first byte that is none. -/
private theorem blanks_unique
    {blanks blanks' rest rest' : List UInt8} {mark mark' : UInt8}
    (notBlank : ¬ IsJsonBlank mark) (notBlank' : ¬ IsJsonBlank mark')
    (isBlanks : JsonBlanks blanks) (isBlanks' : JsonBlanks blanks')
    (same : blanks ++ mark :: rest = blanks' ++ mark' :: rest') :
    blanks' = blanks ∧ mark' = mark ∧ rest' = rest := by
  have stops {byte : UInt8} (isByte : ¬ IsJsonBlank byte)
      (rest : List UInt8) :
      ∀ item ∈ (byte :: rest).head?, ¬ IsJsonBlank item := by
    intro item isHead
    cases isHead
    exact isByte
  obtain ⟨sameBlanks, sameRest⟩ :=
    append_unique isBlanks isBlanks' (stops notBlank rest)
      (stops notBlank' rest') same
  obtain ⟨sameMark, others⟩ := List.cons.inj sameRest
  exact ⟨sameBlanks, sameMark, others⟩

/-- After its white space an empty array ends, and another does not. -/
private theorem not_elements_of_blanks
    {blanks text rest rest' : List UInt8} {elements : List Json}
    (isBlanks : JsonBlanks blanks) (derives : Derives (.elements elements) text)
    (same : blanks ++ 93 :: rest = text ++ 93 :: rest') : False := by
  obtain ⟨before, first, others, rfl, isBefore, opening⟩ :=
    derives.elements_start
  rw [List.append_assoc] at same
  have notBlank : ¬ IsJsonBlank first := by
    intro blank
    rw [openingKind_blank blank] at opening
    cases opening
  obtain ⟨_, rfl, _⟩ :=
    blanks_unique (by simp [IsJsonBlank]) notBlank isBlanks isBefore same
  cases opening

private theorem not_members_of_blanks
    {blanks text rest rest' : List UInt8}
    {members : List (List JsonCharacter × Json)}
    (isBlanks : JsonBlanks blanks) (derives : Derives (.members members) text)
    (same : blanks ++ 125 :: rest = text ++ 125 :: rest') : False := by
  obtain ⟨before, others, rfl, isBefore⟩ := derives.members_start
  rw [List.append_assoc] at same
  obtain ⟨_, sameMark, _⟩ :=
    blanks_unique (by simp [IsJsonBlank]) (by simp [IsJsonBlank])
      isBlanks isBefore same
  exact absurd sameMark (by decide)

private theorem unique_emptyArray
    {blanks : List UInt8} (isBlanks : JsonBlanks blanks) :
    (JsonPhrase.value (.array [])).Unique (91 :: (blanks ++ [93])) := by
  intro other text' rest rest' second _ _ same
  have kinds := (Derives.emptyArray isBlanks).kind_eq second same
  cases second with
  | emptyArray isBlanks' =>
      obtain ⟨rfl, _⟩ :=
        blanks_unique (by simp [IsJsonBlank]) (by simp [IsJsonBlank])
          isBlanks isBlanks' (inside_eq same)
      exact ⟨rfl, rfl⟩
  | array derives =>
      exact (not_elements_of_blanks isBlanks derives (inside_eq same)).elim
  | _ =>
      cases kinds

private theorem unique_array
    {elements : List Json} {text : List UInt8}
    (derives : Derives (.elements elements) text)
    (unique : (JsonPhrase.elements elements).Unique text) :
    (JsonPhrase.value (.array elements)).Unique (91 :: (text ++ [93])) := by
  intro other text' rest rest' second _ _ same
  have kinds := (Derives.array derives).kind_eq second same
  cases second with
  | emptyArray isBlanks =>
      exact (not_elements_of_blanks isBlanks derives
        (inside_eq same).symm).elim
  | array derives' =>
      obtain ⟨rfl, rfl⟩ := unique derives' (inside_eq same)
      exact ⟨rfl, rfl⟩
  | _ =>
      cases kinds

private theorem unique_emptyObject
    {blanks : List UInt8} (isBlanks : JsonBlanks blanks) :
    (JsonPhrase.value (.object [])).Unique (123 :: (blanks ++ [125])) := by
  intro other text' rest rest' second _ _ same
  have kinds := (Derives.emptyObject isBlanks).kind_eq second same
  cases second with
  | emptyObject isBlanks' =>
      obtain ⟨rfl, _⟩ :=
        blanks_unique (by simp [IsJsonBlank]) (by simp [IsJsonBlank])
          isBlanks isBlanks' (inside_eq same)
      exact ⟨rfl, rfl⟩
  | object derives =>
      exact (not_members_of_blanks isBlanks derives (inside_eq same)).elim
  | _ =>
      cases kinds

private theorem unique_object
    {members : List (List JsonCharacter × Json)} {text : List UInt8}
    (derives : Derives (.members members) text)
    (unique : (JsonPhrase.members members).Unique text) :
    (JsonPhrase.value (.object members)).Unique
      (123 :: (text ++ [125])) := by
  intro other text' rest rest' second _ _ same
  have kinds := (Derives.object derives).kind_eq second same
  cases second with
  | emptyObject isBlanks =>
      exact (not_members_of_blanks isBlanks derives
        (inside_eq same).symm).elim
  | object derives' =>
      obtain ⟨rfl, rfl⟩ := unique derives' (inside_eq same)
      exact ⟨rfl, rfl⟩
  | _ =>
      cases kinds

private theorem AfterPadded.not_blank
    {rest : List UInt8} (stops : AfterPadded rest) :
    ∀ byte ∈ rest.head?, ¬ IsJsonBlank byte := by
  intro byte isHead
  rcases stops byte isHead with rfl | rfl | rfl
  · simp [IsJsonBlank]
  · simp [IsJsonBlank]
  · simp [IsJsonBlank]

/-- White space and what may follow it may follow a value. -/
private theorem AfterPadded.afterValue
    {after rest : List UInt8} (blanks : JsonBlanks after)
    (stops : AfterPadded rest) : AfterValue (after ++ rest) := by
  intro byte isHead
  cases after with
  | nil =>
      rcases stops byte isHead with rfl | rfl | rfl
      · simp [IsNumberByte, IsDigit]
      · simp [IsNumberByte, IsDigit]
      · simp [IsNumberByte, IsDigit]
  | cons first others =>
      cases isHead
      rcases blanks byte List.mem_cons_self with rfl | rfl | rfl | rfl
      · simp [IsNumberByte, IsDigit]
      · simp [IsNumberByte, IsDigit]
      · simp [IsNumberByte, IsDigit]
      · simp [IsNumberByte, IsDigit]

private theorem Derives.not_blank
    {value : Json} {text : List UInt8}
    (derives : Derives (.value value) text) (rest : List UInt8) :
    ∀ byte ∈ (text ++ rest).head?, ¬ IsJsonBlank byte := by
  obtain ⟨first, others, rfl, opening⟩ := derives.opening
  intro byte isHead blank
  cases isHead
  rw [openingKind_blank blank] at opening
  cases opening

private theorem unique_padded
    {value : Json} {before text after : List UInt8}
    (isBefore : JsonBlanks before) (derives : Derives (.value value) text)
    (isAfter : JsonBlanks after)
    (unique : (JsonPhrase.value value).Unique text) :
    (JsonPhrase.padded value).Unique (before ++ (text ++ after)) := by
  intro other text' rest rest' second stops stops' same
  cases second with
  | @padded _ before' text' after' isBefore' derives' isAfter' =>
      simp only [List.append_assoc] at same
      obtain ⟨rfl, sameText⟩ :=
        append_unique isBefore isBefore' (derives.not_blank _)
          (derives'.not_blank _) same
      obtain ⟨rfl, rfl⟩ :=
        unique derives' (AfterPadded.afterValue isAfter stops)
          (AfterPadded.afterValue isAfter' stops') sameText.symm
      have sameAfter := List.append_cancel_left sameText
      obtain ⟨rfl, _⟩ :=
        append_unique isAfter isAfter' stops.not_blank stops'.not_blank
          sameAfter.symm
      exact ⟨rfl, rfl⟩

private theorem afterPadded_cons
    {mark : UInt8} (isMark : mark = 44 ∨ mark = 93 ∨ mark = 125)
    (rest : List UInt8) : AfterPadded (mark :: rest) := by
  intro byte isHead
  cases isHead
  exact isMark

private theorem unique_element
    {value : Json} {text : List UInt8}
    (unique : (JsonPhrase.padded value).Unique text) :
    (JsonPhrase.elements [value]).Unique text := by
  intro others text' rest rest' second same
  cases second with
  | element derives =>
      obtain ⟨rfl, rfl⟩ :=
        unique derives (afterPadded_cons (by simp) rest)
          (afterPadded_cons (by simp) rest') same
      exact ⟨rfl, rfl⟩
  | moreElements derives _ =>
      rw [List.append_assoc] at same
      obtain ⟨rfl, rfl⟩ :=
        unique derives (afterPadded_cons (by simp) rest)
          (afterPadded_cons (by simp) _) same
      exact absurd (List.cons.inj (List.append_cancel_left same)).1
        (by decide)

private theorem unique_moreElements
    {value : Json} {elements : List Json} {text others : List UInt8}
    (unique : (JsonPhrase.padded value).Unique text)
    (restUnique : (JsonPhrase.elements elements).Unique others) :
    (JsonPhrase.elements (value :: elements)).Unique
      (text ++ 44 :: others) := by
  intro list text' rest rest' second same
  rw [List.append_assoc] at same
  cases second with
  | element derives =>
      obtain ⟨rfl, rfl⟩ :=
        unique derives (afterPadded_cons (by simp) _)
          (afterPadded_cons (by simp) rest') same
      exact absurd (List.cons.inj (List.append_cancel_left same)).1
        (by decide)
  | moreElements derives derivesRest =>
      rw [List.append_assoc] at same
      obtain ⟨rfl, rfl⟩ :=
        unique derives (afterPadded_cons (by simp) _)
          (afterPadded_cons (by simp) _) same
      obtain ⟨rfl, rfl⟩ :=
        restUnique derivesRest
          (List.cons.inj (List.append_cancel_left same)).2
      exact ⟨rfl, rfl⟩

private theorem unique_member
    {name : List JsonCharacter} {value : Json}
    {before nameText after text : List UInt8}
    (isBefore : JsonBlanks before) (body : StringBody name nameText)
    (isAfter : JsonBlanks after)
    (unique : (JsonPhrase.padded value).Unique text) :
    (JsonPhrase.member name value).Unique
      (before ++ 34 :: (nameText ++ 34 :: (after ++ 58 :: text))) := by
  intro name' other text' rest rest' second stops stops' same
  cases second with
  | member isBefore' body' isAfter' derives =>
      simp only [List.append_assoc, List.cons_append] at same
      obtain ⟨rfl, _, sameName⟩ :=
        blanks_unique (by simp [IsJsonBlank]) (by simp [IsJsonBlank])
          isBefore isBefore' same
      obtain ⟨rfl, rfl⟩ := body.unique body' sameName.symm
      have sameAfter :=
        (List.cons.inj (List.append_cancel_left sameName)).2
      obtain ⟨rfl, _, sameText⟩ :=
        blanks_unique (by simp [IsJsonBlank]) (by simp [IsJsonBlank])
          isAfter isAfter' sameAfter.symm
      obtain ⟨rfl, rfl⟩ := unique derives stops stops' sameText.symm
      exact ⟨rfl, rfl, rfl⟩

private theorem unique_oneMember
    {name : List JsonCharacter} {value : Json} {text : List UInt8}
    (unique : (JsonPhrase.member name value).Unique text) :
    (JsonPhrase.members [(name, value)]).Unique text := by
  intro others text' rest rest' second same
  cases second with
  | oneMember derives =>
      obtain ⟨rfl, rfl, rfl⟩ :=
        unique derives (afterPadded_cons (by simp) rest)
          (afterPadded_cons (by simp) rest') same
      exact ⟨rfl, rfl⟩
  | moreMembers derives _ =>
      rw [List.append_assoc] at same
      obtain ⟨rfl, rfl, rfl⟩ :=
        unique derives (afterPadded_cons (by simp) rest)
          (afterPadded_cons (by simp) _) same
      exact absurd (List.cons.inj (List.append_cancel_left same)).1
        (by decide)

private theorem unique_moreMembers
    {name : List JsonCharacter} {value : Json}
    {members : List (List JsonCharacter × Json)}
    {text others : List UInt8}
    (unique : (JsonPhrase.member name value).Unique text)
    (restUnique : (JsonPhrase.members members).Unique others) :
    (JsonPhrase.members ((name, value) :: members)).Unique
      (text ++ 44 :: others) := by
  intro list text' rest rest' second same
  rw [List.append_assoc] at same
  cases second with
  | oneMember derives =>
      obtain ⟨rfl, rfl, rfl⟩ :=
        unique derives (afterPadded_cons (by simp) _)
          (afterPadded_cons (by simp) rest') same
      exact absurd (List.cons.inj (List.append_cancel_left same)).1
        (by decide)
  | moreMembers derives derivesRest =>
      rw [List.append_assoc] at same
      obtain ⟨rfl, rfl, rfl⟩ :=
        unique derives (afterPadded_cons (by simp) _)
          (afterPadded_cons (by simp) _) same
      obtain ⟨rfl, rfl⟩ :=
        restUnique derivesRest
          (List.cons.inj (List.append_cancel_left same)).2
      exact ⟨rfl, rfl⟩

/-- The grammar is unambiguous: one case for each of its rules. -/
theorem Derives.unique
    {phrase : JsonPhrase} {text : List UInt8}
    (derives : Derives phrase text) : phrase.Unique text := by
  induction derives with
  | nullWord =>
      intro other text' rest rest' second _ _ same
      have kinds := Derives.nullWord.kind_eq second same
      cases second with
      | nullWord =>
          exact ⟨rfl, rfl⟩
      | _ =>
          cases kinds
  | trueWord =>
      intro other text' rest rest' second _ _ same
      have kinds := Derives.trueWord.kind_eq second same
      cases second with
      | trueWord =>
          exact ⟨rfl, rfl⟩
      | falseWord =>
          exact absurd (List.cons.inj same).1 (by decide)
      | _ =>
          cases kinds
  | falseWord =>
      intro other text' rest rest' second _ _ same
      have kinds := Derives.falseWord.kind_eq second same
      cases second with
      | trueWord =>
          exact absurd (List.cons.inj same).1 (by decide)
      | falseWord =>
          exact ⟨rfl, rfl⟩
      | _ =>
          cases kinds
  | number isNumber =>
      exact unique_number isNumber
  | string body =>
      exact unique_string body
  | emptyArray isBlanks =>
      exact unique_emptyArray isBlanks
  | array derives inductionHypothesis =>
      exact unique_array derives inductionHypothesis
  | emptyObject isBlanks =>
      exact unique_emptyObject isBlanks
  | object derives inductionHypothesis =>
      exact unique_object derives inductionHypothesis
  | padded isBefore derives isAfter inductionHypothesis =>
      exact unique_padded isBefore derives isAfter inductionHypothesis
  | element _ inductionHypothesis =>
      exact unique_element inductionHypothesis
  | moreElements _ _ valueUnique restUnique =>
      exact unique_moreElements valueUnique restUnique
  | member isBefore body isAfter _ inductionHypothesis =>
      exact unique_member isBefore body isAfter inductionHypothesis
  | oneMember _ inductionHypothesis =>
      exact unique_oneMember inductionHypothesis
  | moreMembers _ _ memberUnique restUnique =>
      exact unique_moreMembers memberUnique restUnique

/-- A byte string is at most one JSON text. -/
theorem JsonText.unique
    {value other : Json} {text : List UInt8}
    (first : JsonText value text) (second : JsonText other text) :
    other = value := by
  have ends : AfterPadded [] := by
    intro byte isHead
    cases isHead
  exact (Derives.unique first second ends ends rfl).1

/-! ## Writing -/

/-- White space around a value may be left out. -/
theorem Derives.unpadded
    {value : Json} {text : List UInt8} (derives : Derives (.value value) text) :
    Derives (.padded value) text := by
  have padded :=
    @Derives.padded value [] text [] (List.forall_mem_nil _) derives
      (List.forall_mem_nil _)
  rwa [List.nil_append, List.append_nil] at padded

/-- A written value is read as itself only. -/
theorem jsonText_iff
    {value : Json} {text : List UInt8} (derives : Derives (.value value) text)
    (other : Json) : JsonText other text ↔ other = value := by
  constructor
  · exact JsonText.unique derives.unpadded
  · rintro rfl
    exact derives.unpadded

theorem derives_member
    {name : List JsonCharacter} {value : Json} {nameText text : List UInt8}
    (isName : StringBody name nameText)
    (derives : Derives (.value value) text) :
    Derives (.member name value) (34 :: (nameText ++ 34 :: 58 :: text)) :=
  @Derives.member _ _ [] _ [] _ (List.forall_mem_nil _) isName
    (List.forall_mem_nil _) derives.unpadded

/-- Values with commas between them, in brackets. -/
theorem derives_array
    {elements : List Json} {texts : List (List UInt8)}
    (written :
      List.Forall₂ (fun value text => Derives (.value value) text) elements
        texts) :
    Derives (.value (.array elements))
      (91 :: (List.intercalate [44] texts ++ [93])) := by
  have inside (some_ : elements ≠ []) :
      Derives (.elements elements) (List.intercalate [44] texts) := by
    induction written with
    | nil =>
        exact absurd rfl some_
    | @cons value text elements texts first rest inductionHypothesis =>
        cases rest with
        | nil =>
            rw [List.intercalate_singleton]
            exact .element first.unpadded
        | @cons second _ others _ _ _ =>
            rw [List.intercalate_cons_cons, List.append_assoc]
            exact
              .moreElements first.unpadded
                (inductionHypothesis (List.cons_ne_nil second others))
  cases written with
  | nil =>
      exact .emptyArray (List.forall_mem_nil _)
  | cons first rest =>
      exact .array (inside (List.cons_ne_nil _ _))

/-- Members with commas between them, in braces. -/
theorem derives_object
    {members : List (List JsonCharacter × Json)} {texts : List (List UInt8)}
    (written :
      List.Forall₂
        (fun member text => Derives (.member member.1 member.2) text)
        members texts)
    (some_ : members ≠ []) :
    Derives (.value (.object members))
      (123 :: (List.intercalate [44] texts ++ [125])) := by
  apply Derives.object
  induction written with
  | nil =>
      exact absurd rfl some_
  | @cons member text members texts first rest inductionHypothesis =>
      cases rest with
      | nil =>
          rw [List.intercalate_singleton]
          exact .oneMember first
      | @cons second _ others _ _ _ =>
          rw [List.intercalate_cons_cons, List.append_assoc]
          exact
            .moreMembers first
              (inductionHypothesis (List.cons_ne_nil second others))

/-! ## Flat objects -/

/-- What a member of a flat object holds: a byte string or a natural number. -/
inductive JsonScalar where
  | text (content : List UInt8)
  | natural (number : Nat)
  deriving DecidableEq, Repr

/-- The number that decimal digits write. -/
def digitsValue (digits : List UInt8) : Option Nat :=
  if digits.all (fun digit => decide (IsDigit digit)) = true then
    some
      (digits.foldl
        (fun number digit => number * 10 + (digit.toNat - 48)) 0)
  else
    none

namespace Json

/-- A string by the bytes it stands for, a natural number by its value. -/
def scalar : Json → Option JsonScalar
  | .string characters => (unescape characters).map .text
  | .number text => (digitsValue text).map .natural
  | _ => none

/-- The members of a flat object, in their order. -/
def fields : Json → Option (List (List UInt8 × JsonScalar))
  | .object members =>
      members.mapM fun member => do
        let name ← unescape member.1
        let value ← member.2.scalar
        return (name, value)
  | _ => none

end Json

/-- The byte string is a member that reads as the field. -/
def WritesField (field : List UInt8 × JsonScalar) (text : List UInt8) : Prop :=
  ∃ name value,
    Derives (.member name value) text ∧
      unescape name = some field.1 ∧ value.scalar = some field.2

/-- The members behind the texts of fields. -/
private theorem members_of_fields
    {fields : List (List UInt8 × JsonScalar)} {texts : List (List UInt8)}
    (written : List.Forall₂ WritesField fields texts) :
    ∃ members,
      List.Forall₂
          (fun member text => Derives (.member member.1 member.2) text)
          members texts ∧
        (Json.object members).fields = some fields := by
  induction written with
  | nil =>
      exact ⟨[], .nil, rfl⟩
  | @cons field text fields texts first rest inductionHypothesis =>
      obtain ⟨name, value, derives, isName, isValue⟩ := first
      obtain ⟨members, derivesRest, readsRest⟩ := inductionHypothesis
      refine ⟨(name, value) :: members, .cons derives derivesRest, ?_⟩
      rw [Json.fields] at readsRest ⊢
      rw [List.mapM_cons, readsRest]
      simp [isName, isValue]

/-- Members with commas between them, in braces, are one text and read as the
fields they write. -/
theorem jsonText_object
    {fields : List (List UInt8 × JsonScalar)} {texts : List (List UInt8)}
    (written : List.Forall₂ WritesField fields texts) (some_ : fields ≠ []) :
    ∃ object,
      (∀ value,
        JsonText value (123 :: (List.intercalate [44] texts ++ [125])) ↔
          value = object) ∧
        object.fields = some fields := by
  obtain ⟨members, derives, reads⟩ := members_of_fields written
  have someMembers : members ≠ [] := by
    rintro rfl
    cases derives
    cases written
    exact some_ rfl
  exact
    ⟨.object members, jsonText_iff (derives_object derives someMembers),
      reads⟩

end ShardedKvStore.Foundation
