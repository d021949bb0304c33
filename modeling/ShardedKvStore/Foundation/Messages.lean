import ShardedKvStore.Foundation.Scanning

/-!
# Messages with a head and a body

A message is a line, fields of a name and a value, a blank line, and a body; lines
end with a carriage return and a line feed.  A message whose parts contain no
carriage returns reads back as it was written, so no field can pass for the end of
the head.
-/

namespace ShardedKvStore.Foundation

/-- A message of a start line, fields in their order, and a body. -/
structure Message where
  startLine : List UInt8
  fields : List (List UInt8 × List UInt8)
  body : List UInt8
  deriving DecidableEq, Repr

/-- The end of a line of a message. -/
def lineEnd : List UInt8 :=
  [13, 10]

/-- A field as it is written, with the end of its line. -/
def fieldLine (field : List UInt8 × List UInt8) : List UInt8 :=
  field.1 ++ 58 :: 32 :: (field.2 ++ lineEnd)

/-- A message as it is written. -/
def Message.written (message : Message) : List UInt8 :=
  message.startLine ++ (lineEnd ++
    (message.fields.flatMap fieldLine ++ (lineEnd ++ message.body)))

/-! ## Reading -/

/-- The first line of a text, and what follows it. -/
def readLine (text : List UInt8) : Option (List UInt8 × List UInt8) :=
  (find lineEnd text).map fun position =>
    (text.take position, text.drop (position + 2))

/-- The name and the value of a field, without the spaces before the value. -/
def readField (line : List UInt8) : Option (List UInt8 × List UInt8) :=
  (find [58] line).map fun colon =>
    (line.take colon, (line.drop (colon + 1)).dropWhile (· = 32))

/-- At most so many fields up to a blank line, and what follows it. -/
def readFields :
    Nat → List UInt8 → Option (List (List UInt8 × List UInt8) × List UInt8)
  | 0, _ => none
  | lineCount + 1, text => do
      let (line, rest) ← readLine text
      if line = [] then
        return ([], rest)
      else
        let field ← readField line
        let (fields, body) ← readFields lineCount rest
        return (field :: fields, body)

/-- A message from a text. -/
def readMessage (text : List UInt8) : Option Message := do
  let (startLine, rest) ← readLine text
  let (fields, body) ← readFields rest.length rest
  return { startLine, fields, body }

/-! ## What is written is read -/

/-- A field that stays on its line. -/
structure PlainField (field : List UInt8 × List UInt8) : Prop where
  name : 13 ∉ field.1 ∧ 58 ∉ field.1
  value : 13 ∉ field.2
  start : field.2.head? ≠ some 32

instance (field : List UInt8 × List UInt8) : Decidable (PlainField field) :=
  decidable_of_iff
    ((13 ∉ field.1 ∧ 58 ∉ field.1) ∧ 13 ∉ field.2 ∧
      field.2.head? ≠ some 32)
    ⟨fun ⟨name, value, start⟩ => ⟨name, value, start⟩,
      fun ⟨name, value, start⟩ => ⟨name, value, start⟩⟩

/-- A message whose head has no carriage returns of its own. -/
structure Message.Plain (message : Message) : Prop where
  startLine : 13 ∉ message.startLine
  fields : ∀ field ∈ message.fields, PlainField field

theorem readLine_written
    {line : List UInt8} (plain : 13 ∉ line) (rest : List UInt8) :
    readLine (line ++ (lineEnd ++ rest)) = some (line, rest) := by
  have found : find lineEnd (line ++ (lineEnd ++ rest)) = some line.length := by
    unfold lineEnd
    rw [find_skip plain, find_here, Option.map_some, Nat.zero_add]
  unfold readLine
  rw [found, Option.map_some, List.take_left, ← List.drop_drop,
    List.drop_left]
  rfl

theorem readField_written
    {field : List UInt8 × List UInt8} (plain : PlainField field) :
    readField (field.1 ++ 58 :: 32 :: field.2) = some field := by
  have found :
      find [58] (field.1 ++ ([58] ++ 32 :: field.2)) =
        some field.1.length := by
    rw [find_skip plain.name.2, find_here, Option.map_some, Nat.zero_add]
  have value : field.2.dropWhile (· = 32) = field.2 := by
    cases isValue : field.2 with
    | nil =>
        rfl
    | cons first others =>
        have start := plain.start
        rw [isValue, List.head?_cons] at start
        have notSpace : first ≠ 32 := fun same => start (congrArg some same)
        simp [notSpace]
  unfold readField
  change (find [58] (field.1 ++ ([58] ++ 32 :: field.2))).map _ = _
  rw [found, Option.map_some, List.take_left, ← List.drop_drop,
    List.drop_left]
  change some (field.1, (32 :: field.2).dropWhile (· = 32)) = _
  rw [List.dropWhile_cons_of_pos (by decide), value]

theorem readFields_written
    {fields : List (List UInt8 × List UInt8)}
    (plain : ∀ field ∈ fields, PlainField field) (body : List UInt8)
    {lineCount : Nat} (enough : fields.length < lineCount) :
    readFields lineCount
        (fields.flatMap fieldLine ++ (lineEnd ++ body)) =
      some (fields, body) := by
  induction fields generalizing lineCount with
  | nil =>
      obtain ⟨earlier, rfl⟩ := Nat.exists_eq_add_of_lt enough
      have blank := readLine_written List.not_mem_nil body
      rw [List.nil_append] at blank
      unfold readFields
      simp [blank]
  | cons field rest inductionHypothesis =>
      cases lineCount with
      | zero =>
          exact absurd enough (Nat.not_lt_zero _)
      | succ lineCount =>
          obtain ⟨first, others⟩ := List.forall_mem_cons.mp plain
          have onLine : 13 ∉ field.1 ++ 58 :: 32 :: field.2 := by
            intro member
            simp only [List.mem_append, List.mem_cons] at member
            rcases member with inName | isColon | isSpace | inValue
            · exact first.name.1 inName
            · cases isColon
            · cases isSpace
            · exact first.value inValue
          have read :=
            readLine_written onLine
              (rest.flatMap fieldLine ++ (lineEnd ++ body))
          have shape :
              (field :: rest).flatMap fieldLine ++ (lineEnd ++ body) =
                field.1 ++ 58 :: 32 :: field.2 ++
                  (lineEnd ++
                    (rest.flatMap fieldLine ++ (lineEnd ++ body))) := by
            simp [fieldLine, List.append_assoc]
          have fewer := Nat.lt_of_succ_lt_succ enough
          unfold readFields
          rw [shape, read]
          simp [readField_written first,
            inductionHypothesis others fewer]

/-- A message reads back as it was written. -/
theorem readMessage_written
    {message : Message} (plain : message.Plain) :
    readMessage message.written = some message := by
  have lineCount (fields : List (List UInt8 × List UInt8)) :
      fields.length ≤ (fields.flatMap fieldLine).length := by
    induction fields with
    | nil =>
        exact Nat.zero_le _
    | cons field rest inductionHypothesis =>
        rw [List.flatMap_cons, List.length_append, List.length_cons]
        simp only [fieldLine, List.length_append, List.length_cons]
        omega
  have enough :
      message.fields.length <
        (message.fields.flatMap fieldLine ++
          (lineEnd ++ message.body)).length := by
    have atLeast := lineCount message.fields
    rw [List.length_append, List.length_append]
    have ended : lineEnd.length = 2 := rfl
    omega
  unfold readMessage Message.written
  rw [readLine_written plain.startLine]
  change Option.bind (readFields _ _) _ = _
  rw [readFields_written plain.fields message.body enough]
  rfl

end ShardedKvStore.Foundation
