import ShardedKvStore.Http

/-!
# Requests that are read

A well formed request is read as it was written, however `recv` cuts the stream.
Its head is a list of lines without line ends in them, so the blank line after it
is the first one, and each line is found again and taken apart where it was put
together.
-/

namespace ShardedKvStore

open Foundation

/-! ## Request texts -/

/-- A header line. -/
structure HeaderLine where
  name : Bytes
  padding : Bytes
  value : Bytes
  named : name ≠ []
  nameStripped : Stripped isBlank name
  namePlain : 58 ∉ name ∧ 13 ∉ name ∧ 10 ∉ name
  padded : ∀ byte ∈ padding, byte = 32 ∨ byte = 9
  valueStripped : Stripped isBlank value
  valuePlain : 13 ∉ value ∧ 10 ∉ value

namespace HeaderLine

/-- The line without its end. -/
def text (header : HeaderLine) : Bytes :=
  header.name ++ 58 :: (header.padding ++ header.value)

/-- The name as the server keeps it. -/
def key (header : HeaderLine) : Bytes :=
  toLower header.name

variable (header : HeaderLine)

theorem text_ne_nil : header.text ≠ [] := by
  simp [text]

theorem text_plain : 13 ∉ header.text ∧ 10 ∉ header.text := by
  obtain ⟨_, nameReturn, nameFeed⟩ := header.namePlain
  obtain ⟨valueReturn, valueFeed⟩ := header.valuePlain
  have padded := header.padded
  constructor
  · intro member
    simp only [text, List.mem_append, List.mem_cons] at member
    rcases member with inName | isColon | inPadding | inValue
    · exact nameReturn inName
    · cases isColon
    · rcases padded 13 inPadding with same | same
      · cases same
      · cases same
    · exact valueReturn inValue
  · intro member
    simp only [text, List.mem_append, List.mem_cons] at member
    rcases member with inName | isColon | inPadding | inValue
    · exact nameFeed inName
    · cases isColon
    · rcases padded 10 inPadding with same | same
      · cases same
      · cases same
    · exact valueFeed inValue

end HeaderLine

/-- A decimal number, leading zeros included. -/
def IsDecimal (value : Bytes) : Prop :=
  value ≠ [] ∧ ∀ byte ∈ value, isDigit byte = true

/-- A request as a client writes it. -/
structure RequestText where
  method : Bytes
  path : Bytes
  version : Bytes
  headers : List HeaderLine
  body : Bytes
  methodWord : IsWord isSpace method
  pathWord : IsWord isSpace path
  versionWord : IsWord isSpace version
  distinct : (headers.map HeaderLine.key).Nodup
  announced :
    ∃ header ∈ headers,
      header.key = bytes "content-length" ∧ IsDecimal header.value ∧
        decimalValue header.value = body.length
  bounded : body.length ≤ 1024 * 1024

namespace RequestText

variable (text : RequestText)

/-- The request line without its end. -/
def requestLine : Bytes :=
  text.method ++ 32 :: (text.path ++ 32 :: text.version)

/-- The lines before the blank line, without their ends. -/
def headLines : List Bytes :=
  text.requestLine :: text.headers.map HeaderLine.text

/-- Every line with its end, the blank line, and the body. -/
def written : Bytes :=
  text.headLines.flatMap (· ++ crlf) ++ (crlf ++ text.body)

/-- The request the handler is to get. -/
def request (remoteIp : Bytes) : HttpRequest where
  method := text.method
  path := text.path
  version := text.version
  headers :=
    Std.ExtTreeMap.ofList
      (text.headers.map fun header => (header.key, header.value))
      compare
  body := text.body
  remoteIp := remoteIp

end RequestText

/-! ## Lines -/

/-- Lines with line ends between them. -/
def joinLines (first : Bytes) (others : List Bytes) : Bytes :=
  first ++ others.flatMap (crlf ++ ·)

theorem joinLines_cons (first second : Bytes) (others : List Bytes) :
    joinLines first (second :: others) =
      first ++ (crlf ++ joinLines second others) := by
  simp [joinLines]

/-- Ending every line is joining the lines and ending the last one. -/
theorem flatMap_ended (first : Bytes) (others : List Bytes) :
    (first :: others).flatMap (· ++ crlf) =
      joinLines first others ++ crlf := by
  induction others generalizing first with
  | nil =>
      simp [joinLines]
  | cons second others inductionHypothesis =>
      rw [List.flatMap_cons, inductionHypothesis, joinLines_cons]
      simp only [List.append_assoc]

/-- The blank line is found behind the last line. -/
theorem find_joinLines
    {first : Bytes} {others : List Bytes}
    (firstPlain : 13 ∉ first)
    (othersPlain : ∀ line ∈ others, 13 ∉ line ∧ line ≠ [])
    (rest : Bytes) :
    find (crlf ++ crlf)
        (joinLines first others ++ (crlf ++ crlf ++ rest)) =
      some (joinLines first others).length := by
  have skip (skipped : Bytes) (absent : 13 ∉ skipped) (rest : Bytes) :
      find (crlf ++ crlf) (skipped ++ rest) =
        (find (crlf ++ crlf) rest).map (· + skipped.length) :=
    find_skip absent rest
  induction others generalizing first with
  | nil =>
      simp only [joinLines, List.flatMap_nil, List.append_nil]
      rw [skip first firstPlain, find_here]
      simp
  | cons second others inductionHypothesis =>
      obtain ⟨⟨secondPlain, nonempty⟩, laterPlain⟩ :=
        List.forall_mem_cons.mp othersPlain
      have later := inductionHypothesis secondPlain laterPlain
      rw [joinLines_cons, List.append_assoc, skip first firstPlain,
        List.append_assoc]
      -- a line follows, so the pattern does not stand at this line end
      have notHere :
          ¬ crlf ++ crlf <+:
            13 ::
              ([10] ++
                (joinLines second others ++ (crlf ++ crlf ++ rest))) := by
        cases second with
        | nil =>
            exact absurd rfl nonempty
        | cons byte bytes =>
            intro here
            simp only [crlf, joinLines, List.cons_append,
              List.nil_append, List.cons_prefix_cons] at here
            exact secondPlain (here.2.2.1 ▸ List.mem_cons_self)
      change Option.map _ (find (crlf ++ crlf)
        (13 ::
          ([10] ++
            (joinLines second others ++ (crlf ++ crlf ++ rest))))) = _
      rw [find_cons, if_neg notHere, skip [10] (by decide), later]
      simp only [Option.map_some, List.length_append, List.length_cons,
        List.length_nil, crlf]
      congr 1
      omega

/-- The line as `getline` returns it: the carriage return may be left. -/
def EndedAs (line text : Bytes) : Prop :=
  line = text ∨ line = text ++ [13]

theorem lines_joinLines
    {first : Bytes} {others : List Bytes}
    (firstPlain : 10 ∉ first ∧ first ≠ [])
    (othersPlain : ∀ line ∈ others, 10 ∉ line ∧ line ≠ []) :
    List.Forall₂ EndedAs (lines 10 (joinLines first others))
      (first :: others) := by
  induction others generalizing first with
  | nil =>
      simp only [joinLines, List.flatMap_nil, List.append_nil]
      rw [lines_last firstPlain.1 firstPlain.2]
      exact .cons (Or.inl rfl) .nil
  | cons second others inductionHypothesis =>
      obtain ⟨secondPlain, laterPlain⟩ :=
        List.forall_mem_cons.mp othersPlain
      have later := inductionHypothesis secondPlain laterPlain
      have ended : 10 ∉ first ++ [13] := by
        simp [firstPlain.1]
      have shape :
          joinLines first (second :: others) =
            (first ++ [13]) ++ 10 :: joinLines second others := by
        rw [joinLines_cons]
        simp [crlf]
      rw [shape, lines_cons ended]
      exact .cons (Or.inr rfl) later

/-! ## Parts of a line -/

theorem isBlank_return : ∀ byte ∈ ([13] : Bytes), isBlank byte = true :=
  List.forall_mem_singleton.mpr rfl

/-- Trimming removes the carriage return too. -/
theorem trim_ended
    {line : Bytes} (left middle right : Bytes)
    (ended : EndedAs line (left ++ (middle ++ right)))
    (leftBlank : ∀ byte ∈ left, isBlank byte = true)
    (stripped : Stripped isBlank middle)
    (rightBlank : ∀ byte ∈ right, isBlank byte = true) :
    trim line = middle := by
  unfold trim
  rcases ended with rfl | rfl
  · exact strip_padded leftBlank stripped rightBlank
  · rw [List.append_assoc, List.append_assoc]
    refine strip_padded leftBlank stripped fun byte member => ?_
    rcases List.mem_append.mp member with earlier | last
    · exact rightBlank byte earlier
    · exact isBlank_return byte last

theorem isSpace_of_isBlank {byte : UInt8} (blank : isBlank byte = true) :
    isSpace byte = true := by
  simp only [isBlank, Bool.or_eq_true, decide_eq_true_eq] at blank
  rcases blank with ((rfl | rfl) | rfl) | rfl
  · rfl
  · rfl
  · rfl
  · rfl

theorem isBlank_of_isWord
    {word : Bytes} (isWord : IsWord isSpace word) {byte : UInt8}
    (member : byte ∈ word) : isBlank byte = false := by
  by_contra blank
  rw [Bool.not_eq_false] at blank
  have notSpace := isWord.2 byte member
  rw [isSpace_of_isBlank blank] at notSpace
  cases notSpace

namespace RequestText

variable (text : RequestText)

theorem requestLine_stripped : Stripped isBlank text.requestLine := by
  constructor
  · intro byte isFirst
    obtain ⟨first, others, shape⟩ :=
      List.exists_cons_of_ne_nil text.methodWord.1
    have same : first = byte := by
      simpa [requestLine, shape] using isFirst
    refine isBlank_of_isWord text.methodWord ?_
    rw [shape, ← same]
    exact List.mem_cons_self
  · intro byte isLast
    refine isBlank_of_isWord text.versionWord ?_
    have shape :
        text.requestLine =
          (text.method ++ 32 :: (text.path ++ [32])) ++ text.version := by
      simp [requestLine]
    rw [shape, List.getLast?_append_of_ne_nil _ text.versionWord.1]
      at isLast
    exact List.mem_of_getLast? isLast

theorem requestLine_plain :
    13 ∉ text.requestLine ∧ 10 ∉ text.requestLine ∧
      text.requestLine ≠ [] := by
  have plain {byte : UInt8} (isSpace_ : isSpace byte = true)
      (notBlank : byte ≠ 32) : byte ∉ text.requestLine := by
    have absent {word : Bytes} (isWord : IsWord isSpace word) :
        byte ∉ word := by
      intro member
      rw [isWord.2 byte member] at isSpace_
      cases isSpace_
    simp [requestLine, absent text.methodWord, absent text.pathWord,
      absent text.versionWord, notBlank]
  exact ⟨plain (by decide) (by decide), plain (by decide) (by decide),
    by simp [requestLine]⟩

/-- The three words of the request line. -/
theorem nextWord_requestLine :
    nextWord isSpace text.requestLine =
        (text.method, 32 :: (text.path ++ 32 :: text.version)) ∧
      nextWord isSpace (32 :: (text.path ++ 32 :: text.version)) =
        (text.path, 32 :: text.version) ∧
      nextWord isSpace (32 :: text.version) = (text.version, []) := by
  have space : ∀ byte ∈ ([32] : Bytes), isSpace byte = true :=
    List.forall_mem_singleton.mpr rfl
  have atSpace (rest : Bytes) :
      ∀ byte ∈ (32 :: rest).head?, isSpace byte = true := by
    intro byte isFirst
    cases isFirst
    rfl
  have atEnd : ∀ byte ∈ ([] : Bytes).head?, isSpace byte = true := by
    intro byte isFirst
    cases isFirst
  refine ⟨?_, ?_, ?_⟩
  · exact nextWord_eq (List.forall_mem_nil _) text.methodWord (atSpace _)
  · exact nextWord_eq space text.pathWord (atSpace _)
  · have last := nextWord_eq space text.versionWord atEnd
    rw [List.append_nil] at last
    exact last

end RequestText

/-- What `stoull` makes of a decimal number. -/
theorem stoull_eq
    {value : Bytes} (isDecimal : IsDecimal value)
    (small : decimalValue value < 2 ^ 64) :
    stoull value = .ok (decimalValue value) := by
  obtain ⟨nonempty, digits⟩ := isDecimal
  obtain ⟨first, others, shape⟩ := List.exists_cons_of_ne_nil nonempty
  have range : 48 ≤ first ∧ first ≤ 57 := by
    have isDigit_ := digits first (shape ▸ List.mem_cons_self)
    simpa [isDigit] using isDigit_
  have notSpace : ¬ isSpace first = true := by
    intro isSpace_
    simp only [isSpace, Bool.or_eq_true, Bool.and_eq_true,
      decide_eq_true_eq] at isSpace_
    rcases isSpace_ with rfl | ⟨_, atMost⟩
    · exact absurd range.1 (by decide)
    · exact absurd (UInt8.le_trans range.1 atMost) (by decide)
  have skipped : value.dropWhile isSpace = value := by
    rw [shape, List.dropWhile_cons_of_neg notSpace]
  have unsigned : splitSign value = (false, value) := by
    rw [shape]
    unfold splitSign
    split
    case h_1 same =>
      cases same
      exact absurd range.1 (by decide)
    case h_2 same =>
      cases same
      exact absurd range.1 (by decide)
    case h_3 =>
      rfl
  have taken : value.takeWhile isDigit = value :=
    List.takeWhile_eq_self_iff.mpr digits
  unfold stoull
  simp only [skipped, unsigned, taken, if_neg nonempty,
    if_neg (not_le.mpr small), Bool.false_eq_true, if_false]

namespace HeaderLine

variable {header : HeaderLine}

theorem isBlank_padding :
    ∀ byte ∈ header.padding, isBlank byte = true := by
  intro byte member
  rcases header.padded byte member with rfl | rfl
  · rfl
  · rfl

/-- A trimmed header line is the name, a colon, and what trims to the value. -/
theorem trim_text
    {line : Bytes} (ended : EndedAs line header.text) :
    ∃ rest,
      trim line = header.name ++ 58 :: rest ∧ trim rest = header.value := by
  obtain ⟨first, others, shape⟩ :=
    List.exists_cons_of_ne_nil header.named
  have firstKept (rest : Bytes) :
      ∀ byte ∈ (header.name ++ rest).head?, isBlank byte = false := by
    intro byte isFirst
    refine header.nameStripped.1 byte ?_
    rw [shape] at isFirst ⊢
    exact isFirst
  by_cases empty : header.value = []
  · -- the padding goes with the end of the line
    refine ⟨[], trim_ended [] (header.name ++ [58]) header.padding ?_
      (List.forall_mem_nil _) ⟨firstKept _, ?_⟩ isBlank_padding, ?_⟩
    · simpa [text, empty] using ended
    · intro byte isLast
      have same : byte = 58 := by
        simpa [eq_comm] using isLast
      rw [same]
      rfl
    · rw [empty]
      rfl
  · refine ⟨header.padding ++ header.value,
      trim_ended [] header.text [] ?_ (List.forall_mem_nil _)
        ⟨firstKept _, ?_⟩ (List.forall_mem_nil _), ?_⟩
    · simpa [text] using ended
    · intro byte isLast
      refine header.valueStripped.2 byte ?_
      unfold text at isLast
      rw [← List.cons_append, ← List.append_assoc,
        List.getLast?_append_of_ne_nil _ empty] at isLast
      exact isLast
    · refine trim_ended header.padding header.value [] (Or.inl ?_)
        isBlank_padding header.valueStripped (List.forall_mem_nil _)
      rw [List.append_nil]

/-- The header as the loop over the header lines notes it, when the value of
`content-length` is the given number. -/
def note (length : Nat) (state : HeaderState) (header : HeaderLine) :
    HeaderState where
  headers := state.headers.insert header.key header.value
  contentLength :=
    if header.key = bytes "content-length" then
      length
    else
      state.contentLength

/-- A turn of the loop over the header lines. -/
theorem readHeaderLine_eq
    {line : Bytes} (ended : EndedAs line header.text) {length : Nat}
    (isLength :
      header.key = bytes "content-length" →
        stoull header.value = .ok length)
    (state : HeaderState) :
    readHeaderLine state line = .ok (note length state header) := by
  obtain ⟨rest, trimmed, trimsValue⟩ := trim_text ended
  have colon :
      find (bytes ":") (header.name ++ 58 :: rest) =
        some header.name.length := by
    have here : find (bytes ":") (58 :: rest) = some 0 :=
      find_here (bytes ":") rest
    have absent : 58 ∉ header.name := header.namePlain.1
    change find [58] _ = _
    rw [find_skip absent]
    change Option.map _ (find (bytes ":") (58 :: rest)) = _
    rw [here]
    simp
  have trimsName : trim header.name = header.name := by
    have ended : EndedAs header.name ([] ++ (header.name ++ [])) :=
      Or.inl (by simp)
    exact trim_ended _ _ _ ended (List.forall_mem_nil _)
      header.nameStripped (List.forall_mem_nil _)
  have isName :
      toLower (trim ((header.name ++ 58 :: rest).take header.name.length)) =
        header.key := by
    rw [List.take_left, trimsName]
    rfl
  have isValue :
      trim ((header.name ++ 58 :: rest).drop (header.name.length + 1)) =
        header.value := by
    rw [← List.drop_drop, List.drop_left]
    exact trimsValue
  have nonempty : header.name ++ 58 :: rest ≠ [] := by
    simp
  unfold readHeaderLine note
  simp only [trimmed, if_neg nonempty, colon, isName, isValue]
  by_cases isContentLength : header.key = bytes "content-length"
  · simp only [if_pos isContentLength, isLength isContentLength]
    rfl
  · simp only [if_neg isContentLength]
    rfl

/-- The loop over the header lines. -/
theorem foldlM_readHeaderLine
    {headers : List HeaderLine} {headerLines : List Bytes}
    (ended :
      List.Forall₂ EndedAs headerLines (headers.map HeaderLine.text))
    {length : Nat}
    (isLength :
      ∀ header ∈ headers,
        header.key = bytes "content-length" →
          stoull header.value = .ok length)
    (state : HeaderState) :
    headerLines.foldlM readHeaderLine state =
      .ok (headers.foldl (note length) state) := by
  induction headers generalizing headerLines state with
  | nil =>
      cases ended
      rfl
  | cons header others inductionHypothesis =>
      obtain ⟨isLengthHeader, isLengthOthers⟩ :=
        List.forall_mem_cons.mp isLength
      cases ended with
      | cons endedHeader endedOthers =>
          rw [List.foldlM_cons,
            readHeaderLine_eq endedHeader isLengthHeader]
          exact inductionHypothesis endedOthers isLengthOthers _

theorem foldl_note_headers
    (length : Nat) (headers : List HeaderLine) (state : HeaderState) :
    (headers.foldl (note length) state).headers =
      state.headers.insertMany
        (headers.map fun header => (header.key, header.value)) := by
  induction headers generalizing state with
  | nil =>
      simp
  | cons header others inductionHypothesis =>
      rw [List.foldl_cons, inductionHypothesis, List.map_cons,
        Std.ExtTreeMap.insertMany_cons]
      rfl

theorem foldl_note_contentLength
    {length : Nat} {headers : List HeaderLine} {state : HeaderState}
    (announced :
      state.contentLength = length ∨
        ∃ header ∈ headers, header.key = bytes "content-length") :
    (headers.foldl (note length) state).contentLength = length := by
  induction headers generalizing state with
  | nil =>
      rcases announced with already | ⟨header, member, _⟩
      · exact already
      · cases member
  | cons header others inductionHypothesis =>
      rw [List.foldl_cons]
      apply inductionHypothesis
      by_cases isContentLength : header.key = bytes "content-length"
      · left
        simp only [note, if_pos isContentLength]
      · rcases announced with already | ⟨other, member, isOther⟩
        · left
          simp only [note, if_neg isContentLength]
          exact already
        · rcases List.mem_cons.mp member with rfl | later
          · exact absurd isOther isContentLength
          · exact Or.inr ⟨other, later, isOther⟩

end HeaderLine

namespace RequestText

variable (text : RequestText)

/-- Every `content-length` header has the length of the body. -/
theorem stoull_contentLength :
    ∀ header ∈ text.headers,
      header.key = bytes "content-length" →
        stoull header.value = .ok text.body.length := by
  intro header member isContentLength
  obtain ⟨announced, inHeaders, isAnnounced, isDecimal, length⟩ :=
    text.announced
  have same : header = announced :=
    List.inj_on_of_nodup_map text.distinct member inHeaders
      (isContentLength.trans isAnnounced.symm)
  have small : decimalValue announced.value < 2 ^ 64 := by
    have bounded := text.bounded
    omega
  rw [same, stoull_eq isDecimal small, length]

/-- The head of a request text is parsed into its parts. -/
theorem parseHead_eq :
    parseHead
        (joinLines text.requestLine
          (text.headers.map HeaderLine.text)) =
      .ok
        ({ text.request [] with body := [] }, text.body.length) := by
  obtain ⟨_, noFeed, nonempty⟩ := text.requestLine_plain
  have plain :
      ∀ line ∈ text.headers.map HeaderLine.text,
        10 ∉ line ∧ line ≠ [] := by
    intro line member
    obtain ⟨header, _, rfl⟩ := List.mem_map.mp member
    exact ⟨header.text_plain.2, header.text_ne_nil⟩
  have ended := lines_joinLines ⟨noFeed, nonempty⟩ plain
  generalize isLines :
    lines 10
        (joinLines text.requestLine (text.headers.map HeaderLine.text)) =
      headLines at ended
  cases ended with
  | cons endedRequestLine endedHeaders =>
      have trimmed :=
        trim_ended [] text.requestLine []
          (by simpa using endedRequestLine) (List.forall_mem_nil _)
          text.requestLine_stripped (List.forall_mem_nil _)
      obtain ⟨method, path, version⟩ := text.nextWord_requestLine
      have words : ¬ (text.method = [] ∨ text.path = []) :=
        not_or.mpr ⟨text.methodWord.1, text.pathWord.1⟩
      have read :=
        HeaderLine.foldlM_readHeaderLine endedHeaders
          text.stoull_contentLength {}
      have headers :=
        HeaderLine.foldl_note_headers text.body.length text.headers {}
      obtain ⟨announced, inHeaders, isAnnounced, _⟩ := text.announced
      have contentLength :=
        @HeaderLine.foldl_note_contentLength text.body.length
          text.headers {} (Or.inr ⟨announced, inHeaders, isAnnounced⟩)
      rw [← Std.ExtTreeMap.ofList_eq_insertMany_empty] at headers
      unfold parseHead
      simp only [isLines, List.headD_cons, List.tail_cons, trimmed,
        method, path, version, if_neg words, read]
      change Except.ok _ = _
      rw [headers, contentLength]
      rfl

end RequestText

/-! ## Pieces of a stream -/

/-- Every call of `recv` returns at least one and at most as many bytes as were
requested, as long as there are any. -/
def Recv.Delivers (recv : Recv) : Prop :=
  ∀ call size pending,
    0 < size → pending ≠ [] →
      0 < recv call size pending ∧ recv call size pending ≤ size ∧
        recv call size pending ≤ pending.length

section Pieces

variable {recv : Recv} {connection : Connection}

theorem Connection.recv_append (size : Nat) :
    (connection.recv recv size).1 ++ (connection.recv recv size).2.pending =
      connection.pending :=
  List.take_append_drop _ _

theorem Recv.Delivers.recv_ne_nil
    (delivers : recv.Delivers) {size : Nat} (positive : 0 < size)
    (more : connection.pending ≠ []) :
    (connection.recv recv size).1 ≠ [] := by
  have received := (delivers connection.calls size _ positive more).1
  have some_ := List.length_pos_of_ne_nil more
  apply List.ne_nil_of_length_pos
  simp only [Connection.recv, List.length_take]
  omega

/-- A call of `recv` for the head returns at most so many bytes. -/
def Recv.PiecesUpTo (recv : Recv) (piece : Nat) : Prop :=
  ∀ (call : Nat) (pending : Bytes),
    (pending.take (recv call bufferSize pending)).length ≤ piece

theorem Recv.Delivers.piecesUpTo (delivers : recv.Delivers) :
    recv.PiecesUpTo bufferSize := by
  intro call pending
  rw [List.length_take]
  rcases eq_or_ne pending [] with rfl | more
  · simp
  · have atMost := (delivers call bufferSize pending (by decide) more).2.1
    omega

/-- The first loop ends where the blank line is in the whole stream, unless the limit
cuts it off. -/
theorem readHeaders_eq
    (delivers : recv.Delivers) {piece : Nat} (pieces : recv.PiecesUpTo piece)
    {raw : Bytes} {headerEnd : Nat}
    (found :
      find (crlf ++ crlf) (raw ++ connection.pending) = some headerEnd)
    (fits :
      headerEnd + 3 + piece ≤ maxRequestSize ∨
        (raw ++ connection.pending).length ≤ maxRequestSize) :
    ∃ raw' connection',
      readHeaders recv raw connection = .ok (headerEnd, raw', connection') ∧
        raw' ++ connection'.pending = raw ++ connection.pending ∧
        headerEnd + 4 ≤ raw'.length := by
  induction raw, connection using readHeaders.induct recv with
  | case1 raw connection position here =>
      have same := find_append here connection.pending
      rw [found] at same
      obtain rfl := Option.some.inj same
      refine ⟨raw, connection, ?_, rfl, find_spec here⟩
      rw [readHeaders, here]
  | case2 raw connection notYet nothing =>
      have more : connection.pending ≠ [] := by
        intro atEnd
        rw [atEnd, List.append_nil, notYet] at found
        cases found
      exact absurd nothing (delivers.recv_ne_nil (by decide) more)
  | case3 raw connection notYet received tooLarge =>
      have whole := @Connection.recv_append recv connection bufferSize
      have received : (connection.recv recv bufferSize).1.length ≤ piece :=
        pieces connection.calls connection.pending
      have started : raw.length < headerEnd + 4 := by
        by_contra long
        have inside : headerEnd + (crlf ++ crlf).length ≤ raw.length :=
          not_lt.mp long
        rw [find_of_append found inside] at notYet
        cases notYet
      rw [List.length_append] at tooLarge
      rcases fits with early | small
      · omega
      · rw [← whole, ← List.append_assoc, List.length_append,
          List.length_append] at small
        omega
  | case4 raw connection notYet received small inductionHypothesis =>
      have whole := @Connection.recv_append recv connection bufferSize
      rw [← whole, ← List.append_assoc] at found fits
      obtain ⟨raw', connection', reads, same, inside⟩ :=
        inductionHypothesis found fits
      refine ⟨raw', connection', ?_, ?_, inside⟩
      · rw [readHeaders, notYet]
        simp only [if_neg received, if_neg small]
        exact reads
      · rw [same, List.append_assoc, whole]

/-- The second loop ends with the body, and perhaps more. -/
theorem readBody_eq
    (delivers : recv.Delivers) {contentLength : Nat} {body : Bytes}
    (enough : contentLength ≤ (body ++ connection.pending).length) :
    ∃ body',
      readBody recv contentLength body connection = .ok body' ∧
        body'.take contentLength =
          (body ++ connection.pending).take contentLength := by
  induction body, connection using
    readBody.induct recv contentLength with
  | case1 body connection short size nothing =>
      have more : connection.pending ≠ [] := by
        intro atEnd
        rw [atEnd, List.append_nil] at enough
        omega
      have positive : 0 < size := by
        have isSize : size = min bufferSize (contentLength - body.length) :=
          rfl
        rw [isSize, bufferSize]
        omega
      exact absurd nothing (delivers.recv_ne_nil positive more)
  | case2 body connection short size received inductionHypothesis =>
      have whole := @Connection.recv_append recv connection size
      rw [← whole, ← List.append_assoc] at enough ⊢
      obtain ⟨body', reads, same⟩ := inductionHypothesis enough
      refine ⟨body', ?_, same⟩
      rw [readBody, if_pos short]
      change (if (connection.recv recv size).1 = [] then _ else _) = _
      rw [if_neg received]
      exact reads
  | case3 body connection long =>
      refine ⟨body, ?_, ?_⟩
      · rw [readBody, if_neg long]
      · rw [List.take_append_of_le_length (not_lt.mp long)]

end Pieces

/-! ## Whole requests -/

namespace RequestText

variable (text : RequestText)

theorem written_append (trailing : Bytes) :
    text.written ++ trailing =
      joinLines text.requestLine (text.headers.map HeaderLine.text) ++
        (crlf ++ crlf ++ (text.body ++ trailing)) := by
  unfold written headLines
  rw [flatMap_ended]
  simp only [List.append_assoc]

/-- A request text is read as it was written. -/
theorem readRequest_eq
    {recv : Recv} (delivers : recv.Delivers) (remoteIp trailing : Bytes)
    (fits : (text.written ++ trailing).length ≤ maxRequestSize) :
    readRequest recv remoteIp { pending := text.written ++ trailing } =
      .ok (some (text.request remoteIp)) := by
  have plain :
      ∀ line ∈ text.headers.map HeaderLine.text,
        13 ∉ line ∧ line ≠ [] := by
    intro line member
    obtain ⟨header, _, rfl⟩ := List.mem_map.mp member
    exact ⟨header.text_plain.1, header.text_ne_nil⟩
  rw [text.written_append] at fits ⊢
  have found :=
    find_joinLines text.requestLine_plain.1 plain (text.body ++ trailing)
  generalize isHead :
    joinLines text.requestLine (text.headers.map HeaderLine.text) = head
    at found fits ⊢
  obtain ⟨raw, connection, reads, same, inside⟩ :=
    @readHeaders_eq recv
      { pending := head ++ (crlf ++ crlf ++ (text.body ++ trailing)) }
      delivers bufferSize delivers.piecesUpTo [] head.length found
      (Or.inr fits)
  rw [List.nil_append] at same
  -- what was read holds the head, and the rest of it begins the body
  have isRaw : raw.take head.length = head := by
    have taken := congrArg (List.take head.length) same
    rw [List.take_append_of_le_length (by omega), List.take_left]
      at taken
    exact taken
  have isRest :
      raw.drop (head.length + 4) ++ connection.pending =
        text.body ++ trailing := by
    have dropped := congrArg (List.drop (head.length + 4)) same
    rw [List.drop_append_of_le_length inside] at dropped
    rw [dropped, ← List.drop_drop, List.drop_left]
    rfl
  have enough :
      text.body.length ≤
        (raw.drop (head.length + 4) ++ connection.pending).length := by
    rw [isRest, List.length_append]
    omega
  obtain ⟨body, readsBody, isBody⟩ := readBody_eq delivers enough
  rw [isRest, List.take_left] at isBody
  have parsed := text.parseHead_eq
  rw [isHead] at parsed
  have notLarge : ¬ 1024 * 1024 < text.body.length :=
    not_lt.mpr text.bounded
  unfold readRequest
  simp only [reads, bind, Except.bind, isRaw, parsed, if_neg notLarge,
    readsBody, isBody, pure, Except.pure]
  rfl

end RequestText

/-- However `recv` cuts the stream, a request text is passed to the handler, once,
as it was written, and the client gets the response of the handler.  This holds
for every monad the handler may run in. -/
theorem handleClient_delivers_request
    {Effect : Type → Type} [Monad Effect]
    (handler : HttpRequest → Effect (Except Bytes HttpResponse))
    (text : RequestText) (remoteIp trailing : Bytes)
    (fits : (text.written ++ trailing).length ≤ maxRequestSize)
    {recv : Recv} (delivers : recv.Delivers) :
    handleClient handler recv remoteIp
        { pending := text.written ++ trailing } =
      (do
        let answer ← handler (text.request remoteIp)
        return (answerResponse answer).written) := by
  unfold handleClient
  rw [text.readRequest_eq delivers remoteIp trailing fits]

/-! ## A request byte by byte -/

/-- A header with an empty value. -/
def emptyHeader : HeaderLine where
  name := bytes "X-Client-Id"
  padding := [32]
  value := []
  named := by decide
  nameStripped := by decide
  namePlain := by decide
  padded := List.forall_mem_singleton.mpr (Or.inl rfl)
  valueStripped := by decide
  valuePlain := by decide

/-- The header that announces the body. -/
def lengthHeader : HeaderLine where
  name := bytes "Content-Length"
  padding := [32]
  value := bytes "3"
  named := by decide
  nameStripped := by decide
  namePlain := by decide
  padded := List.forall_mem_singleton.mpr (Or.inl rfl)
  valueStripped := by decide
  valuePlain := by decide

/-- A request to put a value. -/
def putText : RequestText where
  method := bytes "PUT"
  path := bytes "/v1/kv/k"
  version := bytes "HTTP/1.1"
  headers := [emptyHeader, lengthHeader]
  body := bytes "abc"
  methodWord := by decide
  pathWord := by decide
  versionWord := by decide
  distinct := by decide
  announced :=
    ⟨lengthHeader, by simp, by decide,
      ⟨by decide, List.forall_mem_singleton.mpr rfl⟩, by decide⟩
  bounded := by decide

/-- A `recv` that returns one byte at a time. -/
def recvByte : Recv :=
  fun _ _ _ => 1

/-- A handler that notes the requests it gets. -/
def noteRequest (request : HttpRequest) :
    StateM (List HttpRequest) (Except Bytes HttpResponse) := do
  modify (· ++ [request])
  return .ok {}

/-- The request is noted once, without the bytes that follow it. -/
theorem put_text_noted :
    (putText.written ++ bytes "XYZ").length ≤ maxRequestSize ∧
      recvByte.Delivers ∧
      (putText.request (bytes "127.0.0.1")).body = bytes "abc" ∧
      (handleClient noteRequest recvByte (bytes "127.0.0.1")
        { pending := putText.written ++ bytes "XYZ" }).run [] =
        (({} : HttpResponse).written,
          [putText.request (bytes "127.0.0.1")]) := by
  have fits :
      (putText.written ++ bytes "XYZ").length ≤ maxRequestSize := by
    decide
  have delivers : recvByte.Delivers := by
    intro _ size pending positive more
    exact ⟨Nat.one_pos, positive, List.length_pos_of_ne_nil more⟩
  refine ⟨fits, delivers, rfl, ?_⟩
  rw [handleClient_delivers_request noteRequest putText _ _ fits delivers]
  rfl

end ShardedKvStore
