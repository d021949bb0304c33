import ShardedKvStore.Http

/-!
# Heads that are accepted

What the request line and the header lines are read as is well formed: words
without spaces, names in lower case and without colons, values on one line, and a
length that the headers announce.
-/

namespace ShardedKvStore

open Foundation

/-! ## Headers -/

/-- A name as it is kept in the headers. -/
structure IsHeaderName (name : Bytes) : Prop where
  stripped : Stripped isBlank name
  oneLine : 10 ∉ name
  noColon : 58 ∉ name
  lowerCase : toLower name = name

/-- A value as it is kept in the headers. -/
structure IsHeaderValue (value : Bytes) : Prop where
  stripped : Stripped isBlank value
  oneLine : 10 ∉ value

/-- The length that the headers announce. -/
def announcedLength (headers : HeaderMap) : Except HttpError Nat :=
  match headers[bytes "content-length"]? with
  | some value => stoull value
  | none => .ok 0

/-- The headers are well formed, and the length is the one they announce. -/
structure HeaderState.WellFormed (state : HeaderState) : Prop where
  headers :
    ∀ name value,
      state.headers[name]? = some value →
        IsHeaderName name ∧ IsHeaderValue value
  announced : announcedLength state.headers = .ok state.contentLength

/-! ## Bytes of names -/

private theorem toLowerByte_facts :
    ∀ number < 256,
      toLowerByte (toLowerByte (UInt8.ofNat number)) =
          toLowerByte (UInt8.ofNat number) ∧
        isBlank (toLowerByte (UInt8.ofNat number)) =
          isBlank (UInt8.ofNat number) ∧
        (toLowerByte (UInt8.ofNat number) = 58 →
          UInt8.ofNat number = 58) ∧
        (toLowerByte (UInt8.ofNat number) = 10 →
          UInt8.ofNat number = 10) := by
  decide +kernel

/-- Lower case is kept, and blanks, colons and line ends stay what they are. -/
private theorem toLowerByte_spec (byte : UInt8) :
    toLowerByte (toLowerByte byte) = toLowerByte byte ∧
      isBlank (toLowerByte byte) = isBlank byte ∧
      (toLowerByte byte = 58 → byte = 58) ∧
      (toLowerByte byte = 10 → byte = 10) := by
  have facts := toLowerByte_facts byte.toNat byte.toNat_lt
  rwa [UInt8.ofNat_toNat] at facts

/-- A name is kept in lower case. -/
private theorem isHeaderName_toLower
    {name : Bytes} (stripped : Stripped isBlank name) (oneLine : 10 ∉ name)
    (noColon : 58 ∉ name) : IsHeaderName (toLower name) := by
  unfold toLower
  refine ⟨⟨?_, ?_⟩, ?_, ?_, ?_⟩
  · intro byte isFirst
    rw [List.head?_map] at isFirst
    obtain ⟨original, isOriginal, rfl⟩ := Option.map_eq_some_iff.mp isFirst
    rw [(toLowerByte_spec original).2.1]
    exact stripped.1 original isOriginal
  · intro byte isLast
    rw [List.getLast?_map] at isLast
    obtain ⟨original, isOriginal, rfl⟩ := Option.map_eq_some_iff.mp isLast
    rw [(toLowerByte_spec original).2.1]
    exact stripped.2 original isOriginal
  · intro member
    obtain ⟨original, inName, same⟩ := List.mem_map.mp member
    rw [(toLowerByte_spec original).2.2.2 same] at inName
    exact oneLine inName
  · intro member
    obtain ⟨original, inName, same⟩ := List.mem_map.mp member
    rw [(toLowerByte_spec original).2.2.1 same] at inName
    exact noColon inName
  · rw [toLower, List.map_map]
    apply List.map_congr_left
    intro byte _
    exact (toLowerByte_spec byte).1

/-- The parts of a line are stripped and stay on the line. -/
private theorem trim_part
    {line part : Bytes} (oneLine : 10 ∉ line) (inside : part ⊆ line) :
    Stripped isBlank (trim part) ∧ 10 ∉ trim part :=
  ⟨strip_stripped part, fun member =>
    oneLine (inside (strip_subset part member))⟩

private theorem stoull_error
    {text : Bytes} {error : HttpError} (failed : stoull text = .error error) :
    error = .stoull := by
  unfold stoull at failed
  simp only at failed
  split at failed
  · cases failed
    rfl
  · split at failed
    · cases failed
      rfl
    · split at failed
      · cases failed
      · cases failed

/-! ## Header lines -/

private theorem HeaderState.WellFormed.insert
    {state : HeaderState} (wellFormed : state.WellFormed)
    {name value : Bytes} (isName : IsHeaderName name)
    (isValue : IsHeaderValue value) {length : Nat}
    (announced :
      if name = bytes "content-length" then
        stoull value = .ok length
      else
        length = state.contentLength) :
    HeaderState.WellFormed
      { headers := state.headers.insert name value
        contentLength := length } where
  headers := by
    intro other found isFound
    simp only [Std.ExtTreeMap.getElem?_insert,
      Std.LawfulEqCmp.compare_eq_iff_eq] at isFound
    split at isFound
    case isTrue same =>
      subst same
      cases isFound
      exact ⟨isName, isValue⟩
    case isFalse =>
      exact wellFormed.headers other found isFound
  announced := by
    have earlier := wellFormed.announced
    unfold announcedLength at earlier ⊢
    simp only [Std.ExtTreeMap.getElem?_insert,
      Std.LawfulEqCmp.compare_eq_iff_eq]
    split at announced
    case isTrue same =>
      rw [if_pos same]
      exact announced
    case isFalse different =>
      rw [if_neg different, announced]
      exact earlier

/-- A turn of the loop over the header lines keeps the headers well formed. -/
private theorem readHeaderLine_wellFormed
    {state : HeaderState} (wellFormed : state.WellFormed)
    {line : Bytes} (oneLine : 10 ∉ line) :
    (∀ state', readHeaderLine state line = .ok state' →
        state'.WellFormed) ∧
      ∀ error, readHeaderLine state line = .error error →
        error = .stoull := by
  have trimmed : 10 ∉ trim line :=
    (trim_part oneLine (List.Subset.refl line)).2
  unfold readHeaderLine
  simp only
  split
  · exact ⟨by rintro _ ⟨⟩; exact wellFormed, nofun⟩
  · cases found : find (bytes ":") (trim line) with
    | none =>
        exact ⟨by rintro _ ⟨⟩; exact wellFormed, nofun⟩
    | some colon =>
        obtain ⟨nameStripped, nameOneLine⟩ :=
          trim_part trimmed (List.take_subset colon (trim line))
        obtain ⟨valueStripped, valueOneLine⟩ :=
          trim_part trimmed (List.drop_subset (colon + 1) (trim line))
        have noColon : 58 ∉ trim ((trim line).take colon) := fun member =>
          find_absent found (strip_subset _ member)
        have isName :=
          isHeaderName_toLower nameStripped nameOneLine noColon
        have isValue : IsHeaderValue _ := ⟨valueStripped, valueOneLine⟩
        simp only
        split
        case isTrue isLength =>
          cases announced : stoull (trim ((trim line).drop (colon + 1))) with
          | error error =>
              exact ⟨nofun, by rintro _ ⟨⟩; exact stoull_error announced⟩
          | ok length =>
              refine ⟨?_, nofun⟩
              rintro _ ⟨⟩
              apply wellFormed.insert isName isValue
              rw [if_pos isLength]
              exact announced
        case isFalse notLength =>
          refine ⟨?_, nofun⟩
          rintro _ ⟨⟩
          apply wellFormed.insert isName isValue
          rw [if_neg notLength]

/-- The loop over the header lines keeps the headers well formed. -/
private theorem foldlM_wellFormed
    {headerLines : List Bytes} {state : HeaderState}
    (wellFormed : state.WellFormed)
    (oneLine : ∀ line ∈ headerLines, 10 ∉ line) :
    (∀ state', headerLines.foldlM readHeaderLine state = .ok state' →
        state'.WellFormed) ∧
      ∀ error, headerLines.foldlM readHeaderLine state = .error error →
        error = .stoull := by
  induction headerLines generalizing state with
  | nil =>
      exact ⟨by rintro _ ⟨⟩; exact wellFormed, nofun⟩
  | cons line rest inductionHypothesis =>
      obtain ⟨keeps, fails⟩ :=
        readHeaderLine_wellFormed wellFormed (oneLine line List.mem_cons_self)
      rw [List.foldlM_cons]
      cases read : readHeaderLine state line with
      | error error =>
          refine ⟨nofun, ?_⟩
          rintro _ ⟨⟩
          exact fails error read
      | ok next =>
          exact
            inductionHypothesis (keeps next read) fun other member =>
              oneLine other (List.mem_cons_of_mem line member)

/-! ## Request lines -/

/-- A request with a well formed head and the body it announces. -/
structure HttpRequest.WellFormed (request : HttpRequest) : Prop where
  method : IsWord isSpace request.method
  path : IsWord isSpace request.path
  version : ∀ byte ∈ request.version, isSpace byte = false
  headers :
    ∀ name value,
      request.headers[name]? = some value →
        IsHeaderName name ∧ IsHeaderValue value
  announced : announcedLength request.headers = .ok request.body.length

private theorem nextWord_plain (text : Bytes) :
    ∀ byte ∈ (nextWord isSpace text).1, isSpace byte = false := by
  intro byte member
  have kept := List.mem_takeWhile_imp member
  simpa using kept

/-- A head is read as a well formed request, but for the body, or as one of two
errors. -/
theorem parseHead_wellFormed (head : Bytes) :
    (∀ request contentLength,
        parseHead head = .ok (request, contentLength) →
        request.body = [] ∧ request.remoteIp = [] ∧
          ∀ body remoteIp,
            body.length = contentLength →
            { request with body, remoteIp }.WellFormed) ∧
      ∀ error, parseHead head = .error error →
        error = .invalidRequestLine ∨ error = .stoull := by
  unfold parseHead
  simp only
  split
  · refine ⟨nofun, ?_⟩
    rintro _ ⟨⟩
    exact Or.inl rfl
  · rename_i words
    rw [not_or] at words
    have start : HeaderState.WellFormed {} := by
      refine ⟨fun name value found => ?_, rfl⟩
      rw [Std.ExtTreeMap.getElem?_empty] at found
      cases found
    obtain ⟨keeps, fails⟩ :=
      foldlM_wellFormed start fun line member =>
        (mem_lines (List.mem_of_mem_tail member)).1
    cases read : (lines 10 head).tail.foldlM readHeaderLine {} with
    | error error =>
        refine ⟨nofun, ?_⟩
        rintro _ ⟨⟩
        exact Or.inr (fails error read)
    | ok state =>
        have wellFormed := keeps state read
        refine ⟨?_, nofun⟩
        rintro request contentLength ⟨⟩
        refine ⟨rfl, rfl, fun body remoteIp isLength => ?_⟩
        exact
          { method := ⟨words.1, nextWord_plain _⟩
            path := ⟨words.2, nextWord_plain _⟩
            version := nextWord_plain _
            headers := wellFormed.headers
            announced := by
              rw [isLength]
              exact wellFormed.announced }

end ShardedKvStore
