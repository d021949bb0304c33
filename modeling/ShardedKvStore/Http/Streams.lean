import ShardedKvStore.Http.Heads
import ShardedKvStore.Http.Requests

/-!
# Streams that are read

Whatever bytes a client sends, how `recv` cuts them makes no difference to the
request or the error they are read as, as long as the head does not end within one
buffer of the limit.  And a request that is read is well formed: it is the first
head of the stream, taken apart, with as many bytes of body as it announces.
-/

namespace ShardedKvStore

open Foundation

/-! ## Whole streams -/

/-- What a whole stream is read as. -/
def requestOf
    (remoteIp stream : Bytes) : Except HttpError (Option HttpRequest) :=
  match find (crlf ++ crlf) stream with
  | none =>
      if maxRequestSize < stream.length then
        .error .requestTooLarge
      else
        .error .failedHeaders
  | some headerEnd =>
      if maxRequestSize < headerEnd + 4 then
        .error .requestTooLarge
      else do
        let (request, contentLength) ← parseHead (stream.take headerEnd)
        if 1024 * 1024 < contentLength then
          return none
        else if (stream.drop (headerEnd + 4)).length < contentLength then
          .error .incompleteBody
        else
          return some
            { request with
              body := (stream.drop (headerEnd + 4)).take contentLength
              remoteIp }

/-- The head does not end within one buffer of the limit, or there is not that
much. -/
def HeadSettled (stream : Bytes) : Prop :=
  ∀ headerEnd ∈ find (crlf ++ crlf) stream,
    headerEnd + 3 + bufferSize ≤ maxRequestSize ∨
      maxRequestSize < headerEnd + 4 ∨ stream.length ≤ maxRequestSize

section Streams

variable {recv : Recv} {connection : Connection}

/-- A head that does not end in time is an error. -/
private theorem readHeaders_tooLarge
    (delivers : recv.Delivers) {raw : Bytes}
    (long : maxRequestSize < (raw ++ connection.pending).length)
    (open_ :
      ∀ headerEnd ∈ find (crlf ++ crlf) (raw ++ connection.pending),
        maxRequestSize < headerEnd + 4)
    (small : raw.length ≤ maxRequestSize) :
    readHeaders recv raw connection = .error .requestTooLarge := by
  induction raw, connection using readHeaders.induct recv with
  | case1 raw connection position here =>
      have late := open_ position (find_append here connection.pending)
      have inside := find_spec here
      change position + 4 ≤ raw.length at inside
      omega
  | case2 raw connection notYet nothing =>
      have more : connection.pending ≠ [] := by
        intro atEnd
        rw [atEnd, List.append_nil] at long
        omega
      exact absurd nothing (delivers.recv_ne_nil (by decide) more)
  | case3 raw connection notYet received tooLarge =>
      rw [readHeaders, notYet]
      simp only [if_neg received, if_pos tooLarge]
  | case4 raw connection notYet received stillSmall inductionHypothesis =>
      have whole := @Connection.recv_append recv connection bufferSize
      rw [← whole, ← List.append_assoc] at long open_
      rw [readHeaders, notYet]
      simp only [if_neg received, if_neg stillSmall]
      exact inductionHypothesis long open_ (not_lt.mp stillSmall)

/-- A stream that ends in the head is an error. -/
private theorem readHeaders_failed
    {raw : Bytes}
    (absent : find (crlf ++ crlf) (raw ++ connection.pending) = none)
    (small : (raw ++ connection.pending).length ≤ maxRequestSize) :
    readHeaders recv raw connection = .error .failedHeaders := by
  induction raw, connection using readHeaders.induct recv with
  | case1 raw connection position here =>
      rw [find_append here connection.pending] at absent
      cases absent
  | case2 raw connection notYet nothing =>
      rw [readHeaders, notYet]
      simp only [if_pos nothing]
  | case3 raw connection notYet received tooLarge =>
      have whole := @Connection.recv_append recv connection bufferSize
      rw [← whole, ← List.append_assoc, List.length_append] at small
      omega
  | case4 raw connection notYet received stillSmall inductionHypothesis =>
      have whole := @Connection.recv_append recv connection bufferSize
      rw [← whole, ← List.append_assoc] at absent small
      rw [readHeaders, notYet]
      simp only [if_neg received, if_neg stillSmall]
      exact inductionHypothesis absent small

/-- A stream that ends in the body is an error. -/
private theorem readBody_failed
    {contentLength : Nat} {body : Bytes}
    (short : (body ++ connection.pending).length < contentLength) :
    readBody recv contentLength body connection = .error .incompleteBody := by
  induction body, connection using
    readBody.induct recv contentLength with
  | case1 body connection more size nothing =>
      rw [readBody, if_pos more]
      exact if_pos nothing
  | case2 body connection more size received inductionHypothesis =>
      have whole := @Connection.recv_append recv connection size
      rw [← whole, ← List.append_assoc] at short
      rw [readBody, if_pos more]
      exact (if_neg received).trans (inductionHypothesis short)
  | case3 body connection long =>
      rw [List.length_append] at short
      omega

private theorem readRequest_of_error
    {error : HttpError} (remoteIp : Bytes)
    (reads : readHeaders recv [] connection = .error error) :
    readRequest recv remoteIp connection = .error error := by
  unfold readRequest
  rw [reads]
  rfl

/-- A stream whose head ends in time is taken apart behind the head. -/
private theorem readRequest_of_head
    (delivers : recv.Delivers) {piece : Nat} (pieces : recv.PiecesUpTo piece)
    (remoteIp : Bytes) {stream : Bytes} {headerEnd : Nat}
    (found : find (crlf ++ crlf) stream = some headerEnd)
    (inTime : ¬ maxRequestSize < headerEnd + 4)
    (fits :
      headerEnd + 3 + piece ≤ maxRequestSize ∨
        stream.length ≤ maxRequestSize) :
    readRequest recv remoteIp { pending := stream } =
      requestOf remoteIp stream := by
  obtain ⟨raw, connection, reads, same, inRaw⟩ :=
    @readHeaders_eq recv { pending := stream } delivers piece pieces []
      headerEnd found fits
  rw [List.nil_append] at same
  change raw ++ connection.pending = stream at same
  have isHead : raw.take headerEnd = stream.take headerEnd := by
    rw [← same, List.take_append_of_le_length (by omega)]
  have isRest :
      raw.drop (headerEnd + 4) ++ connection.pending =
        stream.drop (headerEnd + 4) := by
    rw [← same, List.drop_append_of_le_length inRaw]
  unfold readRequest requestOf
  simp only [found, if_neg inTime, reads, bind, Except.bind, isHead]
  cases parsed : parseHead (stream.take headerEnd) with
  | error error =>
      rfl
  | ok head =>
      obtain ⟨request, contentLength⟩ := head
      simp only
      by_cases large : 1024 * 1024 < contentLength
      · rw [if_pos large, if_pos large]
      · rw [if_neg large, if_neg large, ← isRest]
        by_cases short :
            (raw.drop (headerEnd + 4) ++ connection.pending).length <
              contentLength
        · rw [if_pos short, readBody_failed short]
        · obtain ⟨body, readsBody, isBody⟩ :=
            readBody_eq delivers (not_lt.mp short)
          rw [if_neg short, readsBody]
          simp only [isBody]

/-- However `recv` cuts the stream, it is read as the same request or error. -/
theorem readRequest_eq_requestOf
    (delivers : recv.Delivers) (remoteIp : Bytes) {stream : Bytes}
    (settled : HeadSettled stream) :
    readRequest recv remoteIp { pending := stream } =
      requestOf remoteIp stream := by
  have small : ([] : Bytes).length ≤ maxRequestSize := Nat.zero_le _
  have tooLarge
      (long : maxRequestSize < stream.length)
      (late :
        ∀ headerEnd ∈ find (crlf ++ crlf) stream,
          maxRequestSize < headerEnd + 4) :
      readRequest recv remoteIp { pending := stream } =
        .error .requestTooLarge :=
    readRequest_of_error remoteIp
      (@readHeaders_tooLarge recv { pending := stream } delivers [] long late
        small)
  cases found : find (crlf ++ crlf) stream with
  | none =>
      unfold requestOf
      simp only [found]
      by_cases long : maxRequestSize < stream.length
      · rw [if_pos long]
        apply tooLarge long
        rw [found]
        nofun
      · rw [if_neg long]
        exact
          readRequest_of_error remoteIp
            (@readHeaders_failed recv { pending := stream } [] found
              (not_lt.mp long))
  | some headerEnd =>
      by_cases late : maxRequestSize < headerEnd + 4
      · unfold requestOf
        simp only [found, if_pos late]
        apply tooLarge (late.trans_le (find_spec found))
        rw [found]
        rintro _ ⟨⟩
        exact late
      · have choices := settled headerEnd found
        exact
          readRequest_of_head delivers delivers.piecesUpTo remoteIp found late
            (by tauto)

/-! ## Streams that depend on the pieces -/

theorem recvByte_delivers : recvByte.Delivers := by
  intro _ size pending positive more
  exact ⟨Nat.one_pos, positive, List.length_pos_of_ne_nil more⟩

/-- A `recv` that returns single bytes, and then as much as there is. -/
def recvBurst (start : Nat) : Recv :=
  fun call size pending => if call < start then 1 else min size pending.length

theorem recvBurst_delivers (start : Nat) : (recvBurst start).Delivers := by
  intro call size pending positive more
  have nonempty := List.length_pos_of_ne_nil more
  unfold recvBurst
  split <;> omega

/-- A burst at the end of the head is too large, if the head ends within one buffer
of the limit. -/
private theorem readHeaders_burst
    {headerEnd : Nat} {raw : Bytes}
    (found :
      find (crlf ++ crlf) (raw ++ connection.pending) = some headerEnd)
    (long : maxRequestSize < (raw ++ connection.pending).length)
    (near : maxRequestSize < headerEnd + 3 + bufferSize)
    (single : connection.calls = raw.length)
    (before : raw.length ≤ headerEnd + 3) :
    readHeaders (recvBurst (headerEnd + 3)) raw connection =
      .error .requestTooLarge := by
  induction raw, connection using
    readHeaders.induct (recvBurst (headerEnd + 3)) with
  | case1 raw connection position here =>
      have same := find_append here connection.pending
      rw [found] at same
      obtain rfl := Option.some.inj same
      have inside := find_spec here
      change headerEnd + 4 ≤ raw.length at inside
      omega
  | case2 raw connection notYet nothing =>
      have more : connection.pending ≠ [] := by
        intro atEnd
        rw [atEnd, List.append_nil, notYet] at found
        cases found
      exact
        absurd nothing
          ((recvBurst_delivers _).recv_ne_nil (by decide) more)
  | case3 raw connection notYet received tooLarge =>
      rw [readHeaders, notYet]
      simp only [if_neg received, if_pos tooLarge]
  | case4 raw connection notYet received small inductionHypothesis =>
      have whole :=
        @Connection.recv_append (recvBurst (headerEnd + 3)) connection
          bufferSize
      rw [readHeaders, notYet]
      simp only [if_neg received, if_neg small]
      by_cases early : connection.calls < headerEnd + 3
      · have one :
            (connection.recv (recvBurst (headerEnd + 3))
              bufferSize).1.length ≤ 1 := by
          simp only [Connection.recv, recvBurst, if_pos early,
            List.length_take]
          omega
        have oneByte := List.length_pos_of_ne_nil received
        rw [← whole, ← List.append_assoc] at found long
        apply inductionHypothesis found long
        · rw [List.length_append]
          change connection.calls + 1 = _
          omega
        · rw [List.length_append]
          omega
      · rw [List.length_append] at small long
        simp only [Connection.recv, recvBurst, if_neg early,
          List.length_take] at small
        omega

/-- What a head is read as is no error of the limit. -/
private theorem requestOf_ne_tooLarge
    (remoteIp : Bytes) {stream : Bytes} {headerEnd : Nat}
    (found : find (crlf ++ crlf) stream = some headerEnd)
    (inTime : ¬ maxRequestSize < headerEnd + 4) :
    requestOf remoteIp stream ≠ .error .requestTooLarge := by
  unfold requestOf
  simp only [found, if_neg inTime, bind, Except.bind]
  cases parsed : parseHead (stream.take headerEnd) with
  | error error =>
      rcases (parseHead_wellFormed _).2 error parsed with rfl | rfl
      · nofun
      · nofun
  | ok head =>
      obtain ⟨request, contentLength⟩ := head
      simp only
      split
      · nofun
      · split
        · nofun
        · nofun

/-- How `recv` cuts a stream makes no difference exactly when the head is settled. -/
theorem readRequest_independent_iff (remoteIp stream : Bytes) :
    (∀ recv recv' : Recv,
      recv.Delivers → recv'.Delivers →
        readRequest recv remoteIp { pending := stream } =
          readRequest recv' remoteIp { pending := stream }) ↔
      HeadSettled stream := by
  constructor
  · intro independent headerEnd found
    by_contra unsettled
    simp only [not_or, not_le, not_lt] at unsettled
    obtain ⟨near, inTime, long⟩ := unsettled
    have bursts :
        readRequest (recvBurst (headerEnd + 3)) remoteIp
            { pending := stream } =
          .error .requestTooLarge :=
      readRequest_of_error remoteIp
        (@readHeaders_burst { pending := stream } headerEnd [] found long
          near rfl (Nat.zero_le _))
    have reads :=
      readRequest_of_head recvByte_delivers
        (fun _ _ => List.length_take_le 1 _) remoteIp found
        (not_lt.mpr inTime) (Or.inl inTime)
    rw [independent recvByte _ recvByte_delivers (recvBurst_delivers _),
      bursts] at reads
    exact requestOf_ne_tooLarge remoteIp found (not_lt.mpr inTime) reads.symm
  · intro settled recv recv' delivers delivers'
    rw [readRequest_eq_requestOf delivers remoteIp settled,
      readRequest_eq_requestOf delivers' remoteIp settled]

/-! ## Requests that are accepted -/

private theorem readHeaders_sound
    {raw raw' : Bytes} {headerEnd : Nat} {connection' : Connection}
    (reads :
      readHeaders recv raw connection = .ok (headerEnd, raw', connection')) :
    find (crlf ++ crlf) raw' = some headerEnd ∧
      raw' ++ connection'.pending = raw ++ connection.pending := by
  induction raw, connection using readHeaders.induct recv with
  | case1 raw connection position here =>
      rw [readHeaders, here] at reads
      cases reads
      exact ⟨here, rfl⟩
  | case2 raw connection notYet nothing =>
      rw [readHeaders, notYet] at reads
      simp only [if_pos nothing] at reads
      cases reads
  | case3 raw connection notYet received tooLarge =>
      rw [readHeaders, notYet] at reads
      simp only [if_neg received, if_pos tooLarge] at reads
      cases reads
  | case4 raw connection notYet received small inductionHypothesis =>
      have whole := @Connection.recv_append recv connection bufferSize
      rw [readHeaders, notYet] at reads
      simp only [if_neg received, if_neg small] at reads
      rw [← whole, ← List.append_assoc]
      exact inductionHypothesis reads

private theorem readBody_sound
    {contentLength : Nat} {body body' : Bytes}
    (reads : readBody recv contentLength body connection = .ok body') :
    contentLength ≤ body'.length ∧ body' <+: body ++ connection.pending := by
  induction body, connection using
    readBody.induct recv contentLength with
  | case1 body connection more size nothing =>
      rw [readBody, if_pos more] at reads
      have failed := (if_pos nothing).symm.trans reads
      cases failed
  | case2 body connection more size received inductionHypothesis =>
      have whole := @Connection.recv_append recv connection size
      rw [readBody, if_pos more] at reads
      rw [← whole, ← List.append_assoc]
      exact inductionHypothesis ((if_neg received).symm.trans reads)
  | case3 body connection long =>
      rw [readBody, if_neg long] at reads
      cases reads
      exact ⟨not_lt.mp long, List.prefix_append _ _⟩

private theorem bind_returns
    {Value Next : Type} {first : Except HttpError Value}
    {second : Value → Except HttpError Next} {next : Next}
    (returned : first >>= second = .ok next) :
    ∃ value, first = .ok value ∧ second value = .ok next := by
  cases first with
  | error error =>
      cases returned
  | ok value =>
      exact ⟨value, rfl, returned⟩

/-- The two loops and the head behind a request that is accepted. -/
private theorem readRequest_returns
    {remoteIp : Bytes} {request : HttpRequest}
    (accepted : readRequest recv remoteIp connection = .ok (some request)) :
    ∃ headerEnd raw later parsed contentLength body,
      readHeaders recv [] connection = .ok (headerEnd, raw, later) ∧
        parseHead (raw.take headerEnd) = .ok (parsed, contentLength) ∧
        contentLength ≤ 1024 * 1024 ∧
        readBody recv contentLength (raw.drop (headerEnd + 4)) later =
          .ok body ∧
        request =
          { parsed with
            body := body.take contentLength
            remoteIp } := by
  unfold readRequest at accepted
  obtain ⟨⟨headerEnd, raw, later⟩, reads, accepted⟩ := bind_returns accepted
  obtain ⟨⟨parsed, contentLength⟩, parses, accepted⟩ :=
    bind_returns accepted
  simp only at accepted
  split at accepted
  case isTrue =>
    cases accepted
  case isFalse notLarge =>
    obtain ⟨body, readsBody, same⟩ := bind_returns accepted
    cases same
    exact
      ⟨headerEnd, raw, later, parsed, contentLength, body, reads, parses,
        not_lt.mp notLarge, readsBody, rfl⟩

/-- Whatever `recv` does, a request that is accepted is well formed, and it is the
first one of the stream: its head ends at the first blank line, and its body is as
long as the head announces and follows at once. -/
theorem readRequest_accepts_wellFormed
    {remoteIp : Bytes} {request : HttpRequest}
    (accepted : readRequest recv remoteIp connection = .ok (some request)) :
    request.WellFormed ∧ request.body.length ≤ 1024 * 1024 ∧
      request.remoteIp = remoteIp ∧
      ∃ head,
        find (crlf ++ crlf) connection.pending = some head.length ∧
          head ++ (crlf ++ crlf ++ request.body) <+: connection.pending ∧
          parseHead head =
            .ok
              ({ request with
                  body := []
                  remoteIp := [] },
                request.body.length) := by
  obtain ⟨headerEnd, raw, later, parsed, contentLength, body, reads, parses,
    notLarge, readsBody, rfl⟩ := readRequest_returns accepted
  obtain ⟨found, whole⟩ := readHeaders_sound reads
  obtain ⟨enough, follows⟩ := readBody_sound readsBody
  obtain ⟨noBody, noIp, wellFormed⟩ :=
    (parseHead_wellFormed _).1 parsed contentLength parses
  rw [List.nil_append] at whole
  have inside := find_spec found
  change headerEnd + 4 ≤ raw.length at inside
  have isLength : (body.take contentLength).length = contentLength := by
    rw [List.length_take]
    omega
  have isHead : (raw.take headerEnd).length = headerEnd := by
    rw [List.length_take]
    omega
  refine
    ⟨wellFormed _ _ isLength, isLength.trans_le notLarge, rfl,
      raw.take headerEnd, ?_, ?_, ?_⟩
  · rw [isHead, ← whole]
    exact find_append found later.pending
  · obtain ⟨rest, isBlankLine⟩ := find_isPrefix found
    have isRest : rest = raw.drop (headerEnd + 4) := by
      have dropped := congrArg (List.drop 4) isBlankLine
      rw [List.drop_drop] at dropped
      exact dropped
    have isStream :
        raw.take headerEnd ++ (crlf ++ crlf ++ (rest ++ later.pending)) =
          connection.pending := by
      rw [← whole, ← List.append_assoc (crlf ++ crlf), isBlankLine,
        ← List.append_assoc, List.take_append_drop]
    rw [← isStream]
    apply (List.prefix_append_right_inj _).mpr
    apply (List.prefix_append_right_inj _).mpr
    rw [isRest]
    exact (List.take_prefix contentLength body).trans follows
  · rw [isLength, parses]
    obtain ⟨method, path, version, headers, parsedBody, parsedIp⟩ := parsed
    cases noBody
    cases noIp
    rfl

/-- A value is put. -/
theorem put_text_accepted :
    ∃ request,
      readRequest recvByte (bytes "127.0.0.1")
          { pending := putText.written ++ bytes "GET" } =
        .ok (some request) ∧
      request.WellFormed ∧ request.body = bytes "abc" ∧
        ∃ head,
          head ++ (crlf ++ crlf ++ request.body) <+:
            putText.written ++ bytes "GET" := by
  have accepted :=
    putText.readRequest_eq recvByte_delivers (bytes "127.0.0.1")
      (bytes "GET") (by decide)
  obtain ⟨wellFormed, _, _, head, _, isPrefix, _⟩ :=
    readRequest_accepts_wellFormed accepted
  exact ⟨_, accepted, wellFormed, rfl, head, isPrefix⟩

end Streams

end ShardedKvStore
