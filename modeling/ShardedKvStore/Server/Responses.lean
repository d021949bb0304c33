import ShardedKvStore.Foundation.Messages
import ShardedKvStore.Gateway.Responses
import ShardedKvStore.Server.Threads

/-!
# Responses on the wire

What is sent for a response reads back as its status, its headers and its body.
Nothing a client sends gets into the head of a response, so no value can end it
early and pass for a response of its own.
-/

namespace ShardedKvStore

open Foundation

/-! ## Messages -/

/-- The message that is sent for a response. -/
def HttpResponse.message (response : HttpResponse) : Message where
  startLine :=
    bytes "HTTP/1.1 " ++ toDecimal response.status ++ bytes " " ++
      reasonPhrase response.status
  fields :=
    (bytes "Content-Type", response.contentType) ::
      (bytes "Content-Length", toDecimal response.body.length) ::
      (bytes "Connection", bytes "close") :: response.headers.toList
  body := response.body

theorem HttpResponse.written_eq (response : HttpResponse) :
    response.written = response.message.written := by
  have lines :
      (fun header : Bytes × Bytes =>
          header.1 ++ bytes ": " ++ header.2 ++ crlf) =
        fieldLine := by
    funext header
    simp [fieldLine, lineEnd, crlf, bytes]
  unfold HttpResponse.written Message.written HttpResponse.message
  rw [lines]
  simp [fieldLine, lineEnd, crlf, bytes]

/-- A response whose head stays on its lines. -/
structure HttpResponse.Plain (response : HttpResponse) : Prop where
  contentType :
    13 ∉ response.contentType ∧ response.contentType.head? ≠ some 32
  headers :
    ∀ name value,
      response.headers[name]? = some value → PlainField (name, value)

/-- The bytes of a decimal number are no line ends and no spaces. -/
private theorem toDecimal_plain (number : Nat) :
    ∀ byte ∈ toDecimal number, byte ≠ 13 ∧ byte ≠ 32 := by
  intro byte member
  have digit := (toDecimal_isDigit number byte member).1
  constructor
  · rintro rfl
    exact absurd digit (by decide)
  · rintro rfl
    exact absurd digit (by decide)

private theorem reasonPhrase_plain (status : Nat) :
    13 ∉ reasonPhrase status := by
  unfold reasonPhrase
  split <;> decide

/-- What is sent for a plain response reads back as the response. -/
theorem HttpResponse.Plain.readMessage_written
    {response : HttpResponse} (plain : response.Plain) :
    readMessage response.written = some response.message := by
  have number (number : Nat) : 13 ∉ toDecimal number := fun member =>
    (toDecimal_plain number 13 member).1 rfl
  rw [response.written_eq]
  apply Foundation.readMessage_written
  constructor
  · intro member
    simp only [HttpResponse.message, List.mem_append] at member
    rcases member with ((inFront | inStatus) | inGap) | inPhrase
    · exact absurd inFront (by decide)
    · exact number _ inStatus
    · exact absurd inGap (by decide)
    · exact reasonPhrase_plain _ inPhrase
  · intro field member
    simp only [HttpResponse.message, List.mem_cons] at member
    rcases member with rfl | rfl | rfl | inHeaders
    · exact
        { name := by
            change 13 ∉ bytes "Content-Type" ∧ 58 ∉ bytes "Content-Type"
            decide
          value := plain.contentType.1
          start := plain.contentType.2 }
    · exact
        { name := by
            change 13 ∉ bytes "Content-Length" ∧ 58 ∉ bytes "Content-Length"
            decide
          value := number _
          start := fun isFirst =>
            (toDecimal_plain _ 32 (List.mem_of_head? isFirst)).2 rfl }
    · decide
    · exact
        plain.headers field.1 field.2
          (Std.ExtTreeMap.mem_toList_iff_getElem?_eq_some.mp inHeaders)

example :
    (readMessage
        (jsonResponse 404 (bytes "HTTP/1.1 200 OK\r\n\r\n")).written).map
      (fun message => (message.startLine, message.body)) =
        some
          (bytes "HTTP/1.1 404 Not Found",
            bytes "HTTP/1.1 200 OK\r\n\r\n") := by
  decide +kernel

/-! ## Responses of threads -/

section Threads

variable {shardCount replicaCount : Nat} [NeZero shardCount]

/-- The statuses that are answered. -/
def answeredStatuses : List Nat :=
  [200, 201, 400, 401, 404, 405, 413, 429, 503]

/-- The headers of a response before `finish`. -/
def replyHeaders (status : Nat) : HeaderMap :=
  if status = 429 then
    (∅ : HeaderMap).insert (bytes "Retry-After") (bytes "1")
  else
    ∅

private theorem replyHeaders_eq_some
    {status : Nat} {name value : Bytes}
    (found : (replyHeaders status)[name]? = some value) :
    name = bytes "Retry-After" ∧ value = bytes "1" := by
  unfold replyHeaders at found
  split at found
  · simp only [Std.ExtTreeMap.getElem?_insert,
      Std.LawfulEqCmp.compare_eq_iff_eq] at found
    split at found
    case isTrue same =>
      exact ⟨same.symm, (Option.some.inj found).symm⟩
    case isFalse =>
      rw [Std.ExtTreeMap.getElem?_empty] at found
      cases found
  · rw [Std.ExtTreeMap.getElem?_empty] at found
    cases found

/-- A response before `finish`. -/
structure HttpResponse.Bare (response : HttpResponse) : Prop where
  status : response.status ∈ answeredStatuses
  contentType :
    response.contentType ∈
      [bytes "application/json", bytes "text/plain; version=0.0.4"]
  headers : response.headers = replyHeaders response.status

private theorem jsonResponse_bare
    {status : Nat} (body : Bytes) (isStatus : status ∈ answeredStatuses)
    (notLimited : status ≠ 429) : (jsonResponse status body).Bare where
  status := isStatus
  contentType := List.mem_cons_self
  headers := (if_neg notLimited).symm

private theorem route_bare
    {request : HttpRequest} {response : HttpResponse}
    (routed : route request = .respond response) : response.Bare := by
  have each :
      ∀ error ∈ routeErrors, error.1 ∈ answeredStatuses ∧ error.1 ≠ 429 := by
    decide
  obtain ⟨error, member, rfl⟩ := route_respond routed
  exact jsonResponse_bare _ (each error member).1 (each error member).2

private theorem AdminAction.response_bare
    (action : AdminAction) (flag : Bool) :
    (action.response (.ok flag)).Bare := by
  cases action with
  | fail shardId replica =>
      cases flag with
      | true => exact jsonResponse_bare _ (by decide) (by decide)
      | false => exact jsonResponse_bare _ (by decide) (by decide)
  | recover shardId replica =>
      cases flag with
      | true => exact jsonResponse_bare _ (by decide) (by decide)
      | false => exact jsonResponse_bare _ (by decide) (by decide)
  | elect shardId =>
      cases flag with
      | true => exact jsonResponse_bare _ (by decide) (by decide)
      | false => exact jsonResponse_bare _ (by decide) (by decide)

private theorem KvRequest.Answers.bare
    {sent : KvRequest} {response : HttpResponse}
    (answers : sent.Answers shardCount response) : response.Bare := by
  cases answers with
  | circuitOpen =>
      exact jsonResponse_bare _ (by decide) (by decide)
  | called result returns =>
      have status := returns.status_mem
      simp only [List.mem_cons, List.not_mem_nil, or_false] at status
      apply jsonResponse_bare
      · simp only [answeredStatuses, List.mem_cons, List.not_mem_nil,
          or_false]
        omega
      · omega

/-- The responses of `handle` have a documented status, and no headers but one. -/
private theorem Handles.bare
    {apiKey : Bytes} {request : HttpRequest} {response : HttpResponse}
    (handles : Handles shardCount replicaCount apiKey request response) :
    response.Bare := by
  cases handles with
  | executed sent response _ _ answers =>
      exact answers.bare
  | replied response replies =>
      cases replies with
      | health _ =>
          exact jsonResponse_bare _ (by decide) (by decide)
      | metrics value _ =>
          exact ⟨List.mem_cons_self, by simp [metricsResponse], rfl⟩
      | unauthorized _ _ =>
          exact jsonResponse_bare _ (by decide) (by decide)
      | rateLimited _ =>
          exact ⟨by decide, List.mem_cons_self, rfl⟩
      | routed response _ routed =>
          exact route_bare routed
      | administered action flag _ _ =>
          exact action.response_bare flag
      | status shards _ _ _ _ =>
          exact jsonResponse_bare _ (by decide) (by decide)

private theorem signedDecimal_plain (number : Int) :
    PlainField (bytes "X-Request-Latency-Us", signedDecimal number) where
  name := by
    change
      13 ∉ bytes "X-Request-Latency-Us" ∧ 58 ∉ bytes "X-Request-Latency-Us"
    decide
  value := by
    unfold signedDecimal
    split
    · intro member
      rcases List.mem_cons.mp member with isSign | inDigits
      · cases isSign
      · exact (toDecimal_plain _ 13 inDigits).1 rfl
    · intro member
      exact (toDecimal_plain _ 13 member).1 rfl
  start := by
    unfold signedDecimal
    split
    · rintro ⟨⟩
    · intro isFirst
      exact (toDecimal_plain _ 32 (List.mem_of_head? isFirst)).2 rfl

/-- The headers that `finish` leaves. -/
theorem finished_header_iff
    {elapsed : Int} {reply : HttpResponse} {name value : Bytes} :
    (finished elapsed reply).headers[name]? = some value ↔
      name = bytes "X-Request-Latency-Us" ∧ value = signedDecimal elapsed ∨
        name = bytes "X-Content-Type-Options" ∧ value = bytes "nosniff" ∨
        name ≠ bytes "X-Request-Latency-Us" ∧
          name ≠ bytes "X-Content-Type-Options" ∧
          reply.headers[name]? = some value := by
  unfold finished
  simp only [Std.ExtTreeMap.getElem?_insert,
    Std.LawfulEqCmp.compare_eq_iff_eq]
  by_cases latency : bytes "X-Request-Latency-Us" = name
  · subst latency
    have different :
        bytes "X-Request-Latency-Us" ≠ bytes "X-Content-Type-Options" := by
      decide
    simp [different, eq_comm]
  · by_cases options : bytes "X-Content-Type-Options" = name
    · subst options
      simp [latency, eq_comm, Ne.symm latency]
    · simp [latency, options, Ne.symm latency, Ne.symm options]

/-- A finished response is plain. -/
private theorem HttpResponse.Bare.finished_plain
    {reply : HttpResponse} (bare : reply.Bare) (elapsed : Int) :
    (finished elapsed reply).Plain where
  contentType := by
    change 13 ∉ reply.contentType ∧ reply.contentType.head? ≠ some 32
    have contentType := bare.contentType
    simp only [List.mem_cons, List.not_mem_nil, or_false] at contentType
    rcases contentType with isJson | isText
    · rw [isJson]
      decide
    · rw [isText]
      decide
  headers := by
    intro name value found
    rcases finished_header_iff.mp found with
      ⟨rfl, rfl⟩ | ⟨rfl, rfl⟩ | ⟨_, _, inReply⟩
    · exact signedDecimal_plain elapsed
    · decide
    · rw [bare.headers] at inReply
      obtain ⟨rfl, rfl⟩ := replyHeaders_eq_some inReply
      decide

/-- The headers every response has; one that is refused for the rate limit has one
more. -/
structure HttpResponse.HasHeaders (response : HttpResponse) : Prop where
  options :
    response.headers[bytes "X-Content-Type-Options"]? =
      some (bytes "nosniff")
  latency :
    ∃ elapsed,
      response.headers[bytes "X-Request-Latency-Us"]? =
        some (signedDecimal elapsed)
  retryAfter :
    response.headers[bytes "Retry-After"]? =
      if response.status = 429 then some (bytes "1") else none
  noOthers :
    ∀ name value,
      response.headers[name]? = some value →
        name ∈
          [bytes "X-Content-Type-Options", bytes "X-Request-Latency-Us",
            bytes "Retry-After"]

private theorem HttpResponse.Bare.hasHeaders
    {reply : HttpResponse} (bare : reply.Bare) (elapsed : Int) :
    (finished elapsed reply).HasHeaders where
  options :=
    finished_header_iff.mpr (Or.inr (Or.inl ⟨rfl, rfl⟩))
  latency := ⟨elapsed, finished_header_iff.mpr (Or.inl ⟨rfl, rfl⟩)⟩
  retryAfter := by
    change
      ((reply.headers.insert (bytes "X-Content-Type-Options") _).insert
          (bytes "X-Request-Latency-Us") _)[bytes "Retry-After"]? =
        if reply.status = 429 then some (bytes "1") else none
    simp only [Std.ExtTreeMap.getElem?_insert,
      Std.LawfulEqCmp.compare_eq_iff_eq]
    rw [if_neg (by decide), if_neg (by decide), bare.headers, replyHeaders]
    split
    · rw [Std.ExtTreeMap.getElem?_insert_self]
    · rw [Std.ExtTreeMap.getElem?_empty]
  noOthers := by
    intro name value found
    rcases finished_header_iff.mp found with
      ⟨rfl, _⟩ | ⟨rfl, _⟩ | ⟨_, _, inReply⟩
    · simp
    · simp
    · rw [bare.headers] at inReply
      obtain ⟨rfl, _⟩ := replyHeaders_eq_some inReply
      simp

/-- Whatever the clients send, what is sent for an answered thread reads back as one
message: the line of a documented status, the headers of the server and no others,
and the body. -/
theorem Server.responses_read_back
    {settings : Settings} {labels : List ServerLabel}
    {state : ServerState shardCount replicaCount}
    (positive : 0 < replicaCount) (run : ServerRun settings labels state)
    {index : Nat} {thread : ServerThread} {response : HttpResponse}
    (found : state.threads[index]? = some thread)
    (answered : thread.stage = .answered response) :
    readMessage response.written = some response.message ∧
      response.status ∈ answeredStatuses ∧ response.HasHeaders := by
  have follows := run.follows positive found
  rw [answered] at follows
  obtain ⟨elapsed, reply, handles, rfl⟩ := follows
  have bare := handles.bare
  exact
    ⟨(bare.finished_plain elapsed).readMessage_written, bare.status,
      bare.hasHeaders elapsed⟩

/-- A value that looks like a response is read inside the body of one. -/
theorem Server.response_in_value_reads_back :
    ∃ labels,
      ∃ state : ServerState 1 1,
        ∃ thread response,
          ServerRun ⟨bytes "s", 20, 40, 2⟩ labels state ∧
            state.threads[1]? = some thread ∧
            thread.stage = .answered response ∧ response.status = 200 ∧
            readMessage response.written = some response.message ∧
            response.HasHeaders := by
  obtain ⟨labels, state, run, answers⟩ :=
    ServerRun.of_schedule ⟨bytes "s", 20, 40, 2⟩
      ([.request
            (.bearing "s" "PUT" "/v1/kv/k"
              (crlf ++ crlf ++ bytes "HTTP/1.1 200 OK" ++ crlf)) 0,
          .request (.bearing "s" "GET" "/v1/kv/k" []) 0] ++
        List.replicate 8 (.turn 0 {}) ++ List.replicate 8 (.turn 1 {}))
      (fun _ (state : ServerState 1 1) =>
        decide (state.threads[1]?.bind ServerThread.status = some 200))
      (by decide +kernel)
  obtain ⟨thread, response, found, answered, status⟩ :=
    ServerThread.answered_of_status (of_decide_eq_true answers)
  obtain ⟨reads, _, headers⟩ :=
    responses_read_back (by decide) run found answered
  exact
    ⟨labels, state, thread, response, run, found, answered, status, reads,
      headers⟩

end Threads

end ShardedKvStore
