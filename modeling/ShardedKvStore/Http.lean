import Mathlib.Data.List.DropRight
import ShardedKvStore.Common
import ShardedKvStore.Foundation.Scanning

/-!
# The HTTP server

`handle_client` reads one request from a connection, passes it to the handler and
sends the response.  What `recv` returns is a parameter: it may cut the stream of
the client into any pieces.  The handler runs in a monad of its own, and it may
throw.
-/

namespace ShardedKvStore

open Foundation

/-! ## Requests and responses -/

/-- `std::map<std::string, std::string>`: the names in the order of their bytes. -/
abbrev HeaderMap : Type :=
  Std.ExtTreeMap Bytes Bytes compare

/-- `HttpRequest`. -/
structure HttpRequest where
  method : Bytes := []
  path : Bytes := []
  version : Bytes := []
  headers : HeaderMap := ∅
  body : Bytes := []
  remoteIp : Bytes := []
  deriving DecidableEq, Repr

/-- `HttpResponse`. -/
structure HttpResponse where
  status : Nat := 200
  contentType : Bytes := bytes "application/json"
  body : Bytes := []
  headers : HeaderMap := ∅
  deriving DecidableEq, Repr

/-- The exceptions of `handle_client`. -/
inductive HttpError where
  | failedHeaders
  | requestTooLarge
  | invalidRequestLine
  | incompleteBody
  /-- thrown by `std::stoull` -/
  | stoull
  deriving DecidableEq, Repr

/-- `what()` of an exception. -/
def HttpError.what : HttpError → Bytes
  | .failedHeaders => bytes "failed to read request headers"
  | .requestTooLarge => bytes "request too large"
  | .invalidRequestLine => bytes "invalid request line"
  | .incompleteBody => bytes "incomplete request body"
  | .stoull => bytes "stoull"

/-! ## Byte strings -/

/-- `std::isspace` in the C locale. -/
def isSpace (byte : UInt8) : Bool :=
  byte = 32 || (9 ≤ byte && byte ≤ 13)

/-- The bytes `trim` removes. -/
def isBlank (byte : UInt8) : Bool :=
  byte = 32 || byte = 9 || byte = 13 || byte = 10

/-- `std::isdigit`. -/
def isDigit (byte : UInt8) : Bool :=
  48 ≤ byte && byte ≤ 57

/-- `trim`. -/
def trim (value : Bytes) : Bytes :=
  strip isBlank value

/-- `std::tolower` in the C locale. -/
def toLowerByte (byte : UInt8) : UInt8 :=
  if 65 ≤ byte ∧ byte ≤ 90 then byte + 32 else byte

/-- `to_lower`. -/
def toLower (value : Bytes) : Bytes :=
  value.map toLowerByte

/-- The number a string of digits stands for. -/
def decimalValue (digits : Bytes) : Nat :=
  digits.foldl (fun number digit => number * 10 + (digit.toNat - 48)) 0

/-- Whether a minus sign comes first, and what follows the sign. -/
def splitSign : Bytes → Bool × Bytes
  | 45 :: rest => (true, rest)
  | 43 :: rest => (false, rest)
  | text => (false, text)

/-- `std::stoull`, which skips spaces, accepts a sign, and ignores what follows the
digits. -/
def stoull (text : Bytes) : Except HttpError Nat :=
  let (negative, unsigned) := splitSign (text.dropWhile isSpace)
  let digits := unsigned.takeWhile isDigit
  if digits = [] then
    .error .stoull
  else if 2 ^ 64 ≤ decimalValue digits then
    .error .stoull
  else if negative = true then
    .ok ((2 ^ 64 - decimalValue digits) % 2 ^ 64)
  else
    .ok (decimalValue digits)

/-! ## The connection -/

/-- How many bytes a call of `recv` returns, given the number of the call, the
requested size, and the bytes of the client that were not received yet.  Zero
stands for every result that is not positive. -/
abbrev Recv : Type :=
  Nat → Nat → Bytes → Nat

/-- The client's side of a connection. -/
structure Connection where
  pending : Bytes
  calls : Nat := 0

/-- A call of `recv`: the bytes it returns and the connection after it. -/
def Connection.recv
    (recv : Recv) (size : Nat) (connection : Connection) :
    Bytes × Connection :=
  let received := recv connection.calls size connection.pending
  (connection.pending.take received,
    { pending := connection.pending.drop received
      calls := connection.calls + 1 })

theorem Connection.recv_shrinks
    {recv : Recv} {size : Nat} {connection : Connection}
    (received : (connection.recv recv size).1 ≠ []) :
    (connection.recv recv size).2.pending.length <
      connection.pending.length := by
  have positive := List.length_pos_of_ne_nil received
  simp only [Connection.recv, List.length_take, List.length_drop] at *
  omega

/-- `max_request_size`. -/
def maxRequestSize : Nat :=
  1024 * 1024 + 64 * 1024

/-- The size of the buffer of `handle_client`. -/
def bufferSize : Nat :=
  8192

/-- The end of a line. -/
def crlf : Bytes :=
  [13, 10]

/-- The loop that reads until the blank line after the headers.  It returns the
position of that line, what was read, and the connection. -/
def readHeaders
    (recv : Recv) (raw : Bytes) (connection : Connection) :
    Except HttpError (Nat × Bytes × Connection) :=
  match find (crlf ++ crlf) raw with
  | some headerEnd => .ok (headerEnd, raw, connection)
  | none =>
      if (connection.recv recv bufferSize).1 = [] then
        .error .failedHeaders
      else if
          maxRequestSize <
            (raw ++ (connection.recv recv bufferSize).1).length then
        .error .requestTooLarge
      else
        readHeaders recv (raw ++ (connection.recv recv bufferSize).1)
          (connection.recv recv bufferSize).2
termination_by connection.pending.length
decreasing_by
  exact Connection.recv_shrinks ‹_›

/-- The loop that reads the rest of the body. -/
def readBody
    (recv : Recv) (contentLength : Nat) (body : Bytes)
    (connection : Connection) : Except HttpError Bytes :=
  if body.length < contentLength then
    let size := min bufferSize (contentLength - body.length)
    if (connection.recv recv size).1 = [] then
      .error .incompleteBody
    else
      readBody recv contentLength (body ++ (connection.recv recv size).1)
        (connection.recv recv size).2
  else
    .ok body
termination_by connection.pending.length
decreasing_by
  exact Connection.recv_shrinks ‹_›

/-! ## The head of a request -/

/-- What the loop over the header lines has collected. -/
structure HeaderState where
  headers : HeaderMap := ∅
  contentLength : Nat := 0

/-- A turn of the loop over the header lines. -/
def readHeaderLine
    (state : HeaderState) (headerLine : Bytes) :
    Except HttpError HeaderState :=
  let headerLine := trim headerLine
  if headerLine = [] then
    .ok state
  else
    match find (bytes ":") headerLine with
    | none => .ok state
    | some colon => do
        let name := toLower (trim (headerLine.take colon))
        let value := trim (headerLine.drop (colon + 1))
        let headers := state.headers.insert name value
        if name = bytes "content-length" then
          let contentLength ← stoull value
          return { headers, contentLength }
        else
          return { state with headers }

/-- The request line and the headers. -/
def parseHead
    (head : Bytes) : Except HttpError (HttpRequest × Nat) := do
  -- a failed `getline` leaves the request line empty
  let headLines := lines 10 head
  let requestLine := trim (headLines.headD [])
  let (method, afterMethod) := nextWord isSpace requestLine
  let (path, afterPath) := nextWord isSpace afterMethod
  let (version, _) := nextWord isSpace afterPath
  if method = [] ∨ path = [] then
    .error .invalidRequestLine
  else
    let state ← headLines.tail.foldlM readHeaderLine {}
    return ({ method, path, version, headers := state.headers },
      state.contentLength)

/-! ## A client -/

/-- The request of a client.  There is none when its body is too large. -/
def readRequest
    (recv : Recv) (remoteIp : Bytes) (connection : Connection) :
    Except HttpError (Option HttpRequest) := do
  let (headerEnd, raw, connection) ← readHeaders recv [] connection
  let (request, contentLength) ← parseHead (raw.take headerEnd)
  if 1024 * 1024 < contentLength then
    return none
  else
    let body ←
      readBody recv contentLength (raw.drop (headerEnd + 4)) connection
    return some
      { request with
        -- `resize` when more than the body has been read
        body := body.take contentLength
        remoteIp }

/-- The response for an exception. -/
def errorResponse (what : Bytes) : HttpResponse where
  status := 400
  contentType := bytes "application/json"
  body := bytes "\x7b\"error\":\"" ++ jsonEscape what ++ bytes "\"\x7d"

/-- `reason_phrase`. -/
def reasonPhrase (status : Nat) : Bytes :=
  match status with
  | 200 => bytes "OK"
  | 201 => bytes "Created"
  | 400 => bytes "Bad Request"
  | 401 => bytes "Unauthorized"
  | 404 => bytes "Not Found"
  | 405 => bytes "Method Not Allowed"
  | 413 => bytes "Payload Too Large"
  | 429 => bytes "Too Many Requests"
  | 500 => bytes "Internal Server Error"
  | 503 => bytes "Service Unavailable"
  | _ => bytes "Response"

/-- What is sent for a response. -/
def HttpResponse.written (response : HttpResponse) : Bytes :=
  bytes "HTTP/1.1 " ++ toDecimal response.status ++ bytes " " ++
    reasonPhrase response.status ++ crlf ++
    bytes "Content-Type: " ++ response.contentType ++ crlf ++
    bytes "Content-Length: " ++ toDecimal response.body.length ++ crlf ++
    bytes "Connection: close" ++ crlf ++
    response.headers.toList.flatMap (fun header =>
      header.1 ++ bytes ": " ++ header.2 ++ crlf) ++
    crlf ++ response.body

/-- The response for what the handler returns, or for the exception it throws. -/
def answerResponse : Except Bytes HttpResponse → HttpResponse
  | .ok response => response
  | .error what => errorResponse what

/-- `handle_client`: what is sent to a client, with the effects of the handler.  A
handler that throws returns the text of its exception. -/
def handleClient
    {Effect : Type → Type} [Monad Effect]
    (handler : HttpRequest → Effect (Except Bytes HttpResponse))
    (recv : Recv) (remoteIp : Bytes) (connection : Connection) :
    Effect Bytes :=
  match readRequest recv remoteIp connection with
  | .error error => return (errorResponse error.what).written
  | .ok none =>
      let response : HttpResponse :=
        { status := 413
          body := bytes "\x7b\"error\":\"request body too large\"\x7d" }
      return response.written
  | .ok (some request) => do
      return (answerResponse (← handler request)).written

end ShardedKvStore
