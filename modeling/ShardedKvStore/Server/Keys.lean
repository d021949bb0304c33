import ShardedKvStore.Gateway.Responses
import ShardedKvStore.Http.Streams
import ShardedKvStore.Server

/-!
# Keys that can be reached

Paths are not decoded, so the keys a client can name are those that stand in a path
as they are: at most 512 bytes, without spaces, slashes and question marks.  Those
are stored and found under exactly the bytes that were sent.
-/

namespace ShardedKvStore

open Foundation

/-! ## Routes -/

/-- The method of an operation in a request line. -/
def KvMethod.text : KvMethod → Bytes
  | .get => bytes "GET"
  | .put => bytes "PUT"
  | .delete => bytes "DELETE"

/-- The request asks for an operation on a key. -/
structure HttpRequest.AsksFor
    (request : HttpRequest) (sent : KvRequest) : Prop where
  path : splitPath request.path = [bytes "v1", bytes "kv", sent.key]
  method : request.method = sent.operation.text
  short : sent.key.length ≤ 512
  value : sent.value = if sent.operation = .put then request.body else []
  bounded : sent.value.length ≤ 1024 * 1024

private theorem keyRoute_execute
    {request : HttpRequest} {key : Bytes} {sent : KvRequest}
    (routed : keyRoute request key = .execute sent) :
    sent.key = key ∧ key.length ≤ 512 ∧
      request.method = sent.operation.text ∧
      sent.value = (if sent.operation = .put then request.body else []) ∧
      sent.value.length ≤ 1024 * 1024 := by
  unfold keyRoute at routed
  split at routed
  case isTrue =>
    cases routed
  case isFalse bounds =>
    rw [not_or, not_lt] at bounds
    split at routed
    case isTrue isGet =>
      cases routed
      exact ⟨rfl, bounds.2, isGet, rfl, Nat.zero_le _⟩
    case isFalse =>
      split at routed
      case isTrue isPut =>
        split at routed
        case isTrue =>
          cases routed
        case isFalse notLarge =>
          cases routed
          exact ⟨rfl, bounds.2, isPut, rfl, not_lt.mp notLarge⟩
      case isFalse =>
        split at routed
        case isTrue isDelete =>
          cases routed
          exact ⟨rfl, bounds.2, isDelete, rfl, Nat.zero_le _⟩
        case isFalse =>
          cases routed

private theorem shardRoute_ne_execute
    {segment : Bytes} {action : Nat → AdminAction} {sent : KvRequest} :
    shardRoute segment action ≠ .execute sent := by
  unfold shardRoute
  split
  · nofun
  · nofun

private theorem parts_of_length
    {parts : List Bytes} {first second : Bytes}
    (three : parts.length = 3) (isFirst : parts[0]? = some first)
    (isSecond : parts[1]? = some second) :
    parts = [first, second, parts.getD 2 []] := by
  obtain ⟨one, two, last, rfl⟩ := List.length_eq_three.mp three
  cases isFirst
  cases isSecond
  rfl

/-- A request is routed to an operation exactly when it asks for it. -/
theorem route_execute_iff {request : HttpRequest} {sent : KvRequest} :
    route request = .execute sent ↔ request.AsksFor sent := by
  constructor
  · intro routed
    unfold route at routed
    simp only at routed
    split at routed
    case isTrue isKey =>
      obtain ⟨three, isFirst, isSecond⟩ := isKey
      have parts := parts_of_length three isFirst isSecond
      obtain ⟨sameKey, short, method, value, bounded⟩ :=
        keyRoute_execute routed
      rw [← sameKey] at parts short
      exact ⟨parts, method, short, value, bounded⟩
    case isFalse =>
      split at routed
      · cases routed
      · split at routed
        · exact absurd routed shardRoute_ne_execute
        · split at routed
          · exact absurd routed shardRoute_ne_execute
          · cases routed
  · rintro ⟨path, method, short, value, bounded⟩
    have nonempty : sent.key ≠ [] := by
      have isPart : sent.key ∈ splitPath request.path := by
        rw [path]
        simp
      exact (splitPath_isSegment isPart).1.nonempty
    have inBounds : ¬ (sent.key = [] ∨ 512 < sent.key.length) := by
      rintro (isNil | long)
      · exact nonempty isNil
      · omega
    unfold route
    simp only [path]
    rw [if_pos ⟨rfl, rfl, rfl⟩]
    change keyRoute request sent.key = _
    unfold keyRoute
    rw [if_neg inBounds]
    obtain ⟨operation, key, sentValue⟩ := sent
    cases operation with
    | get =>
        change request.method = bytes "GET" at method
        rw [if_pos method]
        cases value
        rfl
    | put =>
        change request.method = bytes "PUT" at method
        change sentValue = request.body at value
        rw [method, if_neg (by decide), if_pos rfl]
        subst value
        rw [if_neg (not_lt.mpr bounded)]
    | delete =>
        change request.method = bytes "DELETE" at method
        rw [method, if_neg (by decide), if_neg (by decide), if_pos rfl]
        cases value
        rfl

/-! ## Requests that ask for an operation -/

/-- A key that can stand in a path. -/
structure IsKey (key : Bytes) : Prop where
  segment : IsSegment key
  plain : ∀ byte ∈ key, isSpace byte = false
  short : key.length ≤ 512

/-- An operation that a request can ask for. -/
structure KvRequest.Expressible (sent : KvRequest) : Prop where
  key : IsKey sent.key
  value : sent.operation ≠ .put → sent.value = []
  bounded : sent.value.length ≤ 1024 * 1024

theorem decimalValue_toDecimal (number : Nat) :
    decimalValue (toDecimal number) = number := by
  have read := digitsValue_toDecimal number
  unfold digitsValue at read
  split at read
  · exact Option.some.inj read
  · cases read

private theorem isDigit_facts :
    ∀ number < 256,
      isDigit (UInt8.ofNat number) = true →
        isBlank (UInt8.ofNat number) = false ∧
          UInt8.ofNat number ≠ 13 ∧ UInt8.ofNat number ≠ 10 := by
  decide +kernel

theorem toDecimal_ne_nil (number : Nat) : toDecimal number ≠ [] := by
  unfold toDecimal
  split
  · nofun
  · simpa [Nat.digits_eq_nil_iff_eq_zero] using ‹number ≠ 0›

theorem toDecimal_isDecimal (number : Nat) :
    IsDecimal (toDecimal number) := by
  refine ⟨toDecimal_ne_nil number, fun byte member => ?_⟩
  have digit := toDecimal_isDigit number byte member
  simpa [isDigit, IsDigit] using digit

/-- The bytes of a decimal number are neither blanks nor line ends. -/
private theorem IsDecimal.plain
    {value : Bytes} (isDecimal : IsDecimal value) :
    ∀ byte ∈ value, isBlank byte = false ∧ byte ≠ 13 ∧ byte ≠ 10 := by
  intro byte member
  have facts := isDigit_facts byte.toNat byte.toNat_lt
  rw [UInt8.ofNat_toNat] at facts
  exact facts (isDecimal.2 byte member)

private theorem lengthName_ne_nil : bytes "Content-Length" ≠ [] := by
  decide

private theorem lengthName_stripped :
    Stripped isBlank (bytes "Content-Length") := by
  decide

private theorem lengthName_plain :
    58 ∉ bytes "Content-Length" ∧ 13 ∉ bytes "Content-Length" ∧
      10 ∉ bytes "Content-Length" := by
  decide

private theorem blank_padding :
    ∀ byte ∈ [(32 : UInt8)], byte = 32 ∨ byte = 9 :=
  List.forall_mem_singleton.mpr (Or.inl rfl)

private theorem version_isWord : IsWord isSpace (bytes "HTTP/1.1") := by
  decide

/-- The header that announces a body. -/
def lengthLine (length : Nat) : HeaderLine where
  name := bytes "Content-Length"
  padding := [32]
  value := toDecimal length
  named := lengthName_ne_nil
  nameStripped := lengthName_stripped
  namePlain := lengthName_plain
  padded := blank_padding
  valueStripped :=
    ⟨fun byte isFirst =>
        ((toDecimal_isDecimal length).plain byte
          (List.mem_of_mem_head? isFirst)).1,
      fun byte isLast =>
        ((toDecimal_isDecimal length).plain byte
          (List.mem_of_mem_getLast? isLast)).1⟩
  valuePlain :=
    ⟨fun member =>
        ((toDecimal_isDecimal length).plain 13 member).2.1 rfl,
      fun member =>
        ((toDecimal_isDecimal length).plain 10 member).2.2 rfl⟩

theorem lengthLine_key (length : Nat) :
    (lengthLine length).key = bytes "content-length" := by
  change toLower (bytes "Content-Length") = bytes "content-length"
  decide

/-- The path of a key. -/
def keyPath (key : Bytes) : Bytes :=
  joinPath [bytes "v1", bytes "kv", key]

theorem splitPath_keyPath {key : Bytes} (isSegment : IsSegment key) :
    splitPath (keyPath key) = [bytes "v1", bytes "kv", key] := by
  refine (splitPath_joinPath fun part member => ?_).1
  rcases List.mem_cons.mp member with rfl | member
  · exact ⟨by decide, by decide, by decide⟩
  · rcases List.mem_cons.mp member with rfl | member
    · exact ⟨by decide, by decide, by decide⟩
    · rw [List.mem_singleton.mp member]
      exact isSegment

theorem keyPath_isWord {key : Bytes} (isKey : IsKey key) :
    IsWord isSpace (keyPath key) := by
  refine ⟨by simp [keyPath, joinPath], fun byte member => ?_⟩
  have split : keyPath key = bytes "/v1/kv/" ++ key := by
    simp [keyPath, joinPath, bytes]
  rw [split] at member
  rcases List.mem_append.mp member with inFront | inKey
  · have plain :
        (bytes "/v1/kv/").all (fun byte => !isSpace byte) = true := by
      decide
    exact Bool.not_eq_true' _ |>.mp (List.all_eq_true.mp plain byte inFront)
  · exact isKey.plain byte inKey

/-- A request text that asks for an operation.  It is read and routed; to be
executed it needs one more line, with the bearer token. -/
def KvRequest.text (sent : KvRequest) (expressible : sent.Expressible) :
    RequestText where
  method := sent.operation.text
  path := keyPath sent.key
  version := bytes "HTTP/1.1"
  headers := [lengthLine sent.value.length]
  body := sent.value
  methodWord := by
    cases sent.operation <;> decide
  pathWord := keyPath_isWord expressible.key
  versionWord := version_isWord
  distinct := List.nodup_singleton _
  announced :=
    ⟨lengthLine sent.value.length, List.mem_singleton_self _,
      lengthLine_key sent.value.length, toDecimal_isDecimal _,
      decimalValue_toDecimal _⟩
  bounded := expressible.bounded

theorem toDecimal_length_le {number : Nat} (small : number < 10 ^ 8) :
    (toDecimal number).length ≤ 8 := by
  unfold toDecimal
  split
  · decide
  · rename_i positive
    rw [List.length_map, List.length_reverse,
      Nat.length_digits 10 number (by decide) positive]
    exact Nat.log_lt_of_lt_pow positive small

/-- The text is short enough to be read. -/
private theorem KvRequest.text_fits
    {sent : KvRequest} (expressible : sent.Expressible) :
    (sent.text expressible).written.length ≤ maxRequestSize := by
  have keyShort := expressible.key.short
  have bounded := expressible.bounded
  have digits : (toDecimal sent.value.length).length ≤ 8 :=
    toDecimal_length_le (by omega)
  have method : sent.operation.text.length ≤ 6 := by
    cases sent.operation <;> decide
  have written :
      (sent.text expressible).written.length =
        sent.operation.text.length + sent.key.length +
          (toDecimal sent.value.length).length + sent.value.length + 39 := by
    have name : (bytes "Content-Length").length = 14 := rfl
    have version : (bytes "HTTP/1.1").length = 8 := rfl
    have versionText : (bytes "v1").length = 2 := rfl
    have kvText : (bytes "kv").length = 2 := rfl
    simp only [RequestText.written, RequestText.headLines,
      RequestText.requestLine, KvRequest.text, keyPath, joinPath, lengthLine,
      HeaderLine.text, crlf, List.map_cons, List.map_nil, List.flatMap_cons,
      List.flatMap_nil, List.length_append, List.length_cons,
      List.length_nil, name, version, versionText, kvText]
    omega
  unfold maxRequestSize
  omega

/-- The operations that can be asked for over a connection, whatever is sent on it
and however it is cut, are those on keys that can stand in a path as they are; and
each of them is asked for by a text that every connection delivers. -/
theorem Server.reachable_operations (sent : KvRequest) :
    ((∃ recv remoteIp connection request,
        readRequest recv remoteIp connection = .ok (some request) ∧
          route request = .execute sent) ↔
      sent.Expressible) ∧
    ∀ (expressible : sent.Expressible) (recv : Recv),
      recv.Delivers →
      ∀ remoteIp,
        ∃ request,
          readRequest recv remoteIp
              { pending := (sent.text expressible).written } =
            .ok (some request) ∧
          route request = .execute sent := by
  have delivered (expressible : sent.Expressible) (recv : Recv)
      (delivers : recv.Delivers) (remoteIp : Bytes) :
      ∃ request,
        readRequest recv remoteIp
            { pending := (sent.text expressible).written } =
          .ok (some request) ∧
        route request = .execute sent := by
    have fits :
        ((sent.text expressible).written ++ []).length ≤ maxRequestSize := by
      rw [List.append_nil]
      exact KvRequest.text_fits expressible
    have reads :=
      (sent.text expressible).readRequest_eq delivers remoteIp [] fits
    rw [List.append_nil] at reads
    refine ⟨_, reads, route_execute_iff.mpr ?_⟩
    refine
      { path := splitPath_keyPath expressible.key.segment
        method := rfl
        short := expressible.key.short
        value := ?_
        bounded := expressible.bounded }
    split
    · rfl
    · exact expressible.value ‹_›
  refine ⟨⟨?_, fun expressible => ?_⟩, delivered⟩
  · rintro ⟨recv, remoteIp, connection, request, accepted, routed⟩
    obtain ⟨wellFormed, _⟩ := readRequest_accepts_wellFormed accepted
    have asks := route_execute_iff.mp routed
    have isPart : sent.key ∈ splitPath request.path := by
      rw [asks.path]
      simp
    obtain ⟨segment, inPath⟩ := splitPath_isSegment isPart
    exact
      { key :=
          { segment := segment
            plain := fun byte member =>
              wellFormed.path.2 byte (inPath byte member)
            short := asks.short }
        value := fun notPut => asks.value.trans (if_neg notPut)
        bounded := asks.bounded }
  · obtain ⟨request, reads, routed⟩ :=
      delivered expressible recvByte recvByte_delivers []
    exact ⟨recvByte, [], _, request, reads, routed⟩

end ShardedKvStore
