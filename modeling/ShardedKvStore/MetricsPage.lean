import ShardedKvStore.Gateway.Responses
import ShardedKvStore.Server

/-!
# The page of metrics is read back

A page has a sample on a line, a name and a number, and comments.  The samples of a
page are the values it was written from.
-/

namespace ShardedKvStore

open Foundation

/-! ## Reading -/

/-- The name and the number of a sample. -/
def readSample (line : Bytes) : Option (Bytes × Nat) :=
  let word := nextWord (fun byte => decide (byte = 32)) line
  (digitsValue (nextWord (fun byte => decide (byte = 32)) word.2).1).map
    fun number => (word.1, number)

/-- The samples of a page, in their order. -/
def readSamples (page : Bytes) : Option (List (Bytes × Nat)) :=
  ((lines 10 page).filter fun line => line.head? ≠ some 35).mapM readSample

private theorem readSamples_line
    {line : Bytes} (noEnd : 10 ∉ line) (rest : Bytes) :
    readSamples (line ++ 10 :: rest) =
      if line.head? = some 35 then
        readSamples rest
      else do
        let sample ← readSample line
        let samples ← readSamples rest
        return sample :: samples := by
  unfold readSamples
  rw [lines_cons noEnd, List.filter_cons]
  by_cases isComment : line.head? = some 35
  · simp [isComment]
  · simp [isComment]

/-! ## Writing -/

/-- The name of a counter on the page. -/
def Counter.metric : Counter → Bytes
  | .requests => bytes "kv_gateway_requests_total"
  | .requestLatencyUs =>
      bytes "kv_gateway_request_latency_microseconds_sum"
  | .authFailures => bytes "kv_gateway_auth_failures_total"
  | .rateLimited => bytes "kv_gateway_rate_limited_total"
  | .gets => bytes "kv_gateway_get_total"
  | .puts => bytes "kv_gateway_put_total"
  | .deletes => bytes "kv_gateway_delete_total"
  | .retries => bytes "kv_gateway_retries_total"
  | .circuitOpen => bytes "kv_gateway_circuit_open_total"
  | .gatewayFailures => bytes "kv_gateway_failures_total"
  | .elections => bytes "kv_raft_elections_total"
  | .replicationFailures => bytes "kv_raft_replication_failures_total"

/-- The sample of a counter. -/
def Counter.sample (value : Counter → UInt64) (counter : Counter) :
    Bytes × Nat :=
  (counter.metric, (value counter).toNat)

/-- What the page says: every counter once, in the order in which they are loaded,
and the average latency after the sum. -/
def samplesOf (value : Counter → UInt64) : List (Bytes × Nat) :=
  (Counter.loaded.take 2).map (Counter.sample value) ++
    (bytes "kv_gateway_request_latency_microseconds_avg",
        (value .requestLatencyUs).toNat / (value .requests).toNat) ::
      (Counter.loaded.drop 2).map (Counter.sample value)

theorem readSamples_comment
    (text : String) (rest : Bytes) (noEnd : 10 ∉ bytes text)
    (isComment : (bytes text).head? = some 35) :
    readSamples (metricLine text [] ++ rest) = readSamples rest := by
  unfold metricLine
  rw [List.append_nil, List.append_assoc, List.singleton_append,
    readSamples_line noEnd, if_pos isComment]

private theorem toDecimal_isWord (number : Nat) :
    IsWord (fun byte => decide (byte = 32)) (toDecimal number) := by
  constructor
  · rcases toDecimal_shape number with isZero | ⟨first, digits, written, _⟩
    · simp [isZero]
    · simp [written]
  · intro byte member
    have isDigit := toDecimal_isDigit number byte member
    apply decide_eq_false
    rintro rfl
    exact absurd isDigit (by decide)

private theorem readSample_written
    {name : Bytes} (number : Nat)
    (isWord : IsWord (fun byte => decide (byte = 32)) name) :
    readSample (name ++ 32 :: toDecimal number) = some (name, number) := by
  have first :
      nextWord (fun byte => decide (byte = 32))
          ([] ++ (name ++ 32 :: toDecimal number)) =
        (name, 32 :: toDecimal number) := by
    apply nextWord_eq
    · simp
    · exact isWord
    · simp
  have second :
      nextWord (fun byte => decide (byte = 32))
          ([32] ++ (toDecimal number ++ [])) =
        (toDecimal number, []) := by
    apply nextWord_eq
    · simp
    · exact toDecimal_isWord number
    · simp
  rw [List.nil_append] at first
  rw [List.append_nil, List.singleton_append] at second
  unfold readSample
  simp only
  rw [first, second, digitsValue_toDecimal]
  rfl

theorem readSamples_sample
    (name : Bytes) (text : String) (number : Nat) (rest : Bytes)
    (isName : bytes text = name ++ [32])
    (isWord : IsWord (fun byte => decide (byte = 32)) name)
    (plain : 10 ∉ name) (isSample : name.head? ≠ some 35) :
    readSamples (metricLine text (toDecimal number) ++ rest) =
      (readSamples rest).map ((name, number) :: ·) := by
  have noEnd : 10 ∉ name ++ 32 :: toDecimal number := by
    intro member
    rcases List.mem_append.mp member with inName | inRest
    · exact plain inName
    · rcases List.mem_cons.mp inRest with isSpace | inNumber
      · exact absurd isSpace (by decide)
      · exact absurd (toDecimal_isDigit number 10 inNumber) (by decide)
  have starts : (name ++ 32 :: toDecimal number).head? ≠ some 35 := by
    rw [List.head?_append_of_ne_nil _ isWord.1]
    exact isSample
  have line :
      metricLine text (toDecimal number) ++ rest =
        (name ++ 32 :: toDecimal number) ++ 10 :: rest := by
    unfold metricLine
    rw [isName]
    simp
  rw [line, readSamples_line noEnd, if_neg starts,
    readSample_written number isWord]
  cases readSamples rest with
  | none =>
      rfl
  | some samples =>
      rfl

private theorem readSamples_counter
    (counter : Counter) (text : String) (number : Nat) (rest : Bytes)
    (isName : bytes text = counter.metric ++ [32]) :
    readSamples (metricLine text (toDecimal number) ++ rest) =
      (readSamples rest).map ((counter.metric, number) :: ·) := by
  apply readSamples_sample counter.metric text number rest isName
  · cases counter <;> decide
  · cases counter <;> decide
  · cases counter <;> decide

/-- A page says what it was written from. -/
theorem readSamples_renderPrometheus (value : Counter → UInt64) :
    readSamples (renderPrometheus value) = some (samplesOf value) := by
  have average :
      (if value .requests = 0 then
          0
        else
          value .requestLatencyUs / value .requests).toNat =
        (value .requestLatencyUs).toNat / (value .requests).toNat := by
    split
    case isTrue none =>
      rw [none]
      simp
    case isFalse =>
      rw [UInt64.toNat_div]
  have nothing : readSamples [] = some [] := by
    unfold readSamples
    rw [lines_nil]
    rfl
  unfold renderPrometheus
  simp only [average, List.append_assoc]
  rw [← List.append_nil (metricLine "kv_raft_replication_failures_total " _),
    readSamples_comment _ _ (by decide) (by decide),
    readSamples_comment _ _ (by decide) (by decide),
    readSamples_counter .requests _ _ _ (by decide),
    readSamples_comment _ _ (by decide) (by decide),
    readSamples_comment _ _ (by decide) (by decide),
    readSamples_counter .requestLatencyUs _ _ _ (by decide),
    readSamples_comment _ _ (by decide) (by decide),
    readSamples_comment _ _ (by decide) (by decide),
    readSamples_sample
      (bytes "kv_gateway_request_latency_microseconds_avg") _ _ _
      (by decide) (by decide) (by decide) (by decide),
    readSamples_counter .authFailures _ _ _ (by decide),
    readSamples_counter .rateLimited _ _ _ (by decide),
    readSamples_counter .gets _ _ _ (by decide),
    readSamples_counter .puts _ _ _ (by decide),
    readSamples_counter .deletes _ _ _ (by decide),
    readSamples_counter .retries _ _ _ (by decide),
    readSamples_counter .circuitOpen _ _ _ (by decide),
    readSamples_counter .gatewayFailures _ _ _ (by decide),
    readSamples_counter .elections _ _ _ (by decide),
    readSamples_counter .replicationFailures _ _ _ (by decide), nothing]
  rfl

end ShardedKvStore
