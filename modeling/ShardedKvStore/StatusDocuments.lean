import ShardedKvStore.Foundation.Documents
import ShardedKvStore.Gateway.Responses
import ShardedKvStore.Status

/-!
# Status documents are read back

A status document is one JSON text, and the members of a replica, of a shard and of
the cluster are read from it as they were when it was written.
-/

namespace ShardedKvStore

open Foundation

/-! ## What the documents say -/

/-- What the document of a replica says. -/
structure ReplicaStatus where
  id : Bytes
  online : Bool
  role : Role
  term : Int
  commitIndex : Int
  lastLogIndex : Int
  deriving DecidableEq, Repr

/-- What the document of a shard says. -/
structure ShardStatus where
  shard : Nat
  leader : Bytes
  replicas : List ReplicaStatus
  deriving DecidableEq, Repr

/-- What the document of the cluster says. -/
structure ClusterStatus where
  shardCount : Nat
  shards : List ShardStatus
  deriving DecidableEq, Repr

/-- What there is to say of a replica. -/
def RaftReplica.status (replica : RaftReplica) : ReplicaStatus where
  id := replica.id
  online := replica.online
  role := replica.role
  term := replica.currentTerm
  commitIndex := replica.commitIndex
  lastLogIndex := replica.store.lastLogIndex

/-- What there is to say of a shard. -/
def Shard.status {count : Nat} (shard : Shard count) : ShardStatus where
  shard := shard.shardId
  leader := shard.leaderId
  replicas := List.ofFn fun position => (shard.replicas position).status

/-! ## Reading -/

/-- A member of a document. -/
def memberText (name : String) (value : Bytes) : Bytes :=
  34 :: (jsonEscape (bytes name) ++ 34 :: 58 :: value)

/-- A string in a document. -/
def quoted (content : Bytes) : Bytes :=
  34 :: (jsonEscape content ++ [34])

/-- An object in a document. -/
def objectOf (members : List Bytes) : Bytes :=
  123 :: (List.intercalate [44] members ++ [125])

/-- An array in a document. -/
def arrayOf (elements : List Bytes) : Bytes :=
  91 :: (List.intercalate [44] elements ++ [93])

theorem quoted_derives (content : Bytes) :
    Derives (.value (.string (escapedCharacters content)))
      (quoted content) :=
  .string (jsonEscape_body content)

theorem memberText_derives
    (name : String) {value : Json} {text : Bytes}
    (derives : Derives (.value value) text) :
    Derives (.member (escapedCharacters (bytes name)) value)
      (memberText name text) :=
  derives_member (jsonEscape_body (bytes name)) derives

theorem signedDecimal_jsonNumber (number : Int) :
    JsonNumber (signedDecimal number) := by
  unfold signedDecimal
  split
  · exact
      ⟨[45], toDecimal number.natAbs, [], [], by simp, Or.inr rfl,
        toDecimal_shape _, Or.inl rfl, Or.inl rfl⟩
  · exact toDecimal_jsonNumber number.toNat

theorem roleToString_escaped (role : Role) :
    jsonEscape (roleToString role) = roleToString role := by
  cases role <;> decide

/-! ## Documents -/

/-- The document of a replica. -/
def ReplicaStatus.document (status : ReplicaStatus) : Json :=
  .object
    [(escapedCharacters (bytes "id"), .string (escapedCharacters status.id)),
      (escapedCharacters (bytes "online"), .boolean status.online),
      (escapedCharacters (bytes "role"),
        .string (escapedCharacters (roleToString status.role))),
      (escapedCharacters (bytes "term"), .number (signedDecimal status.term)),
      (escapedCharacters (bytes "commit_index"),
        .number (signedDecimal status.commitIndex)),
      (escapedCharacters (bytes "last_log_index"),
        .number (signedDecimal status.lastLogIndex))]

private theorem flag_derives (flag : Bool) :
    Derives (.value (.boolean flag))
      (if flag = true then bytes "true" else bytes "false") := by
  cases flag with
  | true => exact .trueWord
  | false => exact .falseWord

theorem RaftReplica.statusJson_eq (replica : RaftReplica) :
    replica.statusJson =
      objectOf
        [memberText "id" (quoted replica.id),
          memberText "online"
            (if replica.online = true then bytes "true" else bytes "false"),
          memberText "role" (quoted (roleToString replica.role)),
          memberText "term" (signedDecimal replica.currentTerm),
          memberText "commit_index" (signedDecimal replica.commitIndex),
          memberText "last_log_index"
            (signedDecimal replica.store.lastLogIndex)] := by
  simp [RaftReplica.statusJson, objectOf, memberText, quoted,
    roleToString_escaped, List.intercalate_cons_cons, bytes]
  simp [jsonEscape, jsonEscapeByte]

example :
    (RaftReplica.opened (bytes "s0-r0") .empty).statusJson =
      bytes "\x7b\"id\":\"s0-r0\",\"online\":true,\"role\":\"follower\"" ++
        bytes ",\"term\":0,\"commit_index\":0,\"last_log_index\":0\x7d" := by
  decide +kernel

theorem RaftReplica.statusJson_derives (replica : RaftReplica) :
    Derives (.value replica.status.document) replica.statusJson := by
  rw [replica.statusJson_eq]
  apply derives_object
  · exact
      .cons (memberText_derives "id" (quoted_derives _)) <|
        .cons (memberText_derives "online" (flag_derives _)) <|
        .cons (memberText_derives "role" (quoted_derives _)) <|
        .cons (memberText_derives "term"
          (.number (signedDecimal_jsonNumber _))) <|
        .cons (memberText_derives "commit_index"
          (.number (signedDecimal_jsonNumber _))) <|
        .cons (memberText_derives "last_log_index"
          (.number (signedDecimal_jsonNumber _))) .nil
  · exact List.cons_ne_nil _ _

/-- The document of a shard. -/
def ShardStatus.document (status : ShardStatus) : Json :=
  .object
    [(escapedCharacters (bytes "shard"),
        .number (signedDecimal status.shard)),
      (escapedCharacters (bytes "leader"),
        .string (escapedCharacters status.leader)),
      (escapedCharacters (bytes "replicas"),
        .array (status.replicas.map ReplicaStatus.document))]

/-- The document of the cluster. -/
def ClusterStatus.document (status : ClusterStatus) : Json :=
  .object
    [(escapedCharacters (bytes "shard_count"),
        .number (signedDecimal status.shardCount)),
      (escapedCharacters (bytes "shards"),
        .array (status.shards.map ShardStatus.document))]

theorem signedDecimal_natCast (number : Nat) :
    signedDecimal number = toDecimal number := by
  unfold signedDecimal
  rw [if_neg (not_lt.mpr (Int.natCast_nonneg number)), Int.toNat_natCast]

theorem Shard.statusJson_eq {count : Nat} (shard : Shard count) :
    shard.statusJson =
      objectOf
        [memberText "shard" (signedDecimal shard.shardId),
          memberText "leader" (quoted shard.leaderId),
          memberText "replicas"
            (arrayOf
              (List.ofFn fun position =>
                (shard.replicas position).statusJson))] := by
  simp [Shard.statusJson, objectOf, arrayOf, memberText, quoted,
    signedDecimal_natCast, List.intercalate_cons_cons, bytes, jsonEscape,
    jsonEscapeByte]

theorem Shard.statusJson_derives {count : Nat} (shard : Shard count) :
    Derives (.value shard.status.document) shard.statusJson := by
  have replicas :
      List.Forall₂ (fun value text => Derives (.value value) text)
        (shard.status.replicas.map ReplicaStatus.document)
        (List.ofFn fun position =>
          (shard.replicas position).statusJson) := by
    unfold Shard.status
    rw [List.map_ofFn]
    apply forall₂_ofFn
    intro position
    exact (shard.replicas position).statusJson_derives
  rw [shard.statusJson_eq]
  apply derives_object
  · exact
      .cons (memberText_derives "shard"
          (.number (signedDecimal_jsonNumber _))) <|
        .cons (memberText_derives "leader" (quoted_derives _)) <|
        .cons (memberText_derives "replicas" (derives_array replicas)) .nil
  · exact List.cons_ne_nil _ _

theorem clusterStatusJson_eq (shardCount : Nat) (shards : List Bytes) :
    clusterStatusJson shardCount shards =
      objectOf
        [memberText "shard_count" (signedDecimal shardCount),
          memberText "shards" (arrayOf shards)] := by
  simp [clusterStatusJson, objectOf, arrayOf, memberText,
    signedDecimal_natCast, List.intercalate_cons_cons, bytes, jsonEscape,
    jsonEscapeByte]

/-- The document of the cluster, from documents of its shards. -/
theorem clusterStatusJson_derives
    (shardCount : Nat) {shards : List Json} {texts : List Bytes}
    (written :
      List.Forall₂ (fun value text => Derives (.value value) text) shards
        texts) :
    Derives
      (.value
        (.object
          [(escapedCharacters (bytes "shard_count"),
              .number (signedDecimal shardCount)),
            (escapedCharacters (bytes "shards"), .array shards)]))
      (clusterStatusJson shardCount texts) := by
  rw [clusterStatusJson_eq]
  apply derives_object
  · exact
      .cons (memberText_derives "shard_count"
          (.number (signedDecimal_jsonNumber _))) <|
        .cons (memberText_derives "shards" (derives_array written)) .nil
  · exact List.cons_ne_nil _ _

end ShardedKvStore
