import ShardedKvStore.Common
import ShardedKvStore.Foundation.Scanning

/-!
# Paths

`split_path` cuts the target of a request into its segments.  Slashes end a
segment, empty segments are dropped, and a question mark ends the path.
-/

namespace ShardedKvStore

open Foundation

/-- The loop of `split_path`, inside the segment `current`. -/
def splitPathFrom (current : Bytes) : Bytes → List Bytes
  | [] => pushSegment current []
  | byte :: rest =>
      if byte = 47 then
        pushSegment current (splitPathFrom [] rest)
      else if byte = 63 then
        pushSegment current []
      else
        splitPathFrom (current ++ [byte]) rest

/-- `split_path`. -/
def splitPath (path : Bytes) : List Bytes :=
  splitPathFrom [] path

/-- What stands before the query of a path. -/
def beforeQuery (path : Bytes) : Bytes :=
  path.takeWhile (· ≠ 63)

/-- The loop collects the segments of what it has and of what is left. -/
private theorem splitPathFrom_eq
    {current : Bytes} (plain : 47 ∉ current) (path : Bytes) :
    splitPathFrom current path =
      segments 47 (current ++ beforeQuery path) := by
  induction path generalizing current with
  | nil =>
      rw [splitPathFrom, beforeQuery, List.takeWhile_nil, List.append_nil,
        segments_single plain]
  | cons byte rest inductionHypothesis =>
      rw [splitPathFrom]
      by_cases isSlash : byte = 47
      · have kept : beforeQuery (byte :: rest) = 47 :: beforeQuery rest := by
          simp [beforeQuery, isSlash]
        rw [if_pos isSlash, kept, segments_cons plain,
          inductionHypothesis List.not_mem_nil, List.nil_append]
      · rw [if_neg isSlash]
        by_cases isQuery : byte = 63
        · have ended : beforeQuery (byte :: rest) = [] := by
            simp [beforeQuery, isQuery]
          rw [if_pos isQuery, ended, List.append_nil,
            segments_single plain]
        · have kept :
              beforeQuery (byte :: rest) = byte :: beforeQuery rest := by
            simp [beforeQuery, isQuery]
          have stillPlain : 47 ∉ current ++ [byte] := by
            simp [plain, Ne.symm isSlash]
          rw [if_neg isQuery, inductionHypothesis stillPlain, kept,
            List.append_assoc]
          rfl

/-- `split_path` returns the segments before the query. -/
theorem splitPath_eq (path : Bytes) :
    splitPath path = segments 47 (beforeQuery path) :=
  splitPathFrom_eq List.not_mem_nil path

/-- A byte string that can be a segment of a path. -/
structure IsSegment (segment : Bytes) : Prop where
  nonempty : segment ≠ []
  noSlash : 47 ∉ segment
  noQuery : 63 ∉ segment

/-- Every part of a path is a segment, made of bytes of the path. -/
theorem splitPath_isSegment
    {path part : Bytes} (isPart : part ∈ splitPath path) :
    IsSegment part ∧ ∀ byte ∈ part, byte ∈ path := by
  rw [splitPath_eq] at isPart
  obtain ⟨nonempty, noSlash, inside⟩ := mem_segments isPart
  refine ⟨⟨nonempty, noSlash, fun isQuery => ?_⟩, fun byte member => ?_⟩
  · exact absurd (List.mem_takeWhile_imp (inside 63 isQuery)) (by decide)
  · exact (List.takeWhile_sublist _).subset (inside byte member)

/-- The path with the given segments. -/
def joinPath (parts : List Bytes) : Bytes :=
  parts.flatMap (47 :: ·)

private theorem beforeQuery_append
    {path : Bytes} (plain : 63 ∉ path) (query : Bytes) :
    beforeQuery (path ++ 63 :: query) = path ∧ beforeQuery path = path := by
  have each : ∀ byte ∈ path, decide (byte ≠ 63) = true :=
    fun byte member => decide_eq_true fun same => plain (same ▸ member)
  unfold beforeQuery
  refine ⟨?_, List.takeWhile_eq_self_iff.mpr each⟩
  rw [List.takeWhile_append_of_pos each]
  simp

/-- A path made of segments is split into them, with any query behind it. -/
theorem splitPath_joinPath
    {parts : List Bytes} (areSegments : ∀ part ∈ parts, IsSegment part) :
    splitPath (joinPath parts) = parts ∧
      ∀ query, splitPath (joinPath parts ++ 63 :: query) = parts := by
  have plain : 63 ∉ joinPath parts := by
    intro member
    obtain ⟨part, inParts, inPart⟩ := List.mem_flatMap.mp member
    rcases List.mem_cons.mp inPart with isSlash | isQuery
    · cases isSlash
    · exact (areSegments part inParts).noQuery isQuery
  have joined : segments 47 (joinPath parts) = parts :=
    segments_joined
      (fun part member =>
        ⟨(areSegments part member).nonempty,
          (areSegments part member).noSlash⟩)
      (List.not_mem_nil (a := 47))
  constructor
  · rw [splitPath_eq, (beforeQuery_append plain []).2, joined]
  · intro query
    rw [splitPath_eq, (beforeQuery_append plain query).1, joined]

example :
    splitPath (bytes "//v1/kv/a%2Fb/?x=/y") =
      [bytes "v1", bytes "kv", bytes "a%2Fb"] := by
  decide +kernel

end ShardedKvStore
