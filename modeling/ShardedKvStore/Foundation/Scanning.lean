import Mathlib.Data.List.DropRight
import Mathlib.Data.List.Infix

/-!
# Scanning texts

Texts are lists over any alphabet.  The functions are the ones string libraries
have: the first occurrence of a pattern, the lines of a text, stripping at both
ends, reading the next word, and the segments between separators.
-/

namespace ShardedKvStore.Foundation

variable {Symbol : Type}

/-! ## The first occurrence of a pattern -/

section Find

variable [DecidableEq Symbol]

/-- The position of the first occurrence of a pattern. -/
def find (pattern : List Symbol) : List Symbol → Option Nat
  | [] => if pattern = [] then some 0 else none
  | symbol :: rest =>
      if pattern <+: symbol :: rest then
        some 0
      else
        (find pattern rest).map (· + 1)

theorem find_cons (pattern rest : List Symbol) (symbol : Symbol) :
    find pattern (symbol :: rest) =
      if pattern <+: symbol :: rest then
        some 0
      else
        (find pattern rest).map (· + 1) :=
  rfl

variable {pattern text : List Symbol} {position : Nat}

/-- The pattern stands where it was found. -/
theorem find_spec (found : find pattern text = some position) :
    position + pattern.length ≤ text.length := by
  induction text generalizing position with
  | nil =>
      unfold find at found
      split at found
      case isTrue isNil =>
        cases found
        rw [isNil]
        rfl
      case isFalse =>
        cases found
  | cons symbol rest inductionHypothesis =>
      rw [find_cons] at found
      split at found
      case isTrue here =>
        cases found
        rw [Nat.zero_add]
        exact here.length_le
      case isFalse =>
        obtain ⟨later, foundLater, rfl⟩ := Option.map_eq_some_iff.mp found
        have inRest := inductionHypothesis foundLater
        rw [List.length_cons]
        omega

/-- The pattern is found where it stands. -/
theorem find_isPrefix (found : find pattern text = some position) :
    pattern <+: text.drop position := by
  induction text generalizing position with
  | nil =>
      unfold find at found
      split at found
      case isTrue isNil =>
        rw [isNil]
        exact List.nil_prefix
      case isFalse =>
        cases found
  | cons symbol rest inductionHypothesis =>
      rw [find_cons] at found
      split at found
      case isTrue here =>
        cases found
        exact here
      case isFalse =>
        obtain ⟨later, foundLater, rfl⟩ := Option.map_eq_some_iff.mp found
        exact inductionHypothesis foundLater

/-- The first symbol of the pattern is not in front of the first occurrence of a
pattern of one symbol. -/
theorem find_absent {symbol : Symbol}
    (found : find [symbol] text = some position) :
    symbol ∉ text.take position := by
  induction text generalizing position with
  | nil =>
      simp
  | cons first rest inductionHypothesis =>
      rw [find_cons] at found
      split at found
      case isTrue here =>
        cases found
        simp
      case isFalse notHere =>
        obtain ⟨later, foundLater, rfl⟩ := Option.map_eq_some_iff.mp found
        rw [List.take_succ_cons]
        intro member
        rcases List.mem_cons.mp member with same | inRest
        · exact notHere (by
            rw [same]
            exact List.prefix_append [first] rest)
        · exact inductionHypothesis foundLater inRest

/-- What follows a text does not change where the pattern is found in it. -/
theorem find_append
    (found : find pattern text = some position) (rest : List Symbol) :
    find pattern (text ++ rest) = some position := by
  induction text generalizing position with
  | nil =>
      unfold find at found
      split at found
      case isTrue isNil =>
        cases found
        subst isNil
        cases rest with
        | nil =>
            rfl
        | cons symbol later =>
            simp [find]
      case isFalse =>
        cases found
  | cons symbol earlier inductionHypothesis =>
      rw [find_cons] at found
      rw [List.cons_append, find_cons]
      split at found
      case isTrue here =>
        cases found
        rw [if_pos (here.trans (by
          rw [← List.cons_append]
          exact List.prefix_append _ _))]
      case isFalse notHere =>
        obtain ⟨later, foundLater, rfl⟩ := Option.map_eq_some_iff.mp found
        have inside := find_spec foundLater
        -- an occurrence at the start would lie inside the text already
        have stillNotHere : ¬ pattern <+: symbol :: (earlier ++ rest) := by
          intro here
          refine notHere (List.prefix_of_prefix_length_le here ?_ ?_)
          · rw [← List.cons_append]
            exact List.prefix_append _ _
          · rw [List.length_cons]
            omega
        rw [if_neg stillNotHere, inductionHypothesis foundLater]
        rfl

/-- What is found inside a text is found in it. -/
theorem find_of_append {rest : List Symbol}
    (found : find pattern (text ++ rest) = some position)
    (inside : position + pattern.length ≤ text.length) :
    find pattern text = some position := by
  induction text generalizing position with
  | nil =>
      have nothing : position = 0 ∧ pattern.length = 0 := by
        rw [List.length_nil] at inside
        omega
      rw [List.length_eq_zero_iff] at nothing
      rw [nothing.1, nothing.2]
      rfl
  | cons symbol earlier inductionHypothesis =>
      rw [List.cons_append, find_cons] at found
      rw [find_cons]
      split at found
      case isTrue here =>
        cases found
        have short : pattern.length ≤ (symbol :: earlier).length := by
          omega
        rw [if_pos (List.prefix_of_prefix_length_le here
          (List.prefix_append (symbol :: earlier) rest) short)]
      case isFalse notHere =>
        obtain ⟨later, foundLater, rfl⟩ := Option.map_eq_some_iff.mp found
        have stillNotHere : ¬ pattern <+: symbol :: earlier := fun here =>
          notHere (here.trans (List.prefix_append (symbol :: earlier) rest))
        rw [List.length_cons] at inside
        rw [if_neg stillNotHere,
          inductionHypothesis foundLater (by omega)]
        rfl

/-- A pattern is not found among symbols it does not start with. -/
theorem find_skip
    {first : Symbol} {others skipped : List Symbol}
    (absent : first ∉ skipped) (rest : List Symbol) :
    find (first :: others) (skipped ++ rest) =
      (find (first :: others) rest).map (· + skipped.length) := by
  induction skipped with
  | nil =>
      simp
  | cons symbol later inductionHypothesis =>
      have different := List.ne_of_not_mem_cons absent
      have absentLater := List.not_mem_of_not_mem_cons absent
      have notHere : ¬ first :: others <+: symbol :: (later ++ rest) := by
        intro here
        exact different (List.cons_prefix_cons.mp here).1
      rw [List.cons_append, find_cons, if_neg notHere,
        inductionHypothesis absentLater, Option.map_map]
      rfl

/-- A pattern is found where it stands. -/
theorem find_here (pattern rest : List Symbol) :
    find pattern (pattern ++ rest) = some 0 := by
  cases pattern with
  | nil =>
      cases rest with
      | nil =>
          rfl
      | cons symbol later =>
          simp [find]
  | cons first others =>
      rw [List.cons_append, find_cons, ← List.cons_append,
        if_pos (List.prefix_append _ _)]

end Find

/-! ## Lines -/

section Lines

variable [DecidableEq Symbol]

/-- The lines of a text, without the delimiters that end them.  What follows the
last delimiter is a line unless it is empty. -/
def lines (delimiter : Symbol) (text : List Symbol) : List (List Symbol) :=
  if text = [] then
    []
  else
    text.takeWhile (· ≠ delimiter) ::
      lines delimiter ((text.dropWhile (· ≠ delimiter)).drop 1)
termination_by text.length
decreasing_by
  have shorter := (List.dropWhile_suffix (· ≠ delimiter) (l := text)).length_le
  have positive := List.length_pos_of_ne_nil ‹text ≠ []›
  rw [List.length_drop]
  omega

variable {delimiter : Symbol} {line : List Symbol}

@[simp]
theorem lines_nil : lines delimiter ([] : List Symbol) = [] := by
  unfold lines
  simp

private theorem takeWhile_line
    (absent : delimiter ∉ line) (rest : List Symbol) :
    (line ++ rest).takeWhile (· ≠ delimiter) =
        line ++ rest.takeWhile (· ≠ delimiter) ∧
      (line ++ rest).dropWhile (· ≠ delimiter) =
        rest.dropWhile (· ≠ delimiter) := by
  have each : ∀ symbol ∈ line, decide (symbol ≠ delimiter) = true := by
    intro symbol member
    exact decide_eq_true fun same => absent (same ▸ member)
  exact ⟨List.takeWhile_append_of_pos each,
    List.dropWhile_append_of_pos each⟩

/-- The first line of a text. -/
theorem lines_cons (absent : delimiter ∉ line) (rest : List Symbol) :
    lines delimiter (line ++ delimiter :: rest) =
      line :: lines delimiter rest := by
  obtain ⟨taken, dropped⟩ := takeWhile_line absent (delimiter :: rest)
  rw [lines, if_neg (by simp), taken, dropped]
  simp

/-- A text of one line that no delimiter ends. -/
theorem lines_last (absent : delimiter ∉ line) (nonempty : line ≠ []) :
    lines delimiter line = [line] := by
  obtain ⟨taken, dropped⟩ := takeWhile_line absent []
  rw [List.append_nil] at taken dropped
  rw [lines, if_neg nonempty, taken, dropped]
  simp

/-- The lines are parts of the text without the delimiter. -/
theorem mem_lines {text : List Symbol} (member : line ∈ lines delimiter text) :
    delimiter ∉ line ∧ line ⊆ text := by
  induction text using lines.induct delimiter with
  | case1 =>
      rw [lines_nil] at member
      exact absurd member List.not_mem_nil
  | case2 text nonempty inductionHypothesis =>
      rw [lines, if_neg nonempty] at member
      rcases List.mem_cons.mp member with rfl | inRest
      · constructor
        · intro inLine
          have different := List.mem_takeWhile_imp inLine
          simp at different
        · exact (List.takeWhile_prefix _).subset
      · obtain ⟨absent, inside⟩ := inductionHypothesis inRest
        refine ⟨absent, List.Subset.trans inside ?_⟩
        exact
          List.Subset.trans (List.drop_subset 1 _)
            (List.dropWhile_suffix _).subset

end Lines

/-! ## Stripping -/

section Strip

variable (blank : Symbol → Bool)

/-- A text without the blanks at its ends. -/
def strip (text : List Symbol) : List Symbol :=
  (text.dropWhile blank).rdropWhile blank

/-- The text neither starts nor ends with a blank. -/
def Stripped (text : List Symbol) : Prop :=
  (∀ symbol ∈ text.head?, blank symbol = false) ∧
    ∀ symbol ∈ text.getLast?, blank symbol = false

instance (text : List Symbol) : Decidable (Stripped blank text) :=
  inferInstanceAs (Decidable (_ ∧ _))

variable {blank} {left middle right : List Symbol}

/-- Stripping removes the blanks around a stripped text. -/
theorem strip_padded
    (leftBlank : ∀ symbol ∈ left, blank symbol = true)
    (stripped : Stripped blank middle)
    (rightBlank : ∀ symbol ∈ right, blank symbol = true) :
    strip blank (left ++ (middle ++ right)) = middle := by
  unfold strip
  rw [List.dropWhile_append_of_pos leftBlank]
  cases middle with
  | nil =>
      rw [List.nil_append, List.dropWhile_eq_nil_iff.mpr rightBlank,
        List.rdropWhile_nil]
  | cons first others =>
      have firstKept : ¬ blank first = true := by
        rw [stripped.1 first rfl]
        exact Bool.false_ne_true
      rw [List.cons_append, List.dropWhile_cons_of_neg firstKept,
        ← List.cons_append]
      have backwards :
          ∀ symbol ∈ right.reverse, blank symbol = true := by
        intro symbol member
        exact rightBlank symbol (List.mem_reverse.mp member)
      unfold List.rdropWhile
      rw [List.reverse_append, List.dropWhile_append_of_pos backwards]
      have lastKept := stripped.2
      rw [← List.head?_reverse] at lastKept
      cases reversed : (first :: others).reverse with
      | nil =>
          simp at reversed
      | cons last earlier =>
          rw [reversed] at lastKept
          have kept : ¬ blank last = true := by
            rw [lastKept last rfl]
            exact Bool.false_ne_true
          rw [List.dropWhile_cons_of_neg kept, ← reversed,
            List.reverse_reverse]

/-- What is left by stripping is stripped. -/
theorem strip_stripped (text : List Symbol) :
    Stripped blank (strip blank text) := by
  constructor
  · intro symbol isFirst
    have inner : strip blank text <+: text.dropWhile blank :=
      List.rdropWhile_prefix _ _
    have isHead : (text.dropWhile blank).head? = some symbol := by
      obtain ⟨rest, whole⟩ := inner
      rw [← whole, List.head?_append, isFirst]
      rfl
    have kept := List.head?_dropWhile_not blank text
    rw [isHead] at kept
    exact kept
  · intro symbol isLast
    have nonempty : strip blank text ≠ [] := by
      rintro isNil
      rw [isNil] at isLast
      cases isLast
    have kept :=
      List.rdropWhile_last_not blank (text.dropWhile blank) nonempty
    rw [List.getLast?_eq_some_getLast nonempty] at isLast
    rw [← Option.some.inj isLast]
    exact Bool.eq_false_iff.mpr kept

theorem strip_subset (text : List Symbol) : strip blank text ⊆ text :=
  List.Subset.trans (List.rdropWhile_prefix _ _).subset
    (List.dropWhile_suffix _).subset

end Strip

/-! ## Words -/

section Words

variable (space : Symbol → Bool)

/-- The next word of a text, and what follows it. -/
def nextWord (text : List Symbol) : List Symbol × List Symbol :=
  ((text.dropWhile space).takeWhile fun symbol => !space symbol,
    (text.dropWhile space).dropWhile fun symbol => !space symbol)

/-- A text of at least one symbol and without spaces. -/
def IsWord (text : List Symbol) : Prop :=
  text ≠ [] ∧ ∀ symbol ∈ text, space symbol = false

instance [DecidableEq Symbol] (text : List Symbol) :
    Decidable (IsWord space text) :=
  inferInstanceAs (Decidable (_ ∧ _))

variable {space} {gap word rest : List Symbol}

/-- The word after a gap. -/
theorem nextWord_eq
    (gapSpace : ∀ symbol ∈ gap, space symbol = true)
    (isWord : IsWord space word)
    (ends : ∀ symbol ∈ rest.head?, space symbol = true) :
    nextWord space (gap ++ (word ++ rest)) = (word, rest) := by
  have skipped :
      (gap ++ (word ++ rest)).dropWhile space = word ++ rest := by
    rw [List.dropWhile_append_of_pos gapSpace]
    cases word with
    | nil =>
        exact absurd rfl isWord.1
    | cons first others =>
        have notSpace := isWord.2 first List.mem_cons_self
        rw [List.cons_append, List.dropWhile_cons_of_neg (by
          rw [notSpace]
          exact Bool.false_ne_true)]
  have inWord : ∀ symbol ∈ word, (!space symbol) = true := by
    intro symbol member
    rw [isWord.2 symbol member]
    rfl
  unfold nextWord
  rw [skipped, List.takeWhile_append_of_pos inWord,
    List.dropWhile_append_of_pos inWord]
  cases rest with
  | nil =>
      simp
  | cons symbol later =>
      have isSpace := ends symbol rfl
      simp [isSpace]

end Words

/-! ## Segments -/

section Segments

variable [DecidableEq Symbol]

/-- A segment in front of others, unless it is empty. -/
def pushSegment
    (segment : List Symbol) (others : List (List Symbol)) :
    List (List Symbol) :=
  if segment = [] then others else segment :: others

/-- The parts between the separators that are not empty. -/
def segments (separator : Symbol) (text : List Symbol) :
    List (List Symbol) :=
  (text.splitOn separator).filter (· ≠ [])

variable {separator : Symbol} {segment : List Symbol}

theorem segments_single (plain : separator ∉ segment) :
    segments separator segment = pushSegment segment [] := by
  unfold segments pushSegment
  rw [List.splitOn_eq_singleton plain]
  by_cases empty : segment = []
  · simp [empty]
  · simp [empty]

theorem segments_cons (plain : separator ∉ segment) (rest : List Symbol) :
    segments separator (segment ++ separator :: rest) =
      pushSegment segment (segments separator rest) := by
  unfold segments pushSegment
  rw [List.splitOn_append_cons_self_of_not_mem plain]
  by_cases empty : segment = []
  · simp [empty]
  · simp [empty]

private theorem mem_splitOn
    {text part : List Symbol} (isPart : part ∈ text.splitOn separator) :
    separator ∉ part ∧ ∀ symbol ∈ part, symbol ∈ text := by
  induction text generalizing part with
  | nil =>
      rw [List.splitOn_nil, List.mem_singleton] at isPart
      simp [isPart]
  | cons first rest inductionHypothesis =>
      have grow {inside : List Symbol}
          (inRest : ∀ symbol ∈ inside, symbol ∈ rest) :
          ∀ symbol ∈ inside, symbol ∈ first :: rest :=
        fun symbol member => List.mem_cons_of_mem first (inRest symbol member)
      rw [List.splitOn_cons_eq_if_modifyHead] at isPart
      by_cases isSeparator : first = separator
      · rw [if_pos (by simpa using isSeparator)] at isPart
        rcases List.mem_cons.mp isPart with rfl | inRest
        · exact ⟨List.not_mem_nil, List.forall_mem_nil _⟩
        · obtain ⟨plain, inside⟩ := inductionHypothesis inRest
          exact ⟨plain, grow inside⟩
      · rw [if_neg (by simpa using isSeparator)] at isPart
        cases parts : rest.splitOn separator with
        | nil =>
            exact absurd parts (List.splitOn_ne_nil separator rest)
        | cons leading others =>
            rw [parts, List.modifyHead_cons] at isPart
            have known (part : List Symbol) (member : part ∈ leading :: others) :=
              inductionHypothesis (parts.symm ▸ member)
            rcases List.mem_cons.mp isPart with rfl | inOthers
            · obtain ⟨plain, inside⟩ := known leading List.mem_cons_self
              refine ⟨by simp [plain, Ne.symm isSeparator], ?_⟩
              exact List.forall_mem_cons.mpr
                ⟨List.mem_cons_self, grow inside⟩
            · obtain ⟨plain, inside⟩ :=
                known part (List.mem_cons_of_mem leading inOthers)
              exact ⟨plain, grow inside⟩

/-- A segment is not empty, has no separator, and is made of the text. -/
theorem mem_segments
    {text part : List Symbol} (isSegment : part ∈ segments separator text) :
    part ≠ [] ∧ separator ∉ part ∧ ∀ symbol ∈ part, symbol ∈ text := by
  obtain ⟨inSplit, nonempty⟩ := List.mem_filter.mp isSegment
  exact ⟨by simpa using nonempty, mem_splitOn inSplit⟩

/-- Segments with a separator in front of each are found again. -/
theorem segments_joined
    {parts : List (List Symbol)}
    (areSegments : ∀ part ∈ parts, part ≠ [] ∧ separator ∉ part)
    (plain : separator ∉ segment) :
    segments separator (segment ++ parts.flatMap (separator :: ·)) =
      pushSegment segment parts := by
  induction parts generalizing segment with
  | nil =>
      rw [List.flatMap_nil, List.append_nil, segments_single plain]
  | cons part others inductionHypothesis =>
      obtain ⟨⟨nonempty, partPlain⟩, othersAre⟩ :=
        List.forall_mem_cons.mp areSegments
      rw [List.flatMap_cons, List.cons_append, segments_cons plain,
        inductionHypothesis othersAre partPlain]
      congr 1
      exact if_neg nonempty

end Segments

end ShardedKvStore.Foundation
