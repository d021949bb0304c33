import ShardedKvStore.Http

/-!
# The configuration

`parse_config` reads the environment and then the command line.  The arguments are
options with one value each, and the last value of an option counts; what is accepted
has a shard and a replica.  Floating-point numbers are any type, and `std::stod` is a
parameter.
-/

namespace ShardedKvStore

/-- The ways `parse_config` ends without a configuration. -/
inductive ConfigStop where
  | missingValue (argument : Bytes)
  | unknownArgument (argument : Bytes)
  | notPositive
  /-- thrown by a conversion of the standard library -/
  | conversion (function : String)
  /-- `std::exit(0)` after the help text -/
  | help
  deriving DecidableEq, Repr

/-- `what()` of an exception. -/
def ConfigStop.what : ConfigStop → Option Bytes
  | .missingValue argument => some (bytes "missing value for " ++ argument)
  | .unknownArgument argument =>
      some (bytes "unknown argument: " ++ argument)
  | .notPositive => some (bytes "shards and replicas must be positive")
  | .conversion function => some (bytes function)
  | .help => none

/-- `Config`. -/
structure Config (Double : Type) where
  bind : Bytes
  port : UInt16
  dataDir : Bytes
  shards : UInt64
  replicas : UInt64
  apiKey : Bytes
  ratePerSecond : Double
  burst : Double
  retries : UInt64
  deriving DecidableEq, Repr

/-- The options of the command line. -/
inductive ConfigOption where
  | bind
  | port
  | dataDir
  | shards
  | replicas
  | apiKey
  | rate
  | burst
  | retries
  deriving DecidableEq, Repr

namespace ConfigOption

/-- The options in the order in which an argument is compared with them. -/
def all : List ConfigOption :=
  [.bind, .port, .dataDir, .shards, .replicas, .apiKey, .rate, .burst,
    .retries]

/-- The argument of an option. -/
def argument : ConfigOption → Bytes
  | .bind => bytes "--bind"
  | .port => bytes "--port"
  | .dataDir => bytes "--data-dir"
  | .shards => bytes "--shards"
  | .replicas => bytes "--replicas"
  | .apiKey => bytes "--api-key"
  | .rate => bytes "--rate"
  | .burst => bytes "--burst"
  | .retries => bytes "--retries"

/-- The environment variable of an option. -/
def environmentName : ConfigOption → Bytes
  | .bind => bytes "KV_BIND"
  | .port => bytes "KV_PORT"
  | .dataDir => bytes "KV_DATA_DIR"
  | .shards => bytes "KV_SHARDS"
  | .replicas => bytes "KV_REPLICAS"
  | .apiKey => bytes "KV_API_KEY"
  | .rate => bytes "KV_RATE_PER_SECOND"
  | .burst => bytes "KV_BURST"
  | .retries => bytes "KV_RETRIES"

/-- The option of an argument. -/
def ofArgument (argument : Bytes) : Option ConfigOption :=
  all.find? fun option => option.argument = argument

end ConfigOption

/-- The number of `std::stoul` and `std::stoull`, where both have 64 bits. -/
def readSize (text : Bytes) : Option UInt64 :=
  (stoull text).toOption.map UInt64.ofNat

/-- A conversion that throws. -/
def convert {Value : Type}
    (function : String) (parse : Bytes → Option Value) (text : Bytes) :
    Except ConfigStop Value :=
  match parse text with
  | some value => .ok value
  | none => .error (.conversion function)

/-- `std::stoul` and `std::stoull`. -/
def toSize (function : String) (text : Bytes) : Except ConfigStop UInt64 :=
  convert function readSize text

section Parsing

variable {Double : Type} (stod : Bytes → Option Double)

/-- `std::stod`. -/
def toDouble (text : Bytes) : Except ConfigStop Double :=
  convert "stod" stod text

/-- An option with its value. -/
def Config.assign (config : Config Double) (value : Bytes) :
    ConfigOption → Except ConfigStop (Config Double)
  | .bind => .ok { config with bind := value }
  | .port => do
      let port ← toSize "stoul" value
      return { config with port := port.toUInt16 }
  | .dataDir => .ok { config with dataDir := value }
  | .shards => do
      let shards ← toSize "stoull" value
      return { config with shards := shards }
  | .replicas => do
      let replicas ← toSize "stoull" value
      return { config with replicas := replicas }
  | .apiKey => .ok { config with apiKey := value }
  | .rate => do
      let rate ← toDouble stod value
      return { config with ratePerSecond := rate }
  | .burst => do
      let burst ← toDouble stod value
      return { config with burst := burst }
  | .retries => do
      let retries ← toSize "stoull" value
      return { config with retries := retries }

/-- The loop of `parse_config`. -/
def parseArguments :
    List Bytes → Config Double → Except ConfigStop (Config Double)
  | [], config => .ok config
  | argument :: rest, config =>
      match ConfigOption.ofArgument argument with
      | some option =>
          match rest with
          | [] => .error (.missingValue argument)
          | value :: rest => do
              let config ← config.assign stod value option
              parseArguments rest config
      | none =>
          if argument = bytes "--help" then
            .error .help
          else
            .error (.unknownArgument argument)

section Environment

variable (getenv : Bytes → Option Bytes)

/-- `env_or`. -/
def envOr (name : String) (fallback : Bytes) : Bytes :=
  (getenv (bytes name)).getD fallback

/-- The value of a variable that is set, or a fallback. -/
def envParsedOr {Value : Type}
    (parse : Bytes → Except ConfigStop Value) (name : Bytes)
    (fallback : Value) : Except ConfigStop Value :=
  match getenv name with
  | some value => parse value
  | none => .ok fallback

/-- `env_size_or`. -/
def envSizeOr (name : String) (fallback : UInt64) :
    Except ConfigStop UInt64 :=
  envParsedOr getenv (toSize "stoull") (bytes name) fallback

/-- `env_double_or`. -/
def envDoubleOr (name : String) (fallback : Double) :
    Except ConfigStop Double :=
  envParsedOr getenv (toDouble stod) (bytes name) fallback

variable [OfNat Double 20] [OfNat Double 40]

/-- `Config` as it is declared. -/
def Config.declared : Config Double where
  bind := bytes "0.0.0.0"
  port := 8080
  dataDir := bytes "./data"
  shards := 4
  replicas := 3
  apiKey := bytes "dev-secret"
  ratePerSecond := 20
  burst := 40
  retries := 2

/-- The first part of `parse_config`. -/
def fromEnvironment : Except ConfigStop (Config Double) := do
  let config : Config Double := .declared
  let config := { config with bind := envOr getenv "KV_BIND" config.bind }
  let port ← envSizeOr getenv "KV_PORT" config.port.toUInt64
  let config := { config with port := port.toUInt16 }
  let config :=
    { config with dataDir := envOr getenv "KV_DATA_DIR" config.dataDir }
  let shards ← envSizeOr getenv "KV_SHARDS" config.shards
  let config := { config with shards := shards }
  let replicas ← envSizeOr getenv "KV_REPLICAS" config.replicas
  let config := { config with replicas := replicas }
  let config :=
    { config with apiKey := envOr getenv "KV_API_KEY" config.apiKey }
  let rate ←
    envDoubleOr stod getenv "KV_RATE_PER_SECOND" config.ratePerSecond
  let config := { config with ratePerSecond := rate }
  let burst ← envDoubleOr stod getenv "KV_BURST" config.burst
  let config := { config with burst := burst }
  let retries ← envSizeOr getenv "KV_RETRIES" config.retries
  return { config with retries := retries }

/-- `parse_config`. -/
def parseConfig (arguments : List Bytes) :
    Except ConfigStop (Config Double) := do
  let config ← fromEnvironment stod getenv
  let config ← parseArguments stod arguments config
  if config.shards = 0 ∨ config.replicas = 0 then
    throw .notPositive
  return config

end Environment

/-! ## Values -/

/-- The value of an option. -/
inductive ConfigValue (Double : Type) where
  | text (value : Bytes)
  | port (value : UInt16)
  | size (value : UInt64)
  | real (value : Double)
  deriving DecidableEq, Repr

/-- The value a configuration has for an option. -/
def Config.value (config : Config Double) :
    ConfigOption → ConfigValue Double
  | .bind => .text config.bind
  | .port => .port config.port
  | .dataDir => .text config.dataDir
  | .shards => .size config.shards
  | .replicas => .size config.replicas
  | .apiKey => .text config.apiKey
  | .rate => .real config.ratePerSecond
  | .burst => .real config.burst
  | .retries => .size config.retries

/-- The value that a text stands for. -/
def ConfigOption.read (option : ConfigOption) (text : Bytes) :
    Option (ConfigValue Double) :=
  match option with
  | .bind | .dataDir | .apiKey => (some text).map .text
  | .port => (readSize text).map fun port => .port port.toUInt16
  | .shards | .replicas | .retries => (readSize text).map .size
  | .rate | .burst => (stod text).map .real

theorem Config.ext_value
    {left right : Config Double}
    (same : ∀ option, left.value option = right.value option) :
    left = right := by
  obtain ⟨⟩ := left
  obtain ⟨⟩ := right
  have each := And.intro (same .bind) <| And.intro (same .port) <|
    And.intro (same .dataDir) <| And.intro (same .shards) <|
    And.intro (same .replicas) <| And.intro (same .apiKey) <|
    And.intro (same .rate) <| And.intro (same .burst) (same .retries)
  simp only [value, ConfigValue.text.injEq, ConfigValue.port.injEq,
    ConfigValue.size.injEq, ConfigValue.real.injEq] at each
  simp only [each]

/-- The value of a text, or another one where there is no text. -/
def Sourced {Value : Type} (parse : Bytes → Option Value)
    (source : Option Bytes) (fallback value : Value) : Prop :=
  match source with
  | some text => parse text = some value
  | none => value = fallback

theorem sourced_map_iff
    {Value Other : Type} (parse : Bytes → Option Value)
    (wrap : Value → Other) (fallback : Value) {source : Option Bytes}
    {other : Other} :
    Sourced (fun text => (parse text).map wrap) source (wrap fallback)
        other ↔
      ∃ value, Sourced parse source fallback value ∧ wrap value = other := by
  unfold Sourced
  cases source with
  | none =>
      simp [eq_comm]
  | some text =>
      exact Option.map_eq_some_iff

theorem Sourced.unique
    {Value : Type} {parse : Bytes → Option Value} {source : Option Bytes}
    {fallback left right : Value}
    (first : Sourced parse source fallback left)
    (second : Sourced parse source fallback right) : left = right := by
  unfold Sourced at first second
  cases source with
  | none =>
      rw [first, second]
  | some text =>
      exact Option.some.inj (first.symm.trans second)

/-- The conversion of an option. -/
def ConfigOption.conversion : ConfigOption → String
  | .port => "stoul"
  | .rate | .burst => "stod"
  | _ => "stoull"

variable {stod} {option : ConfigOption} {text : Bytes}

/-- A text with a value changes its option, and no other. -/
theorem Config.assign_of_read
    (config : Config Double) {value : ConfigValue Double}
    (reads : option.read stod text = some value) :
    ∃ next,
      config.assign stod text option = .ok next ∧
        next.value option = value ∧
        ∀ other, other ≠ option → next.value other = config.value other := by
  cases option with
  | bind | dataDir | apiKey =>
      cases reads
      refine ⟨_, rfl, rfl, fun other different => ?_⟩
      cases other <;> first | rfl | exact absurd rfl different
  | port | shards | replicas | retries =>
      obtain ⟨number, isNumber, rfl⟩ := Option.map_eq_some_iff.mp reads
      unfold assign toSize convert
      rw [isNumber]
      refine ⟨_, rfl, rfl, fun other different => ?_⟩
      cases other <;> first | rfl | exact absurd rfl different
  | rate | burst =>
      obtain ⟨number, isNumber, rfl⟩ := Option.map_eq_some_iff.mp reads
      unfold assign toDouble convert
      rw [isNumber]
      refine ⟨_, rfl, rfl, fun other different => ?_⟩
      cases other <;> first | rfl | exact absurd rfl different

theorem Config.assign_of_unread
    (config : Config Double) (unread : option.read stod text = none) :
    config.assign stod text option =
      .error (.conversion option.conversion) := by
  cases option with
  | bind | dataDir | apiKey =>
      cases unread
  | port | shards | replicas | retries =>
      have notNumber := Option.map_eq_none_iff.mp unread
      unfold assign toSize convert
      rw [notNumber]
      rfl
  | rate | burst =>
      have notNumber := Option.map_eq_none_iff.mp unread
      unfold assign toDouble convert
      rw [notNumber]
      rfl

/-! ## Arguments -/

theorem ConfigOption.ofArgument_argument (option : ConfigOption) :
    ofArgument option.argument = some option := by
  cases option <;> decide

theorem ConfigOption.argument_of_ofArgument
    {argument : Bytes} (found : ofArgument argument = some option) :
    argument = option.argument := by
  have selected := List.find?_some found
  exact (of_decide_eq_true selected).symm

/-- Options with their values as they stand on the command line. -/
def written (assignments : List (ConfigOption × Bytes)) : List Bytes :=
  assignments.flatMap fun assignment => [assignment.1.argument, assignment.2]

/-- The last text for an option. -/
def latest (option : ConfigOption) :
    List (ConfigOption × Bytes) → Option Bytes
  | [] => none
  | (assigned, text) :: rest =>
      (latest option rest).or (if assigned = option then some text else none)

/-- What makes `parse_config` stop at an argument. -/
inductive StopsAt (stod : Bytes → Option Double) :
    List Bytes → ConfigStop → Prop
  | help (rest : List Bytes) : StopsAt stod (bytes "--help" :: rest) .help
  | unknown (argument : Bytes) (rest : List Bytes) :
      ConfigOption.ofArgument argument = none →
      argument ≠ bytes "--help" →
      StopsAt stod (argument :: rest) (.unknownArgument argument)
  | missing (option : ConfigOption) :
      StopsAt stod [option.argument] (.missingValue option.argument)
  | conversion (option : ConfigOption) (text : Bytes) (rest : List Bytes) :
      option.read stod text = none →
      StopsAt stod (option.argument :: text :: rest)
        (.conversion option.conversion)

theorem StopsAt.parseArguments_eq
    {arguments : List Bytes} {stop : ConfigStop}
    (stops : StopsAt stod arguments stop) (config : Config Double) :
    parseArguments stod arguments config = .error stop := by
  cases stops with
  | help rest =>
      unfold parseArguments
      rw [show ConfigOption.ofArgument (bytes "--help") = none by decide]
      rfl
  | unknown argument rest notOption notHelp =>
      unfold parseArguments
      rw [notOption]
      exact if_neg notHelp
  | missing option =>
      unfold parseArguments
      rw [option.ofArgument_argument]
  | conversion option text rest unread =>
      unfold parseArguments
      rw [option.ofArgument_argument]
      simp only [config.assign_of_unread unread]
      rfl

/-- Options with readable values are read, and the last value of each counts. -/
theorem parseArguments_written
    {assignments : List (ConfigOption × Bytes)}
    (readable :
      ∀ assignment ∈ assignments,
        ∃ value, assignment.1.read stod assignment.2 = some value)
    (rest : List Bytes) (config : Config Double) :
    ∃ reached,
      parseArguments stod (written assignments ++ rest) config =
          parseArguments stod rest reached ∧
        ∀ option : ConfigOption,
          Sourced (option.read stod) (latest option assignments)
            (config.value option) (reached.value option) := by
  induction assignments generalizing config with
  | nil =>
      exact ⟨config, rfl, fun _ => rfl⟩
  | cons assignment others inductionHypothesis =>
      obtain ⟨assigned, text⟩ := assignment
      obtain ⟨⟨value, reads⟩, othersReadable⟩ :=
        List.forall_mem_cons.mp readable
      obtain ⟨next, assigns, own, kept⟩ := config.assign_of_read reads
      obtain ⟨reached, parses, takes⟩ :=
        inductionHypothesis othersReadable next
      refine ⟨reached, ?_, ?_⟩
      · rw [← parses]
        change
          parseArguments stod
            (assigned.argument :: text :: (written others ++ rest)) config =
              _
        rw [parseArguments, assigned.ofArgument_argument]
        simp only [assigns]
        rfl
      · intro option
        have taken := takes option
        unfold Sourced at taken ⊢
        unfold latest
        cases later : latest option others with
        | some text =>
            rw [later] at taken
            exact taken
        | none =>
            rw [later] at taken
            rw [Option.none_or]
            by_cases same : assigned = option
            · subst same
              simp only [if_true]
              rw [reads, ← own]
              exact congrArg some taken.symm
            · simp only [if_neg same]
              exact taken.trans (kept option (Ne.symm same))

/-- A command line is read up to an argument that makes `parse_config` stop. -/
theorem exists_written (stod : Bytes → Option Double) :
    ∀ arguments : List Bytes,
      ∃ assignments rest,
        arguments = written assignments ++ rest ∧
          (∀ assignment ∈ assignments,
            ∃ value, assignment.1.read stod assignment.2 = some value) ∧
          (rest = [] ∨ ∃ stop, StopsAt stod rest stop)
  | [] => ⟨[], [], rfl, nofun, Or.inl rfl⟩
  | argument :: rest => by
      cases found : ConfigOption.ofArgument argument with
      | none =>
          refine ⟨[], argument :: rest, rfl, nofun, Or.inr ?_⟩
          by_cases isHelp : argument = bytes "--help"
          · rw [isHelp]
            exact ⟨_, .help rest⟩
          · exact ⟨_, .unknown argument rest found isHelp⟩
      | some option =>
          rw [ConfigOption.argument_of_ofArgument found]
          cases rest with
          | nil =>
              exact
                ⟨[], [option.argument], rfl, nofun, Or.inr
                  ⟨_, .missing option⟩⟩
          | cons text others =>
              cases reads : option.read stod text with
              | none =>
                  exact
                    ⟨[], option.argument :: text :: others, rfl, nofun,
                      Or.inr ⟨_, .conversion option text others reads⟩⟩
              | some value =>
                  obtain ⟨assignments, rest, same, readable, ends⟩ :=
                    exists_written stod others
                  refine
                    ⟨(option, text) :: assignments, rest, ?_, ?_, ends⟩
                  · rw [same]
                    rfl
                  · exact
                      List.forall_mem_cons.mpr ⟨⟨value, reads⟩, readable⟩

/-! ## The environment -/

section Accepted

variable {getenv : Bytes → Option Bytes}

/-- The text that an option gets: the last one on the command line, or else the one of
the environment. -/
def ConfigOption.source
    (getenv : Bytes → Option Bytes)
    (assignments : List (ConfigOption × Bytes)) (option : ConfigOption) :
    Option Bytes :=
  (latest option assignments).or (getenv option.environmentName)

private theorem sourced_of_latest
    {assignments : List (ConfigOption × Bytes)}
    {fallback initial value : ConfigValue Double}
    (environment :
      Sourced (option.read stod) (getenv option.environmentName) fallback
        initial)
    (taken :
      Sourced (option.read stod) (latest option assignments) initial
        value) :
    Sourced (option.read stod) (option.source getenv assignments) fallback
      value := by
  unfold ConfigOption.source
  cases last : latest option assignments with
  | some text =>
      rw [last] at taken
      rw [Option.some_or]
      exact taken
  | none =>
      rw [last] at taken
      rw [Option.none_or]
      obtain rfl : value = initial := taken
      exact environment

private theorem envOr_sourced (name : String) (fallback : Bytes) :
    Sourced some (getenv (bytes name)) fallback
      (envOr getenv name fallback) := by
  unfold envOr Sourced
  cases getenv (bytes name) <;> rfl

/-- The variable of an option is set to a text without a value. -/
def ConfigOption.unreadable
    (stod : Bytes → Option Double) (getenv : Bytes → Option Bytes)
    (option : ConfigOption) : Bool :=
  (getenv option.environmentName).any fun text =>
    (option.read stod text).isNone

/-- The conversion of a variable. -/
def ConfigOption.environmentConversion : ConfigOption → String
  | .rate | .burst => "stod"
  | _ => "stoull"

private theorem unreadable_text
    (isText : option.read stod = fun text => some (.text text)) :
    option.unreadable stod getenv = false := by
  unfold ConfigOption.unreadable
  rw [isText]
  cases getenv option.environmentName <;> rfl

section Reading

variable {Value : Type} (parse : Bytes → Option Value)
  (wrap : Value → ConfigValue Double) (function : String) (fallback : Value)

private theorem envParsedOr_eq_ok {name : Bytes} {value : Value} :
    envParsedOr getenv (convert function parse) name fallback = .ok value ↔
      Sourced parse (getenv name) fallback value := by
  unfold envParsedOr convert Sourced
  cases getenv name with
  | none =>
      simp [eq_comm]
  | some text =>
      simp only
      cases parse text <;> simp

private theorem envParsedOr_returns
    (isParse : option.read stod = fun text => (parse text).map wrap)
    (readable : option.unreadable stod getenv = false) :
    ∃ value,
      envParsedOr getenv (convert function parse) option.environmentName
        fallback = .ok value := by
  unfold ConfigOption.unreadable at readable
  unfold envParsedOr convert
  rw [isParse] at readable
  cases source : getenv option.environmentName with
  | none =>
      exact ⟨_, rfl⟩
  | some text =>
      cases parsed : parse text with
      | none =>
          simp [source, parsed] at readable
      | some value =>
          exact ⟨value, by simp [parsed]⟩

private theorem envParsedOr_fails
    (isParse : option.read stod = fun text => (parse text).map wrap)
    (unreadable : option.unreadable stod getenv = true) :
    envParsedOr getenv (convert function parse) option.environmentName
      fallback = .error (.conversion function) := by
  unfold ConfigOption.unreadable at unreadable
  unfold envParsedOr convert
  rw [isParse] at unreadable
  cases source : getenv option.environmentName with
  | none =>
      simp [source] at unreadable
  | some text =>
      cases parsed : parse text with
      | none =>
          simp [parsed]
      | some value =>
          simp [source, parsed] at unreadable

end Reading

private theorem bind_eq_ok
    {Value Result : Type} {computed : Except ConfigStop Value}
    {next : Value → Except ConfigStop Result} {result : Result} :
    (computed >>= next) = .ok result ↔
      ∃ value, computed = .ok value ∧ next value = .ok result := by
  cases computed with
  | error stop =>
      simp [bind, Except.bind]
  | ok value =>
      simp [bind, Except.bind]

private theorem find?_text
    (tested : ConfigOption) (others : List ConfigOption)
    (isText : tested.read stod = fun text => some (.text text)) :
    (tested :: others).find? (ConfigOption.unreadable stod getenv) =
      others.find? (ConfigOption.unreadable stod getenv) := by
  apply List.find?_cons_of_neg
  rw [unreadable_text isText]
  exact Bool.false_ne_true

/-- A computation that starts with a variable fails on it, or goes on to fail on a
later one. -/
private theorem bind_stops
    {Value Result : Type} {computed : Except ConfigStop Value}
    {next : Value → Except ConfigStop Result}
    (tested : ConfigOption) {others : List ConfigOption}
    (fails :
      tested.unreadable stod getenv = true →
      computed = .error (.conversion tested.environmentConversion))
    (returns :
      tested.unreadable stod getenv = false →
      ∃ value, computed = .ok value)
    (later :
      others.find? (ConfigOption.unreadable stod getenv) = some option →
      ∀ value, next value = .error (.conversion option.environmentConversion))
    (first :
      (tested :: others).find? (ConfigOption.unreadable stod getenv) =
        some option) :
    (computed >>= next) =
      .error (.conversion option.environmentConversion) := by
  cases isUnreadable : tested.unreadable stod getenv with
  | true =>
      rw [List.find?_cons_of_pos isUnreadable] at first
      obtain rfl := Option.some.inj first
      rw [fails isUnreadable]
      rfl
  | false =>
      rw [List.find?_cons_of_neg (by simp [isUnreadable])] at first
      obtain ⟨value, isValue⟩ := returns isUnreadable
      rw [isValue]
      exact later first value

variable [OfNat Double 20] [OfNat Double 40]

/-- What is read from the environment. -/
theorem fromEnvironment_sourced
    {config : Config Double}
    (reads : fromEnvironment stod getenv = .ok config)
    (option : ConfigOption) :
    Sourced (option.read stod) (getenv option.environmentName)
      (Config.declared.value option) (config.value option) := by
  unfold fromEnvironment at reads
  simp only [bind_eq_ok] at reads
  obtain ⟨port, isPort, shards, isShards, replicas, isReplicas, rate,
    isRate, burst, isBurst, retries, isRetries, isConfig⟩ := reads
  obtain rfl := Except.ok.inj isConfig
  have sourced {Value : Type} {parse : Bytes → Option Value}
      {function : String} {name : Bytes} {fallback value : Value}
      (parsed :
        envParsedOr getenv (convert function parse) name fallback =
          .ok value) :
      Sourced parse (getenv name) fallback value :=
    (envParsedOr_eq_ok parse function fallback).mp parsed
  cases option with
  | bind => exact (sourced_map_iff _ _ _).mpr ⟨_, envOr_sourced _ _, rfl⟩
  | port => exact (sourced_map_iff _ _ _).mpr ⟨_, sourced isPort, rfl⟩
  | dataDir => exact (sourced_map_iff _ _ _).mpr ⟨_, envOr_sourced _ _, rfl⟩
  | shards => exact (sourced_map_iff _ _ _).mpr ⟨_, sourced isShards, rfl⟩
  | replicas => exact (sourced_map_iff _ _ _).mpr ⟨_, sourced isReplicas, rfl⟩
  | apiKey => exact (sourced_map_iff _ _ _).mpr ⟨_, envOr_sourced _ _, rfl⟩
  | rate => exact (sourced_map_iff _ _ _).mpr ⟨_, sourced isRate, rfl⟩
  | burst => exact (sourced_map_iff _ _ _).mpr ⟨_, sourced isBurst, rfl⟩
  | retries => exact (sourced_map_iff _ _ _).mpr ⟨_, sourced isRetries, rfl⟩

/-- A readable environment is read. -/
theorem fromEnvironment_returns
    (readable :
      ∀ option : ConfigOption, option.unreadable stod getenv = false) :
    ∃ initial : Config Double, fromEnvironment stod getenv = .ok initial := by
  let declared : Config Double := Config.declared
  obtain ⟨port, isPort⟩ :=
    envParsedOr_returns readSize (fun port => .port port.toUInt16) "stoull"
      declared.port.toUInt64 rfl (readable .port)
  obtain ⟨shards, isShards⟩ :=
    envParsedOr_returns readSize .size "stoull" declared.shards rfl
      (readable .shards)
  obtain ⟨replicas, isReplicas⟩ :=
    envParsedOr_returns readSize .size "stoull" declared.replicas rfl
      (readable .replicas)
  obtain ⟨rate, isRate⟩ :=
    envParsedOr_returns stod .real "stod" declared.ratePerSecond rfl
      (readable .rate)
  obtain ⟨burst, isBurst⟩ :=
    envParsedOr_returns stod .real "stod" declared.burst rfl
      (readable .burst)
  obtain ⟨retries, isRetries⟩ :=
    envParsedOr_returns readSize .size "stoull" declared.retries rfl
      (readable .retries)
  unfold fromEnvironment
  simp only [bind_eq_ok]
  exact
    ⟨_, port, isPort, shards, isShards, replicas, isReplicas, rate, isRate,
      burst, isBurst, retries, isRetries, rfl⟩

/-- The first unreadable variable stops. -/
theorem fromEnvironment_stops
    {option : ConfigOption}
    (first :
      ConfigOption.all.find? (ConfigOption.unreadable stod getenv) =
        some option) :
    (fromEnvironment stod getenv : Except ConfigStop (Config Double)) =
      .error (.conversion option.environmentConversion) := by
  unfold ConfigOption.all at first
  rw [find?_text .bind _ rfl] at first
  unfold fromEnvironment
  apply
    bind_stops .port
      (envParsedOr_fails readSize (fun port => .port port.toUInt16) "stoull"
        _ rfl)
      (envParsedOr_returns readSize (fun port => .port port.toUInt16)
        "stoull" _ rfl) _ first
  intro first port
  rw [find?_text .dataDir _ rfl] at first
  apply
    bind_stops .shards (envParsedOr_fails readSize .size "stoull" _ rfl)
      (envParsedOr_returns readSize .size "stoull" _ rfl) _ first
  intro first shards
  apply
    bind_stops .replicas (envParsedOr_fails readSize .size "stoull" _ rfl)
      (envParsedOr_returns readSize .size "stoull" _ rfl) _ first
  intro first replicas
  rw [find?_text .apiKey _ rfl] at first
  apply
    bind_stops .rate (envParsedOr_fails stod .real "stod" _ rfl)
      (envParsedOr_returns stod .real "stod" _ rfl) _ first
  intro first rate
  apply
    bind_stops .burst (envParsedOr_fails stod .real "stod" _ rfl)
      (envParsedOr_returns stod .real "stod" _ rfl) _ first
  intro first burst
  apply
    bind_stops .retries (envParsedOr_fails readSize .size "stoull" _ rfl)
      (envParsedOr_returns readSize .size "stoull" _ rfl) _ first
  intro first retries
  cases first

/-! ## What is accepted -/

/-- The command line is options with readable values, the environment is readable,
and every option has the value of its last text, or else of the environment, or else
the declared one. -/
structure Config.Given
    (stod : Bytes → Option Double) (getenv : Bytes → Option Bytes)
    (arguments : List Bytes) (config : Config Double) : Prop where
  arguments :
    ∃ assignments,
      arguments = written assignments ∧
        (∀ assignment ∈ assignments,
          ∃ value, assignment.1.read stod assignment.2 = some value) ∧
        ∀ option : ConfigOption,
          Sourced (option.read stod) (option.source getenv assignments)
            (Config.declared.value option) (config.value option)
  environment :
    ∀ option : ConfigOption, option.unreadable stod getenv = false

/-- What the environment and the command line say is what is returned, if there are
shards and replicas. -/
theorem Config.Given.parseConfig_eq
    {arguments : List Bytes} {config : Config Double}
    (given : config.Given stod getenv arguments) :
    parseConfig stod getenv arguments =
      if config.shards = 0 ∨ config.replicas = 0 then
        .error .notPositive
      else
        .ok config := by
  obtain ⟨⟨assignments, isWritten, readable, sourced⟩, environment⟩ := given
  obtain ⟨initial, reads⟩ :
      ∃ initial : Config Double,
        fromEnvironment stod getenv = .ok initial :=
    fromEnvironment_returns environment
  obtain ⟨reached, parses, takes⟩ :=
    parseArguments_written readable [] initial
  have same : reached = config := by
    apply Config.ext_value
    intro option
    exact
      (sourced_of_latest (fromEnvironment_sourced reads option)
        (takes option)).unique (sourced option)
  rw [List.append_nil, ← isWritten] at parses
  subst same
  unfold parseConfig
  rw [reads]
  change (parseArguments stod arguments initial >>= _) = _
  rw [parses]
  rfl

theorem parseConfig_of_unreadable
    (arguments : List Bytes)
    (first :
      ConfigOption.all.find? (ConfigOption.unreadable stod getenv) =
        some option) :
    (parseConfig stod getenv arguments :
        Except ConfigStop (Config Double)) =
      .error (.conversion option.environmentConversion) := by
  unfold parseConfig
  rw [fromEnvironment_stops first]
  rfl

theorem parseConfig_of_stopsAt
    {assignments : List (ConfigOption × Bytes)} {rest : List Bytes}
    {stop : ConfigStop}
    (environment :
      ∀ option : ConfigOption, option.unreadable stod getenv = false)
    (readable :
      ∀ assignment ∈ assignments,
        ∃ value, assignment.1.read stod assignment.2 = some value)
    (stops : StopsAt stod rest stop) :
    (parseConfig stod getenv (written assignments ++ rest) :
        Except ConfigStop (Config Double)) =
      .error stop := by
  obtain ⟨initial, reads⟩ :
      ∃ initial : Config Double,
        fromEnvironment stod getenv = .ok initial :=
    fromEnvironment_returns environment
  obtain ⟨reached, parses, _⟩ :=
    parseArguments_written readable rest initial
  unfold parseConfig
  rw [reads]
  change (parseArguments stod (written assignments ++ rest) initial >>= _) = _
  rw [parses, stops.parseArguments_eq]
  rfl

/-- The ways in which `parse_config` ends without a configuration: at the first
unreadable variable, else at the first argument that is not an option with a
readable value, else because there is nothing to start. -/
inductive ParseStops
    (stod : Bytes → Option Double) (getenv : Bytes → Option Bytes)
    (arguments : List Bytes) : ConfigStop → Prop
  | unreadable (option : ConfigOption) :
      ConfigOption.all.find? (ConfigOption.unreadable stod getenv) =
        some option →
      ParseStops stod getenv arguments
        (.conversion option.environmentConversion)
  | argument (assignments : List (ConfigOption × Bytes))
      (rest : List Bytes) (stop : ConfigStop) :
      (∀ option : ConfigOption, option.unreadable stod getenv = false) →
      arguments = written assignments ++ rest →
      (∀ assignment ∈ assignments,
        ∃ value, assignment.1.read stod assignment.2 = some value) →
      StopsAt stod rest stop →
      ParseStops stod getenv arguments stop
  | notPositive (config : Config Double) :
      config.Given stod getenv arguments →
      config.shards = 0 ∨ config.replicas = 0 →
      ParseStops stod getenv arguments .notPositive

theorem ParseStops.parseConfig_eq
    {arguments : List Bytes} {stop : ConfigStop}
    (stops : ParseStops stod getenv arguments stop) :
    (parseConfig stod getenv arguments :
        Except ConfigStop (Config Double)) =
      .error stop := by
  cases stops with
  | unreadable option first =>
      exact parseConfig_of_unreadable arguments first
  | argument assignments rest _ environment isWritten readable stopsAt =>
      rw [isWritten]
      exact parseConfig_of_stopsAt environment readable stopsAt
  | notPositive config given nothing =>
      rw [given.parseConfig_eq]
      exact if_pos nothing

omit [OfNat Double 20] [OfNat Double 40] in
private theorem readable_of_all
    (none_ :
      ConfigOption.all.find? (ConfigOption.unreadable stod getenv) = none)
    (option : ConfigOption) : option.unreadable stod getenv = false := by
  have isOption : option ∈ ConfigOption.all := by
    cases option <;> decide
  exact Bool.not_eq_true _ |>.mp (List.find?_eq_none.mp none_ option isOption)

/-- There is a configuration to be read, or `parse_config` stops. -/
theorem given_or_parseStops
    (stod : Bytes → Option Double) (getenv : Bytes → Option Bytes)
    (arguments : List Bytes) :
    (∃ config : Config Double, config.Given stod getenv arguments) ∨
      ∃ stop, ParseStops stod getenv arguments stop := by
  cases first :
      ConfigOption.all.find? (ConfigOption.unreadable stod getenv) with
  | some option =>
      exact Or.inr ⟨_, .unreadable option first⟩
  | none =>
      have environment := readable_of_all first
      obtain ⟨assignments, rest, isWritten, readable, ends⟩ :=
        exists_written stod arguments
      rcases ends with rfl | ⟨stop, stopsAt⟩
      · left
        obtain ⟨initial, reads⟩ :
            ∃ initial : Config Double,
              fromEnvironment stod getenv = .ok initial :=
          fromEnvironment_returns environment
        obtain ⟨reached, _, takes⟩ :=
          parseArguments_written readable [] initial
        rw [List.append_nil] at isWritten
        exact
          ⟨reached,
            { arguments :=
                ⟨assignments, isWritten, readable, fun option =>
                  sourced_of_latest (fromEnvironment_sourced reads option)
                    (takes option)⟩
              environment := environment }⟩
      · exact
          Or.inr
            ⟨stop,
              .argument assignments rest stop environment isWritten readable
                stopsAt⟩

/-- What is accepted, and what it is read as. -/
theorem parseConfig_eq_ok_iff
    (stod : Bytes → Option Double) (getenv : Bytes → Option Bytes)
    (arguments : List Bytes) (config : Config Double) :
    parseConfig stod getenv arguments = .ok config ↔
      config.Given stod getenv arguments ∧
        config.shards ≠ 0 ∧ config.replicas ≠ 0 := by
  constructor
  · intro accepted
    rcases given_or_parseStops stod getenv arguments with
      ⟨other, given⟩ | ⟨stop, stops⟩
    · rw [given.parseConfig_eq] at accepted
      split at accepted
      · cases accepted
      · rename_i positive
        obtain rfl := Except.ok.inj accepted
        exact ⟨given, not_or.mp positive⟩
    · rw [stops.parseConfig_eq] at accepted
      cases accepted
  · rintro ⟨given, shards, replicas⟩
    rw [given.parseConfig_eq]
    exact if_neg (not_or.mpr ⟨shards, replicas⟩)

example :
    (parseConfig (fun _ => none) (fun _ => none)
        [bytes "--shards", bytes "2", bytes "--shards", bytes "7x"] :
        Except ConfigStop (Config Nat)).toOption.map Config.shards =
      some 7 := by
  decide +kernel

/-- What is not accepted, and where `parse_config` stops. -/
theorem parseConfig_eq_error_iff
    (stod : Bytes → Option Double) (getenv : Bytes → Option Bytes)
    (arguments : List Bytes) (stop : ConfigStop) :
    (parseConfig stod getenv arguments :
        Except ConfigStop (Config Double)) = .error stop ↔
      ParseStops stod getenv arguments stop := by
  constructor
  · intro stopped
    rcases given_or_parseStops stod getenv arguments with
      ⟨config, given⟩ | ⟨other, stops⟩
    · rw [given.parseConfig_eq] at stopped
      split at stopped
      · rename_i nothing
        obtain rfl := Except.error.inj stopped
        exact .notPositive config given nothing
      · cases stopped
    · rw [stops.parseConfig_eq] at stopped
      obtain rfl := Except.error.inj stopped
      exact stops
  · exact ParseStops.parseConfig_eq

end Accepted

end Parsing

end ShardedKvStore
