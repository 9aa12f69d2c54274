import Mathlib.Algebra.Group.Int.Defs
import RegionGate.Codec.Frame
import RegionGate.Queue.FIFO
import RegionGate.Ratelimit.Limiter

open checked regiongate.codec

namespace regiongate.server

/-- The numbers of `server.Config`. -/
structure Options where
  max_connections : Int
  max_packet_size : Int
  max_connections_per_ip : Int
  handshake_timeout : Int
  status_timeout : Int
  login_timeout : Int
  write_timeout : Int
  keepalive_interval : Int
  keepalive_timeout : Int
  queue_status_interval : Int
  login_rate_limit : Int
  login_rate_window : Int
  challenge_timeout : Int
  deriving DecidableEq

/-- `time.Second` in nanoseconds, the unit of a `time.Duration`. -/
def second : Int := 10 ^ 9

/-- The default that `New` puts in place of a number that is not positive. -/
def or_default (value fallback : Int) : Int := if value ≤ 0 then fallback else value

/-- The numbers that `New` puts in place of those that are not positive. -/
def Options.new (o : Options) : Options where
  max_connections := or_default o.max_connections 10000
  max_packet_size := or_default o.max_packet_size DefaultMaxPacketSize
  max_connections_per_ip := or_default o.max_connections_per_ip 16
  handshake_timeout := or_default o.handshake_timeout (10 * second)
  status_timeout := or_default o.status_timeout (10 * second)
  login_timeout := or_default o.login_timeout (30 * second)
  write_timeout := or_default o.write_timeout (10 * second)
  keepalive_interval := or_default o.keepalive_interval (15 * second)
  keepalive_timeout := or_default o.keepalive_timeout (30 * second)
  queue_status_interval := or_default o.queue_status_interval second
  login_rate_limit := or_default o.login_rate_limit 10
  login_rate_window := or_default o.login_rate_window (10 * second)
  challenge_timeout := or_default o.challenge_timeout (10 * second)

end regiongate.server

open regiongate.server

namespace regiongate.app

/-- The environment variables that `loadConfig` reads. -/
inductive Variable where
  | Listen
  | HealthListen
  | PprofListen
  | AdminToken
  | BackendAddress
  | BackendHost
  | BackendPort
  | VelocitySecret
  | OnlineMode
  | SessionServerURL
  | MaxConnections
  | MaxConnectionsPerIP
  | MaxPacketSize
  | HandshakeTimeout
  | StatusTimeout
  | LoginTimeout
  | WriteTimeout
  | KeepAliveInterval
  | KeepAliveTimeout
  | QueueStatusInterval
  | ChallengeTimeout
  | QueueSize
  | AdmissionInterval
  | LoginRateLimit
  | LoginRateWindow
  | ConfigFile
  deriving DecidableEq

/-- The variables as the environment names them. -/
def Variable.name : Variable → String
  | .Listen => "REGIONGATE_LISTEN"
  | .HealthListen => "REGIONGATE_HEALTH_LISTEN"
  | .PprofListen => "REGIONGATE_PPROF_LISTEN"
  | .AdminToken => "REGIONGATE_ADMIN_TOKEN"
  | .BackendAddress => "REGIONGATE_BACKEND_ADDRESS"
  | .BackendHost => "REGIONGATE_BACKEND_HOST"
  | .BackendPort => "REGIONGATE_BACKEND_PORT"
  | .VelocitySecret => "REGIONGATE_VELOCITY_SECRET"
  | .OnlineMode => "REGIONGATE_ONLINE_MODE"
  | .SessionServerURL => "REGIONGATE_SESSION_SERVER_URL"
  | .MaxConnections => "REGIONGATE_MAX_CONNECTIONS"
  | .MaxConnectionsPerIP => "REGIONGATE_MAX_CONNECTIONS_PER_IP"
  | .MaxPacketSize => "REGIONGATE_MAX_PACKET_SIZE"
  | .HandshakeTimeout => "REGIONGATE_HANDSHAKE_TIMEOUT"
  | .StatusTimeout => "REGIONGATE_STATUS_TIMEOUT"
  | .LoginTimeout => "REGIONGATE_LOGIN_TIMEOUT"
  | .WriteTimeout => "REGIONGATE_WRITE_TIMEOUT"
  | .KeepAliveInterval => "REGIONGATE_KEEPALIVE_INTERVAL"
  | .KeepAliveTimeout => "REGIONGATE_KEEPALIVE_TIMEOUT"
  | .QueueStatusInterval => "REGIONGATE_QUEUE_STATUS_INTERVAL"
  | .ChallengeTimeout => "REGIONGATE_CHALLENGE_TIMEOUT"
  | .QueueSize => "REGIONGATE_QUEUE_SIZE"
  | .AdmissionInterval => "REGIONGATE_ADMISSION_INTERVAL"
  | .LoginRateLimit => "REGIONGATE_LOGIN_RATE_LIMIT"
  | .LoginRateWindow => "REGIONGATE_LOGIN_RATE_WINDOW"
  | .ConfigFile => "REGIONGATE_CONFIG_FILE"

/-- The errors of `strconv`. -/
inductive NumError where
  | Syntax
  | Range
  deriving DecidableEq

/-- The ways in which `loadConfig` fails, each with the variable at fault where there
are several that it may be. -/
inductive ConfigError where
  | AdminToken
  | NotBoolean (name : Variable)
  | Port (err : NumError)
  | NotPositive (name : Variable)
  | NotPositiveDuration (name : Variable)
  | BackendPair
  deriving DecidableEq

/-- The text of an error; that of the port is the one of `strconv.ParseUint`, with the
value in quotes before what is said here. -/
def ConfigError.message : ConfigError → String
  | .AdminToken => Variable.AdminToken.name ++ " must contain at least 32 bytes"
  | .NotBoolean v => v.name ++ " must be a boolean"
  | .Port .Syntax => "invalid syntax"
  | .Port .Range => "value out of range"
  | .NotPositive v => v.name ++ " must be positive"
  | .NotPositiveDuration v => v.name ++ " must be a positive duration"
  | .BackendPair => "backend address and Velocity secret must be configured together"

/-- Durations are in nanoseconds. -/
structure Config where
  listen_address : Bytes
  health_address : Bytes
  pprof_address : Bytes
  admin_token : Bytes
  backend_address : Bytes
  backend_host : Bytes
  backend_port : Nat
  velocity_secret : Bytes
  online_mode : Bool
  session_server_url : Bytes
  max_connections : Int
  max_connections_per_ip : Int
  max_packet_size : Int
  handshake_timeout : Int
  status_timeout : Int
  login_timeout : Int
  write_timeout : Int
  keepalive_interval : Int
  keepalive_timeout : Int
  queue_size : Int
  admission_interval : Int
  queue_status_interval : Int
  challenge_timeout : Int
  login_rate_limit : Int
  login_rate_window : Int
  bot_filter_config_file : Bytes
  deriving DecidableEq

/-- `strconv.ParseBool`. -/
def parse_bool (value : Bytes) : Option Bool :=
  if value ∈ ["1", "t", "T", "TRUE", "true", "True"].map literal then some true
  else if value ∈ ["0", "f", "F", "FALSE", "false", "False"].map literal then some false
  else none

/-- A decimal digit, as `strconv` reads it. -/
def digit (b : UInt8) : Option Nat := if 48 ≤ b ∧ b ≤ 57 then some (b.toNat - 48) else none

/-- The loop of `strconv.ParseUint` in base 10, which stops at the first digit that makes
the value too large. -/
def parse_digits (max : Nat) : Nat → Bytes → Except NumError Nat
  | n, [] => .ok n
  | n, b :: rest =>
    match digit b with
    | none => .error .Syntax
    | some d => if max < n * 10 + d then .error .Range else parse_digits max (n * 10 + d) rest

/-- `strconv.ParseUint(value, 10, 16)`. -/
def parse_uint16 (value : Bytes) : Except NumError Nat :=
  if value = [] then .error .Syntax else parse_digits (2 ^ 16 - 1) 0 value

/-- `strconv.Atoi`: an optional sign, and digits that make an `int`. -/
def atoi (value : Bytes) : Option Int :=
  let negative := value.head? = some 45
  let digits := if value.head? = some 43 ∨ negative then value.tail else value
  if digits = [] then none
  else
    match parse_digits (if negative then 2 ^ 63 else 2 ^ 63 - 1) 0 digits with
    | .error _ => none
    | .ok n => some (if negative then -n else n)

/-- `valueOr`: an unset variable and an empty one are the same. -/
def value_or (value fallback : Bytes) : Bytes := if value = [] then fallback else value

/-- `intValue`; the caller replaces the error by one of its own. -/
def int_value (value : Bytes) (fallback : Int) : Option Int := if value = [] then some fallback else atoi value

/-- `uint16Value`, whose caller returns the error as it is. -/
def uint16_value (value : Bytes) (fallback : Nat) : Except NumError Nat :=
  if value = [] then .ok fallback else parse_uint16 value

section

variable (parseDuration : Bytes → Option Int) (getenv : Variable → Bytes)

/-- The configuration before any check. -/
def initial : Config where
  listen_address := value_or (getenv .Listen) (literal ":25565")
  health_address := value_or (getenv .HealthListen) (literal "127.0.0.1:8080")
  pprof_address := getenv .PprofListen
  admin_token := getenv .AdminToken
  backend_address := getenv .BackendAddress
  backend_host := value_or (getenv .BackendHost) (literal "localhost")
  backend_port := 25565
  velocity_secret := getenv .VelocitySecret
  online_mode := false
  session_server_url := getenv .SessionServerURL
  max_connections := 10000
  max_connections_per_ip := 16
  max_packet_size := DefaultMaxPacketSize
  handshake_timeout := 10 * second
  status_timeout := 10 * second
  login_timeout := 30 * second
  write_timeout := 10 * second
  keepalive_interval := 15 * second
  keepalive_timeout := 30 * second
  queue_size := 1024
  admission_interval := second
  queue_status_interval := second
  challenge_timeout := 10 * second
  login_rate_limit := 10
  login_rate_window := 10 * second
  bot_filter_config_file := getenv .ConfigFile

/-- `intValue` with the check that follows it. -/
def positive (v : Variable) (current : Int) : Except ConfigError Int :=
  match int_value (getenv v) current with
  | none => .error (.NotPositive v)
  | some n => if n ≤ 0 then .error (.NotPositive v) else .ok n

/-- A duration that is set replaces the one that is there. -/
def duration (v : Variable) (current : Int) : Except ConfigError Int :=
  if getenv v = [] then .ok current
  else
    match parseDuration (getenv v) with
    | none => .error (.NotPositiveDuration v)
    | some d => if d ≤ 0 then .error (.NotPositiveDuration v) else .ok d

/-- A variable with the field of the configuration that it sets. -/
structure DurationSetting where
  name : Variable
  get : Config → Int
  set : Config → Int → Config

/-- The durations in the order in which `loadConfig` reads them, each with its place
in the configuration. -/
def duration_settings : List DurationSetting :=
  [⟨.HandshakeTimeout, Config.handshake_timeout, fun c d => { c with handshake_timeout := d }⟩,
   ⟨.StatusTimeout, Config.status_timeout, fun c d => { c with status_timeout := d }⟩,
   ⟨.LoginTimeout, Config.login_timeout, fun c d => { c with login_timeout := d }⟩,
   ⟨.WriteTimeout, Config.write_timeout, fun c d => { c with write_timeout := d }⟩,
   ⟨.KeepAliveInterval, Config.keepalive_interval, fun c d => { c with keepalive_interval := d }⟩,
   ⟨.KeepAliveTimeout, Config.keepalive_timeout, fun c d => { c with keepalive_timeout := d }⟩,
   ⟨.QueueStatusInterval, Config.queue_status_interval, fun c d => { c with queue_status_interval := d }⟩,
   ⟨.ChallengeTimeout, Config.challenge_timeout, fun c d => { c with challenge_timeout := d }⟩]

/-- The loop over the durations. -/
def durations : List DurationSetting → Config → Except ConfigError Config
  | [], config => .ok config
  | setting :: settings, config => do
    let d ← duration parseDuration getenv setting.name (setting.get config)
    durations settings (setting.set config d)

/-- The length of an administrator's token, which may also be left out. -/
def check_admin_token (config : Config) : Except ConfigError Unit :=
  if config.admin_token ≠ [] ∧ config.admin_token.length < 32 then .error .AdminToken else .ok ()

/-- A boolean variable, which keeps its default when it is not set. -/
def boolean (v : Variable) (current : Bool) : Except ConfigError Bool :=
  if getenv v = [] then .ok current
  else
    match parse_bool (getenv v) with
    | none => .error (.NotBoolean v)
    | some b => .ok b

/-- The backend's port. -/
def port (current : Nat) : Except ConfigError Nat :=
  match uint16_value (getenv .BackendPort) current with
  | .error err => .error (.Port err)
  | .ok port => .ok port

/-- A backend and the secret that it shares with the gateway come together or not at
all. -/
def check_backend (config : Config) : Except ConfigError Unit :=
  if (config.backend_address = []) ≠ (config.velocity_secret = []) then .error .BackendPair else .ok ()

/-- `loadConfig`: every check in the order of the source, the first that fails being
the error. -/
def load_config : Except ConfigError Config := do
  let config := initial getenv
  check_admin_token config
  let online_mode ← boolean getenv .OnlineMode config.online_mode
  let config := { config with online_mode }
  let backend_port ← port getenv config.backend_port
  let config := { config with backend_port }
  let max_connections ← positive getenv .MaxConnections config.max_connections
  let config := { config with max_connections }
  let max_connections_per_ip ← positive getenv .MaxConnectionsPerIP config.max_connections_per_ip
  let config := { config with max_connections_per_ip }
  let max_packet_size ← positive getenv .MaxPacketSize config.max_packet_size
  let config := { config with max_packet_size }
  let config ← durations parseDuration getenv duration_settings config
  let queue_size ← positive getenv .QueueSize config.queue_size
  let config := { config with queue_size }
  let admission_interval ← duration parseDuration getenv .AdmissionInterval config.admission_interval
  let config := { config with admission_interval }
  let login_rate_limit ← positive getenv .LoginRateLimit config.login_rate_limit
  let config := { config with login_rate_limit }
  let login_rate_window ← duration parseDuration getenv .LoginRateWindow config.login_rate_window
  let config := { config with login_rate_window }
  check_backend config
  return config

/-- The checks of `loadConfig`, each on its own. -/
inductive Check where
  | AdminToken
  | Boolean (name : Variable)
  | Port
  | Positive (name : Variable)
  | Duration (name : Variable)
  | BackendPair
  deriving DecidableEq

/-- The checks in the order in which `loadConfig` makes them. -/
def checks : List Check :=
  [.AdminToken, .Boolean .OnlineMode, .Port, .Positive .MaxConnections, .Positive .MaxConnectionsPerIP,
    .Positive .MaxPacketSize, .Duration .HandshakeTimeout, .Duration .StatusTimeout, .Duration .LoginTimeout,
    .Duration .WriteTimeout, .Duration .KeepAliveInterval, .Duration .KeepAliveTimeout,
    .Duration .QueueStatusInterval, .Duration .ChallengeTimeout, .Positive .QueueSize,
    .Duration .AdmissionInterval, .Positive .LoginRateLimit, .Duration .LoginRateWindow, .BackendPair]

/-- What a check finds wrong with the environment. -/
def fault : Check → Option ConfigError
  | .AdminToken =>
    if getenv .AdminToken ≠ [] ∧ (getenv .AdminToken).length < 32 then some .AdminToken else none
  | .Boolean v => if getenv v ≠ [] ∧ parse_bool (getenv v) = none then some (.NotBoolean v) else none
  | .Port =>
    if getenv .BackendPort = [] then none
    else
      match parse_uint16 (getenv .BackendPort) with
      | .error err => some (.Port err)
      | .ok _ => none
  | .Positive v => if getenv v ≠ [] ∧ (atoi (getenv v)).all (· ≤ 0) = true then some (.NotPositive v) else none
  | .Duration v =>
    if getenv v ≠ [] ∧ (parseDuration (getenv v)).all (· ≤ 0) = true then some (.NotPositiveDuration v) else none
  | .BackendPair =>
    if (getenv .BackendAddress = []) ≠ (getenv .VelocitySecret = []) then some .BackendPair else none

/-- What a boolean variable stands for when it passes its check. -/
def boolOf (v : Variable) (fallback : Bool) : Bool :=
  if getenv v = [] then fallback else (parse_bool (getenv v)).getD false

/-- What the port stands for when it passes its check. -/
def portOf (fallback : Nat) : Nat :=
  if getenv .BackendPort = [] then fallback else ((parse_uint16 (getenv .BackendPort)).toOption).getD 0

/-- What a number stands for when it passes its check. -/
def intOf (v : Variable) (fallback : Int) : Int :=
  if getenv v = [] then fallback else (atoi (getenv v)).getD 0

/-- What a duration stands for when it passes its check. -/
def durationOf (v : Variable) (fallback : Int) : Int :=
  if getenv v = [] then fallback else (parseDuration (getenv v)).getD 0

/-- The configuration that an environment without faults describes: what is set, and
the defaults for the rest. -/
def described : Config :=
  { initial getenv with
    online_mode := boolOf getenv .OnlineMode false
    backend_port := portOf getenv 25565
    max_connections := intOf getenv .MaxConnections 10000
    max_connections_per_ip := intOf getenv .MaxConnectionsPerIP 16
    max_packet_size := intOf getenv .MaxPacketSize DefaultMaxPacketSize
    handshake_timeout := durationOf parseDuration getenv .HandshakeTimeout (10 * second)
    status_timeout := durationOf parseDuration getenv .StatusTimeout (10 * second)
    login_timeout := durationOf parseDuration getenv .LoginTimeout (30 * second)
    write_timeout := durationOf parseDuration getenv .WriteTimeout (10 * second)
    keepalive_interval := durationOf parseDuration getenv .KeepAliveInterval (15 * second)
    keepalive_timeout := durationOf parseDuration getenv .KeepAliveTimeout (30 * second)
    queue_size := intOf getenv .QueueSize 1024
    admission_interval := durationOf parseDuration getenv .AdmissionInterval second
    queue_status_interval := durationOf parseDuration getenv .QueueStatusInterval second
    challenge_timeout := durationOf parseDuration getenv .ChallengeTimeout (10 * second)
    login_rate_limit := intOf getenv .LoginRateLimit 10
    login_rate_window := durationOf parseDuration getenv .LoginRateWindow (10 * second) }

end

/-- The numbers that `Run` hands to the server. -/
def Config.options (config : Config) : Options where
  max_connections := config.max_connections
  max_packet_size := config.max_packet_size
  max_connections_per_ip := config.max_connections_per_ip
  handshake_timeout := config.handshake_timeout
  status_timeout := config.status_timeout
  login_timeout := config.login_timeout
  write_timeout := config.write_timeout
  keepalive_interval := config.keepalive_interval
  keepalive_timeout := config.keepalive_timeout
  queue_status_interval := config.queue_status_interval
  login_rate_limit := config.login_rate_limit
  login_rate_window := config.login_rate_window
  challenge_timeout := config.challenge_timeout

/-- The admission queue that `Run` makes, if a backend is configured. -/
def Config.admission_queue {χ α : Type} (config : Config) : Outcome Error (Option (queue.FIFO χ α)) := do
  if config.backend_address = [] then .Ok none
  else
    let fifo ← queue.FIFO.new_checked config.queue_size
    .Ok (some fifo)

/-- The numbers of a configuration are positive. -/
structure Config.Positive (config : Config) : Prop where
  max_connections : 0 < config.max_connections
  max_connections_per_ip : 0 < config.max_connections_per_ip
  max_packet_size : 0 < config.max_packet_size
  handshake_timeout : 0 < config.handshake_timeout
  status_timeout : 0 < config.status_timeout
  login_timeout : 0 < config.login_timeout
  write_timeout : 0 < config.write_timeout
  keepalive_interval : 0 < config.keepalive_interval
  keepalive_timeout : 0 < config.keepalive_timeout
  queue_size : 0 < config.queue_size
  admission_interval : 0 < config.admission_interval
  queue_status_interval : 0 < config.queue_status_interval
  challenge_timeout : 0 < config.challenge_timeout
  login_rate_limit : 0 < config.login_rate_limit
  login_rate_window : 0 < config.login_rate_window

section Checks

variable (parseDuration : Bytes → Option Int) (getenv : Variable → Bytes) {v : Variable} {current : Int}

/-- A check that finds a fault ends everything that would come after it. -/
theorem elim_bind {α β : Type} (found : Option ConfigError) (accepted : Except ConfigError α)
    (k : α → Except ConfigError β) : (found.elim accepted .error >>= k) = found.elim (accepted >>= k) .error := by
  cases found <;> rfl

theorem ok_bind {α β : Type} (a : α) (k : α → Except ConfigError β) : (.ok a >>= k) = k a := rfl

theorem elim_findSome_cons {α β : Type} (f : β → Option ConfigError) (x : β) (xs : List β)
    (accepted : Except ConfigError α) :
    ((x :: xs).findSome? f).elim accepted .error = (f x).elim ((xs.findSome? f).elim accepted .error) .error := by
  rw [List.findSome?_cons]
  cases f x <;> rfl

/-- A positive number is read as the check of its variable says. The default has to be
positive, as it is checked like a value of the environment. -/
theorem positive_eq (hcurrent : 0 < current) :
    positive getenv v current =
      (fault parseDuration getenv (.Positive v)).elim (.ok (intOf getenv v current)) .error := by
  unfold positive fault intOf int_value
  by_cases hset : getenv v = []
  · simp [hset, Int.not_le.mpr hcurrent]
  · cases hvalue : atoi (getenv v) with
    | none => simp [hset, hvalue]
    | some n => by_cases hn : n ≤ 0 <;> simp [hset, hvalue, hn]

/-- A duration is read as the check of its variable says. -/
theorem duration_eq :
    duration parseDuration getenv v current =
      (fault parseDuration getenv (.Duration v)).elim (.ok (durationOf parseDuration getenv v current)) .error := by
  unfold duration fault durationOf
  by_cases hset : getenv v = []
  · simp [hset]
  · cases hvalue : parseDuration (getenv v) with
    | none => simp [hset, hvalue]
    | some d => by_cases hd : d ≤ 0 <;> simp [hset, hvalue, hd]

theorem boolean_eq {b : Bool} :
    boolean getenv v b = (fault parseDuration getenv (.Boolean v)).elim (.ok (boolOf getenv v b)) .error := by
  unfold boolean fault boolOf
  by_cases hset : getenv v = []
  · simp [hset]
  · cases hvalue : parse_bool (getenv v) <;> simp [hset, hvalue]

theorem port_eq {n : Nat} :
    port getenv n = (fault parseDuration getenv .Port).elim (.ok (portOf getenv n)) .error := by
  unfold port fault portOf uint16_value
  by_cases hset : getenv .BackendPort = []
  · simp [hset]
  · cases hvalue : parse_uint16 (getenv .BackendPort) <;> simp [hset, Except.toOption]

theorem check_admin_token_eq {config : Config} (htoken : config.admin_token = getenv .AdminToken) :
    check_admin_token config = (fault parseDuration getenv .AdminToken).elim (.ok ()) .error := by
  unfold check_admin_token fault
  rw [htoken]
  split <;> rfl

theorem check_backend_eq {config : Config} (haddress : config.backend_address = getenv .BackendAddress)
    (hsecret : config.velocity_secret = getenv .VelocitySecret) :
    check_backend config = (fault parseDuration getenv .BackendPair).elim (.ok ()) .error := by
  unfold check_backend fault
  rw [haddress, hsecret]
  split <;> rfl

/-- The loop over the durations stops at the first fault. -/
theorem durations_eq (settings : List DurationSetting) (config : Config) :
    durations parseDuration getenv settings config =
      (settings.findSome? fun setting => fault parseDuration getenv (.Duration setting.name)).elim
        (.ok (settings.foldl (fun config setting =>
          setting.set config (durationOf parseDuration getenv setting.name (setting.get config))) config))
        .error := by
  induction settings generalizing config with
  | nil => rfl
  | cons setting settings ih =>
    rw [durations, duration_eq, elim_bind, ok_bind, elim_findSome_cons, ih]
    rfl

/-- `loadConfig` is its list of checks: the first fault is the error, and without one
the environment describes the configuration. -/
theorem load_config_eq :
    load_config parseDuration getenv =
      (checks.findSome? (fault parseDuration getenv)).elim (.ok (described parseDuration getenv)) .error := by
  unfold load_config checks
  simp (disch := first | rfl | decide) only [initial, check_admin_token_eq parseDuration getenv,
    boolean_eq parseDuration getenv, port_eq parseDuration getenv, positive_eq parseDuration getenv,
    duration_eq parseDuration getenv, durations_eq parseDuration getenv, check_backend_eq parseDuration getenv,
    duration_settings, List.foldl_cons, List.foldl_nil, List.findSome?_nil, Option.elim_none, elim_bind,
    ok_bind, elim_findSome_cons]
  rfl

/-- `loadConfig` makes its checks one by one, with a half-built configuration in hand.
It accepts exactly the environments in which no check finds a fault, and reports the
first fault otherwise; what it accepts is what the environment says, with the
defaults for what it does not say. -/
theorem load_config_reports_first_fault :
    (∀ e, load_config parseDuration getenv = .error e ↔ ∃ before check after, checks = before ++ check :: after ∧
      fault parseDuration getenv check = some e ∧ ∀ earlier ∈ before, fault parseDuration getenv earlier = none) ∧
    (∀ config, load_config parseDuration getenv = .ok config ↔
      (∀ check ∈ checks, fault parseDuration getenv check = none) ∧ config = described parseDuration getenv) := by
  rw [load_config_eq]
  constructor
  · intro e
    rw [← List.findSome?_eq_some_iff]
    cases checks.findSome? (fault parseDuration getenv) <;> simp
  · intro config
    rw [← List.findSome?_eq_none_iff]
    cases checks.findSome? (fault parseDuration getenv) <;> simp [eq_comm]

variable {parseDuration getenv}

/-- An environment that is accepted has passed every check. -/
theorem load_config_ok {config : Config} (h : load_config parseDuration getenv = .ok config) :
    config = described parseDuration getenv ∧ ∀ check ∈ checks, fault parseDuration getenv check = none := by
  rw [load_config_eq] at h
  cases hfound : checks.findSome? (fault parseDuration getenv) with
  | some e =>
    rw [hfound] at h
    cases h
  | none =>
    rw [hfound] at h
    cases h
    exact ⟨rfl, List.findSome?_eq_none_iff.mp hfound⟩

/-- A number that passes its check is positive. -/
theorem intOf_pos {fallback : Int} (hfault : fault parseDuration getenv (.Positive v) = none) (hpos : 0 < fallback) :
    0 < intOf getenv v fallback := by
  unfold intOf
  split
  · exact hpos
  · rename_i hset
    cases hvalue : atoi (getenv v) with
    | none => simp [fault, hset, hvalue] at hfault
    | some n => simpa [fault, hset, hvalue] using hfault

/-- A duration that passes its check is positive. -/
theorem durationOf_pos {fallback : Int} (hfault : fault parseDuration getenv (.Duration v) = none)
    (hpos : 0 < fallback) : 0 < durationOf parseDuration getenv v fallback := by
  unfold durationOf
  split
  · exact hpos
  · rename_i hset
    cases hvalue : parseDuration (getenv v) with
    | none => simp [fault, hset, hvalue] at hfault
    | some n => simpa [fault, hset, hvalue] using hfault

/-- A configuration that passes every check has no number that `New` would replace. -/
theorem described_positive (hchecks : ∀ check ∈ checks, fault parseDuration getenv check = none) :
    (described parseDuration getenv).Positive where
  max_connections := intOf_pos (hchecks (.Positive .MaxConnections) (by decide)) (by decide)
  max_connections_per_ip := intOf_pos (hchecks (.Positive .MaxConnectionsPerIP) (by decide)) (by decide)
  max_packet_size := intOf_pos (hchecks (.Positive .MaxPacketSize) (by decide)) (by decide)
  handshake_timeout := durationOf_pos (hchecks (.Duration .HandshakeTimeout) (by decide)) (by decide)
  status_timeout := durationOf_pos (hchecks (.Duration .StatusTimeout) (by decide)) (by decide)
  login_timeout := durationOf_pos (hchecks (.Duration .LoginTimeout) (by decide)) (by decide)
  write_timeout := durationOf_pos (hchecks (.Duration .WriteTimeout) (by decide)) (by decide)
  keepalive_interval := durationOf_pos (hchecks (.Duration .KeepAliveInterval) (by decide)) (by decide)
  keepalive_timeout := durationOf_pos (hchecks (.Duration .KeepAliveTimeout) (by decide)) (by decide)
  queue_size := intOf_pos (hchecks (.Positive .QueueSize) (by decide)) (by decide)
  admission_interval := durationOf_pos (hchecks (.Duration .AdmissionInterval) (by decide)) (by decide)
  queue_status_interval := durationOf_pos (hchecks (.Duration .QueueStatusInterval) (by decide)) (by decide)
  challenge_timeout := durationOf_pos (hchecks (.Duration .ChallengeTimeout) (by decide)) (by decide)
  login_rate_limit := intOf_pos (hchecks (.Positive .LoginRateLimit) (by decide)) (by decide)
  login_rate_window := durationOf_pos (hchecks (.Duration .LoginRateWindow) (by decide)) (by decide)

/-- `New` leaves positive numbers alone. -/
theorem options_new {config : Config} (h : config.Positive) : config.options.new = config.options := by
  have hkept : ∀ {value fallback : Int}, 0 < value → or_default value fallback = value :=
    fun hpos => if_neg (Int.not_le.mpr hpos)
  simp only [Options.new, Config.options, hkept h.max_connections, hkept h.max_packet_size,
    hkept h.max_connections_per_ip, hkept h.handshake_timeout, hkept h.status_timeout, hkept h.login_timeout,
    hkept h.write_timeout, hkept h.keepalive_interval, hkept h.keepalive_timeout, hkept h.queue_status_interval,
    hkept h.login_rate_limit, hkept h.login_rate_window, hkept h.challenge_timeout]

/-- `Run` makes its queue of the configured size, or panics when so many items could
never be stored. -/
theorem admission_queue_eq {χ α : Type} {config : Config} (hbackend : config.backend_address ≠ [])
    (hsize : 0 < config.queue_size) :
    (config.admission_queue : Outcome Error (Option (queue.FIFO χ α))) =
      if config.queue_size * queue.itemSize ≤ maxAlloc then .Ok (some ⟨config.queue_size.toNat, [], ∅⟩)
      else .Panic := by
  rw [Config.admission_queue, if_neg hbackend, queue.FIFO.new_checked_eq hsize]
  split
  · rw [Outcome.ok_bind, queue.FIFO.new, if_neg (Int.not_le.mpr hsize)]
  · rfl

/-- No number of an accepted configuration is replaced by a default on its way to the
server, the queue, the login limiter and the framer. A queue that could never be
stored makes `Run` panic, though `loadConfig` accepts its size. The backend is
configured with its secret or not at all, so that `NewModernForwarding` does not fail,
and an admin token is long. -/
theorem accepted_config_is_used {config : Config} (h : load_config parseDuration getenv = .ok config) :
    config.options.new = config.options ∧
      (config.backend_address ≠ [] → ∀ {χ α : Type},
        (config.admission_queue : Outcome Error (Option (queue.FIFO χ α))) =
          if config.queue_size * queue.itemSize ≤ maxAlloc then .Ok (some ⟨config.queue_size.toNat, [], ∅⟩)
          else .Panic) ∧
      (config.queue_size.toNat : Int) = config.queue_size ∧
      (ratelimit.Limiter.new config.login_rate_limit config.login_rate_window).limit = config.login_rate_limit ∧
      (ratelimit.Limiter.new config.login_rate_limit config.login_rate_window).window = config.login_rate_window ∧
      ((new_framer config.max_packet_size).max_packet_size : Int) = config.max_packet_size ∧
      0 < config.admission_interval ∧
      (config.backend_address = [] ↔ config.velocity_secret = []) ∧
      (config.admin_token = [] ∨ 32 ≤ config.admin_token.length) := by
  obtain ⟨rfl, hchecks⟩ := load_config_ok h
  have hpositive := described_positive hchecks
  have hqueue := hpositive.queue_size
  have hframe := hpositive.max_packet_size
  refine ⟨options_new hpositive, fun hbackend => admission_queue_eq hbackend hqueue, Int.toNat_of_nonneg hqueue.le,
    ?_, ?_, ?_, hpositive.admission_interval, ?_, ?_⟩
  · exact if_neg (Int.not_le.mpr hpositive.login_rate_limit)
  · exact if_neg (Int.not_le.mpr hpositive.login_rate_window)
  · rw [new_framer, dif_neg (Int.not_le.mpr hframe)]
    exact Int.toNat_of_nonneg hframe.le
  · have hpair : getenv .BackendAddress = [] ↔ getenv .VelocitySecret = [] := by
      simpa [fault] using hchecks .BackendPair (by decide)
    exact hpair
  · by_cases hset : getenv .AdminToken = []
    · exact .inl hset
    · have hlong : 32 ≤ (getenv .AdminToken).length := by
        simpa [fault, hset] using hchecks .AdminToken (by decide)
      exact .inr hlong

/-- The environment of a gateway for 64 connections, with a backend. -/
def sampleEnvironment : Variable → Bytes
  | .MaxConnections => literal "64"
  | .BackendAddress => literal "backend:25565"
  | .VelocitySecret => literal "secret"
  | _ => []

/-- An environment that sets the connections and a backend. -/
theorem accepted_config_is_used_for_64_connections :
    load_config (fun _ => none) sampleEnvironment = .ok (described (fun _ => none) sampleEnvironment) ∧
      (described (fun _ => none) sampleEnvironment).max_connections = 64 ∧
      (described (fun _ => none) sampleEnvironment).options.new =
        (described (fun _ => none) sampleEnvironment).options ∧
      (described (fun _ => none) sampleEnvironment).admission_queue =
        (.Ok (some ⟨1024, [], ∅⟩) : Outcome Error (Option (queue.FIFO Unit Unit))) := by
  have hload : load_config (fun _ => none) sampleEnvironment = .ok (described (fun _ => none) sampleEnvironment) := rfl
  obtain ⟨hoptions, hqueue, -⟩ := accepted_config_is_used hload
  exact ⟨hload, rfl, hoptions, hqueue (by decide)⟩

end Checks

end regiongate.app
