import Mathlib.Data.UInt

/-!
# SecNetPerf.Init — the client's configuration and `PerfClient::Init`

`PerfClient` holds what `Init` fills in from the command line and what the rest of the client reads.
`init` follows `PerfClient::Init` in its order: every `TryGetValue` (a later alias overrides an
earlier one), every validation with its status and the line it writes, the `-bind` list with its fill
loop, the request buffer and the sizing of `LatencyValues`.

The argument helpers of the perf tool (`GetValue`, `TryGetValue`, `DecodeHexBuffer`,
`ConvertArgToAddress`) and the constants of its header are not part of this file: they are the
parameters `Args`, `InitEnv` and `PerfConstants`.  A flag the code only tests against zero is a `Bool`.
-/

namespace SecNetPerf

/-- The `QUIC_STATUS` values the client returns. -/
inductive QuicStatus
  | success
  | invalidParameter
  | outOfMemory
  | failure (code : UInt32)
  deriving DecidableEq, Repr

/-- `QUIC_ADDRESS_FAMILY`. -/
inductive AddressFamily
  | unspec
  | inet
  | inet6
  deriving DecidableEq, Repr

/-- A `QUIC_ADDR`: family, address bytes and port. -/
structure QuicAddr where
  family : AddressFamily
  ip : List UInt8
  port : UInt16
  deriving DecidableEq, Repr

/-- A zeroed `QUIC_ADDR`, the `LocalAddr` of a worker nobody set. -/
def QuicAddr.zero : QuicAddr := ⟨.unspec, [], 0⟩

/-- The constants of the perf tool's header that the client reads. -/
structure PerfConstants where
  /-- `PERF_DEFAULT_PORT`. -/
  defaultPort : UInt16
  /-- `PERF_DEFAULT_IO_SIZE`. -/
  defaultIoSize : UInt32
  /-- `PERF_MAX_REQUESTS_PER_SECOND`. -/
  maxRequestsPerSecond : UInt64

/-- What `Init` reads besides its arguments. -/
structure InitEnv where
  /-- `CxPlatProcActiveCount()`. -/
  procActiveCount : UInt32
  /-- `Configuration.GetInitStatus()`; the configuration `IsValid()` when it is `success`. -/
  configurationStatus : QuicStatus
  /-- `DecodeHexBuffer(s, 6, ...)`: the bytes it writes (at most six); none written is a failure. -/
  decodeHexBuffer : String → {b : List UInt8 // b.length ≤ 6}
  /-- `ConvertArgToAddress(s, 0, ...)`. -/
  convertArgToAddress : String → Option QuicAddr
  /-- Whether `new (std::nothrow)` of the copy of the target succeeds. -/
  targetAllocated : Bool
  /-- Whether `new (std::nothrow)` of `LatencyValues` succeeds. -/
  latencyAllocated : Bool

/-- The command line as the perf tool's argument helpers read it. -/
structure Args where
  /-- `argc > 0 && (IsArg(argv[0], "?") || IsArg(argv[0], "help"))`. -/
  help : Bool
  /-- `GetValue(argc, argv, name)`, which is also what `TryGetValue` stores into a string. -/
  str : String → Option String
  /-- The number `TryGetValue` parses for `name`, before it is narrowed to the field's width. -/
  num : String → Option Nat

namespace Args

variable (a : Args) (name : String)

/-- `TryGetValue` into a `uint8_t` flag that the client only tests against zero. -/
def flag (v : Bool) : Bool := match a.num name with
  | some n => n % 256 != 0
  | none => v

/-- `TryGetValue` into a `uint16_t`. -/
def u16 (v : UInt16) : UInt16 := match a.num name with
  | some n => UInt16.ofNat n
  | none => v

/-- `TryGetValue` into a `uint32_t`. -/
def u32 (v : UInt32) : UInt32 := match a.num name with
  | some n => UInt32.ofNat n
  | none => v

/-- `TryGetValue` into a `uint64_t`. -/
def u64 (v : UInt64) : UInt64 := match a.num name with
  | some n => UInt64.ofNat n
  | none => v

end Args

/-- Why `Init` fails. -/
inductive InitError
  | help
  | configuration (status : QuicStatus)
  | missingTarget
  | targetOutOfMemory
  | cibir
  | bindAddress (addr : String)
  | ioSizeTooSmall
  | runtimeRequired
  | tcpEncryption
  | latencyOutOfMemory
  deriving DecidableEq, Repr

namespace InitError

/-- The status `Init` returns. -/
def status : InitError → QuicStatus
  | configuration s => s
  | targetOutOfMemory | latencyOutOfMemory => .outOfMemory
  | _ => .invalidParameter

/-- The line `Init` writes before it returns (empty when it writes none). -/
def message : InitError → String
  | missingTarget => "Must specify '-target' argument!\n"
  | cibir => "Cibir ID must be a hex string <= 6 bytes.\n"
  | bindAddress a =>
    "Failed to decode bind IP address: '" ++ a ++ "'!\nMust be *, a IPv4 or a IPv6 address.\n"
  | ioSizeTooSmall => "'iosize' too small'!\n"
  | runtimeRequired => "Must specify a 'runtime' if using a repeat parameter!\n"
  | tcpEncryption => "TCP mode doesn't support disabling encryption!\n"
  | _ => ""

/-- Whether `Init` also prints the usage text. -/
def printsHelp : InitError → Bool
  | help | missingTarget | bindAddress _ => true
  | _ => false

end InitError

/-- The fields of `PerfClient` that `Init` sets and the rest of the client reads. -/
structure PerfClient where
  target : String
  targetFamily : AddressFamily
  targetPort : UInt16
  incrementTarget : Bool
  /-- `CibirId[1 .. CibirIdLength]`; `CibirId[0]` is the zero offset byte. -/
  cibirId : List UInt8
  workerCount : UInt32
  affinitizeWorkers : Bool
  specificLocalAddresses : Bool
  /-- `Workers[i].LocalAddr` as `Init` leaves it. -/
  localAddr : Nat → QuicAddr
  useTCP : Bool
  useEncryption : Bool
  usePacing : Bool
  useSendBuffering : Bool
  printThroughput : Bool
  printConnections : Bool
  printStreams : Bool
  printLatency : Bool
  connectionCount : UInt32
  streamCount : UInt32
  ioSize : UInt32
  upload : UInt64
  download : UInt64
  timed : Bool
  repeatConnections : Bool
  repeatStreams : Bool
  runTime : UInt32
  /-- The first eight bytes of `RequestBuffer`: the download length asked of the server. -/
  downloadRequest : UInt64
  maxLatencyIndex : UInt64

/-- Modelled from the spec: the member initializers of `PerfClient` (its header is not in the
source), as the usage text and the spec's option list give them. -/
def PerfClient.defaults (k : PerfConstants) : PerfClient where
  target := ""
  targetFamily := .unspec
  targetPort := k.defaultPort
  incrementTarget := false
  cibirId := []
  workerCount := 0
  affinitizeWorkers := false
  specificLocalAddresses := false
  localAddr := fun _ => QuicAddr.zero
  useTCP := false
  useEncryption := true
  usePacing := true
  useSendBuffering := false
  printThroughput := false
  printConnections := false
  printStreams := false
  printLatency := false
  connectionCount := 1
  streamCount := 0
  ioSize := k.defaultIoSize
  upload := 0
  download := 0
  timed := false
  repeatConnections := false
  repeatStreams := false
  runTime := 0
  downloadRequest := 0
  maxLatencyIndex := 0

/-! ## The `-bind` list -/

/-- The parse loop of `-bind`: `Workers[Index++].LocalAddr` from each comma-separated address while
`Index < WorkerCount`.  Returns the final `Index`. -/
def bindLoop (convert : String → Option QuicAddr) (workerCount : UInt32) :
    List String → Nat → (Nat → QuicAddr) → Except InitError (Nat × (Nat → QuicAddr))
  | [], index, la => .ok (index, la)
  | a :: rest, index, la =>
    if index < workerCount.toNat then
      match convert a with
      | some addr => bindLoop convert workerCount rest (index + 1) (Function.update la index addr)
      | none => .error (.bindAddress a)
    else .ok (index, la)

/-- The fill loop of `-bind`: `Workers[i].LocalAddr = Workers[(i-Index)%Index].LocalAddr`, for `n`
values of `i` from `i`. -/
def fillLoop (index : Nat) : Nat → Nat → (Nat → QuicAddr) → (Nat → QuicAddr)
  | 0, _, la => la
  | n + 1, i, la => fillLoop index n (i + 1) (Function.update la i (la ((i - index) % index)))

/-! ## `Init`, one block of options at a time -/

/-- `UINT32_MAX / sizeof(uint32_t)`, the cap on `MaxLatencyIndex` in timed runs. -/
def latencyIndexCap : UInt64 := 0xFFFFFFFF / 4

/-- `MaxLatencyIndex` as `Init` computes it when `PrintLatency` is set. -/
def maxLatencyIndexOf (k : PerfConstants) (c : PerfClient) : UInt64 :=
  if c.runTime ≠ 0 then
    let m := (c.runTime.toUInt64 / 1000) * k.maxRequestsPerSecond
    if m > latencyIndexCap then latencyIndexCap else m
  else (c.connectionCount * c.streamCount).toUInt64

/-- Remote target options: help, configuration, `target`, `ip`, `port`, `incrementtarget`, `cibir`. -/
def remoteOptions (k : PerfConstants) (env : InitEnv) (args : Args) :
    Except InitError PerfClient := do
  if args.help then throw .help
  if env.configurationStatus ≠ .success then throw (.configuration env.configurationStatus)
  let some target := args.str "target" <|> args.str "server" | throw .missingTarget
  if !env.targetAllocated then throw .targetOutOfMemory
  let c := { PerfClient.defaults k with target := target }
  let c := match args.num "ip" with
    | some n =>
      if UInt16.ofNat n = 4 then { c with targetFamily := .inet }
      else if UInt16.ofNat n = 6 then { c with targetFamily := .inet6 } else c
    | none => c
  let c := { c with
    targetPort := args.u16 "port" c.targetPort
    incrementTarget := args.flag "incrementtarget" c.incrementTarget }
  match args.str "cibir" with
  | some bytes =>
    let id := (env.decodeHexBuffer bytes).1
    if id.length = 0 then throw .cibir
    pure { c with cibirId := id }
  | none => pure c

/-- Local options: `threads`/`workers`, `affinitize`, `share` and the `-bind` list. -/
def localOptions (env : InitEnv) (args : Args) (c : PerfClient) : Except InitError PerfClient := do
  let c := { c with
    workerCount := args.u32 "workers" (args.u32 "threads" env.procActiveCount)
    affinitizeWorkers := args.flag "affinitize" c.affinitizeWorkers
    specificLocalAddresses := args.flag "share" c.specificLocalAddresses }
  match args.str "bind" with
  | some list =>
    let (index, la) ←
      bindLoop env.convertArgToAddress c.workerCount (list.splitOn ",") 0 c.localAddr
    pure { c with
      specificLocalAddresses := true
      localAddr := fillLoop index (c.workerCount.toNat - index) index la }
  | none => pure c

/-- General configuration options, read in the source's order (`pconn` after `pconnection`,
`plat` after `platency`). -/
def configOptions (args : Args) (c : PerfClient) : PerfClient :=
  { c with
    useTCP := args.flag "tcp" c.useTCP
    useEncryption := args.flag "encrypt" c.useEncryption
    usePacing := args.flag "pacing" c.usePacing
    useSendBuffering := args.flag "sendbuf" c.useSendBuffering
    printThroughput := args.flag "ptput" c.printThroughput
    printConnections := args.flag "pconn" (args.flag "pconnection" c.printConnections)
    printStreams := args.flag "pstream" c.printStreams
    printLatency := args.flag "plat" (args.flag "platency" c.printLatency) }

/-- Scenario options and their checks, then the implied stream and the request buffer. -/
def scenarioOptions (args : Args) (c : PerfClient) : Except InitError PerfClient := do
  let c := { c with
    connectionCount := args.u32 "conns" c.connectionCount
    streamCount := args.u32 "streams" (args.u32 "requests" c.streamCount)
    ioSize := args.u32 "iosize" c.ioSize }
  if c.ioSize < 256 then throw .ioSizeTooSmall
  let c := { c with
    upload := args.u64 "up" (args.u64 "upload" (args.u64 "request" c.upload))
    download := args.u64 "down" (args.u64 "download" (args.u64 "response" c.download))
    timed := args.flag "timed" c.timed
    repeatConnections := args.flag "rconn" c.repeatConnections
    repeatStreams := args.flag "rstream" c.repeatStreams
    runTime := args.u32 "run" (args.u32 "time" (args.u32 "runtime" c.runTime)) }
  if (c.repeatConnections || c.repeatStreams) && c.runTime = 0 then throw .runtimeRequired
  if c.useTCP && !c.useEncryption then throw .tcpEncryption
  let c := if (c.upload ≠ 0 || c.download ≠ 0) && c.streamCount = 0 then
    { c with streamCount := 1 } else c
  pure { c with downloadRequest := if c.timed then 0xFFFFFFFFFFFFFFFF else c.download }

/-- `LatencyValues`: sized and allocated only when `PrintLatency` is set. -/
def latencyOptions (k : PerfConstants) (env : InitEnv) (c : PerfClient) :
    Except InitError PerfClient := do
  if c.printLatency then
    let c := { c with maxLatencyIndex := maxLatencyIndexOf k c }
    if !env.latencyAllocated then throw .latencyOutOfMemory
    pure c
  else pure c

/-- `PerfClient::Init`. -/
def init (k : PerfConstants) (env : InitEnv) (args : Args) : Except InitError PerfClient := do
  let c ← remoteOptions k env args
  let c ← localOptions env args c
  let c ← scenarioOptions args (configOptions args c)
  latencyOptions k env c

end SecNetPerf
