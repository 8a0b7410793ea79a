import SecNetPerf.Stream
import Mathlib.Data.Finset.Basic

/-!
# SecNetPerf.World — workers, connections and streams under the transport's events

Every handler of `PerfClient.cpp` below the driver, as a function on a `World`: the workers with their
counters, their connection and stream pools (a pool is the `Finset` of live ids with the contents by
id), the latency words of the client, and the log of MsQuic calls the client makes.

A `World` changes one event at a time: an iteration of `Start`'s queuing loop, a worker thread's
`StartNewConnection`, a QUIC connection or stream event, or a TCP engine callback.  Each handler runs
to its end within its event, as the transport delivers the callbacks of a connection one at a time.
What the transport answers (`Initialize`'s calls, `StreamOpen`, the clock) is the event's `Inputs`.
A handler ends in a `Halt` when the transport would not deliver the event (`refused`), or when the
code faults: `TcpSendCompleteCallback` reading through a null `Next`, a callback reaching a freed
connection or stream, a throughput line dividing by zero.

Ghost fields record what the properties talk about: the `ConnectionShutdown` requests of a connection,
the finalizations of its streams, failed `Initialize` and `StreamOpen` calls, and the calls of
`OnConnectionsComplete`.
-/

namespace SecNetPerf

/-- How an event stops a run. -/
inductive Halt
  /-- The transport does not deliver this event here, or `Send` ran past the event's fuel. -/
  | refused
  /-- `TcpSendCompleteCallback` reads `StreamId` through the null `Next` of a chain's last node. -/
  | nullDereference
  /-- A callback reaches a connection or a stream that was freed. -/
  | useAfterFree
  /-- A throughput line of `OnStreamShutdownComplete` divides by zero. -/
  | divideByZero
  deriving DecidableEq, Repr

/-- The flags of the `StreamShutdown` calls. -/
inductive ShutdownFlag
  | abort
  | abortSend
  | abortReceive
  deriving DecidableEq, Repr

/-- A call into the MsQuic API, with the worker and the connection or stream it names. -/
inductive ApiCall
  /-- `MsQuic->ConnectionShutdown(Handle, QUIC_CONNECTION_SHUTDOWN_FLAG_NONE, 0)`. -/
  | connectionShutdown (w cid : Nat)
  /-- `QuicPrintConnectionStatistics(MsQuic, Handle)`. -/
  | printConnectionStatistics (w cid : Nat)
  /-- `MsQuic->StreamShutdown(Handle, flag, 0)`. -/
  | streamShutdown (w k : Nat) (flag : ShutdownFlag)
  /-- `QuicPrintStreamStatistics(MsQuic, Handle)`. -/
  | printStreamStatistics (w k : Nat)
  deriving DecidableEq, Repr

/-- A TCP send descriptor, `TcpSendData`.  The pool hands it out zeroed. -/
structure TcpSendData where
  streamId : UInt32
  isOpen : Bool
  fin : Bool
  abort : Bool
  length : UInt32
  deriving DecidableEq, Repr

/-- What the transport answers to the calls of `Initialize`. -/
structure InitResults where
  connectionOpen : Bool
  disable1RttEncryption : Bool
  cibirId : Bool
  shareUdpBinding : Bool
  localAddress : Bool
  connectionStart : Bool
  /-- `GetParam(QUIC_PARAM_CONN_LOCAL_ADDRESS)`: the address bound, or a failure. -/
  getLocalAddress : Option QuicAddr
  /-- `TcpConn->IsInitialized()`. -/
  tcpInitialized : Bool

/-- The call of `Initialize` that failed, after which it frees the connection. -/
inductive InitFailure
  | tcpConnection
  | connectionOpen
  | disable1RttEncryption
  | cibirId
  | shareUdpBinding
  | localAddress
  | connectionStart
  deriving DecidableEq, Repr

/-- The line `Initialize` writes when the call fails (the status follows in hex). -/
def InitFailure.message : InitFailure → String
  | .disable1RttEncryption => "SetDisable1RttEncryption failed, 0x"
  | .cibirId => "SetCibirId failed, 0x"
  | .shareUdpBinding => "SetShareUdpBinding failed, 0x"
  | .localAddress => "SetLocalAddr failed!\n"
  | .connectionStart => "Start failed, 0x"
  | _ => ""

/-- `PerfClientConnection::Initialize`: the failed call, or the worker's `LocalAddr` once the
connection is started (read back with `GetParam` when binding sharing has no address yet; a failed
`GetParam` only writes "GetLocalAddr failed!"). -/
def initializeConnection (c : PerfClient) (localAddr : QuicAddr) (r : InitResults) : Except InitFailure QuicAddr :=
  if c.useTCP then
    if r.tcpInitialized then .ok localAddr else .error .tcpConnection
  else if !r.connectionOpen then .error .connectionOpen
  else if !c.useEncryption && !r.disable1RttEncryption then .error .disable1RttEncryption
  else if c.cibirId.length ≠ 0 && !r.cibirId then .error .cibirId
  else if c.specificLocalAddresses && !r.shareUdpBinding then .error .shareUdpBinding
  else if c.specificLocalAddresses && localAddr.family ≠ .unspec && !r.localAddress then
    .error .localAddress
  else if !r.connectionStart then .error .connectionStart
  else if c.specificLocalAddresses && localAddr.family = .unspec then
    .ok (r.getLocalAddress.getD localAddr)
  else .ok localAddr

/-- A stream in the worker's pool: its connection, its fields, and (transport side) the QUIC sends
handed to `StreamSend` and not yet completed. -/
structure StreamSlot where
  conn : Nat
  st : PerfClientStream
  pending : List SendOp
  deriving Inhabited

/-- The fields of a `PerfClientConnection`, with its ghost and transport-side state. -/
structure PerfClientConnection where
  streamsCreated : Nat
  streamsActive : Nat
  /-- `StreamTable` (TCP): the entries, latest first, each a signature and a stream id. -/
  streamTable : List (UInt32 × Nat)
  /-- Transport side: whether `CONNECTED` was delivered. -/
  connected : Bool
  /-- Ghost: `ConnectionShutdown` calls for this connection. -/
  shutdownRequests : Nat
  /-- Ghost: its `StartNewStream` calls whose `StreamOpen` failed. -/
  failedOpens : Nat
  /-- Ghost: its finalized streams. -/
  finalized : Nat
  /-- Transport side (TCP): descriptors sent and not yet completed, oldest first. -/
  tcpQueue : List TcpSendData

/-- A connection as `ConnectionAllocator.Alloc` constructs it. -/
def PerfClientConnection.new : PerfClientConnection := ⟨0, 0, [], false, 0, 0, 0, []⟩

/-- The fields of a `PerfClientWorker`, with its pools and ghost counters. -/
structure PerfClientWorker where
  connectionsQueued : Nat
  connectionsCreated : Nat
  connectionsActive : Nat
  connectionsConnected : Nat
  connectionsCompleted : Nat
  streamsStarted : Nat
  streamsCompleted : Nat
  localAddr : QuicAddr
  /-- The live connections of `ConnectionAllocator`, and the contents of every id handed out. -/
  conns : Finset Nat
  conn : Nat → PerfClientConnection
  nextConn : Nat
  /-- The live streams of `StreamAllocator`, and the contents of every id handed out. -/
  streams : Finset Nat
  stream : Nat → StreamSlot
  nextStream : Nat
  /-- Ghost: connections that `Initialize` freed. -/
  failedInits : Nat
  /-- Ghost: `StreamOpen` failures. -/
  failedOpens : Nat
  /-- Ghost: finalizations without `SendSuccess && RecvSuccess`. -/
  failedFinalizations : Nat
  /-- Ghost: `SHUTDOWN_COMPLETE` of a connection whose shutdown the client never requested. -/
  unrequestedCompletions : Nat
  /-- Ghost: calls of `Client->OnConnectionsComplete()`. -/
  completionSignals : Nat

/-- A worker before its thread starts, with its `LocalAddr` from `Init`. -/
def PerfClientWorker.new (localAddr : QuicAddr) : PerfClientWorker :=
  ⟨0, 0, 0, 0, 0, 0, 0, localAddr, ∅, fun _ => .new, 0, ∅, fun _ => default, 0, 0, 0, 0, 0, 0⟩

/-- The client's workers, its latency words, and the MsQuic calls so far (latest first). -/
structure World where
  workers : Nat → PerfClientWorker
  running : Bool
  /-- The `i` of `Start`'s queuing loop. -/
  queueIndex : Nat
  curLatencyIndex : Nat
  latencyCount : Nat
  latencyValues : Nat → UInt32
  calls : List ApiCall

/-- The world when `Start` has created the worker threads. -/
def World.init (c : PerfClient) : World :=
  ⟨fun i => .new (c.localAddr i), true, 0, 0, 0, fun _ => 0, []⟩

/-- What the transport and the clock answer during one event. -/
structure Inputs where
  now : UInt64
  /-- How many iterations each `Send` may take. -/
  fuel : Nat
  /-- Whether the `i`-th `StreamOpen` of the event succeeds. -/
  openOk : Nat → Bool

/-- `f` with slot `i` holding `v`: `Function.update` for a pool indexed by ids, written without its
dependent cast so that a run on concrete inputs evaluates by `rfl`. -/
def setAt {α : Type} (f : Nat → α) (i : Nat) (v : α) : Nat → α := fun j => if j = i then v else f j

@[simp] theorem setAt_eq_update {α : Type} (f : Nat → α) (i : Nat) (v : α) :
    setAt f i v = Function.update f i v := by
  funext j; simp [setAt, Function.update_apply]

namespace World

/-! ## Updates -/

/-- Replace worker `w`. -/
def setWorker (W : World) (w : Nat) (wk : PerfClientWorker) : World :=
  { W with workers := setAt W.workers w wk }

/-- Replace connection `cid` of worker `w`. -/
def setConn (W : World) (w cid : Nat) (cn : PerfClientConnection) : World :=
  W.setWorker w { W.workers w with conn := setAt (W.workers w).conn cid cn }

/-- Replace stream `k` of worker `w`. -/
def setStream (W : World) (w k : Nat) (sl : StreamSlot) : World :=
  W.setWorker w { W.workers w with stream := setAt (W.workers w).stream k sl }

/-- Replace the fields of stream `k` of worker `w`. -/
def setSt (W : World) (w k : Nat) (st : PerfClientStream) : World :=
  W.setStream w k { (W.workers w).stream k with st := st }

/-- Hand TCP descriptors to connection `cid` of worker `w` (`TcpConn->Send`). -/
def enqueue (W : World) (w cid : Nat) (ds : List TcpSendData) : World :=
  let cn := (W.workers w).conn cid
  W.setConn w cid { cn with tcpQueue := cn.tcpQueue ++ ds }

/-- Record a call into MsQuic. -/
def call (W : World) (a : ApiCall) : World := { W with calls := a :: W.calls }

/-- The TCP descriptor of one send of a stream. -/
def tcpDescriptor (s : PerfClientStream) (op : SendOp) : TcpSendData :=
  ⟨s.signature, op.first, op.fin, false, op.length⟩

variable (c : PerfClient) (inp : Inputs)

/-- `PerfClientStream::Send` on stream `k` of worker `w`: QUIC sends join the stream's pending sends,
TCP descriptors join its connection's queue. -/
def send (w k : Nat) (W : World) : Except Halt World := do
  let sl := (W.workers w).stream k
  let some (st, ops) := PerfClientStream.sendLoop c (fun _ => inp.now) inp.fuel sl.st
    | throw .refused
  if c.useTCP then pure ((W.setSt w k st).enqueue w sl.conn (ops.map (tcpDescriptor st)))
  else pure (W.setStream w k { sl with st := st, pending := sl.pending ++ ops })

/-! ## Connections and streams -/

/-- `PerfClientConnection::StartNewStream` on connection `cid` of worker `w`, with the answer of
`StreamOpen`. -/
def startNewStream (w cid : Nat) (openOk : Bool) (W : World) : Except Halt World := do
  let wk := W.workers w
  let cn := wk.conn cid
  let cn := { cn with streamsCreated := cn.streamsCreated + 1, streamsActive := cn.streamsActive + 1 }
  let k := wk.nextStream
  let st := PerfClientStream.new c inp.now
  if c.useTCP || openOk then
    let st := if c.useTCP then { st with signature := UInt32.ofNat wk.streamsStarted } else st
    let cn := if c.useTCP then { cn with streamTable := (st.signature, k) :: cn.streamTable } else cn
    send c inp w k <| W.setWorker w { wk with
      conn := setAt wk.conn cid cn
      streams := insert k wk.streams
      stream := setAt wk.stream k ⟨cid, st, []⟩
      nextStream := k + 1
      streamsStarted := wk.streamsStarted + 1 }
  else
    pure <| W.setWorker w { wk with
      conn := setAt wk.conn cid { cn with failedOpens := cn.failedOpens + 1 }
      nextStream := k + 1
      failedOpens := wk.failedOpens + 1 }

/-- `n` calls of `StartNewStream`, the `i`-th of the event onward. -/
def startStreams (w cid : Nat) : Nat → Nat → World → Except Halt World
  | 0, _, W => pure W
  | n + 1, i, W => do startStreams w cid n (i + 1) (← startNewStream c inp w cid (inp.openOk i) W)

/-- `MsQuic->ConnectionShutdown` on connection `cid` of worker `w`. -/
def connectionShutdown (w cid : Nat) (W : World) : World :=
  let cn := (W.workers w).conn cid
  (W.setConn w cid { cn with shutdownRequests := cn.shutdownRequests + 1 }).call
    (.connectionShutdown w cid)

/-- `PerfClientConnection::OnStreamShutdownComplete`. -/
def connOnStreamShutdownComplete (w cid : Nat) (W : World) : Except Halt World :=
  let cn := (W.workers w).conn cid
  let cn := { cn with streamsActive := cn.streamsActive - 1 }
  let W := W.setConn w cid cn
  if c.repeatStreams then startStreams c inp w cid (c.streamCount.toNat - cn.streamsActive) 0 W
  else if cn.streamsActive = 0 ∧ cn.streamsCreated = c.streamCount.toNat then
    pure (connectionShutdown w cid W)
  else pure W

/-- The latency sample of `OnStreamShutdownComplete`: reserve an index, store below
`MaxLatencyIndex`, count. -/
def recordLatency (latency : UInt64) (W : World) : World :=
  let index := W.curLatencyIndex
  let W := { W with curLatencyIndex := index + 1 }
  if index < c.maxLatencyIndex.toNat then
    { W with
      latencyValues := setAt W.latencyValues index
        (if latency > 0xFFFFFFFF then 0xFFFFFFFF else latency.toUInt32)
      latencyCount := W.latencyCount + 1 }
  else W

/-- `PerfClientStream::OnStreamShutdownComplete` on stream `k` of worker `w`. -/
def onStreamShutdownComplete (w k : Nat) (W : World) : Except Halt World := do
  let wk := W.workers w
  let sl := wk.stream k
  if PerfClientStream.throughputDividesByZero c sl.st then throw .divideByZero
  let W := if PerfClientStream.succeeded c sl.st then
      let W := recordLatency c (PerfClientStream.latency sl.st) W
      W.setWorker w { W.workers w with streamsCompleted := (W.workers w).streamsCompleted + 1 }
    else W.setWorker w { W.workers w with failedFinalizations := (W.workers w).failedFinalizations + 1 }
  let wk := W.workers w
  let cn := wk.conn sl.conn
  let W := W.setWorker w { wk with
    streams := wk.streams.erase k
    conn := setAt wk.conn sl.conn { cn with finalized := cn.finalized + 1 } }
  connOnStreamShutdownComplete c inp w sl.conn W

/-- `PerfClientConnection::OnConnectionComplete`: the connection is connected. -/
def onConnectionComplete (w cid : Nat) (W : World) : Except Halt World :=
  let wk := W.workers w
  let W := W.setWorker w { wk with connectionsConnected := wk.connectionsConnected + 1 }
  if c.streamCount = 0 then pure (connectionShutdown w cid W)
  else startStreams c inp w cid c.streamCount.toNat 0 W

/-- `PerfClientWorker::OnConnectionComplete`. -/
def workerOnConnectionComplete (w : Nat) (W : World) : World :=
  let wk := W.workers w
  let wk := { wk with
    connectionsCompleted := wk.connectionsCompleted + 1
    connectionsActive := wk.connectionsActive - 1 }
  W.setWorker w <|
    if c.repeatConnections then { wk with connectionsQueued := wk.connectionsQueued + 1 }
    else if wk.connectionsActive = 0 ∧ wk.connectionsCreated = wk.connectionsQueued then
      { wk with completionSignals := wk.completionSignals + 1 }
    else wk

/-- `PerfClientConnection::OnShutdownComplete`: count the completion and free the connection. -/
def onShutdownComplete (w cid : Nat) (W : World) : World :=
  let W := if c.printConnections then W.call (.printConnectionStatistics w cid) else W
  let W := workerOnConnectionComplete c w W
  W.setWorker w { W.workers w with conns := (W.workers w).conns.erase cid }

/-- `PerfClientWorker::StartNewConnection`: count it, allocate it, `Initialize` it. -/
def startNewConnection (w : Nat) (r : InitResults) (W : World) : World :=
  let wk := W.workers w
  let cid := wk.nextConn
  let wk := { wk with
    connectionsCreated := wk.connectionsCreated + 1
    connectionsActive := wk.connectionsActive + 1
    conn := setAt wk.conn cid .new
    nextConn := cid + 1 }
  W.setWorker w <| match initializeConnection c wk.localAddr r with
    | .ok addr => { wk with conns := insert cid wk.conns, localAddr := addr }
    | .error _ => { wk with failedInits := wk.failedInits + 1 }

/-! ## QUIC stream events -/

/-- A QUIC stream event, `QUIC_STREAM_EVENT_*`. -/
inductive StreamEvent
  | receive (length : UInt64) (fin : Bool)
  /-- `SEND_COMPLETE` of the stream's `index`-th pending send. -/
  | sendComplete (index : Nat) (canceled : Bool)
  | peerSendAborted
  | peerReceiveAborted
  | sendShutdownComplete
  | shutdownComplete
  | idealSendBufferSize (byteCount : UInt64)

/-- `PerfClientStream::StreamCallback` on stream `k` of worker `w`. -/
def streamCallback (w k : Nat) (W : World) : StreamEvent → Except Halt World
  | .receive length fin =>
    let sl := (W.workers w).stream k
    let (st, cut) := sl.st.onReceive c length fin inp.now
    let W := W.setSt w k st
    pure (if cut then W.call (.streamShutdown w k .abortReceive) else W)
  | .sendComplete i canceled => do
    let sl := (W.workers w).stream k
    let some op := sl.pending[i]? | throw .refused
    let length := if op.buffer = .last then sl.st.lastBufferLength else c.ioSize
    let W := W.setStream w k
      { sl with st := sl.st.onSendComplete length canceled, pending := sl.pending.eraseIdx i }
    if canceled then pure W else send c inp w k W
  | .peerSendAborted =>
    let sl := (W.workers w).stream k
    let st := if sl.st.recvEndTime = 0 then { sl.st with recvEndTime := inp.now } else sl.st
    pure ((W.setSt w k st).call (.streamShutdown w k .abort))
  | .peerReceiveAborted =>
    let sl := (W.workers w).stream k
    let st := if sl.st.sendEndTime = 0 then { sl.st with sendEndTime := inp.now } else sl.st
    pure ((W.setSt w k { st with sendComplete := true }).call
      (.streamShutdown w k .abortSend))
  | .sendShutdownComplete =>
    let sl := (W.workers w).stream k
    let W := W.setSt w k { sl.st with sendEndTime := inp.now }
    pure (if c.printStreams then W.call (.printStreamStatistics w k) else W)
  | .shutdownComplete => onStreamShutdownComplete c inp w k W
  | .idealSendBufferSize n =>
    let sl := (W.workers w).stream k
    if c.upload ≠ 0 ∧ !c.useSendBuffering ∧ sl.st.idealSendBuffer ≠ n then
      send c inp w k (W.setSt w k { sl.st with idealSendBuffer := n })
    else pure W

/-! ## TCP callbacks -/

/-- `PerfClientConnection::GetTcpStream(ID)`: the stream of the first table entry with that signature. -/
def getTcpStream (cn : PerfClientConnection) (id : UInt32) : Option Nat :=
  (cn.streamTable.find? fun e => e.1 = id).map Prod.snd

/-- A stream a TCP callback reaches through the table must still be live. -/
def checkLive (w k : Nat) (W : World) : Except Halt Unit :=
  if k ∈ (W.workers w).streams then pure () else throw .useAfterFree

/-- `PerfClientStream::OnReceive` on stream `k` in TCP mode: the receive, and at the timed cut-off an
`Abort` descriptor on the stream's connection and, if the send side is done, the finalization. -/
def tcpOnReceive (w k : Nat) (length : UInt32) (fin : Bool) (W : World) : Except Halt World :=
  let sl := (W.workers w).stream k
  let (st, cut) := sl.st.onReceive c length.toUInt64 fin inp.now
  let W := W.setSt w k st
  if cut then
    let W := W.enqueue w sl.conn [⟨st.signature, false, false, true, 0⟩]
    if st.sendEndTime ≠ 0 then onStreamShutdownComplete c inp w k W else pure W
  else pure W

/-- `TcpReceiveCallback` on connection `cid` of worker `w`. -/
def tcpReceive (w cid : Nat) (id : UInt32) (fin abort : Bool) (length : UInt32) (W : World) :
    Except Halt World := do
  let some k := getTcpStream ((W.workers w).conn cid) id | pure W
  checkLive w k W
  let W ← tcpOnReceive c inp w k length fin W
  if abort then do
    checkLive w k W
    let sl := (W.workers w).stream k
    let st := if sl.st.recvEndTime = 0 then { sl.st with recvEndTime := inp.now } else sl.st
    let W := W.setSt w k st
    if st.sendEndTime ≠ 0 then onStreamShutdownComplete c inp w k W else pure W
  else pure W

/-- One iteration of the loop of `TcpSendCompleteCallback`, on the completed descriptor `d` whose
`Next` is `next`: the stream it credits is the one `next` names, as the code reads
`SendDataChain->StreamId` after moving `SendDataChain` to `Data->Next`. -/
def tcpSendCompleteStep (w cid : Nat) (d next : TcpSendData) (W : World) : Except Halt World :=
  match getTcpStream ((W.workers w).conn cid) next.streamId with
  | none => pure W
  | some k => do
    checkLive w k W
    let W ← send c inp w k (W.setSt w k (((W.workers w).stream k).st.onSendComplete d.length false))
    let st := ((W.workers w).stream k).st
    if (d.fin || d.abort) && st.sendEndTime = 0 then
      let W := W.setSt w k { st with sendEndTime := inp.now }
      if st.recvEndTime ≠ 0 then onStreamShutdownComplete c inp w k W else pure W
    else pure W

/-- The loop of `TcpSendCompleteCallback` over a chain of completed descriptors; the last one's
`Next` is null. -/
def tcpSendCompleteLoop (w cid : Nat) : List TcpSendData → World → Except Halt World
  | [], W => pure W
  | d :: rest, W => do
    let some next := rest.head? | throw .nullDereference
    tcpSendCompleteLoop w cid rest (← tcpSendCompleteStep c inp w cid d next W)

/-! ## Events -/

/-- One event of a run. -/
inductive Event
  /-- An iteration of `Start`'s loop: `Workers[i % WorkerCount].QueueNewConnection()`. -/
  | queue
  /-- Worker `w`'s thread creates a connection for a queued token. -/
  | startNewConnection (w : Nat) (r : InitResults)
  /-- `Wait` sets `Running = false`. -/
  | stop
  /-- `QUIC_CONNECTION_EVENT_CONNECTED`. -/
  | connected (w cid : Nat)
  /-- `QUIC_CONNECTION_EVENT_SHUTDOWN_COMPLETE`. -/
  | shutdownComplete (w cid : Nat)
  /-- A QUIC event of stream `k`. -/
  | stream (w k : Nat) (e : StreamEvent)
  /-- `TcpConnectCallback(Connection, IsConnected)`. -/
  | tcpConnect (w cid : Nat) (isConnected : Bool)
  /-- `TcpReceiveCallback(Connection, StreamID, Open, Fin, Abort, Length, Buffer)`. -/
  | tcpReceive (w cid : Nat) (id : UInt32) (fin abort : Bool) (length : UInt32)
  /-- `TcpSendCompleteCallback` with the first `n` descriptors the connection queued. -/
  | tcpSendComplete (w cid : Nat) (n : Nat)

/-- The connection a TCP callback names: live, freed, or never handed out. -/
def connGuard (w cid : Nat) (W : World) : Except Halt Unit :=
  if cid ∈ (W.workers w).conns then pure ()
  else if cid < (W.workers w).nextConn then throw .useAfterFree else throw .refused

/-- One event. -/
def step (W : World) : Event → Except Halt World
  | .queue =>
    if W.queueIndex < c.connectionCount.toNat then
      if c.workerCount = 0 then throw .divideByZero
      else
        let w := W.queueIndex % c.workerCount.toNat
        let wk := W.workers w
        pure { W.setWorker w { wk with connectionsQueued := wk.connectionsQueued + 1 } with
          queueIndex := W.queueIndex + 1 }
    else throw .refused
  | .startNewConnection w r =>
    let wk := W.workers w
    if W.running ∧ w < c.workerCount.toNat ∧ wk.connectionsCreated < wk.connectionsQueued then
      pure (startNewConnection c w r W)
    else throw .refused
  | .stop => pure { W with running := false }
  | .connected w cid =>
    let cn := (W.workers w).conn cid
    if !c.useTCP ∧ cid ∈ (W.workers w).conns ∧ !cn.connected then
      onConnectionComplete c inp w cid (W.setConn w cid { cn with connected := true })
    else throw .refused
  | .shutdownComplete w cid =>
    let wk := W.workers w
    if !c.useTCP ∧ cid ∈ wk.conns ∧ ∀ k ∈ wk.streams, (wk.stream k).conn ≠ cid then
      pure <| onShutdownComplete c w cid <|
        if (wk.conn cid).shutdownRequests = 0 then
          W.setWorker w { wk with unrequestedCompletions := wk.unrequestedCompletions + 1 }
        else W
    else throw .refused
  | .stream w k e =>
    if !c.useTCP ∧ k ∈ (W.workers w).streams then streamCallback c inp w k W e else throw .refused
  | .tcpConnect w cid isConnected =>
    if c.useTCP then do
      connGuard w cid W
      if !isConnected then onConnectionComplete c inp w cid W else pure (onShutdownComplete c w cid W)
    else throw .refused
  | .tcpReceive w cid id fin abort length =>
    if c.useTCP then do
      connGuard w cid W
      tcpReceive c inp w cid id fin abort length W
    else throw .refused
  | .tcpSendComplete w cid n =>
    if c.useTCP then do
      connGuard w cid W
      let cn := (W.workers w).conn cid
      if 0 < n ∧ n ≤ cn.tcpQueue.length then
        tcpSendCompleteLoop c inp w cid (cn.tcpQueue.take n)
          (W.setConn w cid { cn with tcpQueue := cn.tcpQueue.drop n })
      else throw .refused
    else throw .refused

end World

/-- The worlds some run of the client reaches after `Start`. -/
inductive Reachable (c : PerfClient) : World → Prop
  | init : Reachable c (World.init c)
  | step {W W' : World} (inp : Inputs) (e : World.Event) : Reachable c W →
      World.step c inp W e = .ok W' → Reachable c W'

/-- The world after a sequence of events, or the halt that stops it. -/
def World.run (c : PerfClient) (W : World) : List (Inputs × World.Event) → Except Halt World
  | [] => .ok W
  | (inp, e) :: es => do World.run c (← World.step c inp W e) es

end SecNetPerf
