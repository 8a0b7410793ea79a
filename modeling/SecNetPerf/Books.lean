import SecNetPerf.Init
import Mathlib.Algebra.BigOperators.Group.Finset

/-!
# SecNetPerf.Books — the client's bookkeeping, as an abstract machine

What the counters of `PerfClient.cpp` are for: how many connections each worker has queued, created,
connected and completed, which of its connections and streams are live, how many streams each
connection created, has active and finalized, and how many latency indices were reserved and filled.
The machine keeps these and nothing else (no stream fields, no send queues, no output), so each of its
events is a handler of `SecNetPerf.World` that takes what it cannot see as a parameter: whether
`Initialize` succeeded, whether a finalized stream succeeded, which `StreamOpen` calls succeed.

A handler of the code is a handler here on the same counters, in the same order.  What a handler does
to one worker is a function on `WorkerBooks`; `Books.step` adds the guards under which the transport
delivers the event, and the latency counters, which all workers share.  `SecNetPerf.Refinement` proves
that every event of the world is a step of this machine on the world's bookkeeping (or leaves it
unchanged), and `SecNetPerf.Accounting` proves the machine's invariants.
-/

namespace SecNetPerf

/-- The counters of a `PerfClientConnection`. -/
structure ConnBooks where
  streamsCreated : Nat
  streamsActive : Nat
  /-- Transport side: whether `CONNECTED` was delivered. -/
  connected : Bool
  /-- `ConnectionShutdown` calls for the connection. -/
  shutdownRequests : Nat
  /-- Its `StartNewStream` calls whose `StreamOpen` failed. -/
  failedOpens : Nat
  /-- Its finalized streams. -/
  finalized : Nat

/-- A connection as `ConnectionAllocator.Alloc` constructs it. -/
def ConnBooks.new : ConnBooks := ⟨0, 0, false, 0, 0, 0⟩

/-- The counters and pools of a `PerfClientWorker`. -/
structure WorkerBooks where
  connectionsQueued : Nat
  connectionsCreated : Nat
  connectionsActive : Nat
  connectionsConnected : Nat
  connectionsCompleted : Nat
  streamsStarted : Nat
  streamsCompleted : Nat
  /-- The live connections, and the counters of every connection id handed out. -/
  conns : Finset Nat
  conn : Nat → ConnBooks
  nextConn : Nat
  /-- The live streams, and the connection of every stream id handed out. -/
  streams : Finset Nat
  streamConn : Nat → Nat
  nextStream : Nat
  failedInits : Nat
  failedOpens : Nat
  failedFinalizations : Nat
  unrequestedCompletions : Nat
  completionSignals : Nat

/-- A worker before its thread starts. -/
def WorkerBooks.new : WorkerBooks :=
  ⟨0, 0, 0, 0, 0, 0, 0, ∅, fun _ => .new, 0, ∅, fun _ => 0, 0, 0, 0, 0, 0, 0⟩

/-- The bookkeeping of the whole client. -/
structure Books where
  workers : Nat → WorkerBooks
  running : Bool
  queueIndex : Nat
  curLatencyIndex : Nat
  latencyCount : Nat

/-- The bookkeeping when `Start` has created the worker threads. -/
def Books.init : Books := ⟨fun _ => .new, true, 0, 0, 0⟩

namespace WorkerBooks

/-- Replace the counters of connection `cid`. -/
def setConn (b : WorkerBooks) (cid : Nat) (cn : ConnBooks) : WorkerBooks :=
  { b with conn := Function.update b.conn cid cn }

variable (c : PerfClient) (opens : Nat → Bool)

/-- `StartNewStream` on connection `cid`, with the answer of `StreamOpen` (TCP never opens one). -/
def startNewStream (cid : Nat) (ok : Bool) (b : WorkerBooks) : WorkerBooks :=
  let cn := b.conn cid
  let cn := { cn with streamsCreated := cn.streamsCreated + 1, streamsActive := cn.streamsActive + 1 }
  if c.useTCP || ok then
    { b with
      conn := Function.update b.conn cid cn
      streams := insert b.nextStream b.streams
      streamConn := Function.update b.streamConn b.nextStream cid
      nextStream := b.nextStream + 1
      streamsStarted := b.streamsStarted + 1 }
  else
    { b with
      conn := Function.update b.conn cid { cn with failedOpens := cn.failedOpens + 1 }
      nextStream := b.nextStream + 1
      failedOpens := b.failedOpens + 1 }

/-- `n` calls of `StartNewStream`, the `i`-th answered by `opens i`. -/
def startStreams (cid : Nat) : Nat → Nat → WorkerBooks → WorkerBooks
  | 0, _, b => b
  | n + 1, i, b => startStreams cid n (i + 1) (startNewStream c cid (opens i) b)

/-- `ConnectionShutdown` on connection `cid`. -/
def connectionShutdown (cid : Nat) (b : WorkerBooks) : WorkerBooks :=
  b.setConn cid { b.conn cid with shutdownRequests := (b.conn cid).shutdownRequests + 1 }

/-- `PerfClientConnection::OnStreamShutdownComplete`. -/
def connOnStreamShutdownComplete (cid : Nat) (b : WorkerBooks) : WorkerBooks :=
  let cn := { b.conn cid with streamsActive := (b.conn cid).streamsActive - 1 }
  let b := b.setConn cid cn
  if c.repeatStreams then startStreams c opens cid (c.streamCount.toNat - cn.streamsActive) 0 b
  else if cn.streamsActive = 0 ∧ cn.streamsCreated = c.streamCount.toNat then connectionShutdown cid b
  else b

/-- The stream's part of `PerfClientStream::OnStreamShutdownComplete` on stream `k`, which succeeded
(`SendSuccess && RecvSuccess`) or not: count it, free it, and count the finalization on its
connection. -/
def retire (k : Nat) (success : Bool) (b : WorkerBooks) : WorkerBooks :=
  let cn := b.conn (b.streamConn k)
  { b with
    streamsCompleted := if success then b.streamsCompleted + 1 else b.streamsCompleted
    failedFinalizations := if success then b.failedFinalizations else b.failedFinalizations + 1
    streams := b.streams.erase k
    conn := Function.update b.conn (b.streamConn k) { cn with finalized := cn.finalized + 1 } }

/-- The worker's part of `PerfClientStream::OnStreamShutdownComplete` on stream `k`. -/
def onStreamShutdownComplete (k : Nat) (success : Bool) (b : WorkerBooks) : WorkerBooks :=
  connOnStreamShutdownComplete c opens (b.streamConn k) (b.retire k success)

/-- `PerfClientConnection::OnConnectionComplete`. -/
def onConnectionComplete (cid : Nat) (b : WorkerBooks) : WorkerBooks :=
  let b := { b with connectionsConnected := b.connectionsConnected + 1 }
  if c.streamCount = 0 then connectionShutdown cid b else startStreams c opens cid c.streamCount.toNat 0 b

/-- `PerfClientWorker::OnConnectionComplete`. -/
def workerOnConnectionComplete (b : WorkerBooks) : WorkerBooks :=
  let b := { b with
    connectionsCompleted := b.connectionsCompleted + 1
    connectionsActive := b.connectionsActive - 1 }
  if c.repeatConnections then { b with connectionsQueued := b.connectionsQueued + 1 }
  else if b.connectionsActive = 0 ∧ b.connectionsCreated = b.connectionsQueued then
    { b with completionSignals := b.completionSignals + 1 }
  else b

/-- `PerfClientConnection::OnShutdownComplete`: count the completion, free the connection. -/
def onShutdownComplete (cid : Nat) (b : WorkerBooks) : WorkerBooks :=
  let b := workerOnConnectionComplete c b
  { b with conns := b.conns.erase cid }

/-- `PerfClientWorker::StartNewConnection`, `Initialize` succeeding or not. -/
def startNewConnection (ok : Bool) (b : WorkerBooks) : WorkerBooks :=
  let cid := b.nextConn
  let b := { b with
    connectionsCreated := b.connectionsCreated + 1
    connectionsActive := b.connectionsActive + 1
    conn := Function.update b.conn cid .new
    nextConn := cid + 1 }
  if ok then { b with conns := insert cid b.conns } else { b with failedInits := b.failedInits + 1 }

end WorkerBooks

namespace Books

/-- Replace the bookkeeping of worker `w`. -/
def setWorker (B : Books) (w : Nat) (b : WorkerBooks) : Books :=
  { B with workers := Function.update B.workers w b }

@[simp] theorem setWorker_workers_self (B : Books) (w : Nat) (b : WorkerBooks) :
    (B.setWorker w b).workers w = b := by
  simp [setWorker]

@[simp] theorem setWorker_setWorker (B : Books) (w : Nat) (b b' : WorkerBooks) :
    (B.setWorker w b).setWorker w b' = B.setWorker w b' := by
  simp [setWorker]

@[simp] theorem setWorker_self (B : Books) (w : Nat) : B.setWorker w (B.workers w) = B := by
  simp [setWorker]

variable (c : PerfClient)

/-- The latency sample of a successful finalization: reserve an index, fill it below
`MaxLatencyIndex`. -/
def recordLatency (B : Books) : Books :=
  if B.curLatencyIndex < c.maxLatencyIndex.toNat then
    { B with curLatencyIndex := B.curLatencyIndex + 1, latencyCount := B.latencyCount + 1 }
  else { B with curLatencyIndex := B.curLatencyIndex + 1 }

@[simp] theorem recordLatency_workers (B : Books) : (recordLatency c B).workers = B.workers := by
  unfold recordLatency; split <;> rfl

@[simp] theorem recordLatency_queueIndex (B : Books) : (recordLatency c B).queueIndex = B.queueIndex := by
  unfold recordLatency; split <;> rfl

@[simp] theorem recordLatency_curLatencyIndex (B : Books) :
    (recordLatency c B).curLatencyIndex = B.curLatencyIndex + 1 := by
  unfold recordLatency; split <;> rfl

/-- An event of the bookkeeping, with what the world decides and the books cannot see. -/
inductive Event
  | queue
  | startNewConnection (w : Nat) (ok : Bool)
  | stop
  | connected (w cid : Nat) (opens : Nat → Bool)
  | shutdownComplete (w cid : Nat)
  /-- `OnStreamShutdownComplete` of stream `k`, from a QUIC event or a TCP callback. -/
  | streamShutdownComplete (w k : Nat) (success : Bool) (opens : Nat → Bool)
  | tcpConnect (w cid : Nat) (isConnected : Bool) (opens : Nat → Bool)

/-- One event of the bookkeeping, or `none` where the world refuses it. -/
def step (B : Books) : Event → Option Books
  | .queue =>
    if B.queueIndex < c.connectionCount.toNat ∧ c.workerCount ≠ 0 then
      let w := B.queueIndex % c.workerCount.toNat
      let b := B.workers w
      some { B.setWorker w { b with connectionsQueued := b.connectionsQueued + 1 } with
        queueIndex := B.queueIndex + 1 }
    else none
  | .startNewConnection w ok =>
    let b := B.workers w
    if B.running ∧ w < c.workerCount.toNat ∧ b.connectionsCreated < b.connectionsQueued then
      some (B.setWorker w (b.startNewConnection ok))
    else none
  | .stop => some { B with running := false }
  | .connected w cid opens =>
    let b := B.workers w
    if !c.useTCP ∧ cid ∈ b.conns ∧ !(b.conn cid).connected then
      some (B.setWorker w ((b.setConn cid { b.conn cid with connected := true }).onConnectionComplete
        c opens cid))
    else none
  | .shutdownComplete w cid =>
    let b := B.workers w
    if !c.useTCP ∧ cid ∈ b.conns ∧ ∀ k ∈ b.streams, b.streamConn k ≠ cid then
      let b := if (b.conn cid).shutdownRequests = 0 then
          { b with unrequestedCompletions := b.unrequestedCompletions + 1 } else b
      some (B.setWorker w (b.onShutdownComplete c cid))
    else none
  | .streamShutdownComplete w k success opens =>
    let b := B.workers w
    if k ∈ b.streams then
      some (((if success then recordLatency c B else B)).setWorker w
        (b.onStreamShutdownComplete c opens k success))
    else none
  | .tcpConnect w cid isConnected opens =>
    let b := B.workers w
    if c.useTCP ∧ cid ∈ b.conns then
      some (B.setWorker w
        (if !isConnected then b.onConnectionComplete c opens cid else b.onShutdownComplete c cid))
    else none

/-- The bookkeeping some run reaches. -/
inductive Reachable : Books → Prop
  | init : Reachable Books.init
  | step {B B' : Books} (e : Event) : Reachable B → step c B e = some B' → Reachable B'

end Books

end SecNetPerf
