import SecNetPerf.Init

/-!
# SecNetPerf.Stream — one request stream: `PerfClientStream`

The stream's fields and what its handlers do to them: the send loop `Send`, `OnSendComplete`,
`OnReceive`, and the success tests at the start of `OnStreamShutdownComplete`.  What the handlers hand
to the transport (sends, shutdowns) and what finalization does to the connection, the worker and the
latency samples belong to `SecNetPerf.World`.

A handler reads the clock through `now`; the send loop reads it once per iteration through `clock`.
`Send` may loop forever (its counters are 64-bit and wrap), so `sendLoop` takes fuel and returns
`none` when the loop runs past it.
-/

namespace SecNetPerf

/-- `UINT64_MAX`. -/
def uint64Max : UInt64 := 0xFFFFFFFFFFFFFFFF

/-- Modelled from the spec: `CxPlatTimeDiff64(T1, T2)`, the time from `T1` to `T2` ("now − StartTime"). -/
def timeDiff (t1 t2 : UInt64) : UInt64 := t2 - t1

/-- Modelled from the spec: `MS_TO_US(x)`, milliseconds as microseconds. -/
def msToUs (x : UInt64) : UInt64 := x * 1000

/-- The buffer a send hands to the transport: the client's shared `RequestBuffer` (whose `Length` is
`IoSize`) or the stream's `LastBuffer`. -/
inductive SendBuffer
  | request
  | last
  deriving DecidableEq, Repr

/-- One send: its buffer, `DataLength`, whether it carries `QUIC_SEND_FLAG_FIN`, and the TCP
descriptor's `Open` (`BytesSent == DataLength` after the send). -/
structure SendOp where
  buffer : SendBuffer
  length : UInt32
  fin : Bool
  first : Bool
  deriving DecidableEq, Repr

/-- The fields of a `PerfClientStream`. -/
structure PerfClientStream where
  /-- `Entry.Signature`, the stream id in TCP mode. -/
  signature : UInt32
  startTime : UInt64
  sendEndTime : UInt64
  recvStartTime : UInt64
  recvEndTime : UInt64
  bytesSent : UInt64
  bytesOutstanding : UInt64
  bytesAcked : UInt64
  bytesReceived : UInt64
  idealSendBuffer : UInt64
  sendComplete : Bool
  /-- `LastBuffer.Length`. -/
  lastBufferLength : UInt32
  deriving DecidableEq, Repr, Inhabited

namespace PerfClientStream

/-- Modelled from the spec: a stream as `StreamAllocator.Alloc` constructs it: `StartTime` is the clock,
`IdealSendBuffer` is `IoSize`, every other field is zero. -/
def new (c : PerfClient) (now : UInt64) : PerfClientStream :=
  ⟨0, now, 0, 0, 0, 0, 0, 0, 0, c.ioSize.toUInt64, false, 0⟩

variable (c : PerfClient)

/-! ## `Send` -/

/-- `BytesLeftToSend` in an iteration of `Send`. -/
def bytesLeftToSend (s : PerfClientStream) : UInt64 :=
  if c.timed then uint64Max else if c.upload ≠ 0 then c.upload - s.bytesSent else 8

/-- The condition of `Send`'s loop. -/
def wantsToSend (s : PerfClientStream) : Bool := !s.sendComplete && s.bytesOutstanding < s.idealSendBuffer

/-- The buffer, length and `FIN` of one iteration of `Send`. -/
def nextSend (s : PerfClientStream) (now : UInt64) : SendBuffer × UInt32 × Bool :=
  let left := bytesLeftToSend c s
  if left ≤ c.ioSize.toUInt64 then (.last, left.toUInt32, true)
  else (.request, c.ioSize, c.timed && msToUs c.upload ≤ timeDiff s.startTime now)

/-- One iteration of `Send`: the stream after it and the send it issues. -/
def sendStep (s : PerfClientStream) (now : UInt64) : PerfClientStream × SendOp :=
  let (buf, len, fin) := nextSend c s now
  let sent := s.bytesSent + len.toUInt64
  ({ s with
      lastBufferLength := if buf = .last then len else s.lastBufferLength
      sendComplete := s.sendComplete || fin
      bytesSent := sent
      bytesOutstanding := s.bytesOutstanding + len.toUInt64 },
    ⟨buf, len, fin, sent = len.toUInt64⟩)

/-- `Send`, with the clock read `clock k` in the `k`-th iteration: the stream and the sends issued, or
`none` past `fuel` iterations. -/
def sendLoop (clock : Nat → UInt64) : Nat → PerfClientStream → Option (PerfClientStream × List SendOp)
  | 0, s => if wantsToSend s then none else some (s, [])
  | n + 1, s =>
    if wantsToSend s then
      let (s', op) := sendStep c s (clock 0)
      (sendLoop (fun k => clock (k + 1)) n s').map fun r => (r.1, op :: r.2)
    else some (s, [])

/-- A property of the stream and the sends issued so far that every iteration of `Send` keeps holds
after the whole loop. -/
theorem sendLoop_induction (P : PerfClientStream → List SendOp → Prop)
    (step : ∀ s ops now, P s ops → wantsToSend s = true →
      P (sendStep c s now).1 (ops ++ [(sendStep c s now).2])) :
    ∀ (n : Nat) (clock : Nat → UInt64) {s : PerfClientStream} {ops : List SendOp}
      {r : PerfClientStream × List SendOp}, P s ops → sendLoop c clock n s = some r → P r.1 (ops ++ r.2)
  | 0, _, s, ops, r, h, hs => by
    unfold sendLoop at hs
    split at hs
    · cases hs
    · cases hs; rwa [List.append_nil]
  | n + 1, clock, s, ops, r, h, hs => by
    unfold sendLoop at hs
    split at hs
    · obtain ⟨r', h', rfl⟩ := Option.map_eq_some'.1 hs
      simpa only [List.append_assoc, List.singleton_append] using
        sendLoop_induction P step n _ (step s ops (clock 0) h ‹_›) h'
    · cases hs; rwa [List.append_nil]

/-- `Send` never stamps `SendEndTime`. -/
theorem sendLoop_sendEndTime : ∀ (n : Nat) (clock : Nat → UInt64) (s : PerfClientStream)
    {r : PerfClientStream × List SendOp}, sendLoop c clock n s = some r → r.1.sendEndTime = s.sendEndTime :=
  fun n clock s r => @sendLoop_induction c (fun s' _ => s'.sendEndTime = s.sendEndTime)
    (fun _ _ _ h _ => h) n clock s [] r rfl

/-! ## Completions and receives -/

/-- `OnSendComplete(Length, Canceled)` up to its call of `Send`. -/
def onSendComplete (s : PerfClientStream) (length : UInt32) (canceled : Bool) : PerfClientStream :=
  let s := { s with bytesOutstanding := s.bytesOutstanding - length.toUInt64 }
  if canceled then s else { s with bytesAcked := s.bytesAcked + length.toUInt64 }

/-- The timed cut-off of `OnReceive`: `Timed`, and `Download` milliseconds since `RecvStartTime`. -/
def timedOut (s : PerfClientStream) (now : UInt64) : Bool :=
  c.timed && msToUs c.download ≤ timeDiff s.recvStartTime now

/-- `OnReceive(Length, Finished)` on the stream's fields, every clock read giving `now`, and whether
the timed cut-off fired (the caller then aborts the receive). -/
def onReceive (s : PerfClientStream) (length : UInt64) (finished : Bool) (now : UInt64) :
    PerfClientStream × Bool :=
  let s := { s with bytesReceived := s.bytesReceived + length }
  let s := if s.recvStartTime = 0 then { s with recvStartTime := now } else s
  let s := if finished then { s with recvEndTime := now } else s
  if timedOut c s now then ({ s with recvEndTime := now }, true) else (s, false)

theorem onReceive_sendEndTime (s : PerfClientStream) (length : UInt64) (finished : Bool) (now : UInt64) :
    (onReceive c s length finished now).1.sendEndTime = s.sendEndTime := by
  unfold onReceive; dsimp only; split_ifs <;> rfl

/-! ## The tests of `OnStreamShutdownComplete` -/

/-- `SendSuccess`. -/
def sendSuccess (s : PerfClientStream) : Bool :=
  s.sendEndTime ≠ 0 && !(c.upload ≠ 0 && (s.bytesAcked < 8 || (!c.timed && s.bytesAcked < c.upload)))

/-- `RecvSuccess`. -/
def recvSuccess (s : PerfClientStream) : Bool :=
  s.recvStartTime ≠ 0 && s.recvEndTime ≠ 0 &&
    !(c.download ≠ 0 && (s.bytesReceived = 0 || (!c.timed && s.bytesReceived < c.download)))

/-- `SendSuccess && RecvSuccess`: the stream records a latency sample and counts as completed. -/
def succeeded (s : PerfClientStream) : Bool := sendSuccess c s && recvSuccess c s

/-- The divisor `1000 * ElapsedMicroseconds` of a throughput line is zero. -/
def zeroInterval (t1 t2 : UInt64) : Bool := 1000 * (t2 - t1) = 0

/-- A throughput line `OnStreamShutdownComplete` prints would divide by zero. -/
def throughputDividesByZero (s : PerfClientStream) : Bool :=
  c.printThroughput &&
    ((c.upload ≠ 0 && sendSuccess c s && zeroInterval s.startTime s.sendEndTime) ||
      (c.download ≠ 0 && recvSuccess c s && zeroInterval s.recvStartTime s.recvEndTime))

/-- `CxPlatTimeDiff64(StartTime, RecvEndTime)`, the stream's latency. -/
def latency (s : PerfClientStream) : UInt64 := timeDiff s.startTime s.recvEndTime

end PerfClientStream

end SecNetPerf
