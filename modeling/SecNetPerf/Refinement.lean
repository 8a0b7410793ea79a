import SecNetPerf.World
import SecNetPerf.Books
import Mathlib.Logic.Relation

/-!
# SecNetPerf.Refinement — the world's bookkeeping follows `SecNetPerf.Books`

`World.books` forgets a world's stream fields, send queues, stream tables, latency values and MsQuic
calls.  Each handler of `SecNetPerf.World` does to the bookkeeping what the handler of the same name
in `SecNetPerf.Books` does, so one event of the world is a sequence of steps of the bookkeeping
machine (`books_step`: none for an event that only touches stream fields, two for a TCP receive that
would finalize its stream twice), and every world a run reaches has reachable books
(`Reachable.books`).  `TcpSendCompleteCallback` never returns (`tcpSendCompleteLoop_ne_ok`), so it has
no bookkeeping to follow.
-/

namespace SecNetPerf

/-- From `x >>= f = .ok b`: the value `x` gave, and what `f` made of it. -/
theorem bind_eq_ok {ε α β : Type} {x : Except ε α} {f : α → Except ε β} {b : β} :
    x >>= f = .ok b ↔ ∃ a, x = .ok a ∧ f a = .ok b := by
  cases x <;> simp [bind, Except.bind]

@[simp] theorem pure_eq_ok {ε α : Type} {a b : α} : (pure a : Except ε α) = .ok b ↔ a = b := by
  simp [pure, Except.pure]

@[simp] theorem throw_ne_ok {ε α : Type} {e : ε} {b : α} : (throw e : Except ε α) ≠ .ok b := by
  simp [throw, throwThe, MonadExceptOf.throw]

/-- The counters of a connection. -/
def PerfClientConnection.books (cn : PerfClientConnection) : ConnBooks :=
  ⟨cn.streamsCreated, cn.streamsActive, cn.connected, cn.shutdownRequests, cn.failedOpens,
    cn.finalized⟩

/-- The counters and pools of a worker. -/
def PerfClientWorker.books (wk : PerfClientWorker) : WorkerBooks :=
  ⟨wk.connectionsQueued, wk.connectionsCreated, wk.connectionsActive, wk.connectionsConnected,
    wk.connectionsCompleted, wk.streamsStarted, wk.streamsCompleted, wk.conns,
    fun cid => (wk.conn cid).books, wk.nextConn, wk.streams, fun k => (wk.stream k).conn,
    wk.nextStream, wk.failedInits, wk.failedOpens, wk.failedFinalizations,
    wk.unrequestedCompletions, wk.completionSignals⟩

/-- The bookkeeping of a world. -/
def World.books (W : World) : Books :=
  ⟨fun w => (W.workers w).books, W.running, W.queueIndex, W.curLatencyIndex, W.latencyCount⟩

/-- One event of the bookkeeping machine. -/
def Books.Moves (c : PerfClient) (B B' : Books) : Prop := ∃ e, Books.step c B e = some B'

/-- Some events of the bookkeeping machine. -/
def Books.Steps (c : PerfClient) : Books → Books → Prop := Relation.ReflTransGen (Books.Moves c)

/-! ## The projection of the updates -/

@[simp] theorem PerfClientConnection.books_mk (a b : Nat) (t : List (UInt32 × Nat)) (d : Bool)
    (e f g : Nat) (q : List TcpSendData) :
    (PerfClientConnection.mk a b t d e f g q).books = ⟨a, b, d, e, f, g⟩ := rfl

@[simp] theorem PerfClientConnection.books_new : PerfClientConnection.new.books = ConnBooks.new := rfl

section
variable (cn : PerfClientConnection)
@[simp] theorem PerfClientConnection.books_streamsCreated : cn.books.streamsCreated = cn.streamsCreated := rfl
@[simp] theorem PerfClientConnection.books_streamsActive : cn.books.streamsActive = cn.streamsActive := rfl
@[simp] theorem PerfClientConnection.books_connected : cn.books.connected = cn.connected := rfl
@[simp] theorem PerfClientConnection.books_shutdownRequests :
    cn.books.shutdownRequests = cn.shutdownRequests := rfl
@[simp] theorem PerfClientConnection.books_failedOpens : cn.books.failedOpens = cn.failedOpens := rfl
@[simp] theorem PerfClientConnection.books_finalized : cn.books.finalized = cn.finalized := rfl
end

@[simp] theorem PerfClientConnection.books_update (f : Nat → PerfClientConnection) (cid : Nat)
    (cn : PerfClientConnection) :
    (fun i => (Function.update f cid cn i).books) = Function.update (fun i => (f i).books) cid cn.books := by
  funext i; rcases eq_or_ne i cid with rfl | h <;> simp [*]

@[simp] theorem StreamSlot.conn_update (f : Nat → StreamSlot) (k : Nat) (sl : StreamSlot) :
    (fun i => (Function.update f k sl i).conn) = Function.update (fun i => (f i).conn) k sl.conn := by
  funext i; rcases eq_or_ne i k with rfl | h <;> simp [*]

@[simp] theorem WorkerBooks.setConn_self (b : WorkerBooks) (cid : Nat) : b.setConn cid (b.conn cid) = b := by
  simp [WorkerBooks.setConn]

namespace World

@[simp] theorem books_workers (W : World) (w : Nat) : W.books.workers w = (W.workers w).books := rfl

@[simp] theorem setWorker_workers_self (W : World) (w : Nat) (wk : PerfClientWorker) :
    (W.setWorker w wk).workers w = wk := by
  simp [setWorker]

@[simp] theorem setConn_workers_self (W : World) (w cid : Nat) (cn : PerfClientConnection) :
    (W.setConn w cid cn).workers w = { W.workers w with conn := Function.update (W.workers w).conn cid cn } := by
  simp [setConn]

theorem books_setWorker (W : World) (w : Nat) (wk : PerfClientWorker) :
    (W.setWorker w wk).books = W.books.setWorker w wk.books := by
  simp only [books, setWorker, Books.setWorker, Books.mk.injEq, and_true]
  funext i; rcases eq_or_ne i w with rfl | h <;> simp [*]

@[simp] theorem books_setConn (W : World) (w cid : Nat) (cn : PerfClientConnection) :
    (W.setConn w cid cn).books = W.books.setWorker w ((W.workers w).books.setConn cid cn.books) := by
  simp [setConn, books_setWorker, PerfClientWorker.books, WorkerBooks.setConn]

theorem books_setStream (W : World) (w k : Nat) (sl : StreamSlot)
    (h : sl.conn = ((W.workers w).stream k).conn) : (W.setStream w k sl).books = W.books := by
  rw [setStream, books_setWorker]
  conv_rhs => rw [← Books.setWorker_self W.books w]
  simp only [books_workers, PerfClientWorker.books, setAt_eq_update, StreamSlot.conn_update, h,
    Function.update_eq_self]

@[simp] theorem books_call (W : World) (a : ApiCall) : (W.call a).books = W.books := rfl

@[simp] theorem books_withQueueIndex (W : World) (q : Nat) :
    ({ W with queueIndex := q } : World).books = { W.books with queueIndex := q } := rfl

@[simp] theorem books_withRunning (W : World) (b : Bool) :
    ({ W with running := b } : World).books = { W.books with running := b } := rfl

section
variable (W : World)
@[simp] theorem books_running : W.books.running = W.running := rfl
@[simp] theorem books_queueIndex : W.books.queueIndex = W.queueIndex := rfl
@[simp] theorem books_curLatencyIndex : W.books.curLatencyIndex = W.curLatencyIndex := rfl
@[simp] theorem books_latencyCount : W.books.latencyCount = W.latencyCount := rfl
end

@[simp] theorem books_setWorker_self (W : World) (w : Nat) :
    W.books.setWorker w (W.workers w).books = W.books :=
  Books.setWorker_self _ _

variable (c : PerfClient) (inp : Inputs)

/-! ## Handlers -/

@[simp] theorem books_setSt (W : World) (w k : Nat) (st : PerfClientStream) :
    (W.setSt w k st).books = W.books :=
  books_setStream _ _ _ _ rfl

@[simp] theorem books_enqueue (W : World) (w cid : Nat) (ds : List TcpSendData) :
    (W.enqueue w cid ds).books = W.books := by
  rw [enqueue, books_setConn]
  exact (congrArg (W.books.setWorker w) (WorkerBooks.setConn_self _ _)).trans (Books.setWorker_self _ _)

theorem books_send {w k : Nat} {W W' : World} (h : send c inp w k W = .ok W') : W'.books = W.books := by
  unfold send at h
  cases hl : PerfClientStream.sendLoop c (fun _ => inp.now) inp.fuel ((W.workers w).stream k).st with
  | none => simp [hl] at h
  | some r =>
    simp only [hl] at h
    split at h <;> simp only [pure_eq_ok] at h <;> subst h
    · simp
    · exact books_setStream _ _ _ _ rfl

theorem books_startNewStream {w cid : Nat} {ok : Bool} {W W' : World}
    (h : startNewStream c inp w cid ok W = .ok W') :
    W'.books = W.books.setWorker w ((W.workers w).books.startNewStream c cid ok) := by
  unfold startNewStream at h
  split at h
  next hok =>
    rw [books_send c inp h, books_setWorker]
    cases htcp : c.useTCP <;> simp only [htcp, Bool.false_or] at hok <;>
      simp [PerfClientWorker.books, WorkerBooks.startNewStream, htcp, hok]
  · simp only [pure_eq_ok] at h; subst h
    rw [books_setWorker]
    simp [PerfClientWorker.books, WorkerBooks.startNewStream, *]

theorem books_startStreams {w cid : Nat} : ∀ {n i : Nat} {W W' : World},
    startStreams c inp w cid n i W = .ok W' →
      W'.books = W.books.setWorker w ((W.workers w).books.startStreams c inp.openOk cid n i)
  | 0, _, _, _, h => by
    simp only [startStreams, pure_eq_ok] at h; subst h; simp [WorkerBooks.startStreams]
  | n + 1, i, W, W', h => by
    obtain ⟨W1, h1, h2⟩ := bind_eq_ok.1 h
    have e := books_startNewStream c inp h1
    have ew : (W1.workers w).books = (W.workers w).books.startNewStream c cid (inp.openOk i) := by
      simpa using congrArg (fun B => B.workers w) e
    rw [books_startStreams h2, ew, e, Books.setWorker_setWorker]; rfl

@[simp] theorem books_connectionShutdown (w cid : Nat) (W : World) :
    (connectionShutdown w cid W).books =
      W.books.setWorker w ((W.workers w).books.connectionShutdown cid) := by
  simp [connectionShutdown, WorkerBooks.connectionShutdown, PerfClientWorker.books]

theorem books_connOnStreamShutdownComplete {w cid : Nat} {W W' : World}
    (h : connOnStreamShutdownComplete c inp w cid W = .ok W') :
    W'.books = W.books.setWorker w ((W.workers w).books.connOnStreamShutdownComplete c inp.openOk cid) := by
  unfold connOnStreamShutdownComplete at h
  unfold WorkerBooks.connOnStreamShutdownComplete
  dsimp only at h
  split at h
  · rw [books_startStreams c inp h]; simp [PerfClientWorker.books, WorkerBooks.setConn, *]
  · split at h <;> simp only [pure_eq_ok] at h <;> subst h <;>
      simp [PerfClientWorker.books, WorkerBooks.setConn, *]

@[simp] theorem recordLatency_workers (l : UInt64) (W : World) :
    (recordLatency c l W).workers = W.workers := by
  unfold recordLatency; dsimp only; split_ifs <;> rfl

@[simp] theorem books_recordLatency (l : UInt64) (W : World) :
    (recordLatency c l W).books = Books.recordLatency c W.books := by
  unfold recordLatency Books.recordLatency; dsimp only [books]; split_ifs <;> rfl

theorem books_onStreamShutdownComplete {w k : Nat} {W W' : World}
    (h : onStreamShutdownComplete c inp w k W = .ok W') :
    W'.books = (if PerfClientStream.succeeded c ((W.workers w).stream k).st then
        Books.recordLatency c W.books else W.books).setWorker w
      ((W.workers w).books.onStreamShutdownComplete c inp.openOk k
        (PerfClientStream.succeeded c ((W.workers w).stream k).st)) := by
  unfold onStreamShutdownComplete at h
  dsimp only at h
  split at h
  · exact absurd h throw_ne_ok
  · rw [books_connOnStreamShutdownComplete c inp h]
    unfold WorkerBooks.onStreamShutdownComplete WorkerBooks.retire
    split <;> simp [books_setWorker, PerfClientWorker.books, WorkerBooks.setConn, *]

theorem books_onConnectionComplete {w cid : Nat} {W W' : World}
    (h : onConnectionComplete c inp w cid W = .ok W') :
    W'.books = W.books.setWorker w ((W.workers w).books.onConnectionComplete c inp.openOk cid) := by
  unfold onConnectionComplete at h
  unfold WorkerBooks.onConnectionComplete
  split at h
  · simp only [pure_eq_ok] at h; subst h; simp [books_setWorker, PerfClientWorker.books, *]
  · rw [books_startStreams c inp h]; simp [books_setWorker, PerfClientWorker.books, *]

@[simp] theorem books_workerOnConnectionComplete (w : Nat) (W : World) :
    (workerOnConnectionComplete c w W).books =
      W.books.setWorker w ((W.workers w).books.workerOnConnectionComplete c) := by
  unfold workerOnConnectionComplete WorkerBooks.workerOnConnectionComplete
  rw [books_setWorker]
  simp only [PerfClientWorker.books]
  split_ifs <;> rfl

@[simp] theorem books_onShutdownComplete (w cid : Nat) (W : World) :
    (onShutdownComplete c w cid W).books =
      W.books.setWorker w ((W.workers w).books.onShutdownComplete c cid) := by
  unfold onShutdownComplete
  generalize hW1 : (if c.printConnections then W.call (.printConnectionStatistics w cid) else W) = W1
  have e1 : W1.books = W.books ∧ W1.workers = W.workers := by subst hW1; split <;> exact ⟨rfl, rfl⟩
  have ew : ((workerOnConnectionComplete c w W1).workers w).books =
      (W.workers w).books.workerOnConnectionComplete c := by
    have := congrArg (fun B => B.workers w) (books_workerOnConnectionComplete c w W1)
    simpa only [books_workers, Books.setWorker_workers_self, e1.2] using this
  rw [books_setWorker, books_workerOnConnectionComplete, e1.1, Books.setWorker_setWorker]
  unfold WorkerBooks.onShutdownComplete
  rw [← ew]; rfl

@[simp] theorem books_startNewConnection (w : Nat) (r : InitResults) (W : World) :
    (startNewConnection c w r W).books = W.books.setWorker w ((W.workers w).books.startNewConnection
      (initializeConnection c (W.workers w).localAddr r).isOk) := by
  unfold startNewConnection WorkerBooks.startNewConnection
  rw [books_setWorker]
  split <;> rename_i hi <;> simp [hi, Except.isOk, Except.toBool, PerfClientWorker.books]

/-! ## Events -/

theorem mem_of_checkLive {w k : Nat} {W : World} {u : Unit} (h : checkLive w k W = .ok u) :
    k ∈ (W.workers w).streams := by
  unfold checkLive at h; split at h
  · assumption
  · exact absurd h throw_ne_ok

theorem mem_of_connGuard {w cid : Nat} {W : World} {u : Unit} (h : connGuard w cid W = .ok u) :
    cid ∈ (W.workers w).conns := by
  unfold connGuard at h; split at h
  · assumption
  · split at h <;> exact absurd h throw_ne_ok

theorem steps_of_books_eq {W W' : World} (h : W'.books = W.books) : Books.Steps c W.books W'.books :=
  h ▸ .refl

theorem moves_onStreamShutdownComplete {w k : Nat} {W W' : World} (hk : k ∈ (W.workers w).streams)
    (h : onStreamShutdownComplete c inp w k W = .ok W') : Books.Moves c W.books W'.books :=
  ⟨.streamShutdownComplete w k (PerfClientStream.succeeded c ((W.workers w).stream k).st) inp.openOk, by
    rw [books_onStreamShutdownComplete c inp h]; simp [Books.step, hk, PerfClientWorker.books]⟩

/-- A TCP callback that finalizes stream `k` when `p` holds, on a world `W1` with the books of `W`. -/
theorem steps_finalize_if {w k : Nat} {p : Prop} [Decidable p] {W W1 W' : World}
    (hk : k ∈ (W.workers w).streams) (hb : W1.books = W.books)
    (h : (if p then onStreamShutdownComplete c inp w k W1 else pure W1) = .ok W') :
    Books.Steps c W.books W'.books := by
  have hk1 : k ∈ (W1.workers w).streams := by
    simpa [PerfClientWorker.books] using congrArg (fun B => k ∈ (B.workers w).streams) hb ▸ hk
  split at h
  · exact hb ▸ .single (moves_onStreamShutdownComplete c inp hk1 h)
  · simp only [pure_eq_ok] at h; subst h; exact steps_of_books_eq c hb

theorem books_streamCallback {w k : Nat} {W W' : World} {e : StreamEvent}
    (hk : k ∈ (W.workers w).streams) (h : streamCallback c inp w k W e = .ok W') :
    Books.Steps c W.books W'.books := by
  cases e with
  | receive length fin =>
    simp only [streamCallback, pure_eq_ok] at h; subst h
    exact steps_of_books_eq c (by split <;> simp)
  | sendComplete i canceled =>
    simp only [streamCallback] at h
    cases hp : ((W.workers w).stream k).pending[i]? with
    | none => simp [hp] at h
    | some op =>
      simp only [hp] at h
      split at h
      · simp only [pure_eq_ok] at h; subst h; exact steps_of_books_eq c (books_setStream _ _ _ _ rfl)
      · exact steps_of_books_eq c ((books_send c inp h).trans (books_setStream _ _ _ _ rfl))
  | peerSendAborted | peerReceiveAborted | sendShutdownComplete =>
    simp only [streamCallback, pure_eq_ok] at h; subst h
    exact steps_of_books_eq c (by first | simp | split <;> simp)
  | shutdownComplete => exact .single (moves_onStreamShutdownComplete c inp hk h)
  | idealSendBufferSize n =>
    simp only [streamCallback] at h
    split at h
    · exact steps_of_books_eq c ((books_send c inp h).trans (books_setSt _ _ _ _))
    · simp only [pure_eq_ok] at h; subst h; exact .refl

theorem books_tcpOnReceive {w k : Nat} {length : UInt32} {fin : Bool} {W W' : World}
    (hk : k ∈ (W.workers w).streams) (h : tcpOnReceive c inp w k length fin W = .ok W') :
    Books.Steps c W.books W'.books := by
  unfold tcpOnReceive at h
  dsimp only at h
  split at h
  · exact steps_finalize_if c inp hk (by simp) h
  · simp only [pure_eq_ok] at h; subst h; exact steps_of_books_eq c (by simp)

theorem books_tcpReceive {w cid : Nat} {id : UInt32} {fin abort : Bool} {length : UInt32}
    {W W' : World} (h : tcpReceive c inp w cid id fin abort length W = .ok W') :
    Books.Steps c W.books W'.books := by
  unfold tcpReceive at h
  cases hg : getTcpStream ((W.workers w).conn cid) id with
  | none => simp only [hg, pure_eq_ok] at h; subst h; exact .refl
  | some k =>
    simp only [hg] at h
    obtain ⟨u, hc, h⟩ := bind_eq_ok.1 h
    obtain ⟨W2, h2, h3⟩ := bind_eq_ok.1 h
    refine (books_tcpOnReceive c inp (mem_of_checkLive hc) h2).trans ?_
    split at h3
    · obtain ⟨u, hc, h3⟩ := bind_eq_ok.1 h3
      exact steps_finalize_if c inp (mem_of_checkLive hc) (by simp) h3
    · simp only [pure_eq_ok] at h3; subst h3; exact .refl

/-- `TcpSendCompleteCallback` faults on every chain: at the last descriptor it reads through the
null `Next`. -/
theorem tcpSendCompleteLoop_ne_ok (w cid : Nat) :
    ∀ (d : TcpSendData) (rest : List TcpSendData) (W W' : World),
      tcpSendCompleteLoop c inp w cid (d :: rest) W ≠ .ok W'
  | d, [], W, W' => by simp [tcpSendCompleteLoop]
  | d, d' :: rest, W, W' => fun h => by
    rw [tcpSendCompleteLoop] at h
    simp only [List.head?_cons] at h
    obtain ⟨W1, -, h2⟩ := bind_eq_ok.1 h
    exact tcpSendCompleteLoop_ne_ok w cid d' rest W1 W' h2

/-- A `TcpSendCompleteCallback` event never returns: the transport refuses it, or the chain faults. -/
theorem step_tcpSendComplete_ne_ok (w cid n : Nat) (W W' : World) :
    World.step c inp W (.tcpSendComplete w cid n) ≠ .ok W' := by
  intro h
  simp only [World.step] at h
  split at h
  · obtain ⟨u, -, h⟩ := bind_eq_ok.1 h
    split at h
    next hn =>
      cases hq : ((W.workers w).conn cid).tcpQueue.take n with
      | nil =>
        have := congrArg List.length hq
        rw [List.length_take, List.length_nil] at this
        omega
      | cons d rest => rw [hq] at h; exact tcpSendCompleteLoop_ne_ok c inp _ _ _ _ _ _ h
    · exact throw_ne_ok h
  · exact throw_ne_ok h

end World

/-- The simulation: one event of the world is some events of the bookkeeping machine. -/
theorem books_step (c : PerfClient) (inp : Inputs) {W W' : World} {e : World.Event}
    (h : World.step c inp W e = .ok W') : Books.Steps c W.books W'.books := by
  cases e with
  | queue =>
    simp only [World.step] at h
    split at h
    · split at h
      · exact absurd h throw_ne_ok
      · simp only [pure_eq_ok] at h; subst h
        refine .single ⟨.queue, ?_⟩
        rw [Books.step, if_pos ⟨‹_›, ‹_›⟩]
        simp [World.books_setWorker, PerfClientWorker.books]
    · exact absurd h throw_ne_ok
  | startNewConnection w r =>
    simp only [World.step] at h
    split at h
    · simp only [pure_eq_ok] at h; subst h
      exact .single ⟨.startNewConnection w (initializeConnection c (W.workers w).localAddr r).isOk, by
        simp [Books.step, PerfClientWorker.books, *]⟩
    · exact absurd h throw_ne_ok
  | stop =>
    simp only [World.step, pure_eq_ok] at h; subst h; exact .single ⟨.stop, rfl⟩
  | connected w cid =>
    simp only [World.step] at h
    split at h
    · exact .single ⟨.connected w cid inp.openOk, by
        rw [World.books_onConnectionComplete c inp h]
        simp [Books.step, PerfClientWorker.books, WorkerBooks.setConn, *]⟩
    · exact absurd h throw_ne_ok
  | shutdownComplete w cid =>
    simp only [World.step] at h
    split at h
    next hc =>
      simp only [pure_eq_ok] at h; subst h
      refine .single ⟨.shutdownComplete w cid, ?_⟩
      rw [Books.step, if_pos (by simpa [PerfClientWorker.books] using hc)]
      by_cases hr : ((W.workers w).conn cid).shutdownRequests = 0 <;>
        simp [hr, World.books_setWorker, PerfClientWorker.books]
    · exact absurd h throw_ne_ok
  | stream w k e =>
    simp only [World.step] at h
    split at h
    · exact World.books_streamCallback c inp (by simp_all) h
    · exact absurd h throw_ne_ok
  | tcpConnect w cid isConnected =>
    simp only [World.step] at h
    split at h
    · obtain ⟨u, hg, h⟩ := bind_eq_ok.1 h
      have hm := World.mem_of_connGuard hg
      refine .single ⟨.tcpConnect w cid isConnected inp.openOk, ?_⟩
      cases isConnected <;> simp only [Bool.not_false, Bool.not_true, Bool.false_eq_true, ↓reduceIte] at h
      · rw [World.books_onConnectionComplete c inp h]; simp [Books.step, PerfClientWorker.books, *]
      · simp only [pure_eq_ok] at h; subst h; simp [Books.step, PerfClientWorker.books, *]
    · exact absurd h throw_ne_ok
  | tcpReceive w cid id fin abort length =>
    simp only [World.step] at h
    split at h
    · obtain ⟨u, -, h⟩ := bind_eq_ok.1 h
      exact World.books_tcpReceive c inp h
    · exact absurd h throw_ne_ok
  | tcpSendComplete w cid n => exact absurd h (World.step_tcpSendComplete_ne_ok c inp w cid n W W')

theorem Books.Reachable.steps {c : PerfClient} {B B' : Books} (h : Books.Reachable c B)
    (hs : Books.Steps c B B') : Books.Reachable c B' := by
  induction hs with
  | refl => exact h
  | tail _ hm ih => obtain ⟨e, he⟩ := hm; exact .step e ih he

/-- A world that a sequence of events reaches from a reachable world is reachable. -/
theorem Reachable.run {c : PerfClient} {W : World} (h : Reachable c W) {es : List (Inputs × World.Event)}
    {W' : World} (hr : World.run c W es = .ok W') : Reachable c W' := by
  induction es generalizing W with
  | nil => cases hr; exact h
  | cons p es ih =>
    obtain ⟨inp, e⟩ := p
    obtain ⟨W1, h1, h2⟩ := bind_eq_ok.1 hr
    exact ih (h.step inp e h1) h2

@[simp] theorem World.books_init (c : PerfClient) : (World.init c).books = Books.init := rfl

/-- Every world a run reaches has reachable bookkeeping. -/
theorem Reachable.books {c : PerfClient} {W : World} (h : Reachable c W) : Books.Reachable c W.books := by
  induction h with
  | init => exact World.books_init c ▸ .init
  | step inp e _ hs ih => exact ih.steps (books_step c inp hs)

end SecNetPerf
