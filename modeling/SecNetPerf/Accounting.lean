import SecNetPerf.Books

/-!
# SecNetPerf.Accounting — what a worker's counters always say

Invariants of the bookkeeping machine `SecNetPerf.Books`, kept by every handler from the start of a
run.  `WorkerBooks.Inv` holds in both back-ends:

* `ConnectionsActive` is the number of live connections plus the connections whose `Initialize`
  failed: `Initialize` frees those without `OnConnectionComplete`, so they are never counted as
  completed (`Inv.active`);
* `ConnectionsCompleted + ConnectionsActive = ConnectionsCreated` (`Inv.completed`);
* a live connection's `StreamsActive` is the number of its live streams plus its `StartNewStream`
  calls whose `StreamOpen` failed, which free the stream without decrementing it (`Inv.streamsActive`);
* `StreamsStarted` counts the finalized streams, successful or not, and the live ones (`Inv.started`).

Each handler of `WorkerBooks` keeps `Inv` given what its caller guarantees (the connection it names is
live, the stream it finalizes is live); `Books.step` checks exactly that.
-/

namespace SecNetPerf

open Finset

/-! ## Counting -/

section Counting

/-- A new element `k` with value `a`: the count of value `b` grows by one if `a = b`. -/
theorem card_filter_insert_update {s : Finset Nat} {g : Nat → Nat} {k a b : Nat} (hk : k ∉ s) :
    ((insert k s).filter fun j => Function.update g k a j = b).card =
      (s.filter fun j => g j = b).card + if a = b then 1 else 0 := by
  have hs : (s.filter fun j => Function.update g k a j = b) = s.filter fun j => g j = b :=
    filter_congr fun j hj => by rw [Function.update_noteq (ne_of_mem_of_not_mem hj hk)]
  rw [filter_insert, Function.update_same, hs]
  split
  · exact card_insert_of_not_mem fun h => hk (mem_of_mem_filter _ h)
  · rfl

/-- Removing an element `k` of `s`: the count of its value drops by one. -/
theorem card_filter_erase {s : Finset Nat} {g : Nat → Nat} {k b : Nat} (hk : k ∈ s) :
    ((s.erase k).filter fun j => g j = b).card + (if g k = b then 1 else 0) =
      (s.filter fun j => g j = b).card := by
  rw [filter_erase]
  split
  · exact card_erase_add_one (mem_filter.2 ⟨hk, ‹_›⟩)
  · rw [erase_eq_of_not_mem fun h => ‹¬_› (mem_filter.1 h).2]; rfl

/-- A sum over `s` of a function changed at `i ∈ s`. -/
theorem sum_comp_update_add {α : Type} (g : α → Nat) (f : Nat → α) {s : Finset Nat} {i : Nat}
    (v : α) (hi : i ∈ s) :
    (∑ x ∈ s, g (Function.update f i v x)) + g (f i) = (∑ x ∈ s, g (f x)) + g v := by
  have e : (fun x => g (Function.update f i v x)) = Function.update (fun x => g (f x)) i (g v) :=
    funext fun x => by rcases eq_or_ne x i with rfl | h <;> simp [*]
  rw [e, sum_update_of_mem hi, ← add_sum_erase s _ hi, sdiff_singleton_eq_erase]
  omega

end Counting

namespace WorkerBooks

/-- The live streams of connection `cid`. -/
def liveStreams (b : WorkerBooks) (cid : Nat) : Finset Nat :=
  b.streams.filter fun k => b.streamConn k = cid

/-- The bookkeeping invariant of a worker. -/
structure Inv (b : WorkerBooks) : Prop where
  conns_lt : ∀ cid ∈ b.conns, cid < b.nextConn
  streams_lt : ∀ k ∈ b.streams, k < b.nextStream
  streamConn_lt : ∀ k ∈ b.streams, b.streamConn k < b.nextConn
  nextConn_eq : b.nextConn = b.connectionsCreated
  created_le : b.connectionsCreated ≤ b.connectionsQueued
  active : b.connectionsActive = b.conns.card + b.failedInits
  completed : b.connectionsCompleted + b.connectionsActive = b.connectionsCreated
  streamsActive : ∀ cid ∈ b.conns,
    (b.conn cid).streamsActive = (b.liveStreams cid).card + (b.conn cid).failedOpens
  started : b.streamsCompleted + b.failedFinalizations + b.streams.card = b.streamsStarted

theorem inv_new : WorkerBooks.new.Inv := by
  constructor <;> simp [WorkerBooks.new]

variable {c : PerfClient} {opens : Nat → Bool} {b : WorkerBooks}

/-- Changing a connection's counters other than `StreamsActive` and `FailedOpens` keeps `Inv`. -/
theorem Inv.setConn (h : b.Inv) {cid : Nat} {cn : ConnBooks}
    (ha : cn.streamsActive = (b.conn cid).streamsActive) (hf : cn.failedOpens = (b.conn cid).failedOpens) :
    (b.setConn cid cn).Inv := by
  refine { h with streamsActive := fun cid' hc => ?_ }
  simp only [WorkerBooks.setConn, liveStreams, Function.update_apply]
  split
  · subst cid'; rw [ha, hf]; exact h.streamsActive cid hc
  · exact h.streamsActive cid' hc

theorem Inv.connectionShutdown (h : b.Inv) (cid : Nat) : (b.connectionShutdown cid).Inv :=
  h.setConn rfl rfl

@[simp] theorem nextConn_startNewStream (cid : Nat) (ok : Bool) :
    (b.startNewStream c cid ok).nextConn = b.nextConn := by
  unfold startNewStream; split <;> rfl

theorem Inv.startNewStream (h : b.Inv) {cid : Nat} (hc : cid < b.nextConn) (ok : Bool) :
    (b.startNewStream c cid ok).Inv := by
  have hk : b.nextStream ∉ b.streams := fun hm => lt_irrefl _ (h.streams_lt _ hm)
  unfold WorkerBooks.startNewStream
  dsimp only
  split
  · refine { h with
      streams_lt := fun j hj => ?_
      streamConn_lt := fun j hj => ?_
      streamsActive := fun cid' hc' => ?_
      started := ?_ }
    · rcases mem_insert.1 hj with rfl | hj
      · exact Nat.lt_succ_self _
      · exact Nat.lt_succ_of_lt (h.streams_lt j hj)
    · rcases mem_insert.1 hj with rfl | hj
      · simpa using hc
      · simpa [Function.update_noteq (ne_of_mem_of_not_mem hj hk)] using h.streamConn_lt j hj
    · simp only [liveStreams, card_filter_insert_update hk]
      have := h.streamsActive cid' hc'
      rcases eq_or_ne cid' cid with rfl | hne
      · simp only [liveStreams, Function.update_same, ↓reduceIte] at this ⊢; omega
      · simp only [liveStreams, Function.update_noteq hne, if_neg (Ne.symm hne)] at this ⊢; omega
    · simp only [card_insert_of_not_mem hk]; have := h.started; omega
  · refine { h with
      streams_lt := fun j hj => Nat.lt_succ_of_lt (h.streams_lt j hj)
      streamsActive := fun cid' hc' => ?_ }
    have := h.streamsActive cid' hc'
    rcases eq_or_ne cid' cid with rfl | hne
    · simp only [liveStreams, Function.update_same] at this ⊢; omega
    · simp only [liveStreams, Function.update_noteq hne] at this ⊢; omega

/-- What a single `StartNewStream` leaves alone, all of `StartNewStream`'s loop leaves alone. -/
theorem startStreams_invariant {α : Type} (f : WorkerBooks → α) {cid : Nat}
    (hf : ∀ b ok, f (b.startNewStream c cid ok) = f b) :
    ∀ (n i : Nat) (b : WorkerBooks), f (b.startStreams c opens cid n i) = f b
  | 0, _, _ => rfl
  | n + 1, i, b => (startStreams_invariant f hf n (i + 1) _).trans (hf b _)

@[simp] theorem streamsCompleted_startStreams (cid n i : Nat) :
    (b.startStreams c opens cid n i).streamsCompleted = b.streamsCompleted :=
  startStreams_invariant _ (fun b ok => by unfold startNewStream; split <;> rfl) _ _ _

@[simp] theorem connectionsQueued_startStreams (cid n i : Nat) :
    (b.startStreams c opens cid n i).connectionsQueued = b.connectionsQueued :=
  startStreams_invariant _ (fun b ok => by unfold startNewStream; split <;> rfl) _ _ _

theorem Inv.startStreams {cid : Nat} :
    ∀ {n i : Nat} {b : WorkerBooks}, b.Inv → cid < b.nextConn → (b.startStreams c opens cid n i).Inv
  | 0, _, _, h, _ => h
  | n + 1, _, _, h, hc => by
    unfold WorkerBooks.startStreams
    exact Inv.startStreams (h.startNewStream hc _) (by simpa using hc)

/-- A finalization followed by the decrement of `StreamsActive` keeps `Inv`. -/
theorem Inv.retire (h : b.Inv) {k : Nat} (hk : k ∈ b.streams) (success : Bool) :
    let b' := b.retire k success
    (b'.setConn (b.streamConn k)
      { b'.conn (b.streamConn k) with
        streamsActive := (b'.conn (b.streamConn k)).streamsActive - 1 }).Inv := by
  refine { h with
    streams_lt := fun j hj => h.streams_lt j (mem_of_mem_erase hj)
    streamConn_lt := fun j hj => h.streamConn_lt j (mem_of_mem_erase hj)
    streamsActive := fun cid hc => ?_
    started := ?_ }
  · have := h.streamsActive cid hc
    have e := card_filter_erase (g := b.streamConn) (b := cid) hk
    simp only [WorkerBooks.retire, WorkerBooks.setConn, Function.update_idem, liveStreams] at this e ⊢
    rcases eq_or_ne cid (b.streamConn k) with rfl | hne
    · simp only [Function.update_same, ↓reduceIte] at e ⊢; omega
    · simp only [Function.update_noteq hne, if_neg (Ne.symm hne)] at e ⊢; omega
  · have := h.started
    have := card_erase_add_one hk
    simp only [WorkerBooks.retire, WorkerBooks.setConn]
    split <;> omega

theorem Inv.onStreamShutdownComplete (h : b.Inv) {k : Nat} (hk : k ∈ b.streams) (success : Bool) :
    (b.onStreamShutdownComplete c opens k success).Inv := by
  have h' := h.retire hk success
  unfold WorkerBooks.onStreamShutdownComplete WorkerBooks.connOnStreamShutdownComplete
  dsimp only at h' ⊢
  split_ifs
  · exact h'.startStreams (h.streamConn_lt k hk)
  · exact h'.connectionShutdown _
  · exact h'

theorem Inv.onConnectionComplete (h : b.Inv) {cid : Nat} (hc : cid ∈ b.conns) :
    (b.onConnectionComplete c opens cid).Inv := by
  have h' : ({ b with connectionsConnected := b.connectionsConnected + 1 } : WorkerBooks).Inv := { h with }
  unfold WorkerBooks.onConnectionComplete
  split
  · exact h'.connectionShutdown _
  · exact h'.startStreams (h.conns_lt cid hc)

theorem Inv.onShutdownComplete (h : b.Inv) {cid : Nat} (hc : cid ∈ b.conns) :
    (b.onShutdownComplete c cid).Inv := by
  have hcard := card_erase_add_one hc
  have := h.active
  have := h.completed
  unfold WorkerBooks.onShutdownComplete WorkerBooks.workerOnConnectionComplete
  dsimp only
  split_ifs <;>
  exact { h with
    conns_lt := fun j hj => h.conns_lt j (mem_of_mem_erase hj)
    created_le := by dsimp only; have := h.created_le; omega
    active := by dsimp only; omega
    completed := by dsimp only; omega
    streamsActive := fun j hj => h.streamsActive j (mem_of_mem_erase hj) }

theorem Inv.startNewConnection (h : b.Inv) (hq : b.connectionsCreated < b.connectionsQueued)
    (ok : Bool) : (b.startNewConnection ok).Inv := by
  have hn : b.nextConn ∉ b.conns := fun hm => lt_irrefl _ (h.conns_lt _ hm)
  have hs : ∀ cid ∈ b.conns, cid ≠ b.nextConn := fun cid hc he => hn (he ▸ hc)
  have hl : b.liveStreams b.nextConn = ∅ :=
    filter_eq_empty_iff.2 fun k hk he => lt_irrefl _ (he ▸ h.streamConn_lt k hk)
  have := h.active
  have := h.completed
  have := h.nextConn_eq
  unfold WorkerBooks.startNewConnection
  split
  · refine { h with
      conns_lt := fun j hj => ?_
      streamConn_lt := fun j hj => Nat.lt_succ_of_lt (h.streamConn_lt j hj)
      nextConn_eq := by dsimp only; omega
      created_le := by dsimp only; omega
      active := by dsimp only; rw [card_insert_of_not_mem hn]; omega
      completed := by dsimp only; omega
      streamsActive := fun j hj => ?_ }
    · rcases mem_insert.1 hj with rfl | hj
      · exact Nat.lt_succ_self _
      · exact Nat.lt_succ_of_lt (h.conns_lt j hj)
    · rcases mem_insert.1 hj with rfl | hj
      · simp only [liveStreams] at hl; simp [liveStreams, ConnBooks.new, hl]
      · simpa [Function.update_noteq (hs j hj)] using h.streamsActive j hj
  · refine { h with
      conns_lt := fun j hj => Nat.lt_succ_of_lt (h.conns_lt j hj)
      streamConn_lt := fun j hj => Nat.lt_succ_of_lt (h.streamConn_lt j hj)
      nextConn_eq := by dsimp only; omega
      created_le := by dsimp only; omega
      active := by dsimp only; omega
      completed := by dsimp only; omega
      streamsActive := fun j hj => ?_ }
    simpa [Function.update_noteq (hs j hj)] using h.streamsActive j hj

/-! ## The QUIC back-end without `RepeatStreams` -/

/-- Changing connection `cid` without changing its `Finalized` leaves their sum unchanged. -/
theorem sum_finalized_update {f : Nat → ConnBooks} {s : Finset Nat} {cid : Nat} {x : ConnBooks}
    (h : x.finalized = (f cid).finalized) :
    ∑ j ∈ s, (Function.update f cid x j).finalized = ∑ j ∈ s, (f j).finalized :=
  sum_congr rfl fun j _ => by rcases eq_or_ne j cid with rfl | hne <;> simp [*]

/-- Changing connection `cid` without changing whether it connected leaves the connected ones. -/
theorem filter_connected_update {f : Nat → ConnBooks} {s : Finset Nat} {cid : Nat} {x : ConnBooks}
    (h : x.connected = (f cid).connected) :
    s.filter (fun j => (Function.update f cid x j).connected = true) =
      s.filter fun j => (f j).connected = true :=
  filter_congr fun j _ => by rcases eq_or_ne j cid with rfl | hne <;> simp [*]

/-- Connection `cid` connects. -/
theorem card_filter_connected_set {f : Nat → ConnBooks} {n cid : Nat} (hc : cid < n)
    (hf : (f cid).connected = false) {x : ConnBooks} (hx : x.connected = true) :
    ((range n).filter fun j => (Function.update f cid x j).connected = true).card =
      ((range n).filter fun j => (f j).connected = true).card + 1 := by
  have e : ((range n).filter fun j => (Function.update f cid x j).connected = true) =
      insert cid ((range n).filter fun j => (f j).connected = true) := by
    ext j; rcases eq_or_ne j cid with rfl | hne <;> simp [*]
  rw [e, card_insert_of_not_mem (by simp [hf])]

/-- A new connection `n` has not connected. -/
theorem filter_connected_new (f : Nat → ConnBooks) (n : Nat) :
    ((range (n + 1)).filter fun j => (Function.update f n .new j).connected = true) =
      (range n).filter fun j => (f j).connected = true := by
  ext j
  rcases lt_trichotomy j n with hj | rfl | hj
  · simp [hj, Function.update_noteq hj.ne, Nat.lt_succ_of_lt hj]
  · simp [ConnBooks.new]
  · simp [Function.update_noteq hj.ne']; omega

/-- What the QUIC bookkeeping asks of one live connection with `m` streams still to start: it
created `StreamCount` streams if it connected and none otherwise, each created stream is active or
finalized, and it asked for its shutdown only once connected, with no stream active or to start. -/
structure ConnStarting (c : PerfClient) (x : ConnBooks) (m : Nat) : Prop where
  streamsCreated : x.streamsCreated + m = if x.connected then c.streamCount.toNat else 0
  finalized : x.finalized + x.streamsActive = x.streamsCreated
  requested : 0 < x.shutdownRequests → x.streamsActive = 0 ∧ x.connected = true ∧ m = 0

namespace ConnStarting

variable {x : ConnBooks} {m : Nat}

theorem new : ConnStarting c .new 0 := ⟨rfl, rfl, fun h => absurd h (Nat.lt_irrefl 0)⟩

/-- A connection with streams still to start has not asked for its shutdown. -/
theorem shutdownRequests_eq (h : ConnStarting c x (m + 1)) : x.shutdownRequests = 0 :=
  Nat.eq_zero_of_not_pos fun hp => Nat.succ_ne_zero m (h.requested hp).2.2

/-- `StartNewStream` counts one more created and active stream, whether `StreamOpen` succeeds or
not. -/
theorem startNewStream (h : ConnStarting c x (m + 1)) :
    ConnStarting c { x with streamsCreated := x.streamsCreated + 1, streamsActive := x.streamsActive + 1 } m :=
  ⟨by have := h.streamsCreated; dsimp only; omega, by have := h.finalized; dsimp only; omega,
    fun hp => absurd h.shutdownRequests_eq (Nat.pos_iff_ne_zero.1 hp)⟩

/-- `CONNECTED`: the connection now has its `StreamCount` streams to start. -/
theorem connect (h : ConnStarting c x 0) (hn : x.connected = false) :
    ConnStarting c { x with connected := true } c.streamCount.toNat := by
  have hc := h.streamsCreated
  simp only [hn, Bool.false_eq_true, ↓reduceIte, add_zero] at hc
  refine ⟨by simp [hc], h.finalized, fun hp => absurd (h.requested hp).2.1 ?_⟩
  simp [hn]

/-- `ConnectionShutdown` on a connected connection with no stream active. -/
theorem connectionShutdown (h : ConnStarting c x 0) (ha : x.streamsActive = 0) (hcon : x.connected = true) :
    ConnStarting c { x with shutdownRequests := x.shutdownRequests + 1 } 0 :=
  ⟨h.streamsCreated, h.finalized, fun _ => ⟨ha, hcon, rfl⟩⟩

/-- One of its live streams is finalized. -/
theorem finalize (h : ConnStarting c x 0) (ha : 0 < x.streamsActive) :
    ConnStarting c { x with finalized := x.finalized + 1, streamsActive := x.streamsActive - 1 } 0 :=
  ⟨h.streamsCreated, by have := h.finalized; dsimp only; omega,
    fun hp => absurd (h.requested hp).1 (Nat.pos_iff_ne_zero.1 ha)⟩

end ConnStarting

/-- Connection `i` changes; the others keep what `ConnStarting` says of them. -/
theorem connStarting_update {f : Nat → ConnBooks} {s : Finset Nat} {e e' : Nat → Nat} {i : Nat}
    {x : ConnBooks} (h : ∀ j ∈ s, ConnStarting c (f j) (e j)) (he : ∀ j, j ≠ i → e' j = e j)
    (hx : i ∈ s → ConnStarting c x (e' i)) :
    ∀ j ∈ s, ConnStarting c (Function.update f i x j) (e' j) := by
  intro j hj
  rcases eq_or_ne j i with rfl | hne
  · rw [Function.update_same]; exact hx hj
  · rw [Function.update_noteq hne, he j hne]; exact h j hj

/-- The QUIC bookkeeping of a worker while connection `cid` still has `m` of its `StreamCount`
streams to start (`m = 0` between events): every stream belongs to a live connection, every live
connection is as `ConnStarting` says, the streams started or refused are `StreamCount` per connected
connection, and — while the transport completes only connections whose shutdown was requested —
each completed connection finalized `StreamCount` streams. -/
structure Starting (c : PerfClient) (b : WorkerBooks) (cid m : Nat) : Prop where
  streamConn_mem : ∀ k ∈ b.streams, b.streamConn k ∈ b.conns
  conn : ∀ j ∈ b.conns, ConnStarting c (b.conn j) (if j = cid then m else 0)
  opened : b.streamsStarted + b.failedOpens + m = c.streamCount.toNat * b.connectionsConnected
  connected : b.connectionsConnected = ((range b.nextConn).filter fun j => (b.conn j).connected).card
  completed : b.unrequestedCompletions = 0 → b.streamsCompleted + b.failedFinalizations =
    c.streamCount.toNat * b.connectionsCompleted + ∑ j ∈ b.conns, (b.conn j).finalized

/-- The QUIC bookkeeping of a worker between events. -/
def QuicInv (c : PerfClient) (b : WorkerBooks) : Prop := Starting c b 0 0

theorem Starting.rest {cid : Nat} (h : Starting c b cid 0) : QuicInv c b :=
  { h with conn := fun j hj => by simpa using h.conn j hj }

/-- Between events no live connection has a stream to start. -/
theorem QuicInv.conn0 (h : QuicInv c b) {j : Nat} (hj : j ∈ b.conns) : ConnStarting c (b.conn j) 0 := by
  simpa using h.conn j hj

theorem quicInv_new : QuicInv c WorkerBooks.new := by
  constructor <;> simp [WorkerBooks.new]

@[simp] theorem conns_startNewStream (cid : Nat) (ok : Bool) :
    (b.startNewStream c cid ok).conns = b.conns := by
  unfold startNewStream; split <;> rfl

theorem Starting.startNewStream {cid m : Nat} (h : Starting c b cid (m + 1))
    (hk : b.nextStream ∉ b.streams) (hc : cid ∈ b.conns) (ok : Bool) :
    Starting c (b.startNewStream c cid ok) cid m := by
  have hx : ConnStarting c (b.conn cid) (m + 1) := by simpa using h.conn cid hc
  have he : ∀ j, j ≠ cid → (if j = cid then m else 0) = if j = cid then m + 1 else 0 :=
    fun j hne => by simp [hne]
  have hop := h.opened
  unfold WorkerBooks.startNewStream
  dsimp only
  split
  · refine
      { streamConn_mem := fun j hj => ?_
        conn := connStarting_update h.conn he fun _ => by rw [if_pos rfl]; exact hx.startNewStream
        opened := by dsimp only; omega
        connected := by simpa only [filter_connected_update] using h.connected
        completed := by simpa only [sum_finalized_update] using h.completed }
    rcases mem_insert.1 hj with rfl | hj
    · simpa using hc
    · simpa [Function.update_noteq (ne_of_mem_of_not_mem hj hk)] using h.streamConn_mem j hj
  · have hx' := hx.startNewStream
    exact
      { streamConn_mem := h.streamConn_mem
        conn := connStarting_update h.conn he fun _ => by rw [if_pos rfl]; exact ⟨hx'.1, hx'.2, hx'.3⟩
        opened := by dsimp only; omega
        connected := by simpa only [filter_connected_update] using h.connected
        completed := by simpa only [sum_finalized_update] using h.completed }

theorem Starting.startStreams {cid : Nat} :
    ∀ {n m i : Nat} {b : WorkerBooks}, Starting c b cid (n + m) → b.Inv → cid ∈ b.conns →
      Starting c (b.startStreams c opens cid n i) cid m
  | 0, m, _, _, h, _, _ => by simpa using h
  | n + 1, m, _, b, h, hI, hc => by
    unfold WorkerBooks.startStreams
    have hk : b.nextStream ∉ b.streams := fun hm => lt_irrefl _ (hI.streams_lt _ hm)
    rw [Nat.add_right_comm] at h
    exact Starting.startStreams (h.startNewStream hk hc _) (hI.startNewStream (hI.conns_lt cid hc) _)
      (by simpa using hc)

theorem QuicInv.connectionShutdown (h : QuicInv c b) {cid : Nat} (ha : (b.conn cid).streamsActive = 0)
    (hcon : (b.conn cid).connected = true) : QuicInv c (b.connectionShutdown cid) := by
  unfold WorkerBooks.connectionShutdown WorkerBooks.setConn
  exact
    { streamConn_mem := h.streamConn_mem
      conn := connStarting_update h.conn (fun _ _ => rfl) fun hc => by
        rw [ite_self]; exact (h.conn0 hc).connectionShutdown ha hcon
      opened := h.opened
      connected := by simpa only [filter_connected_update] using h.connected
      completed := by simpa only [sum_finalized_update] using h.completed }

theorem QuicInv.connect (h : QuicInv c b) (hI : b.Inv) {cid : Nat} (hc : cid ∈ b.conns)
    (hn : (b.conn cid).connected = false) :
    QuicInv c ((b.setConn cid { b.conn cid with connected := true }).onConnectionComplete c opens cid) := by
  have h2 : Starting c { b.setConn cid { b.conn cid with connected := true } with
      connectionsConnected := b.connectionsConnected + 1 } cid c.streamCount.toNat := by
    unfold WorkerBooks.setConn
    exact
      { streamConn_mem := h.streamConn_mem
        conn := connStarting_update h.conn (fun j hne => by simp [hne]) fun _ => by
          rw [if_pos rfl]; exact (h.conn0 hc).connect hn
        opened := by have := h.opened; simp only [add_zero] at this; dsimp only; rw [Nat.mul_succ]; omega
        connected := by
          dsimp only
          rw [card_filter_connected_set (hI.conns_lt cid hc) hn rfl, h.connected]
        completed := by simpa only [sum_finalized_update] using h.completed }
  have hI1 : (b.setConn cid { b.conn cid with connected := true }).Inv := hI.setConn rfl rfl
  have hI2 : ({ b.setConn cid { b.conn cid with connected := true } with
      connectionsConnected := b.connectionsConnected + 1 } : WorkerBooks).Inv := { hI1 with }
  unfold WorkerBooks.onConnectionComplete
  split
  · rename_i hS
    simp only [hS, UInt32.toNat_zero] at h2
    have hx := (h2.conn cid hc)
    simp only [if_pos rfl] at hx
    refine QuicInv.connectionShutdown h2.rest ?_ (by simp [WorkerBooks.setConn])
    have := hx.finalized
    have := hx.streamsCreated
    simp [WorkerBooks.setConn, hS] at *; omega
  · exact (Starting.startStreams (by simpa using h2) hI2 hc).rest

theorem QuicInv.onStreamShutdownComplete (h : QuicInv c b) (hI : b.Inv) (hrs : c.repeatStreams = false)
    {k : Nat} (hk : k ∈ b.streams) (success : Bool) :
    QuicInv c (b.onStreamShutdownComplete c opens k success) := by
  have hc := h.streamConn_mem k hk
  have hlive : 0 < (b.liveStreams (b.streamConn k)).card := card_pos.2 ⟨k, mem_filter.2 ⟨hk, rfl⟩⟩
  have ha := hI.streamsActive _ hc
  have hx := h.conn0 hc
  have hsum := sum_comp_update_add ConnBooks.finalized b.conn
    { b.conn (b.streamConn k) with
      streamsActive := (b.conn (b.streamConn k)).streamsActive - 1
      finalized := (b.conn (b.streamConn k)).finalized + 1 } hc
  have h4 : QuicInv c (let b' := b.retire k success
      b'.setConn (b.streamConn k)
        { b'.conn (b.streamConn k) with
          streamsActive := (b'.conn (b.streamConn k)).streamsActive - 1 }) := by
    simp only [WorkerBooks.retire, WorkerBooks.setConn, Function.update_idem, Function.update_same]
    exact
      { streamConn_mem := fun j hj => h.streamConn_mem j (mem_of_mem_erase hj)
        conn := connStarting_update h.conn (fun _ _ => rfl) fun _ => by
          rw [ite_self]; exact hx.finalize (by omega)
        opened := h.opened
        connected := by simpa only [filter_connected_update] using h.connected
        completed := fun hu => by
          dsimp only at hu hsum ⊢
          have := h.completed hu
          split <;> omega }
  unfold WorkerBooks.onStreamShutdownComplete WorkerBooks.connOnStreamShutdownComplete
  dsimp only at h4 ⊢
  rw [if_neg (by simp [hrs])]
  split
  · rename_i hS
    refine h4.connectionShutdown (by simpa [WorkerBooks.retire, WorkerBooks.setConn] using hS.1) ?_
    simp only [WorkerBooks.retire, WorkerBooks.setConn, Function.update_idem, Function.update_same] at hS ⊢
    by_contra hn
    have hcr := hx.streamsCreated
    have hfi := hx.finalized
    simp only [Bool.not_eq_true] at hn
    simp only [hn, Bool.false_eq_true, ↓reduceIte, add_zero] at hcr
    omega
  · exact h4

theorem QuicInv.unrequested (h : QuicInv c b) :
    QuicInv c { b with unrequestedCompletions := b.unrequestedCompletions + 1 } :=
  { h with completed := fun hu => absurd hu (Nat.succ_ne_zero _) }

theorem QuicInv.onShutdownComplete (h : QuicInv c b) {cid : Nat} (hc : cid ∈ b.conns)
    (hno : ∀ k ∈ b.streams, b.streamConn k ≠ cid)
    (hreq : b.unrequestedCompletions = 0 → 0 < (b.conn cid).shutdownRequests) :
    QuicInv c (b.onShutdownComplete c cid) := by
  have hmem : ∀ k ∈ b.streams, b.streamConn k ∈ b.conns.erase cid :=
    fun k hk => mem_erase.2 ⟨hno k hk, h.streamConn_mem k hk⟩
  have hsum : (b.conn cid).finalized + ∑ j ∈ b.conns.erase cid, (b.conn j).finalized =
      ∑ j ∈ b.conns, (b.conn j).finalized := add_sum_erase _ (fun j => (b.conn j).finalized) hc
  have hS : b.unrequestedCompletions = 0 → (b.conn cid).finalized = c.streamCount.toNat := by
    intro hu
    have hx := h.conn0 hc
    obtain ⟨ha, hcon, -⟩ := hx.requested (hreq hu)
    have := hx.finalized
    have := hx.streamsCreated
    simp only [hcon, ↓reduceIte, add_zero] at this; omega
  unfold WorkerBooks.onShutdownComplete WorkerBooks.workerOnConnectionComplete
  dsimp only
  split_ifs <;>
  exact
    { streamConn_mem := hmem
      conn := fun j hj => h.conn j (mem_of_mem_erase hj)
      opened := h.opened
      connected := h.connected
      completed := fun hu => by
        have := h.completed hu; have := hS hu; dsimp only at hu ⊢; rw [Nat.mul_succ]; omega }

theorem QuicInv.startNewConnection (h : QuicInv c b) (hI : b.Inv) (ok : Bool) :
    QuicInv c (b.startNewConnection ok) := by
  have hn : b.nextConn ∉ b.conns := fun hm => lt_irrefl _ (hI.conns_lt _ hm)
  have hs : ∀ j ∈ b.conns, j ≠ b.nextConn := fun j hj he => hn (he ▸ hj)
  have hsum : ∑ j ∈ b.conns, (Function.update b.conn b.nextConn ConnBooks.new j).finalized =
      ∑ j ∈ b.conns, (b.conn j).finalized :=
    sum_congr rfl fun j hj => by rw [Function.update_noteq (hs j hj)]
  have hold := connStarting_update (i := b.nextConn) (x := .new) h.conn (fun _ _ => rfl)
    fun _ => by rw [ite_self]; exact .new
  unfold WorkerBooks.startNewConnection
  dsimp only
  split
  · exact
      { streamConn_mem := fun k hk => mem_insert_of_mem (h.streamConn_mem k hk)
        conn := fun j hj => by
          rcases mem_insert.1 hj with rfl | hj
          · dsimp only; rw [Function.update_same, ite_self]; exact .new
          · exact hold j hj
        opened := h.opened
        connected := by dsimp only; rw [filter_connected_new]; exact h.connected
        completed := fun hu => by
          dsimp only; rw [sum_insert hn, hsum]; simpa [ConnBooks.new] using h.completed hu }
  · exact
      { streamConn_mem := h.streamConn_mem
        conn := hold
        opened := h.opened
        connected := by dsimp only; rw [filter_connected_new]; exact h.connected
        completed := fun hu => by dsimp only; rw [hsum]; exact h.completed hu }

/-! ## What the handlers do to the counters the client sums -/

@[simp] theorem streamsCompleted_onConnectionComplete (cid : Nat) :
    (b.onConnectionComplete c opens cid).streamsCompleted = b.streamsCompleted := by
  unfold onConnectionComplete; split <;> simp [connectionShutdown, setConn]

@[simp] theorem connectionsQueued_onConnectionComplete (cid : Nat) :
    (b.onConnectionComplete c opens cid).connectionsQueued = b.connectionsQueued := by
  unfold onConnectionComplete; split <;> simp [connectionShutdown, setConn]

@[simp] theorem streamsCompleted_onShutdownComplete (cid : Nat) :
    (b.onShutdownComplete c cid).streamsCompleted = b.streamsCompleted := by
  unfold onShutdownComplete workerOnConnectionComplete; dsimp only; split_ifs <;> rfl

theorem connectionsQueued_onShutdownComplete (hrc : c.repeatConnections = false) (cid : Nat) :
    (b.onShutdownComplete c cid).connectionsQueued = b.connectionsQueued := by
  unfold onShutdownComplete workerOnConnectionComplete
  simp only [hrc, Bool.false_eq_true, ↓reduceIte]; split_ifs <;> rfl

@[simp] theorem streamsCompleted_connOnStreamShutdownComplete (cid : Nat) :
    (b.connOnStreamShutdownComplete c opens cid).streamsCompleted = b.streamsCompleted := by
  unfold connOnStreamShutdownComplete; dsimp only; split_ifs <;> simp [connectionShutdown, setConn]

@[simp] theorem connectionsQueued_connOnStreamShutdownComplete (cid : Nat) :
    (b.connOnStreamShutdownComplete c opens cid).connectionsQueued = b.connectionsQueued := by
  unfold connOnStreamShutdownComplete; dsimp only; split_ifs <;> simp [connectionShutdown, setConn]

@[simp] theorem streamsCompleted_onStreamShutdownComplete (k : Nat) (success : Bool) :
    (b.onStreamShutdownComplete c opens k success).streamsCompleted =
      b.streamsCompleted + if success then 1 else 0 := by
  rw [onStreamShutdownComplete, streamsCompleted_connOnStreamShutdownComplete]
  cases success <;> rfl

@[simp] theorem connectionsQueued_onStreamShutdownComplete (k : Nat) (success : Bool) :
    (b.onStreamShutdownComplete c opens k success).connectionsQueued = b.connectionsQueued := by
  rw [onStreamShutdownComplete, connectionsQueued_connOnStreamShutdownComplete]; rfl

end WorkerBooks

namespace Books

variable {c : PerfClient} {B B' : Books}

/-- The bookkeeping invariant of the client. -/
structure Inv (c : PerfClient) (B : Books) : Prop where
  workers : ∀ w, (B.workers w).Inv
  /-- Only the first `WorkerCount` workers ever run a connection. -/
  idle : ∀ w, c.workerCount.toNat ≤ w → B.workers w = .new
  latencyCount : B.latencyCount = min B.curLatencyIndex c.maxLatencyIndex.toNat
  /-- Every reserved latency index belongs to a stream counted in some `StreamsCompleted`. -/
  curLatencyIndex : B.curLatencyIndex = ∑ w ∈ range c.workerCount.toNat, (B.workers w).streamsCompleted
  queueIndex_le : B.queueIndex ≤ c.connectionCount.toNat
  /-- Without `RepeatConnections`, the workers' tokens are those `Start` queued. -/
  queued : c.repeatConnections = false →
    ∑ w ∈ range c.workerCount.toNat, (B.workers w).connectionsQueued = B.queueIndex
  quic : c.useTCP = false → c.repeatStreams = false → ∀ w, WorkerBooks.QuicInv c (B.workers w)

theorem inv_init : Inv c Books.init :=
  { workers := fun _ => WorkerBooks.inv_new
    idle := fun _ _ => rfl
    latencyCount := by simp [Books.init]
    curLatencyIndex := by simp [Books.init, WorkerBooks.new]
    queueIndex_le := by simp [Books.init]
    queued := fun _ => by simp [Books.init, WorkerBooks.new]
    quic := fun _ _ _ => WorkerBooks.quicInv_new }

/-- A worker that names a live connection or stream is one of the first `WorkerCount`. -/
theorem Inv.lt_of_mem (h : Inv c B) {w x : Nat}
    (hx : x ∈ (B.workers w).conns ∨ x ∈ (B.workers w).streams) : w < c.workerCount.toNat := by
  by_contra hw
  rw [h.idle w (Nat.le_of_not_lt hw)] at hx
  simp [WorkerBooks.new] at hx

/-- The invariant survives any change to one running worker whose books keep theirs, when the latency
counters move with the worker's completed streams and `Start`'s loop with its queued connections. -/
theorem Inv.of_update (h : Inv c B) {B' : Books} {w : Nat} {b : WorkerBooks}
    (hw : w < c.workerCount.toNat) (hB : B'.workers = Function.update B.workers w b) (hb : b.Inv)
    (hq : c.useTCP = false → c.repeatStreams = false → WorkerBooks.QuicInv c b)
    (hcount : B'.latencyCount = min B'.curLatencyIndex c.maxLatencyIndex.toNat)
    (hcur : B'.curLatencyIndex + (B.workers w).streamsCompleted = B.curLatencyIndex + b.streamsCompleted)
    (hle : B'.queueIndex ≤ c.connectionCount.toNat)
    (hqd : c.repeatConnections = false →
      b.connectionsQueued + B.queueIndex = (B.workers w).connectionsQueued + B'.queueIndex) :
    Inv c B' := by
  have hmem := mem_range.2 hw
  refine
    { workers := fun w' => ?_
      idle := fun w' hw' => ?_
      latencyCount := hcount
      curLatencyIndex := ?_
      queueIndex_le := hle
      queued := fun hrc => ?_
      quic := fun ht hr w' => ?_ }
  · rcases eq_or_ne w' w with rfl | hne
    · simpa [hB] using hb
    · simpa [hB, hne] using h.workers w'
  · simp [hB, Function.update_noteq (show w' ≠ w by omega), h.idle w' hw']
  · have := sum_comp_update_add WorkerBooks.streamsCompleted B.workers b hmem
    rw [hB]; rw [h.curLatencyIndex] at hcur; omega
  · have := sum_comp_update_add WorkerBooks.connectionsQueued B.workers b hmem
    have := hqd hrc
    have := h.queued hrc
    rw [hB]; omega
  · rcases eq_or_ne w' w with rfl | hne
    · simpa [hB] using hq ht hr
    · simpa [hB, hne] using h.quic ht hr w'

/-- Replacing a running worker's books by books that keep its invariants and the counters the client
sums. -/
theorem Inv.setWorker (h : Inv c B) {w : Nat} {b : WorkerBooks} (hw : w < c.workerCount.toNat)
    (hb : b.Inv) (hq : c.useTCP = false → c.repeatStreams = false → WorkerBooks.QuicInv c b)
    (hsc : b.streamsCompleted = (B.workers w).streamsCompleted)
    (hqd : c.repeatConnections = false → b.connectionsQueued = (B.workers w).connectionsQueued) :
    Inv c (B.setWorker w b) :=
  h.of_update hw rfl hb hq h.latencyCount (by dsimp only [Books.setWorker]; omega) h.queueIndex_le
    fun hrc => by have := hqd hrc; dsimp only [Books.setWorker]; omega

theorem latencyCount_recordLatency (h : B.latencyCount = min B.curLatencyIndex c.maxLatencyIndex.toNat) :
    (recordLatency c B).latencyCount = min (recordLatency c B).curLatencyIndex c.maxLatencyIndex.toNat := by
  unfold recordLatency; split <;> dsimp only <;> omega

@[simp] theorem streamsCompleted_startNewConnection (b : WorkerBooks) (ok : Bool) :
    (b.startNewConnection ok).streamsCompleted = b.streamsCompleted := by
  unfold WorkerBooks.startNewConnection; split <;> rfl

@[simp] theorem connectionsQueued_startNewConnection (b : WorkerBooks) (ok : Bool) :
    (b.startNewConnection ok).connectionsQueued = b.connectionsQueued := by
  unfold WorkerBooks.startNewConnection; split <;> rfl

/-- One event keeps the invariant. -/
theorem Inv.step (h : Inv c B) {e : Event} (hs : Books.step c B e = some B') : Inv c B' := by
  cases e with
  | queue =>
    simp only [Books.step] at hs
    split_ifs at hs with hg
    cases hs
    have hw : B.queueIndex % c.workerCount.toNat < c.workerCount.toNat :=
      Nat.mod_lt _ (Nat.pos_of_ne_zero fun h0 => hg.2 (UInt32.eq_of_val_eq (Fin.ext h0)))
    exact h.of_update hw rfl { h.workers _ with created_le := Nat.le_succ_of_le (h.workers _).created_le }
      (fun ht hr => { h.quic ht hr _ with }) h.latencyCount rfl hg.1
      fun _ => by dsimp only [Books.setWorker]; omega
  | startNewConnection w ok =>
    simp only [Books.step] at hs
    split_ifs at hs with hg
    cases hs
    exact h.setWorker hg.2.1 ((h.workers w).startNewConnection hg.2.2 ok)
      (fun ht hr => (h.quic ht hr w).startNewConnection (h.workers w) ok) (by simp) (by simp)
  | stop =>
    simp only [Books.step, Option.some.injEq] at hs
    subst hs
    exact { h with }
  | connected w cid opens =>
    simp only [Books.step] at hs
    split_ifs at hs with hg
    cases hs
    obtain ⟨ht, hc, hn⟩ := hg
    simp only [Bool.not_eq_true'] at ht hn
    have hI1 : ((B.workers w).setConn cid { (B.workers w).conn cid with connected := true }).Inv :=
      (h.workers w).setConn rfl rfl
    exact h.setWorker (h.lt_of_mem (.inl hc)) (hI1.onConnectionComplete hc)
      (fun _ hrs => (h.quic ht hrs w).connect (h.workers w) hc hn) (by simp [WorkerBooks.setConn])
      (by simp [WorkerBooks.setConn])
  | shutdownComplete w cid =>
    simp only [Books.step] at hs
    split_ifs at hs with hg hr <;> cases hs <;> obtain ⟨ht, hc, hno⟩ := hg <;>
      simp only [Bool.not_eq_true'] at ht
    · have hI : ({ B.workers w with
          unrequestedCompletions := (B.workers w).unrequestedCompletions + 1 } : WorkerBooks).Inv :=
        { h.workers w with }
      exact h.setWorker (h.lt_of_mem (.inl hc)) (hI.onShutdownComplete hc)
        (fun _ hrs => (h.quic ht hrs w).unrequested.onShutdownComplete hc hno
          fun hu => absurd hu (Nat.succ_ne_zero _))
        (by simp) (fun hrc => WorkerBooks.connectionsQueued_onShutdownComplete hrc _)
    · exact h.setWorker (h.lt_of_mem (.inl hc)) ((h.workers w).onShutdownComplete hc)
        (fun _ hrs => (h.quic ht hrs w).onShutdownComplete hc hno fun _ => Nat.pos_of_ne_zero hr)
        (by simp) (fun hrc => WorkerBooks.connectionsQueued_onShutdownComplete hrc _)
  | streamShutdownComplete w k success opens =>
    have hk : k ∈ (B.workers w).streams := by by_contra hk; simp [Books.step, hk] at hs
    simp only [Books.step, if_pos hk, Option.some.injEq] at hs
    subst hs
    have hw := h.lt_of_mem (.inr hk)
    have hI : ((B.workers w).onStreamShutdownComplete c opens k success).Inv :=
      (h.workers w).onStreamShutdownComplete hk success
    have hq : c.useTCP = false → c.repeatStreams = false →
        WorkerBooks.QuicInv c ((B.workers w).onStreamShutdownComplete c opens k success) :=
      fun _ hrs => (h.quic ‹_› hrs w).onStreamShutdownComplete (h.workers w) hrs hk success
    cases success
    · exact h.setWorker hw hI hq (by simp) (by simp)
    · exact h.of_update hw (by simp [Books.setWorker]) hI hq
        (latencyCount_recordLatency h.latencyCount)
        (by simp [Books.setWorker]; omega) (by simpa [Books.setWorker] using h.queueIndex_le)
        (fun _ => by simp [Books.setWorker])
  | tcpConnect w cid isConnected opens =>
    simp only [Books.step] at hs
    split_ifs at hs with hg hi <;> cases hs <;> obtain ⟨ht, hc⟩ := hg
    · exact h.setWorker (h.lt_of_mem (.inl hc)) ((h.workers w).onConnectionComplete hc)
        (by simp [ht]) (by simp) (by simp)
    · exact h.setWorker (h.lt_of_mem (.inl hc)) ((h.workers w).onShutdownComplete hc)
        (by simp [ht]) (by simp) (fun hrc => WorkerBooks.connectionsQueued_onShutdownComplete hrc _)

/-- Every reachable bookkeeping satisfies the invariant. -/
theorem Reachable.inv (h : Reachable c B) : Inv c B := by
  induction h with
  | init => exact inv_init
  | step _ _ hs ih => exact ih.step hs

end Books

end SecNetPerf