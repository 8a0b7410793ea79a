import Mathlib.Data.Multiset.Basic

/-!
# SecNetPerf.Completion — when a worker reports that its connections are done

`PerfClient::Start` starts the worker threads and then queues `ConnectionCount` tokens round robin
(`Workers[i % WorkerCount].QueueNewConnection()`).  A worker thread turns each token into a connection
(`StartNewConnection`: `ConnectionsCreated++`, then `ConnectionsActive++`, then `Initialize`), and the
transport completes every started connection on a thread of its own
(`PerfClientWorker::OnConnectionComplete`: `ConnectionsCompleted++`, `ConnectionsActive--`, then, without
`RepeatConnections`, the test `!ConnectionsActive && ConnectionsCreated == ConnectionsQueued` before
`Client->OnConnectionsComplete()`).

`Sys` holds the driver's loop index, the counters of every worker, where each worker thread is in
`StartNewConnection`, how many started connections of each worker the transport has yet to complete,
and the completion callbacks in flight with where they are.  A step is one atomic update of a
counter; the test reads its three counters in one step, which is one of the schedules the code allows,
so every run of `Sys` is a run of the code.  `signals` records each call of `OnConnectionsComplete`
with the worker's `ConnectionsCompleted` at that moment.

* `completion_not_lost`: the test never misses the end of a worker's connections.
* `signals_twice`: two schedules in which one worker calls `OnConnectionsComplete` twice, the first
  time in one of them with only one of its two connections completed.
-/

namespace SecNetPerf.Completion

/-- The connection counters of a `PerfClientWorker`. -/
structure Counters where
  connectionsQueued : Nat
  connectionsCreated : Nat
  connectionsActive : Nat
  connectionsCompleted : Nat
  deriving DecidableEq, Repr

/-- Where a worker thread is: in its loop, or between `ConnectionsCreated++` and
`ConnectionsActive++`. -/
inductive ThreadPc
  | idle
  | created
  deriving DecidableEq, Repr

/-- Where a completion callback is: after `ConnectionsCompleted++`, or after `ConnectionsActive--`. -/
inductive CallbackPc
  | completed
  | decremented
  deriving DecidableEq, Repr

/-- The driver, the workers and the completion callbacks in flight. -/
structure Sys where
  /-- The `i` of `Start`'s queuing loop. -/
  queueIndex : Nat
  running : Bool
  counters : Nat → Counters
  thread : Nat → ThreadPc
  /-- Started connections of each worker that the transport has not begun to complete. -/
  live : Nat → Nat
  /-- `OnConnectionComplete` calls in flight, by worker. -/
  callbacks : Multiset (Nat × CallbackPc)
  /-- Each `OnConnectionsComplete` call, latest first: the worker and its `ConnectionsCompleted`. -/
  signals : List (Nat × Nat)

/-- One atomic step of the driver, a worker thread or a completion callback. -/
inductive Event
  /-- One iteration of `Start`'s loop: `QueueNewConnection` on worker `i % WorkerCount`. -/
  | queue
  /-- The worker thread sees `ConnectionsCreated < ConnectionsQueued` and does `ConnectionsCreated++`. -/
  | create (w : Nat)
  /-- `ConnectionsActive++`, then `Initialize`, which starts the connection or frees it. -/
  | activate (w : Nat) (started : Bool)
  /-- The transport completes a started connection: `ConnectionsCompleted++`. -/
  | complete (w : Nat)
  /-- `ConnectionsActive--`. -/
  | decrement (w : Nat)
  /-- The end of `OnConnectionComplete`: requeue, or the completion test. -/
  | check (w : Nat)
  /-- `Wait`: `Running = false`. -/
  | stop

/-- The state right after `Start` created the worker threads. -/
def Sys.init : Sys := ⟨0, true, fun _ => ⟨0, 0, 0, 0⟩, fun _ => .idle, fun _ => 0, 0, []⟩

section Step

variable (connectionCount workerCount : Nat) (repeatConnections : Bool)

/-- One step, when it is enabled. -/
def step (s : Sys) : Event → Option Sys
  | .queue =>
    if s.queueIndex < connectionCount ∧ 0 < workerCount then
      let w := s.queueIndex % workerCount
      let c := s.counters w
      some { s with
        queueIndex := s.queueIndex + 1
        counters := Function.update s.counters w
          { c with connectionsQueued := c.connectionsQueued + 1 } }
    else none
  | .create w =>
    let c := s.counters w
    if s.running ∧ s.thread w = .idle ∧ c.connectionsCreated < c.connectionsQueued then
      some { s with
        counters := Function.update s.counters w
          { c with connectionsCreated := c.connectionsCreated + 1 }
        thread := Function.update s.thread w .created }
    else none
  | .activate w started =>
    let c := s.counters w
    if s.thread w = .created then
      some { s with
        counters := Function.update s.counters w
          { c with connectionsActive := c.connectionsActive + 1 }
        thread := Function.update s.thread w .idle
        live := if started then Function.update s.live w (s.live w + 1) else s.live }
    else none
  | .complete w =>
    let c := s.counters w
    if 0 < s.live w then
      some { s with
        counters := Function.update s.counters w
          { c with connectionsCompleted := c.connectionsCompleted + 1 }
        live := Function.update s.live w (s.live w - 1)
        callbacks := (w, .completed) ::ₘ s.callbacks }
    else none
  | .decrement w =>
    let c := s.counters w
    if (w, .completed) ∈ s.callbacks then
      some { s with
        counters := Function.update s.counters w
          { c with connectionsActive := c.connectionsActive - 1 }
        callbacks := (w, .decremented) ::ₘ s.callbacks.erase (w, .completed) }
    else none
  | .check w =>
    let c := s.counters w
    if (w, .decremented) ∈ s.callbacks then
      let s := { s with callbacks := s.callbacks.erase (w, .decremented) }
      if repeatConnections then
        some { s with
          counters := Function.update s.counters w
            { c with connectionsQueued := c.connectionsQueued + 1 } }
      else if c.connectionsActive = 0 ∧ c.connectionsCreated = c.connectionsQueued then
        some { s with signals := (w, c.connectionsCompleted) :: s.signals }
      else some s
    else none
  | .stop => some { s with running := false }

/-- The states some schedule reaches from `Start`. -/
inductive Reachable : Sys → Prop
  | init : Reachable Sys.init
  | step {s s' : Sys} (e : Event) : Reachable s →
      step connectionCount workerCount repeatConnections s e = some s' → Reachable s'

/-- The state a schedule of steps reaches, if every step is enabled. -/
def run (s : Sys) (es : List Event) : Option Sys :=
  es.foldlM (step connectionCount workerCount repeatConnections) s

end Step

/-! ## The test never misses the end of a worker's connections -/

section NotLost

variable {connectionCount workerCount : Nat}

/-- A worker at rest with all its queued connections created and completed. -/
def Quiet (s : Sys) (w : Nat) : Prop :=
  (∀ pc, (w, pc) ∉ s.callbacks) ∧ s.thread w = .idle ∧ (s.counters w).connectionsActive = 0 ∧
    (s.counters w).connectionsCreated = (s.counters w).connectionsQueued ∧
    0 < (s.counters w).connectionsCompleted

/-- What every schedule keeps without `RepeatConnections`. -/
structure Inv (s : Sys) : Prop where
  created_le : ∀ w, (s.counters w).connectionsCreated ≤ (s.counters w).connectionsQueued
  not_lost : ∀ w, Quiet s w → ∃ k, (w, k) ∈ s.signals

theorem inv_init : Inv Sys.init :=
  ⟨fun _ => le_rfl, fun _ h => absurd h.2.2.2.2 (by simp [Sys.init])⟩

/-- A step that leaves worker `w`'s counters, thread and callbacks alone keeps its signal. -/
theorem not_lost_frame {s s' : Sys} {w : Nat} (hc : s'.counters w = s.counters w)
    (ht : s'.thread w = s.thread w) (hcb : ∀ pc, (w, pc) ∈ s'.callbacks ↔ (w, pc) ∈ s.callbacks)
    (hsig : s.signals ⊆ s'.signals) (h : Quiet s w → ∃ k, (w, k) ∈ s.signals) :
    Quiet s' w → ∃ k, (w, k) ∈ s'.signals := by
  rintro ⟨h1, h2, h3, h4, h5⟩
  obtain ⟨k, hk⟩ := h ⟨fun pc hm => h1 pc ((hcb pc).2 hm), ht ▸ h2, hc ▸ h3, hc ▸ h4, hc ▸ h5⟩
  exact ⟨k, hsig hk⟩

/-- Changing worker `v`'s counters keeps `ConnectionsCreated ≤ ConnectionsQueued` when the new
counters do. -/
theorem created_le_update {f : Nat → Counters}
    (hle : ∀ w, (f w).connectionsCreated ≤ (f w).connectionsQueued) {v : Nat} {x : Counters}
    (hx : x.connectionsCreated ≤ x.connectionsQueued) (w : Nat) :
    (Function.update f v x w).connectionsCreated ≤ (Function.update f v x w).connectionsQueued := by
  rcases eq_or_ne w v with rfl | hw
  · rw [Function.update_same]; exact hx
  · rw [Function.update_noteq hw]; exact hle w

theorem inv_step {s s' : Sys} {e : Event} (h : Inv s)
    (hs : step connectionCount workerCount false s e = some s') : Inv s' := by
  obtain ⟨hle, hnl⟩ := h
  cases e with
  | queue =>
    simp only [step] at hs
    split at hs <;> cases hs
    refine ⟨created_le_update hle (Nat.le_succ_of_le (hle _)), fun w => ?_⟩
    by_cases hw : w = s.queueIndex % workerCount
    · subst hw; rintro ⟨-, -, -, h4, -⟩
      simp only [Function.update_same] at h4
      exact absurd h4 (by have := hle (s.queueIndex % workerCount); omega)
    · exact not_lost_frame (Function.update_noteq hw _ _) rfl (fun _ => Iff.rfl)
        (List.Subset.refl _) (hnl w)
  | create v =>
    simp only [step] at hs
    split at hs <;> cases hs
    rename_i hg
    refine ⟨created_le_update hle hg.2.2, fun w => ?_⟩
    by_cases hw : w = v
    · subst hw; rintro ⟨-, h2, -⟩; simp at h2
    · exact not_lost_frame (Function.update_noteq hw _ _) (Function.update_noteq hw _ _)
        (fun _ => Iff.rfl) (List.Subset.refl _) (hnl w)
  | activate v started =>
    simp only [step] at hs
    split at hs <;> cases hs
    refine ⟨created_le_update hle (hle _), fun w => ?_⟩
    by_cases hw : w = v
    · subst hw; rintro ⟨-, -, h3, -⟩; simp at h3
    · exact not_lost_frame (Function.update_noteq hw _ _) (Function.update_noteq hw _ _)
        (fun _ => Iff.rfl) (List.Subset.refl _) (hnl w)
  | complete v =>
    simp only [step] at hs
    split at hs <;> cases hs
    refine ⟨created_le_update hle (hle _), fun w => ?_⟩
    by_cases hw : w = v
    · subst hw; rintro ⟨h1, -⟩; exact (h1 .completed (Multiset.mem_cons_self _ _)).elim
    · exact not_lost_frame (Function.update_noteq hw _ _) rfl
        (fun _ => by simp [Multiset.mem_cons, hw]) (List.Subset.refl _) (hnl w)
  | decrement v =>
    simp only [step] at hs
    split at hs <;> cases hs
    refine ⟨created_le_update hle (hle _), fun w => ?_⟩
    by_cases hw : w = v
    · subst hw; rintro ⟨h1, -⟩; exact (h1 .decremented (Multiset.mem_cons_self _ _)).elim
    · refine not_lost_frame (Function.update_noteq hw _ _) rfl (fun pc => ?_)
        (List.Subset.refl _) (hnl w)
      rw [Multiset.mem_cons, Multiset.mem_erase_of_ne (by simp [hw])]
      simp [hw]
  | check v =>
    simp only [step, Bool.false_eq_true, ite_false] at hs
    split at hs
    · rename_i hm
      split at hs <;> cases hs
      · rename_i hg
        refine ⟨hle, fun w => ?_⟩
        by_cases hw : w = v
        · subst hw; exact fun _ => ⟨_, List.mem_cons_self _ _⟩
        · exact @not_lost_frame s _ w rfl rfl (fun _ => Multiset.mem_erase_of_ne (by simp [hw]))
            (List.subset_cons_self _ _) (hnl w)
      · rename_i hg
        refine ⟨hle, fun w => ?_⟩
        by_cases hw : w = v
        · subst hw; rintro ⟨-, -, h3, h4, -⟩; exact absurd ⟨h3, h4⟩ hg
        · exact @not_lost_frame s _ w rfl rfl (fun _ => Multiset.mem_erase_of_ne (by simp [hw]))
            (List.Subset.refl _) (hnl w)
    · cases hs
  | stop =>
    simp only [step] at hs
    cases hs
    exact ⟨hle, fun w => not_lost_frame rfl rfl (fun _ => Iff.rfl) (List.Subset.refl _) (hnl w)⟩

theorem inv_of_reachable {s : Sys} (h : Reachable connectionCount workerCount false s) : Inv s := by
  induction h with
  | init => exact inv_init
  | step _ _ hs ih => exact inv_step ih hs

end NotLost

/-! ## The test can fire twice -/

/-- Two schedules of `Start` with `ConnectionCount = 2` and one worker.  In the first, the worker's
first connection completes before `Start` queues the second token, so the test passes with one of two
connections completed, and again after the second.  In the second, both completions decrement
`ConnectionsActive` before either reads it, and both pass the test. -/
theorem signals_twice :
    (run 2 1 false Sys.init [.queue, .create 0, .activate 0 true, .complete 0, .decrement 0,
        .check 0, .queue, .create 0, .activate 0 true, .complete 0, .decrement 0, .check 0]).map
      Sys.signals = some [(0, 2), (0, 1)] ∧
    (run 2 1 false Sys.init [.queue, .queue, .create 0, .activate 0 true, .create 0,
        .activate 0 true, .complete 0, .complete 0, .decrement 0, .decrement 0, .check 0,
        .check 0]).map Sys.signals = some [(0, 2), (0, 2)] := by
  decide

end SecNetPerf.Completion
