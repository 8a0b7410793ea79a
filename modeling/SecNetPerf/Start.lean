import SecNetPerf.Lifecycle
import Mathlib.Data.Int.CardIntervalMod

/-!
# SecNetPerf.Start — `Start`'s round robin, and the two modulos of the client

`Start` queues `ConnectionCount` tokens, token `i` on worker `i % WorkerCount`.  So worker `j` gets
one token for each `i < C` with `i ≡ j [MOD W]`, and Mathlib counts those
(`Nat.count_modEq_card`): `⌊C/W⌋ + [j < C mod W]`, `roundRobinQuota C W j`.

* `start_round_robin`: the loop alone, from the world `Start` creates, for every `C` and `W ≥ 1`.
* `queued_round_robin`: without `RepeatConnections` the tokens a worker holds are those `Start`
  dealt it, at every point of every run, however the workers' events interleave with the loop.
* Nothing in `Init` keeps `WorkerCount` from being zero (`-threads:0`, `-workers:0`), and the loop
  then takes `i % 0` (`zero_workers_divide_by_zero`).
-/

namespace SecNetPerf

open Finset

/-! ## The quota -/

/-- Modelled from the spec: the tokens worker `j` gets when `C` are dealt round robin to `W`
workers, `⌊C/W⌋ + [j < C mod W]`. -/
def roundRobinQuota (C W j : Nat) : Nat := C / W + if j < C % W then 1 else 0

example : (List.range 3).map (roundRobinQuota 7 3) = [3, 2, 2] := by decide

/-- The `i < C` with `i % W = j` are `roundRobinQuota C W j` many. -/
theorem count_mod_eq (C : Nat) {W j : Nat} (hj : j < W) :
    C.count (· % W = j) = roundRobinQuota C W j := by
  have h := Nat.count_modEq_card (b := C) (r := W) (by omega) j
  rw [Nat.mod_eq_of_lt hj] at h
  rw [roundRobinQuota, ← h, Nat.count_eq_card_filter_range, Nat.count_eq_card_filter_range]
  exact congrArg card (filter_congr fun i _ => by rw [Nat.ModEq, Nat.mod_eq_of_lt hj])

/-- No `i` has a remainder of `j ≥ W`. -/
theorem count_mod_eq_of_le (C : Nat) {W j : Nat} (hW : 0 < W) (hj : W ≤ j) :
    C.count (· % W = j) = 0 :=
  Nat.count_of_forall_not fun i _ => by have := Nat.mod_lt i hW; omega

/-- The quotas deal out every token. -/
theorem sum_roundRobinQuota (C : Nat) {W : Nat} (hW : 0 < W) :
    ∑ j ∈ range W, roundRobinQuota C W j = C := by
  have hr : (range W).filter (· < C % W) = range (C % W) := by
    ext j
    simp only [mem_filter, mem_range]
    have := Nat.mod_lt C hW
    omega
  simp only [roundRobinQuota, sum_add_distrib, sum_const, card_range, smul_eq_mul, sum_ite,
    sum_const_zero, add_zero, hr, mul_one]
  exact Nat.div_add_mod C W

/-- Two quotas differ by at most one. -/
theorem roundRobinQuota_le_succ (C W j j' : Nat) :
    roundRobinQuota C W j ≤ roundRobinQuota C W j' + 1 := by
  unfold roundRobinQuota
  split_ifs <;> omega

/-! ## `Start`'s loop -/

namespace World

variable {c : PerfClient} {W W' : World}

/-- One iteration of the loop: token `QueueIndex` goes to worker `QueueIndex % WorkerCount`. -/
theorem step_queue (inp : Inputs) (hw : c.workerCount ≠ 0) (hq : W.queueIndex < c.connectionCount.toNat) :
    ∃ W', step c inp W .queue = .ok W' ∧ W'.queueIndex = W.queueIndex + 1 ∧
      ∀ j, (W'.workers j).connectionsQueued = (W.workers j).connectionsQueued +
        if W.queueIndex % c.workerCount.toNat = j then 1 else 0 := by
  refine ⟨_, by simp only [step, if_pos hq, if_neg hw]; rfl, rfl, fun j => ?_⟩
  simp only [setWorker, setAt]
  by_cases h : W.queueIndex % c.workerCount.toNat = j
  · subst h; simp
  · rw [if_neg (Ne.symm h), if_neg h, add_zero]

/-- `n` iterations of the loop, from any world with `n` tokens left to queue. -/
theorem run_queue (inp : Inputs) (hw : c.workerCount ≠ 0) :
    ∀ (n : Nat) (W : World), W.queueIndex + n ≤ c.connectionCount.toNat →
      ∃ W', run c W (List.replicate n (inp, .queue)) = .ok W' ∧
        W'.queueIndex = W.queueIndex + n ∧
        ∀ j, (W'.workers j).connectionsQueued + W.queueIndex.count (· % c.workerCount.toNat = j) =
          (W.workers j).connectionsQueued + (W.queueIndex + n).count (· % c.workerCount.toNat = j)
  | 0, W, _ => ⟨W, rfl, rfl, fun _ => rfl⟩
  | n + 1, W, hn => by
    obtain ⟨W1, h1, hq1, hc1⟩ := step_queue inp hw (show W.queueIndex < _ by omega)
    obtain ⟨W', h', hq', hc'⟩ := run_queue inp hw n W1 (by omega)
    refine ⟨W', by rw [List.replicate_succ, run, h1]; exact h', by omega, fun j => ?_⟩
    have hs := Nat.count_succ (· % c.workerCount.toNat = j) W.queueIndex
    have hj := hc' j
    rw [hq1, hc1, show W.queueIndex + 1 + n = W.queueIndex + (n + 1) by omega] at hj
    simp only at hs
    split_ifs at hj hs <;> omega

end World

/-- **Round robin**: for every `ConnectionCount` `C` and `WorkerCount` `W ≥ 1`, `Start`'s loop runs
to its end and leaves `⌊C/W⌋ + [j < C mod W]` tokens on worker `j < W` and none on any other; the
tokens total `C`, and two workers' quotas differ by at most one. -/
theorem start_round_robin (c : PerfClient) (inp : Inputs) (hw : 0 < c.workerCount.toNat) :
    ∃ W, World.run c (World.init c) (List.replicate c.connectionCount.toNat (inp, .queue)) = .ok W ∧
      (∀ j, (W.workers j).connectionsQueued =
        if j < c.workerCount.toNat then
          roundRobinQuota c.connectionCount.toNat c.workerCount.toNat j
        else 0) ∧
      ∑ j ∈ range c.workerCount.toNat, (W.workers j).connectionsQueued = c.connectionCount.toNat ∧
      ∀ j < c.workerCount.toNat, ∀ j' < c.workerCount.toNat,
        (W.workers j).connectionsQueued ≤ (W.workers j').connectionsQueued + 1 := by
  have hw0 : c.workerCount ≠ 0 := fun h => by simp [h] at hw
  obtain ⟨W, hW, -, hc⟩ := World.run_queue inp hw0 c.connectionCount.toNat (World.init c)
    (by simp [World.init])
  have hq : ∀ j, (W.workers j).connectionsQueued =
      c.connectionCount.toNat.count (· % c.workerCount.toNat = j) := fun j => by
    simpa [World.init, PerfClientWorker.new] using hc j
  have hquota : ∀ j < c.workerCount.toNat, (W.workers j).connectionsQueued =
      roundRobinQuota c.connectionCount.toNat c.workerCount.toNat j := fun j hj => by
    rw [hq, count_mod_eq _ hj]
  refine ⟨W, hW, fun j => ?_, ?_, fun j hj j' hj' => ?_⟩
  · split_ifs with hj
    · exact hquota j hj
    · rw [hq, count_mod_eq_of_le _ hw (not_lt.1 hj)]
  · rw [sum_congr rfl fun j hj => hquota j (mem_range.1 hj), sum_roundRobinQuota _ hw]
  · rw [hquota j hj, hquota j' hj']
    exact roundRobinQuota_le_succ _ _ _ _

/-- Seven connections on three workers: the loop leaves 3, 2 and 2 tokens. -/
theorem start_round_robin_seven_on_three :
    let c := { PerfClient.defaults ⟨4433, 65536, 2000000⟩ with workerCount := 3, connectionCount := 7 }
    0 < c.workerCount.toNat ∧
      ∃ W, World.run c (World.init c) (List.replicate c.connectionCount.toNat
          (⟨0, 10, fun _ => true⟩, .queue)) = .ok W ∧
        (∀ j, (W.workers j).connectionsQueued =
          if j < c.workerCount.toNat then
            roundRobinQuota c.connectionCount.toNat c.workerCount.toNat j
          else 0) ∧
        ∑ j ∈ range c.workerCount.toNat, (W.workers j).connectionsQueued = c.connectionCount.toNat ∧
        ∀ j < c.workerCount.toNat, ∀ j' < c.workerCount.toNat,
          (W.workers j).connectionsQueued ≤ (W.workers j').connectionsQueued + 1 :=
  ⟨by decide, start_round_robin _ _ (by decide)⟩

/-! ## Every run -/

namespace Books

variable {c : PerfClient} {B : Books}

@[simp] theorem setWorker_queueIndex (w : Nat) (b : WorkerBooks) :
    (B.setWorker w b).queueIndex = B.queueIndex := rfl

/-- A worker update that keeps the worker's tokens keeps every worker's. -/
theorem connectionsQueued_setWorker {w : Nat} {b : WorkerBooks}
    (hb : b.connectionsQueued = (B.workers w).connectionsQueued) (j : Nat) :
    ((B.setWorker w b).workers j).connectionsQueued = (B.workers j).connectionsQueued := by
  rcases eq_or_ne j w with rfl | h
  · simpa using hb
  · simp [setWorker, Function.update_noteq h]

/-- Without `RepeatConnections`, a worker holds exactly the tokens `Start`'s loop has dealt it. -/
theorem Reachable.connectionsQueued (h : Reachable c B) (hrc : c.repeatConnections = false)
    (j : Nat) : (B.workers j).connectionsQueued = B.queueIndex.count (· % c.workerCount.toNat = j) := by
  induction h with
  | init => simp [Books.init, WorkerBooks.new]
  | @step B0 B1 e _ hs ih =>
    cases e with
    | queue =>
      simp only [Books.step] at hs
      split_ifs at hs
      cases hs
      rw [Nat.count_succ, ← ih]
      simp only [setWorker, Function.update_apply]
      by_cases hj : j = B0.queueIndex % c.workerCount.toNat
      · subst hj; simp
      · simp only [if_neg hj, if_neg (Ne.symm hj), add_zero]
    | stop => cases hs; exact ih
    | startNewConnection w ok =>
      simp only [Books.step] at hs
      split_ifs at hs
      cases hs
      exact (connectionsQueued_setWorker (by simp) j).trans ih
    | connected w cid opens =>
      simp only [Books.step] at hs
      split_ifs at hs
      cases hs
      exact (connectionsQueued_setWorker (by simp [WorkerBooks.setConn]) j).trans ih
    | shutdownComplete w cid =>
      simp only [Books.step] at hs
      split_ifs at hs <;> cases hs <;> refine (connectionsQueued_setWorker ?_ j).trans ih <;>
        exact WorkerBooks.connectionsQueued_onShutdownComplete hrc _
    | streamShutdownComplete w k success opens =>
      simp only [Books.step] at hs
      split_ifs at hs <;> cases hs <;> rw [connectionsQueued_setWorker (by simp) j] <;> simpa using ih
    | tcpConnect w cid isConnected opens =>
      simp only [Books.step] at hs
      split_ifs at hs <;> cases hs <;> refine (connectionsQueued_setWorker ?_ j).trans ih
      · exact WorkerBooks.connectionsQueued_onConnectionComplete _
      · exact WorkerBooks.connectionsQueued_onShutdownComplete hrc _

end Books

/-- **Round robin at every point**: without `RepeatConnections`, in every world a run reaches, however
the workers' events interleave with `Start`'s loop, worker `j` holds `⌊Q/W⌋ + [j < Q mod W]` tokens
for the `Q` tokens queued so far if `j < W`, and none otherwise. -/
theorem queued_round_robin {c : PerfClient} {W : World} (h : Reachable c W)
    (hrc : c.repeatConnections = false) (j : Nat) :
    (W.workers j).connectionsQueued =
      if j < c.workerCount.toNat then roundRobinQuota W.queueIndex c.workerCount.toNat j else 0 := by
  have hq := h.books.connectionsQueued hrc j
  simp only [World.books_workers, World.books_queueIndex, PerfClientWorker.books] at hq
  rw [hq]
  split_ifs with hj
  · exact count_mod_eq _ hj
  · rcases Nat.eq_zero_or_pos c.workerCount.toNat with h0 | hw
    · have hq0 := h.inv.queued hrc
      rw [h0, range_zero, sum_empty, World.books_queueIndex] at hq0
      rw [← hq0, Nat.count_zero]
    · exact count_mod_eq_of_le _ hw (not_lt.1 hj)

/-- The law on a run where a worker starts a connection between the loop's first and second
iterations: worker 0 of two holds two of the three tokens. -/
theorem queued_round_robin_interleaved :
    let c := { PerfClient.defaults ⟨4433, 65536, 2000000⟩ with workerCount := 2, connectionCount := 3 }
    let es : List (Inputs × World.Event) :=
      [.queue, .startNewConnection 0 ⟨true, true, true, true, true, true, none, true⟩, .queue,
        .queue].map (Prod.mk ⟨0, 10, fun _ => true⟩)
    ∃ W, World.run c (World.init c) es = .ok W ∧ W.queueIndex = 3 ∧ c.repeatConnections = false ∧
      (W.workers 0).connectionsQueued =
        if 0 < c.workerCount.toNat then roundRobinQuota W.queueIndex c.workerCount.toNat 0 else 0 := by
  intro c es
  obtain ⟨W, hW, h3⟩ : ∃ W, World.run c (World.init c) es = .ok W ∧ W.queueIndex = 3 := ⟨_, rfl, rfl⟩
  exact ⟨W, hW, h3, rfl, queued_round_robin (Reachable.init.run hW) rfl 0⟩

/-! ## The modulos -/

/-- `-threads:0`: `Init` accepts a zero `WorkerCount`, and the first iteration of `Start`'s loop
takes `0 % 0`. -/
theorem zero_workers_divide_by_zero :
    ∃ c, init ⟨4433, 65536, 2000000⟩ ⟨1, .success, fun _ => ⟨[], Nat.zero_le _⟩, fun _ => none, true, true⟩
        ⟨false, fun s => if s = "target" then some "server" else none,
          fun s => if s = "threads" then some 0 else none⟩ = .ok c ∧
      c.workerCount = 0 ∧ c.connectionCount = 1 ∧
      World.step c ⟨0, 10, fun _ => true⟩ (World.init c) .queue = .error .divideByZero :=
  ⟨_, rfl, rfl, rfl, rfl⟩

/-- `String.splitOn`'s loop returns at least the piece it is building. -/
theorem splitOnAux_ne_nil (s sep : String) (b i j : String.Pos) (r : List String) :
    String.splitOnAux s sep b i j r ≠ [] := by
  induction b, i, j, r using String.splitOnAux.induct s sep with
  | case1 b i j r h => rw [String.splitOnAux, if_pos h]; simp
  | case2 b i j r h h1 _ _ h2 ih =>
    rw [String.splitOnAux, if_neg h, if_pos h1, if_pos (show sep.atEnd (sep.next j) = true from h2)]
    exact ih
  | case3 b i j r h h1 _ _ h2 ih =>
    rw [String.splitOnAux, if_neg h, if_pos h1, if_neg (show ¬sep.atEnd (sep.next j) = true from h2)]
    exact ih
  | case4 b i j r h h1 ih => rw [String.splitOnAux, if_neg h, if_neg h1]; exact ih

/-- A split string has a first piece: `strchr`'s loop over the `-bind` list always sees one address. -/
theorem splitOn_ne_nil (s sep : String) : s.splitOn sep ≠ [] := by
  unfold String.splitOn
  split
  · simp
  · exact splitOnAux_ne_nil _ _ _ _ _ _

end SecNetPerf
