import Exec09.Properties.MainMachines

/-!
# When the periodic work is done

`idle_loop` counts iterations, cycles and milliseconds to find out when a tenth of a second has
passed.  Without interrupts by the clock the outcome is fixed: a slice takes so few cycles more than
1024 that 30 of them always count as 15 milliseconds.  So the loop is the same as a loop over a
fixed schedule (`onSchedule`), whatever the program does and however fast the host is.
-/

namespace Exec09

open Program

variable {σ D : Type} [Machine σ]

/-! ## The schedule -/

/-- How often the periodic work has been done after `30 * j` slices. -/
def callsBy (j : Nat) : Nat := (15 * j - 1) / 100

/-- Is it done after slice `k`, counted from one? -/
def scheduled (k : Nat) : Bool := k % 30 = 0 ∧ callsBy (k / 30 - 1) < callsBy (k / 30)

/-- The schedule adds up: of `30 * j` slices and less than 30 more, `callsBy j` are followed by the
periodic work. -/
lemma count_scheduled (n : Nat) :
    (List.range n).countP (fun k => scheduled (k + 1)) = callsBy (n / 30) := by
  induction n with
  | zero => rfl
  | succ n ih =>
      rw [List.range_succ, List.countP_append, ih, List.countP_singleton, scheduled]
      unfold callsBy
      by_cases hn : (n + 1) % 30 = 0
      · rw [show (n + 1) / 30 = n / 30 + 1 by omega, Nat.add_sub_cancel]
        split <;> rename_i h <;> simp only [hn, decide_eq_true_eq, true_and] at h <;> omega
      · rw [show (n + 1) / 30 = n / 30 by omega, if_neg (by simp [hn])]
        rfl

/-- What follows slice `k`. -/
def scheduledWork (c : MainCalls σ D) (o : Settings) (k : Nat) (d : D) : M σ D := do
  let d ← c.machineUpdate d
  whenever (scheduled k) c.periodic
  checkCycles o
  return d

/-- The loop with the periodic work on schedule: `n` slices, of which the first is slice `k + 1`. -/
def onSchedule (c : MainCalls σ D) (o : Settings) (fuel : Nat) : Nat → Nat → D → M σ (Option D)
  | 0, _, d => return some d
  | n + 1, k, d => do
    match ← mainSlice c.monitor6809 fuel o.slice with
    | none => return none
    | some () =>
      let d ← scheduledWork c o (k + 1) d
      if ← reads fun s => c.quitting s.world then throw (.code 0)
      else onSchedule c o fuel n (k + 1) d

/-! ## `idle_loop` keeps it -/

namespace Idle

/-- Is the periodic work done by a call at the time `T`? -/
def calls (i : Idle) (T : BitVec 64) : Bool := ¬i.count - 1 > 0 ∧ i.elapsed T > 100

/-- The variables after the call. -/
def step (i : Idle) (T : BitVec 64) (realMs : Int) : Idle :=
  if i.count - 1 > 0 then { i with count := i.count - 1 } else i.next T realMs

/-- The variables after `k` slices, at the time `T`. -/
structure Clocked (k : Nat) (i : Idle) (T : BitVec 64) : Prop where
  count : i.count = 30 - (k % 30 : Nat)
  low : 1024 * (k % 30) ≤ (T - i.lastCycles).toNat
  high : (T - i.lastCycles).toNat ≤ 1043 * (k % 30)
  elapsed : i.totalMsElapsed = 15 * (k / 30 : Nat) - 100 * callsBy (k / 30)

lemma clocked_initial : Clocked 0 initial 0 where
  count := rfl
  low := by decide
  high := by decide
  elapsed := rfl

section Step

variable {k : Nat} {i : Idle} {T : BitVec 64} (h : Clocked k i T) {cost : Int}
  (hlow : 1024 ≤ cost) (hhigh : cost ≤ 1043)
include h hlow hhigh

lemma Clocked.since : ((T + BitVec.ofInt 64 cost - i.lastCycles).toNat : Int) =
    (T - i.lastCycles).toNat + cost := by
  have hle := h.high
  have hmod : k % 30 < 30 := Nat.mod_lt k (by decide)
  have hsum : T + BitVec.ofInt 64 cost - i.lastCycles =
      T - i.lastCycles + BitVec.ofInt 64 cost := by
    rw [BitVec.sub_eq_add_neg, BitVec.sub_eq_add_neg, BitVec.add_assoc, BitVec.add_assoc,
      BitVec.add_comm (BitVec.ofInt 64 cost)]
  rw [hsum]
  exact toNat_add_ofInt (by omega) (by omega)

/-- Thirty slices count as 15 milliseconds. -/
lemma Clocked.simMs (hk : k % 30 = 29) : i.simMs (T + BitVec.ofInt 64 cost) = 15 := by
  have hsince := h.since hlow hhigh
  have hge := h.low
  have hle := h.high
  have hdiv : ((T + BitVec.ofInt 64 cost - i.lastCycles) / BitVec.ofNat 64 CYCLES_PER_MS).toNat =
      15 := by
    rw [BitVec.toNat_udiv]
    change _ / 2000 = _
    omega
  rw [Idle.simMs, hdiv]
  rfl

lemma Clocked.calls_eq : i.calls (T + BitVec.ofInt 64 cost) = scheduled (k + 1) := by
  have hcount := h.count
  have helapsed := h.elapsed
  rw [calls, scheduled, decide_eq_decide]
  by_cases hk : k % 30 = 29
  · rw [Idle.elapsed, h.simMs hlow hhigh hk, helapsed, show (k + 1) / 30 = k / 30 + 1 by omega,
      Nat.add_sub_cancel]
    unfold callsBy
    omega
  · have hlt : k % 30 < 29 := by omega
    constructor
    · rintro ⟨hc, -⟩
      omega
    · rintro ⟨hz, -⟩
      omega

lemma Clocked.step (realMs : Int) :
    Clocked (k + 1) (i.step (T + BitVec.ofInt 64 cost) realMs) (T + BitVec.ofInt 64 cost) := by
  have hcount := h.count
  have helapsed := h.elapsed
  have hge := h.low
  have hle := h.high
  unfold Idle.step
  by_cases hk : k % 30 = 29
  · have hmod : (k + 1) % 30 = 0 := by omega
    have hdiv : (k + 1) / 30 = k / 30 + 1 := by omega
    rw [if_neg (by omega)]
    refine ⟨?_, ?_, ?_, ?_⟩
    · rw [hmod]
      rfl
    · rw [hmod]
      exact Nat.zero_le _
    · simp [next]
    · have hnow : i.elapsed (T + BitVec.ofInt 64 cost) =
          15 * (k / 30 : Nat) - 100 * callsBy (k / 30) + 15 := by
        rw [Idle.elapsed, h.simMs hlow hhigh hk, helapsed]
      have hnext : (i.next (T + BitVec.ofInt 64 cost) realMs).totalMsElapsed =
          if i.elapsed (T + BitVec.ofInt 64 cost) > 100
          then i.elapsed (T + BitVec.ofInt 64 cost) - 100
          else i.elapsed (T + BitVec.ofInt 64 cost) := rfl
      rw [hnext, hnow, hdiv]
      unfold callsBy
      split
      · omega
      · omega
  · have hmod : (k + 1) % 30 = k % 30 + 1 := by omega
    have hdiv : (k + 1) / 30 = k / 30 := by omega
    have hsince := h.since hlow hhigh
    rw [if_pos (by omega)]
    refine ⟨?_, ?_, ?_, ?_⟩
    · rw [hmod]
      change i.count - 1 = _
      omega
    · change _ ≤ (T + BitVec.ofInt 64 cost - i.lastCycles).toNat
      omega
    · change (T + BitVec.ofInt 64 cost - i.lastCycles).toNat ≤ _
      omega
    · rw [hdiv]
      exact helapsed

end Step

end Idle

/-! ## The loop keeps it -/

omit [Machine σ] in
/-- `idle_loop`, when the time is known. -/
lemma idleLoop_apply (periodic : M σ Unit) (realMs : Int) (i : Idle) {s : Cpu σ} {T : BitVec 64}
    (hT : s.getCycles = T) :
    idleLoop periodic realMs i s =
      (do whenever (i.calls T) periodic; return i.step T realMs : M σ Idle) s := by
  subst hT
  rw [idleLoop]
  by_cases hc : i.count - 1 > 0
  · rw [if_pos hc, Idle.step, if_pos hc, Idle.calls, decide_eq_false (fun h => h.1 hc)]
    rfl
  · rw [if_neg hc, Idle.step, if_neg hc, ok_bind (reads_apply Cpu.getCycles s)]
    by_cases he : i.elapsed s.getCycles > 100
    · rw [Idle.calls, decide_eq_true ⟨hc, he⟩, whenever, whenever, if_pos he, if_pos rfl]
    · rw [Idle.calls, decide_eq_false (fun h => he h.2), whenever, whenever, if_neg he,
        if_neg Bool.false_ne_true]

section Loop

variable {I : σ → Prop} [Unattended I] {c : MainCalls σ D} (hc : c.Benign I) {o : Settings}
  (ho : o.interrupting = false)
include hc ho

omit [Unattended I] in
/-- After a slice everything is done on schedule. -/
lemma afterSlice_scheduled {n k : Nat} {T : BitVec 64} {v : Statics D} {s : Cpu σ}
    (hs : Between I n T s) (hcalls : v.idle.calls T = scheduled k) (realMs : Int) :
    afterSlice c o realMs v s =
      (do
        let d ← scheduledWork c o k v.devices
        return { v with devices := d, idle := v.idle.step T realMs } : M σ (Statics D)) s := by
  have hfirst : clockOrDevices c o v =
      (do let d ← c.machineUpdate v.devices; return { v with devices := d } : M σ (Statics D)) :=
    if_neg (by simp [ho])
  rw [afterSlice, hfirst, scheduledWork, bind_assoc, bind_assoc]
  rcases hd : c.machineUpdate v.devices s with e | ⟨d, u⟩
  · rw [error_bind hd, error_bind hd]
  · have hu : Between I n T u := hc.machineUpdate v.devices n T s hs d u hd
    have hT : u.getCycles = T := (Cpu.getCycles_idle hu.idle).trans hu.total
    rw [ok_bind hd, ok_bind hd]
    have hidle := idleLoop_apply c.periodic realMs v.idle hT
    rw [hcalls] at hidle
    rcases hp : (whenever (scheduled k) c.periodic : M σ Unit) u with e | ⟨_, w⟩
    · rw [error_bind hp] at hidle
      rw [pure_bind, error_bind hidle, bind_assoc, error_bind hp]
    · rw [ok_bind hp] at hidle
      rw [pure_bind, ok_bind hidle, bind_assoc, ok_bind hp, bind_assoc]
      rfl

/-- **The loop of `main` does the periodic work on a fixed schedule.** -/
lemma mainFor_onSchedule {fuel : Nat} (hfuel : 512 ≤ fuel) {n k : Nat} {s : Cpu σ}
    (hs : Off I n s) {v : Statics D} (hv : v.idle.Clocked k s.total) (times : List Int) :
    (mainFor c o fuel times v s).map (Prod.map (Option.map Statics.devices) id) =
      onSchedule c o fuel times.length k v.devices s := by
  have hslice : o.slice = 1024 := by
    rw [Settings.slice, ho]
    rfl
  induction times generalizing k s v with
  | nil => rfl
  | cons realMs times ih =>
      rw [List.length_cons, onSchedule]
      obtain ⟨e, he⟩ | ⟨ks, m, -, hoff, hm, hlow, hhigh, htotal⟩ :=
        hs.mainSlice c.monitor6809 (show 1 ≤ fuel by omega) (show o.slice ≤ 2 * fuel by omega)
          (by rw [hslice]; decide)
      · rw [error_bind he, mainFor, mainIteration, error_bind (error_bind he)]
        rfl
      rw [hslice] at hlow hhigh
      have hcost : 1024 ≤ ks.sum := by simpa using hlow
      have hcost' : ks.sum ≤ 1043 := by simpa using hhigh
      have hbetween : Between I n (s.total + BitVec.ofInt 64 ks.sum) m.settled :=
        ⟨⟨hoff.monitorOn, hoff.simErrors, hoff.world⟩, htotal, rfl⟩
      have hafter := afterSlice_scheduled hc ho hbetween (hv.calls_eq hcost hcost') realMs
      have hiter : mainIteration c o fuel realMs v s =
          (do let v ← afterSlice c o realMs v; return some v : M σ (Option (Statics D)))
            m.settled := by
        rw [mainIteration, ok_bind hm]
      rw [ok_bind hm]
      change _ = (do
        let d ← scheduledWork c o (k + 1) v.devices
        if ← reads fun s => c.quitting s.world then throw (.code 0)
        else onSchedule c o fuel times.length (k + 1) d : M σ (Option D)) m.settled
      rcases hw : scheduledWork c o (k + 1) v.devices m.settled with e | ⟨d, w⟩
      · rw [error_bind hw] at hafter
        rw [error_bind hw, mainFor, error_bind (hiter.trans (error_bind hafter))]
        rfl
      · rw [ok_bind hw] at hafter
        have hw' : Between I n (s.total + BitVec.ofInt 64 ks.sum) w :=
          (afterSlice_passes hc realMs v _ hbetween _ w hafter).1
        rw [ok_bind hw, mainFor_next (hiter.trans (ok_bind hafter)),
          ok_bind (reads_apply (fun s : Cpu σ => c.quitting s.world) w)]
        split
        · rfl
        · refine ih hw'.off ?_
          rw [hw'.total]
          exact hv.step hcost hcost' realMs

end Loop

/-! ## The machines -/

end Exec09
