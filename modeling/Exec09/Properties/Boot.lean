import Exec09.Main.Boot
import Exec09.Properties.Images
import Exec09.Properties.PlainMemory
import Exec09.Properties.Records

/-!
# Running a program from its file

On a machine that simulates another one the loader, the reset and the loop of `main` do alike
(`follows_mainFrom`), so what is shown of a run on plain memory holds from the start of the process
on.  There the start is simple: the loader puts the image into the memory and the reset fetches the
vector (`boot_plain`).
-/

namespace Exec09

open Program

/-! ## Machines that simulate one another -/

section Follows

variable {σ τ D : Type} [Machine σ] [Machine τ] {exact : Prop} {R : Cpu σ → Cpu τ → Prop}

omit [Machine σ] [Machine τ] in
/-- What the loop calls does alike. -/
structure SameMainCalls (exact : Prop) (R : Cpu σ → Cpu τ → Prop) (c : MainCalls σ D)
    (c' : MainCalls τ D) : Prop where
  session : Follows exact R (whenMonitored c.monitor6809) (whenMonitored c'.monitor6809)
  machineUpdate : ∀ d, Follows exact R (c.machineUpdate d) (c'.machineUpdate d)
  periodic : Follows exact R c.periodic c'.periodic
  quitting : ∀ s t, R s t → c'.quitting t.world = c.quitting s.world

variable [SameCalls exact R]

variable {c : MainCalls σ D} {c' : MainCalls τ D} (hc : SameMainCalls exact R c c')
include hc

lemma follows_afterSlice (o : Settings) (realMs : Int) (v : Statics D) :
    Follows exact R (afterSlice c o realMs v) (afterSlice c' o realMs v) := by
  have clock : Follows exact R (clockInterrupts v : M σ (Statics D)) (clockInterrupts v) :=
    (follows_requestIrqWith follows_wrmem 0).bind fun _ =>
      Follows.ite ((follows_requestFirqWith follows_wrmem 0).bind fun _ => Follows.pure _)
        (Follows.pure _)
  have idle (i : Idle) :
      Follows exact R (idleLoop c.periodic realMs i) (idleLoop c'.periodic realMs i) :=
    Follows.ite (Follows.pure _) <|
      Follows.bind (follows_reads (fun _ => Cpu.getCycles) fun _ _ => rfl) fun _ =>
      hc.periodic.whenever.bind fun _ => Follows.pure _
  have check : Follows exact R (checkCycles o : M σ Unit) (checkCycles o) :=
    Follows.bind (follows_reads (fun _ => Cpu.total) fun _ _ => rfl) fun _ =>
      follows_simError.whenever
  exact (Follows.ite clock ((hc.machineUpdate _).bind fun _ => Follows.pure _)).bind fun _ =>
    (idle _).bind fun _ => check.bind fun _ => Follows.pure _

/-- The loop of `main`, with all it calls. -/
lemma follows_mainFor (o : Settings) (fuel : Nat) (times : List Int) (v : Statics D) :
    Follows exact R (mainFor c o fuel times v) (mainFor c' o fuel times v) := by
  induction times generalizing v with
  | nil => exact Follows.pure _
  | cons realMs times ih =>
      have iteration : Follows exact R (mainIteration c o fuel realMs v)
          (mainIteration c' o fuel realMs v) := by
        refine (follows_mainSlice hc.session fuel o.slice).bind fun r => ?_
        cases r with
        | none => exact Follows.pure _
        | some => exact (follows_afterSlice hc o realMs v).bind fun _ => Follows.pure _
      refine iteration.bind fun r => ?_
      cases r with
      | none => exact Follows.pure _
      | some v =>
          refine Follows.bind (Follows.reads fun s t hst => hc.quitting s t hst) fun quit => ?_
          exact Follows.ite (Follows.throw _) (ih v)

omit hc in
/-- **The loader, the reset and what follows them do alike.** -/
lemma follows_boot (hmon : ∀ s t, R s t → R
      { s with monitorOn := Machine.debugEnabled σ } { t with monitorOn := Machine.debugEnabled τ })
    (o : Settings) (file : Option (List Char)) (data : Unsigned) :
    Follows exact R (boot o file data : M σ (Option Unit)) (boot o file data) := by
  have init : Follows exact R (monitorInit : M σ Unit) monitorInit :=
    (follows_read16 _).bind fun _ => Follows.modify hmon
  have started : Follows exact R (do cpuReset; monitorInit; return some () : M σ (Option Unit))
      (do cpuReset; monitorInit; return some ()) :=
    follows_cpuReset.bind fun _ => init.bind fun _ => Follows.pure _
  cases hprog : o.progName with
  | none =>
      simp only [boot, hprog]
      exact init.bind fun _ => Follows.pure _
  | some name =>
      simp only [boot, hprog, loadProgram]
      by_cases htype : o.type = S19
      · simp only [if_pos htype]
        cases file with
        | none => exact Follows.throw _
        | some text =>
            obtain ⟨⟨out, hload⟩, -⟩ := loads_eq (σ := σ) (String.ofList name) text data
            obtain ⟨⟨out', hload'⟩, -⟩ := loads_eq (σ := τ) (String.ofList name) text data
            rw [hload, hload']
            simp only [bind_assoc, pure_bind]
            exact (Follows.forM fun x : Unsigned × Unsigned =>
              follows_wrmem x.1 x.2).bind fun _ => started
      · simp only [if_neg htype]
        exact started

end Follows

/-! ## The start on plain memory -/

namespace DataRecord

/-- The memory with the bytes of the record in it. -/
def place (r : DataRecord) (mem : Unsigned → U8) : Unsigned → U8 := fun a =>
  r.bytes[(a - r.addr.setWidth 32).toNat]?.getD (mem a)

/-- The record keeps to the addresses of the footprint. -/
def Within (f : Footprint) (r : DataRecord) : Prop :=
  ∀ i < r.bytes.length, f.writable (r.addr.setWidth 32 + BitVec.ofNat 32 i)

instance (f : Footprint) (r : DataRecord) : Decidable (r.Within f) :=
  inferInstanceAs (Decidable (∀ i < r.bytes.length, _))

end DataRecord

/-- The memory with the image in it, the later records over the earlier ones. -/
def image (rs : List DataRecord) (mem : Unsigned → U8) : Unsigned → U8 :=
  rs.foldl (fun m r => r.place m) mem

section Plain

variable {τ : Type} [Machine τ]

lemma Ideal.plainWrite {w : Ideal τ} {a : Unsigned} (h : w.region.writable a) (d : U8) :
    PlainWrite w a d (w.put a d) := fun _ => if_pos h

lemma Ideal.plainWord {w : Ideal τ} {a : Unsigned} (h : w.region.pair a) :
    PlainWord w a (w.mem a ++ w.mem (nextAddr a)) := fun _ => if_pos h

/-- The memory after bytes have been stored one after the other. -/
lemma storeBytes_plain {l : List U8} {a : Unsigned} {s : Cpu (Ideal τ)} (hlen : l.length < 2 ^ 32)
    (h : ∀ i < l.length, s.world.region.writable (a + BitVec.ofNat 32 i)) :
    storeBytes a l s = .ok ((), { s with world :=
      { s.world with mem := fun x => l[(x - a).toNat]?.getD (s.world.mem x) } }) := by
  induction l generalizing a s with
  | nil => rfl
  | cons b l ih =>
      have hfirst : s.world.region.writable a := by simpa using h 0 (by simp)
      have hnext (i : Nat) : a + 1 + BitVec.ofNat 32 i = a + BitVec.ofNat 32 (i + 1) := by
        rw [BitVec.ofNat_add, BitVec.add_comm (BitVec.ofNat 32 i), ← BitVec.add_assoc]
        rfl
      have hbyte : ((b.setWidth 32 : Unsigned).setWidth 8 : U8) = b := by simp
      have hwrite : wrmem a (b.setWidth 32) s = .ok ((), { s with world := s.world.put a b }) :=
        wrmem_plain (by rw [hbyte]; exact Ideal.plainWrite hfirst b)
      rw [List.length_cons] at hlen
      rw [storeBytes, ok_bind hwrite,
        ih (by omega) fun i hi => hnext i ▸ h (i + 1) (by simpa using hi)]
      -- an address is that of the first byte, or of one behind it
      have hmem : (fun x => l[(x - (a + 1)).toNat]?.getD ((s.world.put a b).mem x)) =
          fun x => (b :: l)[(x - a).toNat]?.getD (s.world.mem x) := by
        funext x
        by_cases hx : x = a
        · subst hx
          have hout : l[(x - (x + 1)).toNat]? = none := by
            rw [List.getElem?_eq_none_iff]
            have : (x - (x + 1)).toNat = 2 ^ 32 - 1 := by
              rw [show x - (x + 1) = -1 by bv_omega]
              rfl
            omega
          rw [hout, BitVec.sub_self]
          exact Function.update_self x b s.world.mem
        · have hsucc : (x - a).toNat = (x - (a + 1)).toNat + 1 := by bv_omega
          have hother : (s.world.put a b).mem x = s.world.mem x := by
            change Function.update s.world.mem a b x = _
            rw [Function.update_of_ne hx]
          rw [hsucc, List.getElem?_cons_succ, hother]
      rw [hmem]
      rfl

/-- **The records put the image into the memory.** -/
lemma store_plain {rs : List DataRecord} {s : Cpu (Ideal τ)}
    (hlen : ∀ r ∈ rs, r.bytes.length ≤ 252) (h : ∀ r ∈ rs, r.Within s.world.region) :
    (rs.forM DataRecord.store : M (Ideal τ) Unit) s =
      .ok ((), { s with world := { s.world with mem := image rs s.world.mem } }) := by
  induction rs generalizing s with
  | nil => rfl
  | cons r rs ih =>
      have hr := hlen r List.mem_cons_self
      have hstore : r.store s = .ok ((), { s with world :=
          { s.world with mem := r.place s.world.mem } }) :=
        storeBytes_plain (by omega) (h r List.mem_cons_self)
      change (do r.store; rs.forM DataRecord.store : M (Ideal τ) Unit) s = _
      rw [ok_bind hstore]
      exact ih (fun q hq => hlen q (List.mem_cons_of_mem _ hq))
        fun q hq => h q (List.mem_cons_of_mem _ hq)

/-- The processor behind the reset, about to run what is in the memory. -/
def Cpu.started (w : Ideal τ) : Cpu (Ideal τ) :=
  { Cpu.zeroed w with
    PC := (w.mem 0xfffe ++ w.mem 0xffff : U16).setWidth 32
    flags := { H := 0, N := 0, Z := 1, OV := 0, C := 0 }
    EFI := F_FLAG ||| I_FLAG
    monitorOn := Machine.debugEnabled τ }

/-- **What a program finds when it starts**: its image, and `PC` at the address in the vector. -/
lemma boot_plain {o : Settings} {name : List Char} (hprog : o.progName = some name)
    (htype : o.type = S19) {rs : List DataRecord} (hlen : ∀ r ∈ rs, r.bytes.length ≤ 252)
    {w : Ideal τ} (hrs : ∀ r ∈ rs, r.Within w.region) (hvector : w.region.pair 0xfffe)
    (start : U16) (cs : List Char) (data : Unsigned) :
    boot o (some (encodeS19 start rs ++ cs)) data (Cpu.zeroed w) =
      .ok (some (), Cpu.started { w with mem := image rs w.mem }) := by
  have hload : (loadS19 (String.ofList name) (some (encodeS19 start rs ++ cs)) data :
      M (Ideal τ) (Option Loaded)) = (do rs.forM DataRecord.store; return some ⟨0, []⟩) :=
    loadWith_eq (Load.reads_s19 start) hlen "S-record" (String.ofList name) cs data
  have hstore := store_plain (s := Cpu.zeroed w) hlen hrs
  have hread (s : Cpu (Ideal τ)) (hs : s.world.region = w.region) : read16 0xfffe s =
      .ok ((s.world.mem 0xfffe ++ s.world.mem 0xffff : U16).setWidth 32, s) :=
    read16_plain (Ideal.plainWord (by rw [hs]; exact hvector))
  simp only [boot, hprog, loadProgram, if_pos htype, hload, bind_assoc, pure_bind]
  rw [ok_bind hstore]
  -- the registers are zero already, and what the reset sets does not touch the memory
  have hreset : (cpuReset : M (Ideal τ) Unit)
      { Cpu.zeroed w with world := { w with mem := image rs w.mem } } =
      .ok ((), { Cpu.started { w with mem := image rs w.mem } with monitorOn := false }) := by
    rw [cpuReset, ok_bind (modify_apply _ _), ok_bind (hread _ rfl)]
    rfl
  have hinit : (monitorInit : M (Ideal τ) Unit)
      { Cpu.started { w with mem := image rs w.mem } with monitorOn := false } =
      .ok ((), Cpu.started { w with mem := image rs w.mem }) := by
    rw [monitorInit, ok_bind (hread _ rfl)]
    rfl
  change (do cpuReset; monitorInit; return some () : M (Ideal τ) (Option Unit))
    { Cpu.zeroed w with world := { w with mem := image rs w.mem } } = _
  rw [ok_bind hreset, ok_bind hinit]
  rfl

end Plain

/-! ## Programs on the simple machine -/

/-- On plain memory nothing happens between slices. -/
def Ideal.calls {τ D : Type} : MainCalls (Ideal τ) D where
  monitor6809 := pure false
  machineUpdate := pure
  periodic := pure ()
  quitting _ := false

namespace Simple

variable {δ : Type} [Host δ]

/-- The RAM of the simple machine, with an image in it. -/
def contents {τ : Type} (rs : List DataRecord) (priv : Nat → BitVec 64 → U8) : Ideal τ :=
  ⟨ram, image rs fun a => priv 1 (BitVec.ofNat 64 a.toNat)⟩

omit [Host δ] in
lemma shows_board (priv : Nat → BitVec 64 → U8) (h : DebugHost δ) :
    Bus.Shows (contents [] priv) (board priv h) where
  backs := backs ⟨rfl, rfl⟩
  mem a ha := by
    have hb : Config.simple.Holds (board priv h) := ⟨rfl, rfl⟩
    rw [(storageAt_ram hb ha).byteOf, device_ram hb ha, phyAddr_ram hb ha]
    rfl

/-- **A program runs as it stands in its file.**  The process that loads an S-record image into the
RAM of the simple machine, resets the CPU and enters the loop takes the CPU and the memory through
the same states as an ideal computer that starts with the image in its memory and `PC` at the
address in the vector; the debugger may look on.  Nothing is said of a program that leaves the RAM. -/
theorem mainFrom_runs_image {session : M (Bus (Io (Model.Regs .simple) (DebugHost δ))) Bool}
    (hm : Bus.LeavesAlone session) {o : Settings} {name : List Char}
    (hprog : o.progName = some name) (htype : o.type = S19) {rs : List DataRecord}
    (hlen : ∀ r ∈ rs, r.bytes.length ≤ 252) (hrs : ∀ r ∈ rs, r.Within ram) (start : U16)
    (cs : List Char) (data : Unsigned) (priv : Nat → BitVec 64 → U8) (h : DebugHost δ) (fuel : Nat)
    (times : List Int) (v : Statics Oscillator) {r : Option (Statics Oscillator)}
    {s : Cpu (Ideal (Bus (Io (Model.Regs .simple) (DebugHost δ))))}
    (hrun : mainFor Ideal.calls o fuel times v
      (Cpu.started (contents rs priv)) = .ok (r, s)) :
    ∃ t, mainFrom (Model.mainCalls .simple session fun _ => false) o
        (some (encodeS19 start rs ++ cs)) data fuel times v (Cpu.zeroed (board priv h)) = .ok (r, t) ∧
      t.proper = s.proper ∧ Bus.Shows s.world t.world := by
  have same : SameCalls False (InStep (Bus.Shows (ι := Io (Model.Regs .simple) (DebugHost δ)))) :=
    Bus.simulates_plain.sameCalls
  have calls : SameMainCalls False (InStep Bus.Shows) (Ideal.calls : MainCalls _ Oscillator)
      (Model.mainCalls .simple session fun _ => false) :=
    { session := hm.follows
      machineUpdate := fun d => Follows.pure d
      periodic := Follows.pure ()
      quitting := fun _ _ _ => rfl }
  have loaded : Follows False (InStep Bus.Shows)
      (boot o (some (encodeS19 start rs ++ cs)) data :
        M (Ideal (Bus (Io (Model.Regs .simple) (DebugHost δ)))) (Option Unit))
      (boot o (some (encodeS19 start rs ++ cs)) data) :=
    follows_boot (fun _ _ hst => hst.monitor _ _) _ _ _
  have hvector : ram.pair 0xfffe := by decide
  have blank : InStep Bus.Shows (Cpu.zeroed (contents [] priv)) (Cpu.zeroed (board priv h)) :=
    ⟨rfl, shows_board priv h⟩
  obtain ⟨t₀, ht₀, hstarted⟩ := (loaded _ _ blank).1 _ _
    (boot_plain hprog htype hlen hrs hvector start cs data)
  obtain ⟨t, ht, hst⟩ := (follows_mainFor calls o fuel times v _ _ hstarted).1 r s hrun
  exact ⟨t, (ok_bind ht₀).trans ht, hst.proper, hst.world⟩

/-- A branch to itself at $1000, and the vector. -/
def spinImage : List DataRecord := [⟨0x1000, [0x20, 0xfe]⟩, ⟨0xfffe, [0x10, 0x00]⟩]

/-- Interrupts are requested every six cycles. -/
def spinSettings : Settings :=
  { Settings.initial with progName := some "spin.s19".toList, cyclesPerIrq := 6 }

/-- The text of the image is loaded, and two slices are executed. -/
theorem mainFrom_runs_image_spin :
    ∃ r t, mainFrom (Model.mainCalls .simple goOn fun _ => false) spinSettings
        (some "S105100020FECC\nS105FFFE1000ED\nS9031000EC".toList) 0 3 [0, 0]
        (Statics.initial (Oscillator.attached ⟨0, 0, 0, 0, 0, none, 0⟩))
        (Cpu.zeroed (board (fun _ _ => 0) watched.world.io.host)) = .ok (r, t) ∧ t.PC = 0x1000 := by
  let v : Statics Oscillator := Statics.initial (Oscillator.attached ⟨0, 0, 0, 0, 0, none, 0⟩)
  let loop : M (Ideal (Bus (Io (Model.Regs .simple) (DebugHost Bare))))
      (Option (Statics Oscillator)) :=
    mainFor Ideal.calls spinSettings 3 [0, 0] v
  let s : Cpu (Ideal (Bus (Io (Model.Regs .simple) (DebugHost Bare)))) :=
    Cpu.started (contents spinImage fun _ _ => 0)
  obtain ⟨hsome, hpc⟩ : (result loop s).isSome = true ∧ (after loop s).PC = 0x1000 := by
    decide +kernel
  obtain ⟨r, hr⟩ := Option.isSome_iff_exists.mp hsome
  have hgo : Bus.LeavesAlone goOn :=
    fun t => ⟨{ t with monitorOn := false }, rfl, rfl, fun _ h => h⟩
  have hlen : ∀ r ∈ spinImage, r.bytes.length ≤ 252 := by decide
  have hwithin : ∀ r ∈ spinImage, r.Within ram := by decide
  have htext : "S105100020FECC\nS105FFFE1000ED\nS9031000EC".toList =
      encodeS19 0x1000 spinImage ++ [] := by decide
  obtain ⟨t, ht, hproper, -⟩ := mainFrom_runs_image hgo (o := spinSettings) rfl rfl
    hlen hwithin 0x1000 [] 0 (fun _ _ => 0) watched.world.io.host 3
    [0, 0] v (eq_ok_after hr)
  rw [htext]
  exact ⟨r, t, ht, (congrArg Cpu.PC hproper).trans hpc⟩

end Simple

end Exec09
