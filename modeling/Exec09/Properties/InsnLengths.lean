import Exec09.Properties.BranchTargets
import Exec09.Properties.Precise
import Exec09.Properties.ProgramCounter
import Mathlib.Tactic.IntervalCases

/-!
# The lengths of instructions

`dasm` and the interpreter agree on the length of an instruction: its opcode with the prefix, and
behind it the bytes of its mode.  `dasm` adds them up as it reads, the interpreter moves `PC` by
them, and a call stacks the address behind them.
-/

namespace Exec09

open Program

/-! ## The modes -/

/-- The mode of an instruction in the interpreter's tables is the one in the disassembler's. -/
def SameMode (table : List (U8 × OpcodeT)) (code : Unsigned) (i : Insn) : Prop :=
  (opcodeAt table (code.setWidth 8)).mode = i.addrMode

instance (table : List (U8 × OpcodeT)) (code : Unsigned) (i : Insn) :
    Decidable (SameMode table code i) :=
  inferInstanceAs (Decidable ((opcodeAt table (code.setWidth 8)).mode = i.addrMode))

/-- The tables of the disassembler list the modes the switches of the interpreter use. -/
lemma sameMode_insns0 : ∀ c ∈ insns0, ∀ i ∈ c.2.insn?, SameMode codes c.1 i := by decide +kernel

lemma sameMode_insns10 : ∀ c ∈ insns10, SameMode codes10 c.1 c.2 := by decide

lemma sameMode_insns11 : ∀ c ∈ insns11, SameMode codes11 c.1 c.2 := by decide

lemma AddrMode.size_pos {am : AddrMode} (h : am ≠ .illegal) (h' : am ≠ .implied) (op : U8) :
    1 ≤ am.size op := by
  cases am with
  | illegal => exact absurd rfl h
  | implied => exact absurd rfl h'
  | indexed => exact Nat.le_add_right 1 _
  | _ => exact Nat.le_of_ble_eq_true rfl

namespace Bus

variable {ι : Type}

/-- The byte behind the opcode at `a`. -/
def postAt (b : Bus ι) (a : Unsigned) : U8 := b.byteAt (a + BitVec.ofNat 32 (b.opcodeLength a))

/-- The bytes behind the opcode at `a`. -/
def operandLength (b : Bus ι) (a : Unsigned) : Nat := (b.insnAt a).addrMode.size (b.postAt a)

/-- The bytes of the instruction at `a`. -/
def insnLength (b : Bus ι) (a : Unsigned) : Nat := b.opcodeLength a + b.operandLength a

/-- The disassembler lists every instruction under its mode. -/
lemma mode_rowAt (b : Bus ι) (a : Unsigned) (h : (b.insnAt a).addrMode ≠ .illegal) :
    (b.rowAt a).mode = (b.insnAt a).addrMode :=
  b.decoded a (Q := fun _ row i => i.addrMode ≠ .illegal → row.mode = i.addrMode)
    (fun _ _ => ⟨fun h => absurd rfl h, fun h => absurd rfl h⟩)
    (fun c hc i hi _ => sameMode_insns0 c hc i hi) (fun c hc _ => sameMode_insns10 c hc)
    (fun c hc _ => sameMode_insns11 c hc) h

end Bus

/-! ## How many bytes `dasm` takes -/

namespace Dasm

variable {ι α β : Type} [Board ι] {v : View} {symLookup : BitVec 64 → Option String}

/-- At `p` there are `n` bytes that can be read. -/
def Legible (v : View) (b : Bus ι) (p : BitVec 64) (n : Nat) : Prop :=
  ∀ k < n, ∃ x, b.absRead8 v (p + BitVec.ofNat 64 k) = some ⟨x, b, []⟩

lemma Legible.first {b : Bus ι} {p : BitVec 64} {m n : Nat} (h : Legible v b p (m + n)) :
    Legible v b p m := fun k hk => h k (by omega)

lemma Legible.rest {b : Bus ι} {p : BitVec 64} {m n : Nat} (h : Legible v b p (m + n)) :
    Legible v b (p + BitVec.ofNat 64 m) n := by
  intro k hk
  rw [BitVec.add_assoc, ← BitVec.ofNat_add]
  exact h (m + k) (by omega)

/-- `m` takes the next `n` bytes. -/
def Takes (v : View) (n : Nat) (m : DasmM ι α) : Prop :=
  ∀ d : Dasm ι, Legible v d.bus d.pc n →
    ∃ x e, m d = some (x, e) ∧ e.pc = d.pc + BitVec.ofNat 64 n ∧ e.bus = d.bus

namespace Takes

variable {m n : Nat} {p : DasmM ι α} {f : α → DasmM ι β}

lemma pure (a : α) : Takes v 0 (pure a : DasmM ι α) :=
  fun d _ => ⟨a, d, rfl, (BitVec.add_zero d.pc).symm, rfl⟩

lemma bind (hp : Takes v m p) (hf : ∀ a, Takes v n (f a)) : Takes v (m + n) (p >>= f) := by
  intro d hd
  obtain ⟨x, e, h₁, hpc, hbus⟩ := hp d hd.first
  have he : Legible v e.bus e.pc n := by
    rw [hbus, hpc]
    exact hd.rest
  obtain ⟨y, e', h₂, hpc', hbus'⟩ := hf x e he
  refine ⟨y, e', by rw [some_bind h₁, h₂], ?_, hbus'.trans hbus⟩
  rw [hpc', hpc, BitVec.ofNat_add, BitVec.add_assoc]

/-- What is done with the bytes. -/
lemma ret (hp : Takes v n p) (g : α → β) : Takes v n (p >>= fun x => Pure.pure (g x)) :=
  hp.bind fun _ => pure _

end Takes

lemma takes_fetch8 : Takes v 1 (fetch8 v : DasmM ι U8) := by
  intro d hd
  obtain ⟨x, hx⟩ := hd 0 Nat.one_pos
  rw [BitVec.add_zero] at hx
  exact ⟨x, _, fetch8_eq hx d.signals d.target, rfl, rfl⟩

lemma takes_fetch16 : Takes v 2 (fetch16 v : DasmM ι U16) := by
  intro d hd
  obtain ⟨x, hx⟩ := hd 0 Nat.two_pos
  obtain ⟨y, hy⟩ := hd 1 Nat.one_lt_two
  rw [BitVec.add_zero] at hx
  exact ⟨x ++ y, _, fetch16_eq hx hy d.signals d.target, rfl, rfl⟩

lemma takes_get : Takes v 0 (get : DasmM ι (Dasm ι)) :=
  fun d _ => ⟨d, d, rfl, (BitVec.add_zero d.pc).symm, rfl⟩

lemma takes_signal (l : List Signal) :
    Takes v 0 (modify fun d => { d with signals := d.signals ++ l } : DasmM ι Unit) :=
  fun d _ => ⟨(), _, rfl, (BitVec.add_zero d.pc).symm, rfl⟩

lemma takes_monitorAddrName (addr : Unsigned) :
    Takes v 0 (monitorAddrName v symLookup addr : DasmM ι String) := by
  have rest (d : Dasm ι) (l : List Signal) (k : Unit → DasmM ι String) (hk : Takes v 0 (k ())) :
      Takes v 0 ((modify fun d => { d with signals := d.signals ++ l }) >>= k) :=
    (takes_signal l).bind fun _ => hk
  refine Takes.bind takes_get fun d => rest d _ _ ?_
  split
  · exact Takes.pure _
  · exact Takes.pure _

lemma takes_branchTarget (operand : BitVec 64) :
    Takes v 0 (branchTarget operand : DasmM ι (BitVec 64)) :=
  fun d _ => ⟨_, _, rfl, (BitVec.add_zero d.pc).symm, rfl⟩

lemma takes_indexedOperand (op : U8) :
    Takes v (indexedSize op) (indexedOperand v symLookup op : DasmM ι String) := by
  have named : Takes v 2 (do
      return "[" ++ (← monitorAddrName v symLookup ((← fetch16 v).setWidth 32)) ++ "]" :
        DasmM ι String) :=
    takes_fetch16.bind fun _ => (takes_monitorAddrName _).ret _
  unfold indexedOperand indexedSize
  split_ifs
  · exact Takes.pure _
  · have hlt : (op &&& 0x1f).toNat < 32 := by
      rw [BitVec.toNat_and]
      exact Nat.lt_of_le_of_lt Nat.and_le_right (by decide)
    generalize (op &&& 0x1f).toNat = n at hlt
    interval_cases n <;> first
      | exact Takes.pure _
      | exact takes_fetch8.ret _
      | exact takes_fetch16.ret _
      | exact named

/-- The operand in a mode whose first byte is `op`. -/
lemma operand_takes (am : AddrMode) (buf : String) {d : Dasm ι} {op : U8}
    (hd : Legible v d.bus d.pc (am.size op))
    (ho : am = .indexed → d.bus.absRead8 v d.pc = some ⟨op, d.bus, []⟩) :
    ∃ text e, operand v symLookup am buf d = some (text, e) ∧
      e.pc = d.pc + BitVec.ofNat 64 (am.size op) := by
  have of {n : Nat} {m : DasmM ι String} (hm : Takes v n m) (hn : Legible v d.bus d.pc n) :
      ∃ text e, m d = some (text, e) ∧ e.pc = d.pc + BitVec.ofNat 64 n := by
    obtain ⟨text, e, h, hpc, -⟩ := hm d hn
    exact ⟨text, e, h, hpc⟩
  cases am with
  | illegal | implied => exact of (Takes.pure _) hd
  | immByte => exact of (takes_fetch8.ret _) hd
  | immWord => exact of (takes_fetch16.ret _) hd
  | direct => exact of (takes_fetch8.bind fun _ => (takes_monitorAddrName _).ret _) hd
  | extended => exact of (takes_fetch16.bind fun _ => (takes_monitorAddrName _).ret _) hd
  | relByte => exact of (takes_fetch8.bind fun _ => (takes_branchTarget _).ret _) hd
  | relWord => exact of (takes_fetch16.bind fun _ => (takes_branchTarget _).ret _) hd
  | regPost => exact of (takes_fetch8.ret _) hd
  | sysPost | usrPost => exact of (takes_fetch8.ret _) hd
  | indexed =>
      -- the postbyte decides how much there is behind it
      have hrest : Takes v (indexedSize op) (do
          return buf ++ (← indexedOperand v symLookup op) : DasmM ι String) :=
        (takes_indexedOperand op).ret _
      obtain ⟨text, e, h, hpc, -⟩ := hrest ⟨d.pc + 1, d.bus, d.signals, d.target⟩ hd.rest
      refine ⟨text, e, ?_, ?_⟩
      · change (fetch8 v >>= fun op => indexedOperand v symLookup op >>= fun text =>
          pure (buf ++ text)) d = _
        rw [some_bind (fetch8_eq (ho rfl) d.signals d.target)]
        exact h
      · rw [hpc, AddrMode.size, BitVec.ofNat_add, ← BitVec.add_assoc]
        rfl

end Dasm

namespace Bus

variable {ι : Type} [Board ι] {c : Config} {b : Bus ι} {lo top : Nat}

/-- **`dasm` returns the length of the instruction.** -/
lemma Region.dasm_length (hr : b.Region lo top) (hb : c.Holds b) {a : Unsigned}
    (hl : lo ≤ a.toNat) (hu : a.toNat + b.insnLength a ≤ top)
    (hi : (b.insnAt a).addrMode ≠ .illegal) (v : View) (symLookup : BitVec 64 → Option String) :
    ∃ d, dasm v symLookup (b.toAbsolute a) b = some d ∧
      d.length = BitVec.ofNat 32 (b.insnLength a) := by
  have hu' : a.toNat + (b.opcodeLength a + b.operandLength a) ≤ top := hu
  have hread (k : Nat) (hk : k < b.operandLength a) :
      b.absRead8 v (b.toAbsolute a + BitVec.ofNat 64 (b.opcodeLength a) + BitVec.ofNat 64 k) =
        some ⟨b.byteAt (a + BitVec.ofNat 32 (b.opcodeLength a + k)), b, []⟩ := by
    rw [BitVec.add_assoc, ← BitVec.ofNat_add]
    exact hr.absRead8_add hb v hl (by omega)
  have hmode := b.mode_rowAt a hi
  let d : Dasm ι := ⟨b.toAbsolute a + BitVec.ofNat 64 (b.opcodeLength a), b, [], none⟩
  obtain ⟨text, e, ho, hpc⟩ : ∃ text e, Dasm.operand v symLookup (b.insnAt a).addrMode
      (formatField 6 (b.rowAt a).code.mne) d = some (text, e) ∧
      e.pc = d.pc + BitVec.ofNat 64 ((b.insnAt a).addrMode.size (b.postAt a)) :=
    Dasm.operand_takes _ _ (fun k hk => ⟨_, hread k hk⟩) (fun hx => by
      have hpos := AddrMode.size_pos hi (by rw [hx]; decide) (b.postAt a)
      have h₀ := hread 0 hpos
      rw [BitVec.add_zero] at h₀
      exact h₀)
  rw [← hmode] at ho
  refine ⟨_, hr.dasm_eq hb hl (by omega) ho, ?_⟩
  change (e.pc - b.toAbsolute a).setWidth 32 = _
  rw [hpc, BitVec.add_assoc, ← BitVec.ofNat_add, BitVec.add_comm, BitVec.add_sub_cancel,
    BitVec.setWidth_ofNat_of_le (by decide)]
  rfl

end Bus

/-! ## Both together -/

section Both

variable {ι : Type} [Board ι] {lo top : Nat}

omit [Board ι] in
lemma Bus.insnLength_le (b : Bus ι) (a : Unsigned) : b.insnLength a ≤ 5 := by
  have hop : b.opcodeLength a ≤ 2 := by
    unfold Bus.opcodeLength
    split <;> decide
  have hindexed (op : U8) : indexedSize op ≤ 2 := by
    unfold indexedSize
    repeat' split
    all_goals decide
  have hsize (am : AddrMode) (op : U8) : am.size op ≤ 3 := by
    have hi := hindexed op
    cases am <;> simp only [AddrMode.size] <;> omega
  exact Nat.add_le_add hop (hsize _ _)

/-- Behind the opcode the interpreter finds the byte that is there. -/
lemma next_postAt {s u : Cpu (Bus ι)} (hr : s.world.Region lo top) (hl : lo ≤ s.PC.toNat)
    (hu : s.PC.toNat + s.world.opcodeLength s.PC < top)
    (hpc : u.PC = s.PC + BitVec.ofNat 32 (s.world.opcodeLength s.PC))
    (hw : ∃ io, u.world = { s.world with io := io }) : u.Next (s.world.postAt s.PC) := by
  intro v
  obtain ⟨io, hw⟩ := hw
  have hn := hr.toNat_add hu
  have hm : s.world.MemoryAt (s.PC + BitVec.ofNat 32 (s.world.opcodeLength s.PC)) :=
    (hr.storage _ (by omega) (by omega)).memoryAt
  have hread := Bus.cpuRead8_memory (b := { s.world with io := io }) v hm
  rw [hw, hpc]
  exact congrArg Reply.val hread

/-- From `s` to `t` an interrupt handler is entered. -/
def EntersHandler {σ : Type} (s t : Cpu σ) : Prop :=
  s.hist.countP Event.isEntry < t.hist.countP Event.isEntry

/-- **The disassembler and the interpreter agree on the length of an instruction.**  The
instruction at `PC` lies in one piece of memory and nothing is reported to the user. -/
theorem insn_lengths_agree {c : Config} {s t : Cpu (Bus ι)} {i : Insn} (hb : c.Holds s.world)
    (hr : s.world.Region lo top) (hl : lo ≤ s.PC.toNat)
    (hu : s.PC.toNat + s.world.insnLength s.PC ≤ top) (h : cpuBody s = .ok (i, t))
    (he : t.simErrors = s.simErrors) (v : View) (symLookup : BitVec 64 → Option String) :
    ∃ d, dasm v symLookup (s.world.toAbsolute s.PC) s.world = some d ∧
      (i.transfers ((s.world.postAt s.PC).setWidth 32) s.flags = false → ¬EntersHandler s t →
        t.PC = s.PC + d.length) ∧
      (i.calls = true →
        (∃ u, cpuFetch s = .ok (i, u) ∧ i.Stacks u t ((s.PC + d.length) &&& 0xffff)) ∧
        (v.pc = s.PC → s.PC.toNat + d.length.toNat < top →
          cmdNextAddr v symLookup s.world = some (s.world.toAbsolute (s.PC + d.length)))) := by
  have hlen : s.PC.toNat + (s.world.opcodeLength s.PC + s.world.operandLength s.PC) ≤ top := hu
  have hop := s.world.opcodeLength_pos s.PC
  have memory (k : Nat) (hk : s.PC.toNat + k < top) :
      s.world.MemoryAt (s.PC + BitVec.ofNat 32 k) := by
    have hn := hr.toNat_add hk
    exact (hr.storage _ (by omega) (by omega)).memoryAt
  obtain ⟨u, hf, hx⟩ := cpuBody_eq_ok h
  have hm : s.world.MemoryAt s.PC := by simpa using memory 0 (by omega)
  obtain ⟨hi, hpc, hfl, hw⟩ := cpuFetch_bus hm (fun hp => memory 1 (by omega)) hf
  -- nothing is reported on the way
  have hfetch : s.simErrors ≤ u.simErrors := (free_cpuFetch s i u hf).errors
  have hexec : u.simErrors ≤ t.simErrors := (i.charges_exec u _ t hx).errors
  have hlegal : i.addrMode ≠ .illegal := i.legal_of_quiet hx (by omega)
  have hnext (himp : i.addrMode ≠ .implied) : u.Next (s.world.postAt s.PC) := by
    have hpos := AddrMode.size_pos hlegal himp (s.world.postAt s.PC)
    rw [hi] at hpos
    exact next_postAt hr hl (Nat.lt_of_lt_of_le (Nat.add_lt_add_left
      (Nat.lt_add_of_pos_right hpos) _) hlen) hpc hw
  obtain ⟨d, hd, hdl⟩ := hr.dasm_length hb hl hu (hi ▸ hlegal) v symLookup
  have hsum : u.PC + BitVec.ofNat 32 (i.addrMode.size (s.world.postAt s.PC)) =
      s.PC + d.length := by
    rw [hpc, hdl, hi, BitVec.add_assoc, ← BitVec.ofNat_add]
    rfl
  refine ⟨d, hd, fun ht hn => ?_, fun hc => ⟨⟨u, hf, ?_⟩, fun hv hin => ?_⟩⟩
  · have hmoved := i.moved_exec hnext (hfl ▸ ht) hx
    have hhist : u.hist = s.hist := keeps_cpuFetch s _ u hf
    have hquiet : t.alarms = u.alarms := by
      have hle := hmoved.alarms
      have hno : t.hist.countP Event.isEntry ≤ s.hist.countP Event.isEntry := Nat.le_of_not_lt hn
      simp only [Cpu.alarms, hhist] at hle ⊢
      omega
    rw [hmoved.pc hquiet, hsum]
  · rw [← hsum]
    exact i.stacks_return hc hnext hx (by omega)
  · have hfive := s.world.insnLength_le s.PC
    rw [hdl, BitVec.toNat_ofNat, Nat.mod_eq_of_lt (by omega)] at hin
    rw [cmdNextAddr, hv]
    simp only [hd, Option.map_some, Option.some.injEq]
    rw [hdl, hr.toAbsolute_add hl _ hin]
    congr 1
    interval_cases s.world.insnLength s.PC <;> rfl

end Both

/-! ## At the edges -/

/-- A WPC whose RAM ends with `JSR 0`. -/
def edge : Bus (Io WpcAsic Bare) :=
  Wpc.bus (Wpc.after []) (fun _ p => if p = 0x1ffd then 0xbd else 0) ⟨⟩

lemma edge_holds : (Config.wpc []).Holds edge := ⟨rfl, rfl⟩

lemma edge_region : edge.Region 0 0x2000 :=
  Config.region (w := (0, 64)) edge_holds List.mem_cons_self
    (Wpc.storageAt edge_holds (Wpc.locate_ram edge_holds (i := 0) (by decide)).1 (by decide)
      (by decide)) (by decide) (by decide)

def atEdge : Cpu (Bus (Io WpcAsic Bare)) := { Cpu.zeroed edge with PC := 0x1ffd, S := 0x100 }

/-- The call stacks the address behind it. -/
theorem insn_lengths_agree_jsr : ∃ u, cpuFetch atEdge = .ok (.jsr (.extended 8), u) ∧
    (Insn.jsr (.extended 8)).Stacks u (after cpuBody atEdge) 0x2000 := by
  have run : result cpuBody atEdge = some (.jsr (.extended 8)) := by decide +kernel
  have length : (dasm atEdge.view (fun _ => none) (atEdge.world.toAbsolute atEdge.PC)
      atEdge.world).map (·.length) = some 3 := by decide +kernel
  obtain ⟨d, hd, -, hcalls⟩ := insn_lengths_agree edge_holds edge_region (Nat.zero_le _)
    (by decide +kernel) (eq_ok_after run) (by decide +kernel) atEdge.view (fun _ => none)
  rw [hd] at length
  have hstacks := (hcalls rfl).1
  rwa [show d.length = 3 from Option.some.inj length] at hstacks

lemma staEnb_region : staEnb.world.Region 0 0x1000 := by
  have hb : (Config.eon2 (fun _ => 0) (fun _ _ => 0) []).Holds staEnb.world := ⟨rfl, rfl⟩
  have hs : staEnb.world.StorageAt 0 := Or.inl (by decide +kernel)
  exact Config.region (w := (0, 32)) hb (by decide) hs (by decide) (by decide)

/-- A store that enables a waiting interrupt goes on in the handler; and behind a call at the end of
a piece of memory `cmd_next` puts its breakpoint elsewhere. -/
theorem store_goes_on_in_handler :
    (staEnb.world.Region 0 0x1000 ∧ result cpuBody staEnb = some (.st8 .A (.extended 5)) ∧
      (after cpuBody staEnb).simErrors = staEnb.simErrors ∧
      (dasm staEnb.view (fun _ => none) (staEnb.world.toAbsolute staEnb.PC)
        staEnb.world).map (·.length) = some 3 ∧
      (after cpuBody staEnb).PC &&& 0xffff ≠ (staEnb.PC + 3) &&& 0xffff) ∧
    (atEdge.world.Region 0 0x2000 ∧ result cpuBody atEdge = some (.jsr (.extended 8)) ∧
      (after cpuBody atEdge).simErrors = atEdge.simErrors ∧
      (dasm atEdge.view (fun _ => none) (atEdge.world.toAbsolute atEdge.PC)
        atEdge.world).map (·.length) = some 3 ∧
      cmdNextAddr atEdge.view (fun _ => none) atEdge.world ≠
        some (atEdge.world.toAbsolute (atEdge.PC + 3))) := by
  refine ⟨⟨staEnb_region, ?_⟩, edge_region, ?_⟩ <;> decide +kernel

end Exec09
