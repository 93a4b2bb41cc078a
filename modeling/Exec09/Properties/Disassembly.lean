import Exec09.Monitor.Dasm
import Exec09.Properties.Absolute
import Exec09.Properties.FastRead
import Exec09.Properties.Interrupts

/-!
# The same bytes twice

The disassembler reads an instruction through absolute addresses, the interpreter through `PC`.
Where consecutive bytes of one RAM or ROM are mapped both see the same bytes, find the instruction
behind the same prefixes, and look it up under the same opcode.
-/

namespace Exec09

open Program

lemma setWidth_of_byte (op : U8) : (op.setWidth 32 : Unsigned).setWidth 8 = op := by
  apply BitVec.eq_of_toNat_eq
  simp

/-! ## Memory that is mapped in one piece -/

namespace Bus

variable {ι : Type}

/-- The byte of memory mapped at `a`. -/
def byteAt (b : Bus ι) (a : Unsigned) : U8 := b.byteOf (b.device a) (b.phyAddr a)

/-- From `lo` up to `hi`, consecutive bytes of one RAM or ROM are mapped. -/
structure Region (b : Bus ι) (lo hi : Nat) : Prop where
  bound : hi ≤ MAX_CPU_ADDR
  storage : ∀ a : Unsigned, lo ≤ a.toNat → a.toNat < hi → b.StorageAt a
  devid : ∀ a : Unsigned, lo ≤ a.toNat → a.toNat + 1 < hi →
    (b.findMap (a + 1)).devid = (b.findMap a).devid
  offset : ∀ a : Unsigned, lo ≤ a.toNat → a.toNat + 1 < hi → b.phyAddr (a + 1) = b.phyAddr a + 1

namespace Region

variable {b : Bus ι} {lo hi : Nat} (h : b.Region lo hi)
include h

lemma toNat_add {a : Unsigned} {k : Nat} (hk : a.toNat + k < hi) :
    (a + BitVec.ofNat 32 k).toNat = a.toNat + k := by
  have hb : hi ≤ 65536 := h.bound
  rw [BitVec.toNat_add, BitVec.toNat_ofNat]
  omega

/-- Consecutive addresses have consecutive absolute addresses. -/
lemma toAbsolute_add {a : Unsigned} (hl : lo ≤ a.toNat) (k : Nat) (hk : a.toNat + k < hi) :
    b.toAbsolute (a + BitVec.ofNat 32 k) = b.toAbsolute a + BitVec.ofNat 64 k := by
  induction k with
  | zero => simp
  | succ k ih =>
    have hn := h.toNat_add (a := a) (k := k) (by omega)
    have hstep : b.toAbsolute (a + BitVec.ofNat 32 k + 1) =
        b.toAbsolute (a + BitVec.ofNat 32 k) + 1 := by
      rw [toAbsolute, toAbsolute, h.devid _ (by omega) (by omega), h.offset _ (by omega) (by omega)]
      simp only [absoluteFromReladdr, BitVec.add_assoc]
    rw [BitVec.ofNat_add, BitVec.ofNat_add, ← BitVec.add_assoc, ← BitVec.add_assoc,
      ← ih (by omega)]
    exact hstep

/-- The absolute address as a function of the address. -/
lemma toAbsolute_eq {a t : Unsigned} (ha : lo ≤ a.toNat) (ha' : a.toNat < hi) (ht : lo ≤ t.toNat)
    (ht' : t.toNat < hi) :
    b.toAbsolute t = b.toAbsolute a + (BitVec.ofNat 64 t.toNat - BitVec.ofNat 64 a.toNat) := by
  have step {x y : Unsigned} (hx : lo ≤ x.toNat) (hxy : x.toNat ≤ y.toNat) (hy : y.toNat < hi) :
      b.toAbsolute y = b.toAbsolute x + (BitVec.ofNat 64 y.toNat - BitVec.ofNat 64 x.toNat) := by
    obtain ⟨k, hk⟩ := Nat.exists_eq_add_of_le hxy
    have hy' : y = x + BitVec.ofNat 32 k :=
      BitVec.eq_of_toNat_eq (by rw [h.toNat_add (by omega), hk])
    rw [hk, BitVec.ofNat_add, BitVec.add_comm (BitVec.ofNat 64 x.toNat), BitVec.add_sub_cancel]
    conv_lhs => rw [hy']
    exact h.toAbsolute_add hx k (by omega)
  rcases Nat.le_total a.toNat t.toNat with hle | hle
  · exact step ha hle ht'
  · rw [step ht hle ha']
    generalize BitVec.ofNat 64 a.toNat = x
    generalize BitVec.ofNat 64 t.toNat = y
    bv_omega

/-- The second byte of a word is the one at the next address. -/
lemma next_byte {a : Unsigned} (hl : lo ≤ a.toNat) (hk : a.toNat + 1 < hi) :
    b.byteOf (b.device a) (b.phyAddr a + 1) = b.byteAt (a + 1) := by
  rw [byteAt, h.offset a hl hk, device, device, h.devid a hl hk]

/-- The debugger sees the byte the CPU sees. -/
lemma absRead8_eq [Board ι] {c : Config} (hb : c.Holds b) (v : View) {a : Unsigned}
    (hl : lo ≤ a.toNat) (hu : a.toNat < hi) :
    b.absRead8 v (b.toAbsolute a) = some ⟨b.byteAt a, b, []⟩ := by
  have hs := h.storage a hl hu
  have hd := (hs.answers hb).debuggable hb (Nat.lt_of_lt_of_le hu h.bound) hs.memoryAt
  obtain ⟨r, hr, -⟩ := hd.read v
  rw [absRead8, Option.ite_none_right_eq_some] at hr
  rw [absRead8, if_pos hr.1, hd.device, hd.offset, devRead_memory v hs.memoryAt]
  rfl

/-- A byte further on. -/
lemma absRead8_add [Board ι] {c : Config} (hb : c.Holds b) (v : View) {a : Unsigned}
    (hl : lo ≤ a.toNat) {k : Nat} (hk : a.toNat + k < hi) :
    b.absRead8 v (b.toAbsolute a + BitVec.ofNat 64 k) =
      some ⟨b.byteAt (a + BitVec.ofNat 32 k), b, []⟩ := by
  have hn := h.toNat_add hk
  rw [← h.toAbsolute_add hl k hk]
  exact h.absRead8_eq hb v (by omega) (by omega)

end Region

/-- A linear stretch of the table is one piece of memory if a byte of it is memory. -/
lemma region_of_linear {b : Bus ι} {lo hi : Nat} (h : Linear b.busmaps lo hi)
    (hhi : hi ≤ NUM_BUS_MAPS) {a : Unsigned} (ha : b.StorageAt a)
    (hl : lo ≤ a.toNat / BUS_MAP_SIZE) (hu : a.toNat / BUS_MAP_SIZE < hi) :
    b.Region (BUS_MAP_SIZE * lo) (BUS_MAP_SIZE * hi) := by
  have hhi' : hi ≤ 512 := hhi
  have inside {x : Unsigned} (hx : BUS_MAP_SIZE * lo ≤ x.toNat)
      (hx' : x.toNat < BUS_MAP_SIZE * hi) :
      lo ≤ x.toNat / BUS_MAP_SIZE ∧ x.toNat / BUS_MAP_SIZE < hi := by
    have hx : 128 * lo ≤ x.toNat := hx
    have hx' : x.toNat < 128 * hi := hx'
    change lo ≤ x.toNat / 128 ∧ x.toNat / 128 < hi
    omega
  have devid {x : Unsigned} (hx : BUS_MAP_SIZE * lo ≤ x.toNat)
      (hx' : x.toNat < BUS_MAP_SIZE * hi) : (b.findMap x).devid = (b.busmaps lo).devid :=
    h.devid _ (inside hx hx').1 (inside hx hx').2
  have next {x : Unsigned} (hx' : x.toNat + 1 < BUS_MAP_SIZE * hi) :
      (x + 1).toNat = x.toNat + 1 := by
    have hx' : x.toNat + 1 < 128 * hi := hx'
    rw [BitVec.toNat_add]
    change (x.toNat + 1) % 4294967296 = x.toNat + 1
    omega
  have phyAddr {x : Unsigned} (hx : BUS_MAP_SIZE * lo ≤ x.toNat)
      (hx' : x.toNat < BUS_MAP_SIZE * hi) :
      b.phyAddr x = (b.busmaps lo).offset + BitVec.ofNat 64 (x.toNat - BUS_MAP_SIZE * lo) := by
    have hsum : BUS_MAP_SIZE * (x.toNat / BUS_MAP_SIZE - lo) + x.toNat % BUS_MAP_SIZE =
        x.toNat - BUS_MAP_SIZE * lo := by
      have hx : 128 * lo ≤ x.toNat := hx
      change 128 * (x.toNat / 128 - lo) + x.toNat % 128 = x.toNat - 128 * lo
      omega
    rw [Bus.phyAddr, findMap, h.offset _ (inside hx hx').1 (inside hx hx').2, BitVec.add_assoc,
      ← BitVec.ofNat_add, hsum]
  constructor
  · change 128 * hi ≤ 65536
    omega
  · intro x hx hx'
    have hd : b.device x = b.device a := by
      rw [device, device, devid hx hx', findMap, h.devid _ hl hu]
    rwa [StorageAt, hd]
  · intro x hx hx'
    have hn := next hx'
    rw [devid hx (by omega), devid (by omega) (by omega)]
  · intro x hx hx'
    have hn := next hx'
    have hsucc : x.toNat + 1 - BUS_MAP_SIZE * lo = x.toNat - BUS_MAP_SIZE * lo + 1 := by omega
    rw [phyAddr hx (by omega), phyAddr (by omega) (by omega), hn, hsucc, BitVec.ofNat_add,
      BitVec.add_assoc]
    rfl

end Bus

/-- Every window of RAM or ROM of a machine is one piece of memory. -/
lemma Config.region {ι : Type} [Board ι] {c : Config} {b : Bus ι} (hb : c.Holds b) {w : Nat × Nat}
    (hw : w ∈ c.windows) {a : Unsigned} (ha : b.StorageAt a) (hl : w.1 ≤ a.toNat / BUS_MAP_SIZE)
    (hu : a.toNat / BUS_MAP_SIZE < w.2) : b.Region (BUS_MAP_SIZE * w.1) (BUS_MAP_SIZE * w.2) := by
  refine Bus.region_of_linear ?_ (c.windows_le hw) ha hl hu
  rw [hb.maps]
  exact c.linear hw

/-! ## What `dasm` reads -/

namespace Dasm

variable {ι : Type} [Board ι] {v : View} {symLookup : BitVec 64 → Option String} {b : Bus ι}

omit [Board ι] in
lemma some_bind {α β : Type} {m : DasmM ι α} {f : α → DasmM ι β} {d e : Dasm ι} {x : α}
    (h : m d = some (x, e)) : (m >>= f) d = f x e := by
  change (m d).bind (fun p => f p.1 p.2) = _
  rw [h]
  rfl

/-- Reading memory changes nothing. -/
lemma absRead8_eq {p : BitVec 64} {x : U8} (h : b.absRead8 v p = some ⟨x, b, []⟩) (q : BitVec 64)
    (l : List Signal) (t : Option (BitVec 64)) :
    absRead8 v p ⟨q, b, l, t⟩ = some (x, ⟨q, b, l, t⟩) := by
  simp [absRead8, h]

lemma fetch8_eq {p : BitVec 64} {x : U8} (h : b.absRead8 v p = some ⟨x, b, []⟩) (l : List Signal)
    (t : Option (BitVec 64)) : fetch8 v ⟨p, b, l, t⟩ = some (x, ⟨p + 1, b, l, t⟩) :=
  absRead8_eq h (p + 1) l t

lemma fetch16_eq {p : BitVec 64} {x y : U8} (h : b.absRead8 v p = some ⟨x, b, []⟩)
    (h' : b.absRead8 v (p + 1) = some ⟨y, b, []⟩) (l : List Signal) (t : Option (BitVec 64)) :
    fetch16 v ⟨p, b, l, t⟩ = some (x ++ y, ⟨p + 2, b, l, t⟩) := by
  change (absRead8 v (p + 2 - 2) >>= fun hi => absRead8 v (p + 2 - 2 + 1) >>= fun lo =>
    pure (hi ++ lo)) ⟨p + 2, b, l, t⟩ = _
  rw [BitVec.add_sub_cancel, some_bind (absRead8_eq h _ l t), some_bind (absRead8_eq h' _ l t)]
  rfl

end Dasm

/-! ## What the interpreter reads -/

section Fetching

variable {ι : Type} [Board ι]

/-- Fetching memory changes what the hooks keep and nothing else of the bus. -/
lemma immByte_bus {s t : Cpu (Bus ι)} {x : Unsigned} (hm : s.world.MemoryAt s.PC)
    (h : immByte s = .ok (x, t)) :
    x = (s.world.byteAt s.PC).setWidth 32 ∧ t.PC = s.PC + 1 ∧ t.flags = s.flags ∧
      ∃ io, t.world = { s.world with io := io } := by
  obtain ⟨_, s₁, h₁, h⟩ := bind_eq_ok.mp h
  cases h₁
  obtain ⟨d, s₂, h₂, h⟩ := bind_eq_ok.mp h
  obtain ⟨rfl, on, n, rfl⟩ := rdmem_eq_ok h₂
  cases h
  have hr : Machine.read8 s.view s.world s.PC = _ := Bus.cpuRead8_memory s.view hm
  refine ⟨by rw [hr]; rfl, rfl, rfl, ?_⟩
  simp only [hr]
  exact ⟨_, rfl⟩

lemma immWord_bus {s t : Cpu (Bus ι)} {x : Unsigned} (hm : s.world.MemoryAt s.PC)
    (h : immWord s = .ok (x, t)) :
    x = (s.world.byteAt s.PC ++ s.world.byteOf (s.world.device s.PC) (s.world.phyAddr s.PC + 1) :
      U16).setWidth 32 ∧ t.PC = s.PC + 2 := by
  obtain ⟨_, s₁, h₁, h⟩ := bind_eq_ok.mp h
  cases h₁
  obtain ⟨d, s₂, h₂, h⟩ := bind_eq_ok.mp h
  obtain ⟨rfl, on, n, rfl⟩ := read16_eq_ok h₂
  cases h
  have hr : Machine.read16 s.view s.world s.PC = _ := Bus.cpuRead16_memory s.view hm
  exact ⟨by rw [hr]; rfl, rfl⟩

/-! ## Decoding -/

omit [Board ι] in
/-- The number of bytes of the opcode at `a`, with its prefix. -/
def Bus.opcodeLength (b : Bus ι) (a : Unsigned) : Nat :=
  if b.byteAt a = 0x10 ∨ b.byteAt a = 0x11 then 2 else 1

omit [Board ι] in
/-- The instruction the interpreter finds at `a`. -/
def Bus.insnAt (b : Bus ι) (a : Unsigned) : Insn :=
  match insns0.lookup ((b.byteAt a).setWidth 32) with
  | none => .invalid
  | some (.insn i) => i
  | some .page10 => decodePrefixed insns10 ((b.byteAt (a + 1)).setWidth 32)
  | some .page11 => decodePrefixed insns11 ((b.byteAt (a + 1)).setWidth 32)

omit [Board ι] in
/-- The entry the disassembler finds for the opcode at `a`. -/
def Bus.rowAt (b : Bus ι) (a : Unsigned) : OpcodeT :=
  if b.byteAt a = 0x10 then opcodeAt codes10 (b.byteAt (a + 1))
  else if b.byteAt a = 0x11 then opcodeAt codes11 (b.byteAt (a + 1))
  else opcodeAt codes (b.byteAt a)

set_option maxRecDepth 8000 in
/-- Only the two prefixes lead to another switch. -/
lemma prefix_insns0 :
    ∀ c ∈ insns0, (c.2 = .page10 → c.1 = 0x10) ∧ (c.2 = .page11 → c.1 = 0x11) := by decide

lemma eq_prefix_of_lookup {op : U8} {e : Entry} (h : insns0.lookup (op.setWidth 32) = some e) :
    (e = .page10 → op = 0x10) ∧ (e = .page11 → op = 0x11) := by
  have narrow {x : Unsigned} (hx : op.setWidth 32 = x) : op = x.setWidth 8 := by
    rw [← hx, setWidth_of_byte]
  obtain ⟨h₀, h₁⟩ := prefix_insns0 _ (mem_of_lookup_eq h)
  exact ⟨fun he => narrow (h₀ he), fun he => narrow (h₁ he)⟩

/-- A byte that is looked up as an instruction is no prefix. -/
lemma not_prefix_of_lookup {op : U8} (h : ∀ e ∈ insns0.lookup (op.setWidth 32), ∃ i, e = .insn i) :
    op ≠ 0x10 ∧ op ≠ 0x11 := by
  constructor
  · rintro rfl
    obtain ⟨i, hi⟩ := h .page10 rfl
    cases hi
  · rintro rfl
    obtain ⟨i, hi⟩ := h .page11 rfl
    cases hi

lemma decodePrefixed_cases (insns : List (Unsigned × Insn)) (op : Unsigned) :
    decodePrefixed insns op = .invalidPrefixed ∨ (op, decodePrefixed insns op) ∈ insns := by
  unfold decodePrefixed
  rcases hl : insns.lookup op with _ | i
  · exact Or.inl rfl
  · exact Or.inr (mem_of_lookup_eq hl)

omit [Board ι] in
/-- **What holds of the rows of the tables and of undefined opcodes holds of every opcode.** -/
lemma Bus.decoded (b : Bus ι) (a : Unsigned) {Q : Nat → OpcodeT → Insn → Prop}
    (invalid : ∀ n row, Q n row .invalid ∧ Q n row .invalidPrefixed)
    (plain : ∀ c ∈ insns0, ∀ i ∈ c.2.insn?, Q 1 (opcodeAt codes (c.1.setWidth 8)) i)
    (page10 : ∀ c ∈ insns10, Q 2 (opcodeAt codes10 (c.1.setWidth 8)) c.2)
    (page11 : ∀ c ∈ insns11, Q 2 (opcodeAt codes11 (c.1.setWidth 8)) c.2) :
    Q (b.opcodeLength a) (b.rowAt a) (b.insnAt a) := by
  have prefixed {insns : List (Unsigned × Insn)} {codes : List (U8 × OpcodeT)}
      (h : ∀ c ∈ insns, Q 2 (opcodeAt codes (c.1.setWidth 8)) c.2) (op : U8) :
      Q 2 (opcodeAt codes op) (decodePrefixed insns (op.setWidth 32)) := by
    rcases decodePrefixed_cases insns (op.setWidth 32) with hd | hd
    · rw [hd]
      exact (invalid _ _).2
    · have hrow := h _ hd
      rwa [setWidth_of_byte] at hrow
  rcases hl : insns0.lookup ((b.byteAt a).setWidth 32) with _ | (i | _ | _)
  · rw [show b.insnAt a = .invalid by rw [Bus.insnAt, hl]]
    exact (invalid _ _).1
  · obtain ⟨h₀, h₁⟩ := not_prefix_of_lookup fun e he => by
      rw [hl] at he
      exact ⟨i, (Option.some.inj he).symm⟩
    have hrow := plain _ (mem_of_lookup_eq hl) i rfl
    rw [setWidth_of_byte] at hrow
    rw [Bus.opcodeLength, Bus.rowAt, Bus.insnAt, hl, if_neg h₀, if_neg h₁,
      if_neg (not_or.mpr ⟨h₀, h₁⟩)]
    exact hrow
  · have hp := (eq_prefix_of_lookup hl).1 rfl
    rw [Bus.opcodeLength, Bus.rowAt, Bus.insnAt, hl, if_pos hp, if_pos (Or.inl hp)]
    exact prefixed page10 _
  · have hp := (eq_prefix_of_lookup hl).2 rfl
    have h₀ : b.byteAt a ≠ 0x10 := by
      rw [hp]
      decide
    rw [Bus.opcodeLength, Bus.rowAt, Bus.insnAt, hl, if_pos (Or.inr hp), if_neg h₀, if_pos hp]
    exact prefixed page11 _

/-- **The interpreter fetches the instruction that is there.** -/
lemma cpuFetch_bus {s u : Cpu (Bus ι)} {i : Insn} (hm : s.world.MemoryAt s.PC)
    (hm' : s.world.opcodeLength s.PC = 2 → s.world.MemoryAt (s.PC + 1))
    (h : cpuFetch s = .ok (i, u)) :
    i = s.world.insnAt s.PC ∧ u.PC = s.PC + BitVec.ofNat 32 (s.world.opcodeLength s.PC) ∧
      u.flags = s.flags ∧ ∃ io, u.world = { s.world with io := io } := by
  obtain ⟨_, s₀, h₀, h⟩ := bind_eq_ok.mp h
  cases h₀
  obtain ⟨op, s₁, h₁, h⟩ := bind_eq_ok.mp h
  obtain ⟨rfl, hpc, hf, io, hw⟩ := immByte_bus (s := { s with iPC := s.PC }) hm h₁
  -- behind a prefix
  have second {insns : List (Unsigned × Insn)} (hp : s.world.opcodeLength s.PC = 2)
      (h : (do return decodePrefixed insns (← immByte)) s₁ = .ok (i, u)) :
      i = decodePrefixed insns ((s.world.byteAt (s.PC + 1)).setWidth 32) ∧
        u.PC = s.PC + BitVec.ofNat 32 (s.world.opcodeLength s.PC) ∧
        u.flags = s.flags ∧ ∃ io, u.world = { s.world with io := io } := by
    obtain ⟨op, s₂, h₂, h⟩ := bind_eq_ok.mp h
    have hm₁ : s₁.world.MemoryAt s₁.PC := by
      rw [hw, hpc]
      exact hm' hp
    obtain ⟨rfl, hpc', hf', io', hw'⟩ := immByte_bus hm₁ h₂
    have hbyte : s₁.world.byteAt s₁.PC = s.world.byteAt (s.PC + 1) := by
      rw [hw, hpc]
      rfl
    cases h
    refine ⟨by rw [hbyte], ?_, hf'.trans hf, io', ?_⟩
    · rw [hpc', hpc, hp, BitVec.add_assoc]
      rfl
    · rw [hw', hw]
  change Entry.decode (insns0.lookup ((s.world.byteAt s.PC).setWidth 32)) s₁ = _ at h
  have alone (hn : ∀ e ∈ insns0.lookup ((s.world.byteAt s.PC).setWidth 32 : Unsigned),
      ∃ i, e = .insn i) : s₁.PC = s.PC + BitVec.ofNat 32 (s.world.opcodeLength s.PC) := by
    obtain ⟨h₀, h₁⟩ := not_prefix_of_lookup hn
    rw [hpc, Bus.opcodeLength, if_neg (not_or.mpr ⟨h₀, h₁⟩)]
    rfl
  rcases hl : insns0.lookup ((s.world.byteAt s.PC).setWidth 32 : Unsigned) with _ | (j | _ | _) <;>
    rw [hl] at h <;> rw [Bus.insnAt, hl]
  · cases h
    exact ⟨rfl, alone (fun e he => by rw [hl] at he; cases he), hf, io, hw⟩
  · cases h
    exact ⟨rfl, alone (fun e he => ⟨i, by rw [hl] at he; exact (Option.some.inj he).symm⟩), hf, io, hw⟩
  · exact second (if_pos (Or.inl ((eq_prefix_of_lookup hl).1 rfl))) h
  · exact second (if_pos (Or.inr ((eq_prefix_of_lookup hl).2 rfl))) h

namespace Bus

omit [Board ι] in
lemma opcodeLength_pos (b : Bus ι) (a : Unsigned) : 1 ≤ b.opcodeLength a := by
  unfold opcodeLength
  split <;> decide

/-- The disassembler finds the entry of the opcode that is there. -/
lemma Region.fetchOpcode {c : Config} {b : Bus ι} (hb : c.Holds b) {lo top : Nat}
    (hr : b.Region lo top) {a : Unsigned} (hl : lo ≤ a.toNat)
    (hu : a.toNat + b.opcodeLength a ≤ top) (v : View) (l : List Signal) (t : Option (BitVec 64)) :
    Dasm.fetchOpcode v ⟨b.toAbsolute a, b, l, t⟩ =
      some (b.rowAt a, ⟨b.toAbsolute a + BitVec.ofNat 64 (b.opcodeLength a), b, l, t⟩) := by
  have hlen := b.opcodeLength_pos a
  have first := Dasm.fetch8_eq (hr.absRead8_eq hb v hl (by omega)) l t
  have second (hp : b.opcodeLength a = 2) :
      Dasm.fetch8 v ⟨b.toAbsolute a + 1, b, l, t⟩ =
        some (b.byteAt (a + 1), ⟨b.toAbsolute a + 1 + 1, b, l, t⟩) :=
    Dasm.fetch8_eq (hr.absRead8_add hb v hl (k := 1) (by omega)) l t
  rw [Dasm.fetchOpcode, Dasm.some_bind first, rowAt]
  by_cases h₀ : b.byteAt a = 0x10
  · have hp : b.opcodeLength a = 2 := if_pos (Or.inl h₀)
    rw [if_pos h₀, if_pos h₀, Dasm.some_bind (second hp), hp, BitVec.add_assoc]
    rfl
  · by_cases h₁ : b.byteAt a = 0x11
    · have hp : b.opcodeLength a = 2 := if_pos (Or.inr h₁)
      rw [if_neg h₀, if_neg h₀, if_pos h₁, if_pos h₁, Dasm.some_bind (second hp), hp,
        BitVec.add_assoc]
      rfl
    · have hp : b.opcodeLength a = 1 := if_neg (not_or.mpr ⟨h₀, h₁⟩)
      rw [if_neg h₀, if_neg h₀, if_neg h₁, if_neg h₁, hp]
      rfl

/-- What is left to do for `dasm` behind the opcode. -/
lemma Region.dasm_eq {c : Config} {b : Bus ι} (hb : c.Holds b) {lo top : Nat}
    (hr : b.Region lo top) {a : Unsigned} (hl : lo ≤ a.toNat)
    (hu : a.toNat + b.opcodeLength a ≤ top) {v : View} {symLookup : BitVec 64 → Option String}
    {text : String} {e : Dasm ι}
    (h : Dasm.operand v symLookup (b.rowAt a).mode (formatField 6 (b.rowAt a).code.mne)
      ⟨b.toAbsolute a + BitVec.ofNat 64 (b.opcodeLength a), b, [], none⟩ = some (text, e)) :
    dasm v symLookup (b.toAbsolute a) b =
      some ⟨text, e.target, (e.pc - b.toAbsolute a).setWidth 32, e.bus, e.signals⟩ := by
  have hp : (Dasm.fetchOpcode v >>= fun op =>
      Dasm.operand v symLookup op.mode (formatField 6 op.code.mne))
        ⟨b.toAbsolute a, b, [], none⟩ = some (text, e) := by
    rw [Dasm.some_bind (hr.fetchOpcode hb hl hu v [] none), h]
  change Option.map _ ((Dasm.fetchOpcode v >>= fun op =>
    Dasm.operand v symLookup op.mode (formatField 6 op.code.mne)) ⟨b.toAbsolute a, b, [], none⟩) = _
  rw [hp]
  rfl

end Bus

end Fetching

end Exec09
