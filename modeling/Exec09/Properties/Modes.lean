import Exec09.Cpu.Flat
import Exec09.Properties.FlagFrame
import Exec09.Properties.Memory
import Exec09.Properties.Widths

/-!
# Addressing modes and accumulators are uniform

The opcode switch writes out the same operations again and again.  `Op8`, `Op16` and `Op1` name
them together with their opcodes.  In direct, indexed or extended form a load, comparison or
arithmetic operation does what its immediate form does with the operand; a read-modify-write
operation does to the byte at `ea` what its accumulator form does to the accumulator; and the B
form of an 8-bit operation is its A form with the accumulators exchanged.
-/

namespace Exec09

open Program

variable {σ : Type}

/-- The registers, with the condition codes as `get_cc` shows them and without `PC`. -/
structure Registers where
  A : Unsigned
  B : Unsigned
  DP : Unsigned
  X : Unsigned
  Y : Unsigned
  U : Unsigned
  S : Unsigned
  cc : Unsigned
  deriving DecidableEq, Repr

def Cpu.registers (s : Cpu σ) : Registers where
  A := s.A
  B := s.B
  DP := s.DP
  X := s.X
  Y := s.Y
  U := s.U
  S := s.S
  cc := s.getCc

/-! ## Registers as values -/

def Acc.val : Acc → Cpu σ → Unsigned
  | .A => Cpu.A
  | .B => Cpu.B

def Acc.set : Acc → Unsigned → Cpu σ → Cpu σ
  | .A, v, s => { s with A := v }
  | .B, v, s => { s with B := v }

lemma Acc.get_apply (r : Acc) (s : Cpu σ) : r.get s = .ok (r.val s, s) := by
  cases r <;> rfl

lemma Acc.put_apply (r : Acc) (v : Unsigned) (s : Cpu σ) : r.put v s = .ok ((), r.set v s) := by
  cases r <;> rfl

def IndexReg.set : IndexReg → Unsigned → Cpu σ → Cpu σ
  | .X, v, s => { s with X := v }
  | .Y, v, s => { s with Y := v }
  | .U, v, s => { s with U := v }
  | .S, v, s => { s with S := v }

lemma IndexReg.put_apply (r : IndexReg) (v : Unsigned) (s : Cpu σ) :
    r.put v s = .ok ((), r.set v s) := by
  cases r <;> rfl

def Cmp16.val : Cmp16 → Cpu σ → Unsigned
  | .D => Cpu.getD
  | .X => Cpu.X
  | .Y => Cpu.Y
  | .U => Cpu.U
  | .S => Cpu.S

lemma Cmp16.get_apply (r : Cmp16) (s : Cpu σ) : r.get s = .ok (r.val s, s) := by
  cases r <;> rfl

lemma alu_apply {α : Type} (g : Flags → α × Flags) (s : Cpu σ) :
    alu g s = .ok ((g s.flags).1, { s with flags := (g s.flags).2 }) := rfl

/-! ## Opcodes -/

/-- The main switch and the two behind a prefix. -/
inductive Page
  | main | p10 | p11
  deriving DecidableEq, Repr

/-- The instruction of an opcode. -/
def Page.insn : Page → Unsigned → Insn
  | .main, o =>
    match insns0.lookup o with
    | some (.insn i) => i
    | _ => .invalid
  | .p10, o => decodePrefixed insns10 o
  | .p11, o => decodePrefixed insns11 o

/-- The modes that compute an address. -/
inductive Mode
  | direct | indexed | extended
  deriving DecidableEq, Repr

/-- How far the opcode of a mode is from that of the immediate form. -/
def Mode.offset : Mode → Unsigned
  | .direct => 0x10
  | .indexed => 0x20
  | .extended => 0x30

def Ea.mode : Ea → Mode
  | .direct _ => .direct
  | .extended _ => .extended
  | .indexed | .tickIndexed _ | .indexedTick _ => .indexed

/-! ## Operations with a byte operand -/

/-- `SUB`, `SBC`, `AND`, `EOR`, `ADC`, `OR`, `ADD`; `CMP`, `BIT`; `LD`. -/
inductive Op8
  | bin (op : Bin8) (r : Acc)
  | test (op : Test8) (r : Acc)
  | ld (r : Acc)
  deriving DecidableEq, Repr

def Op8.insn : Op8 → Src8 → Insn
  | .bin op r, src => .bin8 op r src
  | .test op r, src => .test8 op r src
  | .ld r, src => .ld8 r src

def Acc.opcode : Acc → Unsigned
  | .A => 0x80
  | .B => 0xc0

/-- The opcode of the immediate form. -/
def Op8.opcode : Op8 → Unsigned
  | .bin .sub r => r.opcode
  | .test .cmp r => r.opcode + 1
  | .bin .sbc r => r.opcode + 2
  | .bin .and r => r.opcode + 4
  | .test .bit r => r.opcode + 5
  | .ld r => r.opcode + 6
  | .bin .eor r => r.opcode + 8
  | .bin .adc r => r.opcode + 9
  | .bin .or r => r.opcode + 10
  | .bin .add r => r.opcode + 11

/-- What the operation does with the operand `x`. -/
def Op8.apply : Op8 → Unsigned → Cpu σ → Cpu σ
  | .bin op r, x, s =>
    r.set (op.fn (r.val s) x s.flags).1 { s with flags := (op.fn (r.val s) x s.flags).2 }
  | .test op r, x, s => { s with flags := (op.fn (r.val s) x s.flags).2 }
  | .ld r, x, s => r.set (Alu.ld x s.flags).1 { s with flags := (Alu.ld x s.flags).2 }

/-- The address computation of a mode, with the cycles the main switch charges. -/
def Mode.ea : Mode → Ea
  | .direct => .direct 4
  | .indexed => .indexed
  | .extended => .extended 5

/-- The tables hold the four forms of each operation. -/
lemma Op8.insn_opcode (o : Op8) :
    Page.main.insn o.opcode = o.insn .imm ∧
    ∀ m : Mode, Page.main.insn (o.opcode + m.offset) = o.insn (.mem m.ea) := by
  refine ⟨?_, fun m => ?_⟩
  · rcases o with ⟨op, r⟩ | ⟨op, r⟩ | r
    · cases op <;> cases r <;> decide +kernel
    · cases op <;> cases r <;> decide +kernel
    · cases r <;> decide +kernel
  · rcases o with ⟨op, r⟩ | ⟨op, r⟩ | r
    · cases op <;> cases r <;> cases m <;> decide +kernel
    · cases op <;> cases r <;> cases m <;> decide +kernel
    · cases r <;> cases m <;> decide +kernel

/-! ## Operations with a word operand -/

/-- `SUBD`, `ADDD`; `LDD`; `CMPD`, `CMPX`, `CMPY`, `CMPU`, `CMPS`; `LDX`, `LDY`, `LDU`, `LDS`. -/
inductive Op16
  | bin (op : Bin16)
  | ldd
  | cmp (r : Cmp16)
  | ld (r : IndexReg)
  deriving DecidableEq, Repr

def Op16.insn : Op16 → Src16 → Insn
  | .bin op, src => .bin16 op src
  | .ldd, src => .ldd src
  | .cmp r, src => .cmp16 r src
  | .ld r, src => .ld16 r src

def Op16.page : Op16 → Page
  | .cmp .D | .cmp .Y | .ld .Y | .ld .S => .p10
  | .cmp .U | .cmp .S => .p11
  | _ => .main

/-- The opcode of the immediate form. -/
def Op16.opcode : Op16 → Unsigned
  | .bin .subd | .cmp .D | .cmp .U => 0x83
  | .bin .addd => 0xc3
  | .ldd => 0xcc
  | .cmp .X | .cmp .Y | .cmp .S => 0x8c
  | .ld .X | .ld .Y => 0x8e
  | .ld .U | .ld .S => 0xce

def Bin16.fn : Bin16 → Unsigned → Unsigned → Flags → Unsigned × Flags
  | .addd => Alu.addd
  | .subd => Alu.subd

/-- Split a result into `A` and `B`. -/
def Cpu.setAB (res : Unsigned) (s : Cpu σ) : Cpu σ := { s with A := res >>> 8, B := res &&& 0xff }

def Op16.apply : Op16 → Unsigned → Cpu σ → Cpu σ
  | .bin op, x, s =>
    Cpu.setAB (op.fn s.getD x s.flags).1 { s with flags := (op.fn s.getD x s.flags).2 }
  | .ldd, x, s => Cpu.setAB (Alu.ld16 x s.flags).1 { s with flags := (Alu.ld16 x s.flags).2 }
  | .cmp r, x, s => { s with flags := (Alu.cmp16 (r.val s) x s.flags).2 }
  | .ld r, x, s => r.set (Alu.ld16 x s.flags).1 { s with flags := (Alu.ld16 x s.flags).2 }

/-- The cycles of the immediate form. -/
def Op16.immClk : Op16 → Int
  | .bin _ | .cmp .X | .ld .Y | .ld .S => 4
  | .ldd | .ld .X | .ld .U => 3
  | .cmp _ => 5

/-- The address computation of a mode; a prefixed one charges one cycle more. -/
def Op16.ea (o : Op16) (m : Mode) : Ea :=
  match o.page, m with
  | .main, m => m.ea
  | _, .direct => .direct 5
  | _, .indexed => .tickIndexed 1
  | _, .extended => .extended 6

lemma Op16.insn_opcode (o : Op16) :
    o.page.insn o.opcode = o.insn (.imm o.immClk) ∧
    ∀ m : Mode, o.page.insn (o.opcode + m.offset) = o.insn (.mem (o.ea m)) := by
  refine ⟨?_, fun m => ?_⟩
  · rcases o with op | _ | r | r
    · cases op <;> decide +kernel
    · decide +kernel
    · cases r <;> decide +kernel
    · cases r <;> decide +kernel
  · rcases o with op | _ | r | r
    · cases op <;> cases m <;> decide +kernel
    · cases m <;> decide +kernel
    · cases r <;> cases m <;> decide +kernel
    · cases r <;> cases m <;> decide +kernel

/-! ## Memory forms and immediate forms -/

variable [Machine σ]

/-- The address computation alone. -/
def Ea.compute (ea : Ea) : M σ Unit := ea.andThen (pure ())

lemma Ea.andThen_eq (ea : Ea) (k : M σ Unit) : ea.andThen k = (do ea.compute; k) := by
  cases ea <;> simp [Ea.andThen, Ea.compute, bind_assoc]

lemma rdmemEa_plain {u : Cpu σ} {b : U8} (h : Plain u.world u.ea b) :
    rdmemEa u = .ok (b.setWidth 32, u) := by
  rw [rdmemEa, rdEa, ok_bind (reads_apply Cpu.ea u), rdmem_plain h]

lemma rdmem16Ea_plain {u : Cpu σ} {hi lo : U8} (h : Plain u.world u.ea hi)
    (h' : Plain u.world ((u.ea + 1) &&& 0xffff) lo) :
    rdmem16Ea u = .ok (wordOf hi lo, { u with cpuClk := u.cpuClk - 1 }) := by
  rw [rdmem16Ea, rdEa, ok_bind (reads_apply Cpu.ea u), rdmem16_plain h h']

lemma Op8.exec_mem (o : Op8) {ea : Ea} {s u : Cpu σ} {b : U8} (hs : ea.compute s = .ok ((), u))
    (hb : Plain u.world u.ea b) :
    (o.insn (.mem ea)).exec s = .ok ((), o.apply (b.setWidth 32) u) := by
  have hv := rdmemEa_plain hb
  rcases o with ⟨op, r⟩ | ⟨op, r⟩ | r
  · simp only [Op8.insn, Insn.exec, Src8.andThen, Ea.andThen_eq]
    rw [ok_bind hs, ok_bind (r.get_apply u), ok_bind hv, ok_bind (alu_apply _ u), r.put_apply]
    rfl
  · simp only [Op8.insn, Insn.exec, Src8.andThen, Ea.andThen_eq]
    rw [ok_bind hs, ok_bind (r.get_apply u), ok_bind hv]
    rfl
  · simp only [Op8.insn, Insn.exec, Src8.andThen, Ea.andThen_eq]
    rw [ok_bind hs, ok_bind hv, ok_bind (alu_apply _ u), r.put_apply]
    rfl

lemma Op8.exec_imm (o : Op8) {v : Cpu σ} {b : U8} (hb : Plain v.world v.PC b) :
    (o.insn .imm).exec v = .ok ((), o.apply (b.setWidth 32)
      { v with PC := v.PC + 1, cpuClk := v.cpuClk - 2 }) := by
  have hv : immByte { v with cpuClk := v.cpuClk - 2 } = .ok (b.setWidth 32,
      { v with PC := v.PC + 1, cpuClk := v.cpuClk - 2 }) := immByte_plain hb
  rcases o with ⟨op, r⟩ | ⟨op, r⟩ | r
  · simp only [Op8.insn, Insn.exec, Src8.andThen]
    rw [ok_bind (tick_apply 2 v), ok_bind (r.get_apply _), ok_bind hv, ok_bind (alu_apply _ _),
      r.put_apply]
    cases r <;> rfl
  · simp only [Op8.insn, Insn.exec, Src8.andThen]
    rw [ok_bind (tick_apply 2 v), ok_bind (r.get_apply _), ok_bind hv]
    cases r <;> rfl
  · simp only [Op8.insn, Insn.exec, Src8.andThen]
    rw [ok_bind (tick_apply 2 v), ok_bind hv, ok_bind (alu_apply _ _), r.put_apply]
    rfl

omit [Machine σ] in
/-- The operation sees neither `PC` nor the clock nor memory. -/
lemma Op8.apply_registers (o : Op8) (x : Unsigned) (u : Cpu σ) (p : Unsigned) (c : Int) (w : σ) :
    (o.apply x { u with PC := p, cpuClk := c, world := w }).registers = (o.apply x u).registers ∧
    (o.apply x u).world = u.world := by
  rcases o with ⟨op, r⟩ | ⟨op, r⟩ | r <;> cases r <;> exact ⟨rfl, rfl⟩

omit [Machine σ] in
lemma Bin16.run_apply (op : Bin16) (x : Unsigned) (s : Cpu σ) :
    op.run x s = .ok ((), (Op16.bin op).apply x s) := by
  cases op <;> rfl

omit [Machine σ] in
lemma wrAB_apply (res : Unsigned) (s : Cpu σ) : wrAB res s = .ok ((), s.setAB res) := rfl

/-- The cycles a memory form charges after the address computation. -/
def Op16.memClk : Op16 → Int
  | .bin _ | .cmp _ => 2
  | .ldd | .ld _ => 1

lemma Op16.exec_mem (o : Op16) {ea : Ea} {s u : Cpu σ} {hi lo : U8}
    (hs : ea.compute s = .ok ((), u)) (hhi : Plain u.world u.ea hi)
    (hlo : Plain u.world ((u.ea + 1) &&& 0xffff) lo) :
    (o.insn (.mem ea)).exec s = .ok ((), o.apply (wordOf hi lo)
      { u with cpuClk := u.cpuClk - o.memClk }) := by
  have hv := rdmem16Ea_plain hhi hlo
  have two : u.cpuClk - 1 - 1 = u.cpuClk - 2 := by omega
  rcases o with op | _ | r | r
  · simp only [Op16.insn, Insn.exec, Ea.andThen_eq]
    rw [ok_bind hs, ok_bind hv, ok_bind (op.run_apply _ _), tick_apply]
    simp only [Op16.apply, Cpu.setAB, two]
    rfl
  · simp only [Op16.insn, Insn.exec, Src16.andThen, Ea.andThen_eq]
    rw [ok_bind hs, ok_bind hv, Exec09.ldd, ok_bind (alu_apply _ _), wrAB_apply]
    rfl
  · simp only [Op16.insn, Insn.exec, Ea.andThen_eq]
    rw [ok_bind hs, ok_bind (r.get_apply u), ok_bind hv, ok_bind (alu_apply _ _), tick_apply]
    simp only [two]
    cases r <;> rfl
  · simp only [Op16.insn, Insn.exec, Src16.andThen, Ea.andThen_eq]
    rw [ok_bind hs, ok_bind hv, ok_bind (alu_apply _ _), r.put_apply]
    rfl

lemma Op16.exec_imm (o : Op16) {v : Cpu σ} {d : U16} {c : Int} (hd : PlainWord v.world v.PC d) :
    (o.insn (.imm c)).exec v = .ok ((), o.apply (d.setWidth 32)
      { v with PC := v.PC + 2, cpuClk := v.cpuClk - c }) := by
  have hv : immWord { v with cpuClk := v.cpuClk - c } = .ok (d.setWidth 32,
      { v with PC := v.PC + 2, cpuClk := v.cpuClk - c }) := immWord_plain hd
  rcases o with op | _ | r | r
  · simp only [Op16.insn, Insn.exec]
    rw [ok_bind (tick_apply c v), ok_bind hv, op.run_apply]
  · simp only [Op16.insn, Insn.exec, Src16.andThen]
    rw [ok_bind (tick_apply c v), ok_bind hv, Exec09.ldd, ok_bind (alu_apply _ _), wrAB_apply]
    rfl
  · simp only [Op16.insn, Insn.exec]
    rw [ok_bind (tick_apply c v), ok_bind (r.get_apply _), ok_bind hv]
    cases r <;> rfl
  · simp only [Op16.insn, Insn.exec, Src16.andThen]
    rw [ok_bind (tick_apply c v), ok_bind hv, ok_bind (alu_apply _ _), r.put_apply]
    rfl

omit [Machine σ] in
lemma Op16.apply_registers (o : Op16) (x : Unsigned) (u : Cpu σ) (p : Unsigned) (c c' : Int)
    (w : σ) :
    (o.apply x { u with PC := p, cpuClk := c, world := w }).registers =
      (o.apply x { u with cpuClk := c' }).registers ∧
    (o.apply x { u with cpuClk := c' }).world = u.world := by
  rcases o with op | _ | r | r
  · exact ⟨rfl, rfl⟩
  · exact ⟨rfl, rfl⟩
  · cases r <;> exact ⟨rfl, rfl⟩
  · cases r <;> exact ⟨rfl, rfl⟩

/-! ## Read-modify-write operations -/

/-- `NEG`, `COM`, `LSR`, `ROR`, `ASR`, `ASL`, `ROL`, `DEC`, `INC`, `CLR`; `TST`. -/
inductive Op1
  | unary (op : Unary)
  | tst
  deriving DecidableEq, Repr

def Op1.memInsn : Op1 → Ea → Insn
  | .unary op, ea => .unaryMem op ea
  | .tst, ea => .tstMem ea

def Op1.accInsn : Op1 → Acc → Insn
  | .unary op, r => .unaryAcc op r
  | .tst, r => .tstAcc r

/-- The low digit of the opcode. -/
def Op1.digit : Op1 → Unsigned
  | .unary .neg => 0x0
  | .unary .com => 0x3
  | .unary .lsr => 0x4
  | .unary .ror => 0x6
  | .unary .asr => 0x7
  | .unary .asl => 0x8
  | .unary .rol => 0x9
  | .unary .dec => 0xa
  | .unary .inc => 0xc
  | .tst => 0xd
  | .unary .clr => 0xf

/-- The opcode row of a memory form. -/
def Mode.row : Mode → Unsigned
  | .direct => 0x00
  | .indexed => 0x60
  | .extended => 0x70

/-- The opcode row of an accumulator form. -/
def Acc.row : Acc → Unsigned
  | .A => 0x40
  | .B => 0x50

lemma Op1.insn_opcode (o : Op1) :
    (∀ m : Mode, Page.main.insn (m.row + o.digit) = o.memInsn m.ea) ∧
    ∀ r : Acc, Page.main.insn (r.row + o.digit) = o.accInsn r := by
  refine ⟨fun m => ?_, fun r => ?_⟩
  · rcases o with op | _
    · cases op <;> cases m <;> decide +kernel
    · cases m <;> decide +kernel
  · rcases o with op | _
    · cases op <;> cases r <;> decide +kernel
    · cases r <;> decide +kernel

/-- The byte and the flags; `TST` leaves the byte as it is. -/
def Op1.fn : Op1 → Unsigned → Flags → Unsigned × Flags
  | .unary op, arg, f => op.fn arg f
  | .tst, arg, f => (arg, (Alu.tst arg f).2)

lemma Op1.lazy_fn (o : Op1) (arg : Unsigned) : Lazy (o.fn arg) := by
  cases o with
  | unary op => exact op.lazy_fn arg
  | tst => exact fun f f' hf => ⟨rfl, (lazy_tst arg f f' hf).2⟩

lemma Op1.byte_fn (o : Op1) {arg : Unsigned} (h : Byte arg) (f : Flags) : Byte (o.fn arg f).1 := by
  cases o with
  | unary op => exact op.byte_fn h f
  | tst => exact h

omit [Machine σ] in
lemma unary_apply (g : Unsigned → Flags → Unsigned × Flags) (arg : Unsigned) (s : Cpu σ) :
    unary g arg s = .ok ((g arg s.flags).1,
      { s with flags := (g arg s.flags).2, cpuClk := s.cpuClk - 2 }) := rfl

lemma Op1.exec_acc (o : Op1) (r : Acc) (v : Cpu σ) :
    (o.accInsn r).exec v = .ok ((), r.set (o.fn (r.val v) v.flags).1
      { v with flags := (o.fn (r.val v) v.flags).2, cpuClk := v.cpuClk - 2 }) := by
  cases o with
  | unary op =>
      simp only [Op1.accInsn, Insn.exec]
      rw [ok_bind (r.get_apply v), ok_bind (unary_apply _ _ v), r.put_apply]
      rfl
  | tst =>
      simp only [Op1.accInsn, Insn.exec]
      rw [ok_bind (r.get_apply v), Exec09.tst, ok_bind (alu_apply _ v), tick_apply]
      cases r <;> rfl

/-- The memory form leaves the result at `ea` and changes nothing but the flags besides. -/
lemma Op1.exec_mem (o : Op1) {ea : Ea} {s u : Cpu σ} {b : U8} (hs : ea.compute s = .ok ((), u))
    (hb : RamAt u.world u.ea b) :
    ∃ w', (o.memInsn ea).exec s = .ok ((), { u with
        flags := (o.fn (b.setWidth 32) u.flags).2, cpuClk := u.cpuClk - 2, world := w' }) ∧
      Plain w' u.ea ((o.fn (b.setWidth 32) u.flags).1.setWidth 8) ∧
      ∀ v a', a' ≠ u.ea → (Machine.read8 v w' a').val = (Machine.read8 v u.world a').val := by
  have hv := rdmemEa_plain hb.plain
  cases o with
  | unary op =>
      obtain ⟨w', hw, hread, hother⟩ :=
        hb.write ((op.fn (b.setWidth 32) u.flags).1.setWidth 8)
      refine ⟨w', ?_, hread, hother⟩
      simp only [Op1.memInsn, Insn.exec, Ea.andThen_eq, wrmemEa, rdEa]
      rw [ok_bind hs, ok_bind hv, ok_bind (unary_apply _ _ u), ok_bind (reads_apply Cpu.ea _)]
      exact wrmem_plain hw
  | tst =>
      refine ⟨u.world, ?_, ?_, fun _ _ _ => rfl⟩
      · simp only [Op1.memInsn, Insn.exec, Ea.andThen_eq]
        rw [ok_bind hs, ok_bind hv, Exec09.tst, ok_bind (alu_apply _ u), tick_apply]
        rfl
      · have : (b.setWidth 32).setWidth 8 = b := by simp
        simpa only [Op1.fn, this] using hb.plain

/-- A byte survives the narrowing and the widening. -/
lemma setWidth_byte {x : Unsigned} (h : Byte x) : (x.setWidth 8).setWidth 32 = x := by
  apply BitVec.eq_of_toNat_eq
  have hx : x.toNat < 256 := h
  simp only [BitVec.toNat_setWidth]
  omega

/-! ## Exchanging the accumulators -/

omit [Machine σ] in
/-- Exchange `A` and `B`. -/
def Cpu.swap (s : Cpu σ) : Cpu σ := { s with A := s.B, B := s.A }

def Acc.other : Acc → Acc
  | .A => .B
  | .B => .A

/-- The outcome with `A` and `B` exchanged. -/
def swapped {α : Type} (x : Except Exit (α × Cpu σ)) : Except Exit (α × Cpu σ) :=
  x.map fun p => (p.1, p.2.swap)

/-- From `s`, `m'` does with exchanged accumulators what `m` does. -/
def Mirrors {α : Type} (s : Cpu σ) (m m' : M σ α) : Prop := m' s.swap = swapped (m s)

/-- What is behind the bus does not look at the accumulators when it is read. -/
def IgnoresAccumulators (σ : Type) [Machine σ] : Prop :=
  (∀ (v : View) (a b : Unsigned) (w : σ) (addr : Unsigned),
    Machine.read8 { v with a := a, b := b } w addr = Machine.read8 v w addr) ∧
  ∀ (v : View) (a b : Unsigned) (w : σ) (addr : Unsigned),
    Machine.read16 { v with a := a, b := b } w addr = Machine.read16 v w addr

namespace Mirrors

variable {α β : Type} {s : Cpu σ} {m m' : M σ α} {f f' : α → M σ β}

omit [Machine σ] in
lemma bind (h : Mirrors s m m') (hf : ∀ a t, m s = .ok (a, t) → Mirrors t (f a) (f' a)) :
    Mirrors s (m >>= f) (m' >>= f') := by
  unfold Mirrors at h ⊢
  rw [bind_apply, bind_apply, h]
  rcases hm : m s with e | ⟨a, t⟩
  · rfl
  · exact hf a t hm

omit [Machine σ] in
lemma modify {g g' : Cpu σ → Cpu σ} (h : g' s.swap = (g s).swap) :
    Mirrors s (modify g : M σ PUnit) (modify g') := by
  unfold Mirrors
  rw [modify_apply, modify_apply, h]
  rfl

omit [Machine σ] in
lemma reads {g g' : Cpu σ → α} (h : g' s.swap = g s) :
    Mirrors s (reads g : M σ α) (reads g') := by
  unfold Mirrors
  rw [reads_apply, reads_apply, h]
  rfl

omit [Machine σ] in
lemma pure (a : α) : Mirrors s (pure a : M σ α) (pure a) := rfl

omit [Machine σ] in
lemma tick (n : Int) : Mirrors s (tick n : M σ Unit) (Exec09.tick n) := modify rfl

end Mirrors

omit [Machine σ] in
lemma Acc.mirrors_get (r : Acc) (s : Cpu σ) : Mirrors s (r.get : M σ Unsigned) r.other.get := by
  cases r <;> exact Mirrors.reads rfl

omit [Machine σ] in
lemma Acc.mirrors_put (r : Acc) (v : Unsigned) (s : Cpu σ) :
    Mirrors s (r.put v : M σ Unit) (r.other.put v) := by
  cases r <;> exact Mirrors.modify rfl

omit [Machine σ] in
lemma mirrors_alu {α : Type} (g : Flags → α × Flags) (s : Cpu σ) :
    Mirrors s (alu g : M σ α) (alu g) := rfl

omit [Machine σ] in
lemma IndexReg.mirrors_get (R : IndexReg) (s : Cpu σ) : Mirrors s (R.get : M σ Unsigned) R.get := by
  cases R <;> exact Mirrors.reads rfl

omit [Machine σ] in
lemma IndexReg.mirrors_put (R : IndexReg) (v : Unsigned) (s : Cpu σ) :
    Mirrors s (R.put v : M σ Unit) (R.put v) := by
  cases R <;> exact Mirrors.modify rfl

omit [Machine σ] in
lemma mirrors_wrEa (v : Unsigned) (s : Cpu σ) : Mirrors s (wrEa v : M σ Unit) (wrEa v) :=
  Mirrors.modify rfl

lemma mirrors_simError (s : Cpu σ) : Mirrors s (simError : M σ Unit) simError := by
  refine Mirrors.bind (Mirrors.modify rfl) fun _ t _ => ?_
  split
  · exact Mirrors.modify rfl
  · rfl

lemma mirrors_signal (x : Signal) (s : Cpu σ) : Mirrors s (signal x : M σ Unit) (signal x) := by
  cases x with
  | simError => exact mirrors_simError s
  | monitor on => exact Mirrors.modify rfl
  | exit code => rfl

lemma mirrors_signals (l : List Signal) (s : Cpu σ) :
    Mirrors s (l.forM signal : M σ Unit) (l.forM signal) := by
  induction l generalizing s with
  | nil => exact Mirrors.pure _
  | cons x l ih => exact (mirrors_signal x s).bind fun _ t _ => ih t

lemma mirrors_access {β : Type} {call : View → σ → Reply σ β}
    (h : ∀ v a b w, call { v with a := a, b := b } w = call v w) (s : Cpu σ) :
    Mirrors s (access call : M σ β) (access call) := by
  have hview : call s.swap.view s.swap.world = call s.view s.world :=
    h s.view s.B s.A s.world
  refine Mirrors.bind ?_ fun r t _ => (mirrors_signals r.signals t).bind fun _ _ _ =>
    Mirrors.pure _
  rw [Mirrors, modifyGet_apply, modifyGet_apply, hview]
  rfl

section Reads

variable (hr : IgnoresAccumulators σ)
include hr

lemma mirrors_rdmem (addr : Unsigned) (s : Cpu σ) :
    Mirrors s (rdmem addr : M σ Unsigned) (rdmem addr) :=
  (mirrors_access (fun v a b w => hr.1 v a b w addr) s).bind fun _ _ _ => Mirrors.pure _

lemma mirrors_read16 (addr : Unsigned) (s : Cpu σ) :
    Mirrors s (read16 addr : M σ Unsigned) (read16 addr) :=
  (mirrors_access (fun v a b w => hr.2 v a b w addr) s).bind fun _ _ _ => Mirrors.pure _

lemma mirrors_immByte (s : Cpu σ) : Mirrors s (immByte : M σ Unsigned) immByte :=
  Mirrors.bind (Mirrors.reads rfl) fun _ t _ => (mirrors_rdmem hr _ t).bind fun _ _ _ =>
    Mirrors.bind (Mirrors.modify rfl) fun _ _ _ => Mirrors.pure _

lemma mirrors_immWord (s : Cpu σ) : Mirrors s (immWord : M σ Unsigned) immWord :=
  Mirrors.bind (Mirrors.reads rfl) fun _ t _ => (mirrors_read16 hr _ t).bind fun _ _ _ =>
    Mirrors.bind (Mirrors.modify rfl) fun _ _ _ => Mirrors.pure _

lemma mirrors_rdmemEa (s : Cpu σ) : Mirrors s (rdmemEa : M σ Unsigned) rdmemEa :=
  Mirrors.bind (Mirrors.reads rfl) fun _ t _ => mirrors_rdmem hr _ t

lemma mirrors_indirect (s : Cpu σ) : Mirrors s (indirect : M σ Unit) indirect :=
  (Mirrors.bind (Mirrors.reads rfl) fun _ t _ => (mirrors_rdmem hr _ t).bind fun _ _ _ =>
    (Mirrors.tick 1).bind fun _ v _ => (mirrors_rdmem hr _ v).bind fun _ _ _ =>
    Mirrors.pure _).bind fun _ t _ => (mirrors_wrEa _ t).bind fun _ _ _ => Mirrors.tick 2

omit [Machine σ] hr in
/-- The mode does not add an accumulator to the register. -/
def IndexMode.accFree : IndexMode → Bool
  | .accA | .accB | .accD => false
  | _ => true

omit [Machine σ] hr in
def Post.accFree : Post → Bool
  | .mode _ i => i.mode.accFree
  | _ => true

lemma IndexMode.mirrors_addr (R : IndexReg) {m : IndexMode} (hm : m.accFree = true) (s : Cpu σ) :
    Mirrors s (m.addr R : M σ Unit) (m.addr R) := by
  cases m with
  | inc n =>
      exact (R.mirrors_get s).bind fun _ t _ => (mirrors_wrEa _ t).bind fun _ u _ =>
        (R.mirrors_get u).bind fun _ v _ => R.mirrors_put _ v
  | dec n =>
      exact (R.mirrors_get s).bind fun _ t _ => (R.mirrors_put _ t).bind fun _ u _ =>
        (R.mirrors_get u).bind fun _ v _ => mirrors_wrEa _ v
  | zero => exact (R.mirrors_get s).bind fun _ t _ => mirrors_wrEa _ t
  | accA | accB | accD => cases hm
  | off8 =>
      exact (R.mirrors_get s).bind fun _ t _ => (mirrors_immByte hr t).bind fun _ u _ =>
        mirrors_wrEa _ u
  | off16 =>
      exact (R.mirrors_get s).bind fun _ t _ => (mirrors_immWord hr t).bind fun _ u _ =>
        mirrors_wrEa _ u
  | pc8 =>
      exact (mirrors_immByte hr s).bind fun _ t _ => (mirrors_wrEa _ t).bind fun _ u _ =>
        Mirrors.bind (Mirrors.reads rfl) fun _ v _ => Mirrors.bind (Mirrors.reads rfl) fun _ w _ =>
        mirrors_wrEa _ w
  | pc16 =>
      exact (mirrors_immWord hr s).bind fun _ t _ => (mirrors_wrEa _ t).bind fun _ u _ =>
        Mirrors.bind (Mirrors.reads rfl) fun _ v _ => Mirrors.bind (Mirrors.reads rfl) fun _ w _ =>
        mirrors_wrEa _ w
  | ext => exact (mirrors_immWord hr s).bind fun _ t _ => mirrors_wrEa _ t

lemma Post.mirrors_exec {post : Post} (hp : post.accFree = true) (s : Cpu σ) :
    Mirrors s (post.exec : M σ Unit) post.exec := by
  cases post with
  | offset R n =>
      exact (R.mirrors_get s).bind fun _ t _ => (mirrors_wrEa _ t).bind fun _ _ _ =>
        Mirrors.tick 5
  | mode R i =>
      refine (i.mode.mirrors_addr hr R hp s).bind fun _ t _ => (Mirrors.tick _).bind fun _ u _ => ?_
      split
      · exact mirrors_indirect hr u
      · exact Mirrors.pure _
  | illegal => exact (mirrors_wrEa 0 s).bind fun _ t _ => mirrors_simError t

lemma mirrors_indexed {s : Cpu σ} (hp : (decodePost s.operand).accFree = true) :
    Mirrors s (indexed : M σ Unit) indexed := by
  refine (mirrors_immByte hr s).bind fun post t ht => ?_
  rw [indexedPost_eq, immByte_eq_ok ht]
  exact Post.mirrors_exec hr hp t

/-- The address is not computed from an accumulator, given the byte that follows the opcode. -/
def Mode.accFree (m : Mode) (post : Unsigned) : Bool :=
  match m with
  | .indexed => (decodePost post).accFree
  | _ => true

lemma Mode.mirrors_compute {m : Mode} {s : Cpu σ} (hm : m.accFree s.operand = true) :
    Mirrors s (m.ea.compute : M σ Unit) m.ea.compute := by
  cases m with
  | direct =>
      exact Mirrors.bind (Mirrors.bind (Mirrors.reads rfl) fun _ t _ =>
        (mirrors_rdmem hr _ t).bind fun _ u _ => Mirrors.modify rfl) fun _ t _ =>
        (Mirrors.tick 4).bind fun _ _ _ => Mirrors.pure _
  | indexed => exact (mirrors_indexed hr hm).bind fun _ _ _ => Mirrors.pure _
  | extended =>
      exact ((mirrors_immWord hr s).bind fun _ t _ => mirrors_wrEa _ t).bind fun _ t _ =>
        (Mirrors.tick 5).bind fun _ _ _ => Mirrors.pure _

end Reads

/-- The byte operand of a mode, immediate without one. -/
def src8 : Option Mode → Src8
  | none => .imm
  | some m => .mem m.ea

/-- The 8-bit operations on an accumulator. -/
inductive AccOp
  | op1 (o : Op1)
  | bin (op : Bin8) (src : Option Mode)
  | test (op : Test8) (src : Option Mode)
  | ld (src : Option Mode)
  | st (m : Mode)
  deriving DecidableEq, Repr

def AccOp.insn : AccOp → Acc → Insn
  | .op1 o, r => o.accInsn r
  | .bin op src, r => .bin8 op r (src8 src)
  | .test op src, r => .test8 op r (src8 src)
  | .ld src, r => .ld8 r (src8 src)
  | .st m, r => .st8 r m.ea

def AccOp.opcode : AccOp → Acc → Unsigned
  | .op1 o, r => r.row + o.digit
  | .bin op src, r => (Op8.bin op r).opcode + src.elim 0 Mode.offset
  | .test op src, r => (Op8.test op r).opcode + src.elim 0 Mode.offset
  | .ld src, r => (Op8.ld r).opcode + src.elim 0 Mode.offset
  | .st m, r => r.opcode + 7 + m.offset

lemma AccOp.insn_opcode (x : AccOp) (r : Acc) : Page.main.insn (x.opcode r) = x.insn r := by
  have operand (o : Op8) (src : Option Mode) :
      Page.main.insn (o.opcode + src.elim 0 Mode.offset) = o.insn (src8 src) := by
    cases src with
    | none => simpa [src8] using o.insn_opcode.1
    | some m => exact o.insn_opcode.2 m
  cases x with
  | op1 o => exact o.insn_opcode.2 r
  | bin op src => exact operand (.bin op r) src
  | test op src => exact operand (.test op r) src
  | ld src => exact operand (.ld r) src
  | st m => cases m <;> cases r <;> decide +kernel

/-- The operand is not addressed through an accumulator. -/
def AccOp.accFree : AccOp → Unsigned → Bool
  | .op1 _, _ => true
  | .bin _ src, post | .test _ src, post | .ld src, post => src.all fun m => m.accFree post
  | .st m, post => m.accFree post

section Exchange

variable (hr : IgnoresAccumulators σ)
include hr

lemma mirrors_src8 {src : Option Mode} {s : Cpu σ} (hs : (src.all fun m => m.accFree s.operand) = true)
    {k k' : M σ Unsigned → M σ Unit}
    (hk : ∀ (v : M σ Unsigned) (t : Cpu σ), (∀ u, Mirrors u v v) → Mirrors t (k v) (k' v)) :
    Mirrors s ((src8 src).andThen k) ((src8 src).andThen k') := by
  cases src with
  | none => exact (Mirrors.tick 2).bind fun _ t _ => hk _ t (mirrors_immByte hr)
  | some m =>
      simp only [src8, Src8.andThen, Ea.andThen_eq]
      exact (Mode.mirrors_compute hr (by simpa using hs)).bind fun _ t _ =>
        hk _ t (mirrors_rdmemEa hr)

/-- **The B form is the A form with the accumulators exchanged**, if the operand is not addressed
through one of them and what is stored goes to RAM. -/
lemma AccOp.mirrors_exec (x : AccOp) (r : Acc) {s : Cpu σ} (hx : x.accFree s.operand = true)
    (hram : ∀ m, x = .st m → ∀ u, m.ea.compute s = .ok ((), u) → ∃ b, RamAt u.world u.ea b) :
    Mirrors s (x.insn r).exec (x.insn r.other).exec := by
  cases x with
  | op1 o =>
      rw [Mirrors]
      simp only [AccOp.insn, Op1.exec_acc]
      cases r <;> rfl
  | bin op src =>
      exact mirrors_src8 hr hx fun v t hv => (r.mirrors_get t).bind fun _ u _ =>
        (hv u).bind fun _ w _ => (mirrors_alu _ w).bind fun _ y _ => r.mirrors_put _ y
  | test op src =>
      exact mirrors_src8 hr hx fun v t hv => (r.mirrors_get t).bind fun _ u _ =>
        (hv u).bind fun _ w _ => mirrors_alu _ w
  | ld src =>
      exact mirrors_src8 hr hx fun v t hv => (hv t).bind fun _ w _ =>
        (mirrors_alu _ w).bind fun _ y _ => r.mirrors_put _ y
  | st m =>
      simp only [AccOp.insn, Insn.exec, Ea.andThen_eq]
      refine (Mode.mirrors_compute hr hx).bind fun _ u hu => ?_
      obtain ⟨b, hb⟩ := hram m rfl u hu
      obtain ⟨w', hw, -, -⟩ := hb.write ((r.val u).setWidth 8)
      have store (r : Acc) (u : Cpu σ) (hw : PlainWrite u.world u.ea ((r.val u).setWidth 8) w') :
          (do Exec09.st (← r.get) : M σ Unit) u = .ok ((), { u with
            flags := (Alu.st (r.val u) u.flags).2, world := w' }) := by
        rw [ok_bind (r.get_apply u), Exec09.st, ok_bind (alu_apply _ u), wrmemEa, rdEa,
          ok_bind (reads_apply Cpu.ea _)]
        exact wrmem_plain hw
      rw [Mirrors, store r u hw, store r.other u.swap (by cases r <;> exact hw)]
      cases r <;> rfl

end Exchange

/-- **Addressing modes and accumulators are uniform.**  (1) In the state `u` that the address
computation leaves, a memory form makes of the operand what the immediate form makes of the same
operand: same registers and same `get_cc`.  (2) A read-modify-write operation leaves at `ea` the
byte and in `get_cc` the flags that the accumulator form makes from the same byte, and changes no
other memory and no register.  (3) Exchanging `A` and `B` maps the A form of an 8-bit operation to
its B form, unless the operand is addressed through an accumulator. -/
theorem modes_uniform :
    (∀ (o : Op8) (m : Mode) (s u : Cpu σ) (b : U8) (p : Unsigned) (w : σ),
      m.ea.compute s = .ok ((), u) → Plain u.world u.ea b → Plain w p b →
      ∃ t t', (Page.main.insn (o.opcode + m.offset)).exec s = .ok ((), t) ∧
        (Page.main.insn o.opcode).exec { u with PC := p, world := w } = .ok ((), t') ∧
        t.registers = t'.registers ∧ t.world = u.world) ∧
    (∀ (o : Op16) (m : Mode) (s u : Cpu σ) (hi lo : U8) (p : Unsigned) (w : σ) (d : U16),
      (o.ea m).compute s = .ok ((), u) → Plain u.world u.ea hi →
      Plain u.world ((u.ea + 1) &&& 0xffff) lo → PlainWord w p d → d.setWidth 32 = wordOf hi lo →
      ∃ t t', (o.page.insn (o.opcode + m.offset)).exec s = .ok ((), t) ∧
        (o.page.insn o.opcode).exec { u with PC := p, world := w } = .ok ((), t') ∧
        t.registers = t'.registers ∧ t.world = u.world) ∧
    (∀ (o : Op1) (m : Mode) (r : Acc) (s u v : Cpu σ) (b : U8),
      m.ea.compute s = .ok ((), u) → RamAt u.world u.ea b → r.val v = b.setWidth 32 →
      v.getCc = u.getCc →
      ∃ t t' d, (Page.main.insn (m.row + o.digit)).exec s = .ok ((), t) ∧
        (Page.main.insn (r.row + o.digit)).exec v = .ok ((), t') ∧
        Plain t.world u.ea d ∧ d.setWidth 32 = r.val t' ∧
        t.registers = { u.registers with cc := t'.getCc } ∧
        ∀ x a, a ≠ u.ea → (Machine.read8 x t.world a).val = (Machine.read8 x u.world a).val) ∧
    (IgnoresAccumulators σ → ∀ (x : AccOp) (s : Cpu σ), x.accFree s.operand = true →
      (∀ m, x = .st m → ∀ u, m.ea.compute s = .ok ((), u) → ∃ b, RamAt u.world u.ea b) →
      (Page.main.insn (x.opcode .B)).exec s.swap =
        swapped ((Page.main.insn (x.opcode .A)).exec s)) := by
  refine ⟨?_, ?_, ?_, ?_⟩
  · intro o m s u b p w hs hb hp
    have himm := o.exec_imm (v := { u with PC := p, world := w }) hp
    obtain ⟨hreg, hw⟩ := o.apply_registers (b.setWidth 32) u (p + 1) (u.cpuClk - 2) w
    rw [o.insn_opcode.2 m, o.insn_opcode.1]
    exact ⟨_, _, o.exec_mem hs hb, himm, hreg.symm, hw⟩
  · intro o m s u hi lo p w d hs hhi hlo hp hd
    have himm := o.exec_imm (v := { u with PC := p, world := w }) (c := o.immClk) hp
    obtain ⟨hreg, hw⟩ := o.apply_registers (wordOf hi lo) u (p + 2) (u.cpuClk - o.immClk)
      (u.cpuClk - o.memClk) w
    rw [hd] at himm
    rw [o.insn_opcode.2 m, o.insn_opcode.1]
    exact ⟨_, _, o.exec_mem hs hhi hlo, himm, hreg.symm, hw⟩
  · intro o m r s u v b hs hb hv hcc
    obtain ⟨w', hx, hplain, hother⟩ := o.exec_mem hs hb
    obtain ⟨hefi, hbits⟩ := Cpu.getCc_eq_iff.mp hcc
    obtain ⟨hval, hflags⟩ := o.lazy_fn (b.setWidth 32) v.flags u.flags hbits
    have hbyte : Byte (o.fn (b.setWidth 32) v.flags).1 :=
      o.byte_fn (Words.setWidth_lt b) v.flags
    refine ⟨_, _, _, (congrArg (fun i : Insn => i.exec s) (o.insn_opcode.1 m)).trans hx,
      (congrArg (fun i : Insn => i.exec v) (o.insn_opcode.2 r)).trans (o.exec_acc r v), hplain, ?_, ?_,
      hother⟩
    · rw [hv, ← hval, setWidth_byte hbyte]
      cases r <;> rfl
    · have hcc' : ∀ x : Unsigned, (r.set x { v with
          flags := (o.fn (r.val v) v.flags).2, cpuClk := v.cpuClk - 2 }).getCc =
          { u with flags := (o.fn (b.setWidth 32) u.flags).2 }.getCc := by
        intro x
        rw [Cpu.getCc_eq_iff, hv]
        cases r <;> exact ⟨hefi, hflags⟩
      rw [hcc']
      rfl
  · intro hr x s hx hram
    rw [x.insn_opcode, x.insn_opcode]
    exact x.mirrors_exec hr .A hx hram

/-! ## An operand addressed through an accumulator -/

/-- `LDA A,X` and `LDB A,X` have the same postbyte. -/
def offsetState : Cpu Flat :=
  { Cpu.zeroed ⟨[(0x1001, 0x86), (0x2001, 0x11), (0x2002, 0x22)]⟩ with
    PC := 0x1001, X := 0x2000, A := 1, B := 2 }

/-- With the accumulators exchanged `LDB A,X` loads from another address than `LDA A,X`. -/
theorem accumulator_offset_differs :
    result (Page.main.insn ((AccOp.ld (some .indexed)).opcode .A)).exec offsetState = some () ∧
    (after (Page.main.insn ((AccOp.ld (some .indexed)).opcode .A)).exec offsetState).A = 0x11 ∧
    (after (Page.main.insn ((AccOp.ld (some .indexed)).opcode .B)).exec offsetState.swap).B =
      0x22 := by
  decide +kernel

lemma plain_flat {w : Flat} {a : Unsigned} {b : U8} (h : w.get a = b) : Plain w a b := by
  intro v
  rw [← h]
  rfl

lemma plainWord_flat {w : Flat} {a : Unsigned} {d : U16} (h : w.get a ++ w.get (a + 1) = d) :
    PlainWord w a d := by
  intro v
  rw [← h]
  rfl

/-- `CMPX ,X++` at `X = 0x2000`. -/
def cmpxState : Cpu Flat :=
  { Cpu.zeroed ⟨(0x1001, 0x81) :: Flat.bytes 0x2000 [0x20, 0x02]⟩ with PC := 0x1001, X := 0x2000 }

/-- It compares the register as the address computation leaves it with the word it pointed to,
like `CMPX #$2002`; and `LDB #n` is `LDA #n` with the accumulators exchanged. -/
theorem modes_uniform_cmpx :
    (∃ t t', (Page.main.insn 0xac).exec cmpxState = .ok ((), t) ∧
      (Page.main.insn 0x8c).exec { after (Mode.ea .indexed).compute cmpxState with
        PC := 0x2000, world := cmpxState.world } = .ok ((), t') ∧
      t.registers = t'.registers ∧ t.registers.cc = Z_FLAG) ∧
    (Page.main.insn 0xc6).exec cmpxState.swap =
      swapped ((Page.main.insn 0x86).exec cmpxState) := by
  obtain ⟨-, h16, -, hswap⟩ := modes_uniform (σ := Flat)
  constructor
  · obtain ⟨t, t', ht, ht', hreg, -⟩ := h16 (.cmp .X) .indexed cmpxState _ 0x20 0x02 0x2000
      cmpxState.world 0x2002 (eq_ok_after (a := ()) (by decide +kernel))
      (plain_flat (by decide +kernel)) (plain_flat (by decide +kernel))
      (plainWord_flat (by decide +kernel)) (by decide)
    have hcc : (after (Page.main.insn 0xac).exec cmpxState).registers.cc = Z_FLAG := by
      decide +kernel
    have hat : after (Page.main.insn 0xac).exec cmpxState = t := by
      have ht₀ : (Page.main.insn 0xac).exec cmpxState = .ok ((), t) := ht
      rw [after, ht₀]
    exact ⟨t, t', ht, ht', hreg, by rw [← hat]; exact hcc⟩
  · exact hswap ⟨fun _ _ _ _ _ => rfl, fun _ _ _ _ _ => rfl⟩ (.ld none) cmpxState rfl
      fun m hm => by cases hm

end Exec09
