import Exec09.Properties.Fence
import Exec09.Properties.SameRuns

/-!
# The addresses on the bus

Where an instruction goes on is a place in the address space or not: `PC` is counted up, and added
to, without a mask.  As long as every instruction of a run lies in the address space, together with
the place where it goes on, the interpreter only asks for 16-bit addresses.
-/

namespace Exec09

open Program

variable {σ : Type}

/-! ## Where an instruction goes on -/

/-- The bytes the interpreter takes behind the opcode when `post` is the first of them.  `CWAI` is
given up before its mask is fetched. -/
def Insn.operandSize (post : U8) : Insn → Nat
  | .cwai => 0
  | i => i.addrMode.size post

/-- Where an instruction whose operand begins at `n` goes on, without any mask.  It is `none` when
`PC` is loaded from a register, from memory or from `iPC`. -/
def Insn.goesOn (n : Nat) (f : Flags) (post : U8) (disp : U16) : Insn → Option Int
  | .bra | .bsr => some (n + 1 + post.toInt)
  | .longBra | .longBsr => some (n + 2 + disp.toInt)
  | .branch c => some (if c.holds f then n + 1 + post.toInt else n + 1)
  | .longBranch c => some (if c.holds f then n + 2 + disp.toInt else n + 2)
  | .invalid => none
  | i => if i.transfers (post.setWidth 32) f then none else some (n + i.operandSize post)

/-- The instruction lies in the address space, and so does the place where it goes on. -/
structure Insn.Fits (n : Nat) (f : Flags) (i : Insn) (post : U8) (disp : U16) : Prop where
  room : n + i.operandSize post ≤ MAX_CPU_ADDR
  next : ∀ a ∈ i.goesOn n f post disp, 0 ≤ a ∧ a < MAX_CPU_ADDR

section Places

variable {n : Unsigned} {f : Flags} {i : Insn} {b : U8} {d : U16}

/-- An instruction that does not transfer control. -/
lemma Insn.Fits.sequential (h : i.Fits n.toNat f b d)
    (hg : i.goesOn n.toNat f b d = some (n.toNat + i.operandSize b)) :
    n.toNat + i.operandSize b ≤ MAX_CPU_ADDR ∧ Word (n + BitVec.ofNat 32 (i.operandSize b)) := by
  refine ⟨h.room, ?_⟩
  have hlt := (h.next _ hg).2
  rw [Word, toNat_add_ofNat h.room]
  exact_mod_cast hlt

/-- A displacement that leads to a place in the address space needs no mask. -/
lemma word_displaced {w : Nat} {m : Unsigned} {x : BitVec w}
    (h : 0 ≤ (m.toNat : Int) + x.toInt ∧ (m.toNat : Int) + x.toInt < MAX_CPU_ADDR) :
    Word (m + x.signExtend 32) := by
  have hsum : m + x.signExtend 32 = BitVec.ofInt 32 (m.toNat + x.toInt) := by
    rw [BitVec.ofInt_add, BitVec.ofInt_natCast, BitVec.ofNat_toNat, BitVec.setWidth_eq]
    rfl
  have hlt : (m.toNat : Int) + x.toInt < 65536 := h.2
  rw [Word, hsum, BitVec.toNat_ofInt]
  omega

lemma word_int8 (hn : n.toNat + 1 ≤ MAX_CPU_ADDR)
    (h : 0 ≤ (n.toNat : Int) + 1 + b.toInt ∧ (n.toNat : Int) + 1 + b.toInt < MAX_CPU_ADDR) :
    Word (n + 1 + int8 (b.setWidth 32)) := by
  have hone : (n + 1).toNat = n.toNat + 1 := toNat_add_ofNat hn
  rw [int8, BitVec.setWidth_setWidth_of_le _ (by decide), BitVec.setWidth_eq]
  refine word_displaced ?_
  rw [hone]
  exact_mod_cast h

lemma word_int16 (hn : n.toNat + 2 ≤ MAX_CPU_ADDR)
    (h : 0 ≤ (n.toNat : Int) + 2 + d.toInt ∧ (n.toNat : Int) + 2 + d.toInt < MAX_CPU_ADDR) :
    Word (n + 2 + int16 (d.setWidth 32)) := by
  have htwo : (n + 2).toNat = n.toNat + 2 := toNat_add_ofNat hn
  rw [int16, BitVec.setWidth_setWidth_of_le _ (by decide), BitVec.setWidth_eq]
  refine word_displaced ?_
  rw [htwo]
  exact_mod_cast h

end Places

/-! ## Instructions -/

section Instructions

variable [Machine σ] {c : U8} {p e : Unsigned → Prop} {K' : Cpu σ → Prop} {n : Unsigned}
  {ok : U8 → U16 → Prop}

omit [Machine σ] in
lemma Known.forget {s : Cpu σ} (h : Known p e s) : Known p Any s := ⟨h.widths, h.pc, trivial⟩

omit [Machine σ] in
lemma Known.mono {q : Unsigned → Prop} {s : Cpu σ} (h : Known p e s) (hq : ∀ v, p v → q v) :
    Known q e s :=
  ⟨h.widths, hq _ h.pc, h.ea⟩

lemma Ea.size_pos (ea : Ea) (b : U8) : 1 ≤ ea.addrMode.size b := by
  cases ea <;> simp [Ea.addrMode, AddrMode.size]

/-- Compute the address, then go on. -/
lemma Ea.inside_andThen (ea : Ea) {k : M σ Unit} {k' : M (Fenced c σ) Unit}
    (hok : ∀ b d, ok b d → n.toNat + ea.addrMode.size b ≤ MAX_CPU_ADDR ∧
      p (n + BitVec.ofNat 32 (ea.addrMode.size b)))
    (hk : Inside c (Known p Word) k k' Any K') :
    Inside c (Behind n ok) (ea.andThen k) (ea.andThen k') Any K' := by
  refine Inside.given (fun s hs => hs.some) fun hsome => ?_
  obtain ⟨b, d, hbd⟩ := hsome
  have hroom := (hok b d hbd).1
  have hn : Word n := Nat.lt_of_lt_of_le (Nat.lt_add_of_pos_right (ea.size_pos b)) hroom
  cases ea with
  | direct clk =>
      have one : Inside c (Behind n ok) (Exec09.direct : M σ Unit) Exec09.direct Any
          (Known p Word) := by
        refine Inside.strengthen ?_ fun _ hs => hs.known
        refine (Inside.reads (Q := (· = n)) fun _ hs => hs.pc).bind fun _ ha =>
          (inside_rdmem (ha ▸ hn)).bind fun v hv => Inside.modify fun s hs => ?_
        refine ⟨{ hs.widths with A := hs.widths.A }, ?_, ?_⟩
        · change p (s.PC + 1)
          rw [hs.pc]
          exact (hok b d hbd).2
        · exact Words.or_lt hv.word (Nat.lt_of_le_of_lt hs.widths.DP.2 (by decide))
      exact one.bind fun _ _ => (inside_tick clk).bind fun _ _ => hk
  | extended clk =>
      have two : Inside c (Behind n ok) (Exec09.extended : M σ Unit) Exec09.extended Any
          (Known p Word) := by
        refine Inside.strengthen ?_ fun _ hs => hs.known
        refine Inside.weaken ((inside_immWord hn).bind fun _ hv => inside_wrEa hv) fun s hs => ?_
        exact hs.mono fun v hv => hv ▸ (hok b d hbd).2
      exact two.bind fun _ _ => (inside_tick clk).bind fun _ _ => hk
  | indexed => exact (inside_indexed hn hok).bind fun _ _ => hk
  | tickIndexed clk =>
      exact (inside_tick_behind clk).bind fun _ _ => (inside_indexed hn hok).bind fun _ _ => hk
  | indexedTick clk =>
      exact (inside_indexed hn hok).bind fun _ _ => (inside_tick clk).bind fun _ _ => hk

lemma Src8.inside_andThen (src : Src8) {k : M σ Unsigned → M σ Unit}
    {k' : M (Fenced c σ) Unsigned → M (Fenced c σ) Unit}
    (hok : ∀ b d, ok b d → n.toNat + src.addrMode.size b ≤ MAX_CPU_ADDR ∧
      Word (n + BitVec.ofNat 32 (src.addrMode.size b)))
    (hk : ∀ {p e : Unsigned → Prop} {v v'}, Inside c (Known p e) v v' Byte (Known Word Any) →
      Inside c (Known p e) (k v) (k' v') Any (Known Word Any)) :
    Inside c (Behind n ok) (src.andThen k) (src.andThen k') Any (Known Word Any) := by
  cases src with
  | imm =>
      refine Inside.given (fun s hs => hs.some) fun hsome => ?_
      obtain ⟨b, d, hbd⟩ := hsome
      have hn : Word n := Nat.lt_of_succ_le (hok b d hbd).1
      refine Inside.strengthen ?_ fun _ hs => hs.known
      refine (inside_tick 2).bind fun _ _ => hk ((inside_immByte hn).weaken fun s hs => ?_)
      exact hs.mono fun v hv => hv ▸ (hok b d hbd).2
  | mem ea =>
      exact ea.inside_andThen hok (hk (inside_rdmemEa.weaken fun _ hs => hs.forget))

lemma Src16.inside_andThen (src : Src16) {k : M σ Unsigned → M σ Unit}
    {l : M (Fenced c σ) Unsigned → M (Fenced c σ) Unit}
    (hok : ∀ b d, ok b d → n.toNat + src.addrMode.size b ≤ MAX_CPU_ADDR ∧
      Word (n + BitVec.ofNat 32 (src.addrMode.size b)))
    (hk : ∀ {p e : Unsigned → Prop} {v v'}, Inside c (Known p e) v v' Word (Known Word Any) →
      Inside c (Known p e) (k v) (l v') Any (Known Word Any)) :
    Inside c (Behind n ok) (src.andThen k) (src.andThen l) Any (Known Word Any) := by
  cases src with
  | imm clk =>
      refine Inside.given (fun s hs => hs.some) fun hsome => ?_
      obtain ⟨b, d, hbd⟩ := hsome
      have hroom : n.toNat + 2 ≤ MAX_CPU_ADDR := (hok b d hbd).1
      have hn : Word n := Nat.lt_of_lt_of_le (Nat.lt_add_of_pos_right Nat.two_pos) hroom
      refine Inside.strengthen ?_ fun _ hs => hs.known
      refine (inside_tick clk).bind fun _ _ => hk ((inside_immWord hn).weaken fun s hs => ?_)
      exact hs.mono fun v hv => hv ▸ (hok b d hbd).2
  | mem ea =>
      exact ea.inside_andThen hok (hk (inside_rdmem16Ea.weaken fun _ hs => hs.forget))

/-- What is known when an instruction is run. -/
structure Insn.Ready (i : Insn) (n : Unsigned) (f : Flags) (s : Cpu σ) : Prop where
  behind : Behind n (i.Fits n.toNat f) s
  flags : s.flags = f
  iPC : Word s.iPC

namespace Insn

variable {i : Insn} {f : Flags} {k : M σ Unit} {k' : M (Fenced c σ) Unit}

/-- Instructions without operand bytes that go on behind their opcode. -/
lemma inside_implied
    (hg : ∀ b d, i.goesOn n.toNat f b d = some (n.toNat + i.operandSize b))
    (hz : ∀ b, i.operandSize b = 0)
    (hk : Inside c (Known Word Any) k k' Any (Known Word Any)) :
    Inside c (i.Ready n f) k k' Any (Known Word Any) := by
  refine Inside.strengthen hk fun s hs => ?_
  obtain ⟨b, d, hbd⟩ := hs.behind.some
  have hw := (hbd.sequential (hg b d)).2
  rw [hz, BitVec.add_zero] at hw
  exact hs.behind.known.mono fun v hv => hv ▸ hw

/-- Instructions that go on `k` bytes behind their opcode. -/
lemma inside_next {k : Nat} (hg : ∀ b d, i.goesOn n.toNat f b d = some (n.toNat + k))
    {m : M σ Unit} {m' : M (Fenced c σ) Unit}
    (hm : Word (n + BitVec.ofNat 32 k) →
      Inside c (Known (· = n) Any) m m' Any (Known Word Any)) :
    Inside c (i.Ready n f) m m' Any (Known Word Any) := by
  refine Inside.given (fun s hs => hs.behind.some) fun hsome => ?_
  obtain ⟨b, d, hbd⟩ := hsome
  have hlt := (hbd.next _ (hg b d)).2
  have hnat : n.toNat + k < MAX_CPU_ADDR := by exact_mod_cast hlt
  refine Inside.strengthen (hm ?_) fun s (hs : i.Ready n f s) => hs.behind.known
  rw [Word, toNat_add_ofNat hnat.le]
  exact hnat

/-- The default of the main switch goes back to the opcode. -/
lemma inside_invalid :
    Inside c (Insn.invalid.Ready n f) (invalidOpcode : M σ Unit) invalidOpcode Any
      (Known Word Any) := by
  refine Inside.strengthen (K := fun s => Known Any Any s ∧ Word s.iPC) ?_
    fun s hs => ⟨hs.behind.known.mono fun _ _ => trivial, hs.iPC⟩
  have keep (g : Cpu σ → Cpu σ) (hf : ∀ s, (g s).file = s.file) (hi : ∀ s, (g s).iPC = s.iPC) :
      Inside c (fun s => Known Any Any s ∧ Word s.iPC) (modify g : M σ Unit) (modify g) Any
        (fun s => Known Any Any s ∧ Word s.iPC) :=
    Inside.modify fun s hs => ⟨⟨hs.1.widths.of_file (hf s), trivial, trivial⟩, (hi s).symm ▸ hs.2⟩
  have report : Inside c (fun s => Known Any Any s ∧ Word s.iPC) (simError : M σ Unit) simError Any
      (fun s => Known Any Any s ∧ Word s.iPC) :=
    (keep (fun s => { s with simErrors := s.simErrors + 1 }) (fun _ => rfl) fun _ => rfl).bind
      fun _ _ => Inside.ite
        (fun _ => keep (fun s => { s with monitorOn := true }) (fun _ => rfl) fun _ => rfl)
        fun _ => Inside.throw _
  refine (keep (fun s => { s with cpuClk := s.cpuClk - 2 }) (fun _ => rfl) fun _ => rfl).bind
    fun _ _ => report.bind fun _ _ => ?_
  refine (Inside.reads (Q := Word) fun _ hs => hs.2).bind fun v hv => ?_
  exact Inside.strengthen (inside_wrPC hv) fun _ hs => hs.1

/-- Instructions that load `PC`. -/
lemma inside_loads (hk : Inside c (Known Any Any) k k' Any (Known Word Any)) :
    Inside c (i.Ready n f) k k' Any (Known Word Any) :=
  Inside.strengthen hk fun _ hs => hs.behind.known.mono fun _ _ => trivial

/-- Instructions with an operand byte. -/
lemma inside_post {g : Unsigned → M σ Unit} {g' : Unsigned → M (Fenced c σ) Unit}
    (hz : ∀ b, i.operandSize b = 1)
    (hk : ∀ b d, i.Fits n.toNat f b d → n.toNat + 1 ≤ MAX_CPU_ADDR →
      Inside c (Known (· = n + 1) Any) (g (b.setWidth 32)) (g' (b.setWidth 32)) Any
        (Known Word Any)) :
    Inside c (i.Ready n f) (immByte >>= g) (immByte >>= g') Any (Known Word Any) := by
  refine Inside.strengthen ?_ fun s (hs : i.Ready n f s) => hs.behind
  refine Inside.given (fun s hs => hs.some) fun hsome => ?_
  obtain ⟨b₀, d₀, h₀⟩ := hsome
  have hroom := h₀.room
  rw [hz] at hroom
  refine (inside_operand (Nat.lt_of_succ_le hroom)).bind fun v hv => ?_
  obtain ⟨b, d, hbd, rfl⟩ := hv
  exact hk b d hbd hroom

/-- Instructions with an operand word. -/
lemma inside_post16 {g : Unsigned → M σ Unit} {g' : Unsigned → M (Fenced c σ) Unit}
    (hz : ∀ b, i.operandSize b = 2)
    (hk : ∀ b d, i.Fits n.toNat f b d → n.toNat + 2 ≤ MAX_CPU_ADDR →
      Inside c (Known (· = n + 2) Any) (g (d.setWidth 32)) (g' (d.setWidth 32)) Any
        (Known Word Any)) :
    Inside c (i.Ready n f) (immWord >>= g) (immWord >>= g') Any (Known Word Any) := by
  refine Inside.strengthen ?_ fun s (hs : i.Ready n f s) => hs.behind
  refine Inside.given (fun s hs => hs.some) fun hsome => ?_
  obtain ⟨b₀, d₀, h₀⟩ := hsome
  have hroom := h₀.room
  rw [hz] at hroom
  have hn : Word n := Nat.lt_of_lt_of_le (Nat.lt_add_of_pos_right Nat.two_pos) hroom
  refine (inside_operand16 hn).bind fun v hv => ?_
  obtain ⟨b, d, hbd, rfl⟩ := hv
  exact hk b d hbd hroom

/-- Instructions that compute an address and go on behind it. -/
lemma inside_ea (ea : Ea)
    (hg : ∀ b d, i.goesOn n.toNat f b d = some (n.toNat + i.operandSize b))
    (hz : ∀ b, i.operandSize b = ea.addrMode.size b)
    (hk : Inside c (Known Word Word) k k' Any (Known Word Word)) :
    Inside c (i.Ready n f) (ea.andThen k) (ea.andThen k') Any (Known Word Any) := by
  refine Inside.strengthen ?_ fun s (hs : i.Ready n f s) => hs.behind
  refine ea.inside_andThen (fun b d h => ?_) (hk.weaken fun _ hs => hs.forget)
  rw [← hz]
  exact h.sequential (hg b d)

end Insn

omit [Machine σ] in
/-- Register number 5 is `PC`. -/
lemma pc_setReg (s : Cpu σ) (nro val : Unsigned) :
    (s.setReg nro val).PC = if nro = 5 then val else s.PC := by
  split
  · rename_i h
    rw [h]
    rfl
  · rename_i h
    exact congrArg Prod.fst (marks_setReg s val h)

omit [Machine σ] in
lemma Known.tfr {s : Cpu σ} {post : Unsigned} (hs : Known p Any s) (hb : Byte post)
    (hp : post &&& 15 ≠ 5 → ∀ v, p v → Word v) : Known Word Any (s.tfr post) := by
  refine ⟨hs.widths.tfr hb, ?_, trivial⟩
  rw [Cpu.tfr, pc_setReg]
  split
  · exact (hs.widths.tfrValue (a := post >>> 4) (b := post &&& 15) (sameSize_iff hb)).1
  · exact hp ‹_› s.PC hs.pc

omit [Machine σ] in
lemma Known.exg {s : Cpu σ} {post : Unsigned} (hs : Known p Any s) (hb : Byte post)
    (hp : ¬(post &&& 15 = 5 ∨ post >>> 4 = 5) → ∀ v, p v → Word v) :
    Known Word Any (s.exg post) := by
  refine ⟨hs.widths.exg hb, ?_, trivial⟩
  rw [Cpu.exg, pc_setReg, pc_setReg]
  split
  · exact (hs.widths.tfrValue (a := post &&& 15) (b := post >>> 4) fun h =>
      (sameSize_iff hb h).symm).1
  · split
    · exact (hs.widths.tfrValue (a := post >>> 4) (b := post &&& 15) (sameSize_iff hb)).1
    · exact hp (not_or.mpr ⟨‹_›, ‹_›⟩) s.PC hs.pc

/-- A call: `ea` is where it goes, and the push may enter a handler. -/
lemma inside_call {x : Unsigned → Unsigned} {clk : Int} (hx : Word (x n)) :
    Inside c (Known (· = n) Any)
      (do
        wrEa (x (← reads Cpu.PC))
        pushS16 ((← reads Cpu.PC) &&& 0xffff)
        tick clk
        wrPC (← rdEa) : M σ Unit)
      (do
        wrEa (x (← reads Cpu.PC))
        pushS16 ((← reads Cpu.PC) &&& 0xffff)
        tick clk
        wrPC (← rdEa))
      Any (Known Word Any) := by
  refine (Inside.reads (Q := (· = n)) fun _ hs => hs.pc).bind fun _ hpc => ?_
  refine (inside_wrEa (r := Word) (hpc ▸ hx)).bind fun _ _ => ?_
  refine Inside.strengthen ?_ fun s (hs : Known (· = n) Word s) => hs.mono (q := Any) fun _ _ => trivial
  refine (inside_reads _).bind fun _ _ => (inside_pushS16 (fun _ _ => trivial) _).bind fun _ _ => ?_
  refine (inside_tick clk).bind fun _ _ => inside_rdEa.bind fun _ hv => ?_
  exact (inside_wrPC hv).weaken fun _ hs => hs.forget

/-- **Inside the address space every instruction asks for 16-bit addresses and leaves a 16-bit
`PC`.** -/
lemma Insn.inside_exec (i : Insn) (n : Unsigned) (f : Flags) :
    Inside c (i.Ready n f) (i.exec : M σ Unit) i.exec Any (Known Word Any) := by
  have word (v : Unsigned) (h : Word v) : Word v := h
  cases i with
  | unaryMem op ea =>
      exact inside_ea ea (fun _ _ => rfl) (fun _ => rfl) (inside_rdmemEa.bind fun _ h =>
        (inside_unary op h).bind fun _ _ => inside_wrmemEa word _)
  | tstMem ea =>
      exact inside_ea ea (fun _ _ => rfl) (fun _ => rfl) (inside_rdmemEa.bind fun _ _ => inside_tst _)
  | jmp ea =>
      refine Inside.strengthen ?_ fun s (hs : (Insn.jmp ea).Ready n f s) => hs.behind
      refine ea.inside_andThen (p := Any) (fun b d h => ⟨h.room, trivial⟩) ?_
      exact inside_rdEa.bind fun _ hv => (inside_wrPC hv).weaken fun _ hs => hs.forget
  | jsr ea =>
      refine Inside.strengthen ?_ fun s (hs : (Insn.jsr ea).Ready n f s) => hs.behind
      refine ea.inside_andThen (p := Any) (fun b d h => ⟨h.room, trivial⟩) ?_
      exact (inside_reads _).bind fun _ _ => (inside_pushS16 (fun _ _ => trivial) _).bind fun _ _ =>
        inside_rdEa.bind fun _ hv => (inside_wrPC hv).weaken fun _ hs => hs.forget
  | unaryAcc op r =>
      exact inside_implied (fun _ _ => rfl) (fun _ => rfl) (r.inside_get.bind fun _ h =>
        (inside_unary op h).bind fun _ h => r.inside_put h)
  | tstAcc r =>
      exact inside_implied (fun _ _ => rfl) (fun _ => rfl) (r.inside_get.bind fun _ _ =>
        inside_tst _)
  | bin8 op r src =>
      refine Inside.strengthen ?_ fun s (hs : (Insn.bin8 op r src).Ready n f s) => hs.behind
      exact src.inside_andThen (fun b d h => h.sequential rfl) fun hv =>
        r.inside_get.bind fun _ h => hv.bind fun _ h' =>
        (inside_alu (op.byte_fn h h')).bind fun _ h => r.inside_put h
  | test8 op r src =>
      refine Inside.strengthen ?_ fun s (hs : (Insn.test8 op r src).Ready n f s) => hs.behind
      exact src.inside_andThen (fun b d h => h.sequential rfl) fun hv =>
        r.inside_get.bind fun _ _ => hv.bind fun _ _ => inside_alu fun _ => trivial
  | ld8 r src =>
      refine Inside.strengthen ?_ fun s (hs : (Insn.ld8 r src).Ready n f s) => hs.behind
      exact src.inside_andThen (fun b d h => h.sequential rfl) fun hv =>
        hv.bind fun _ h => (inside_alu (Q := Byte) fun _ => h).bind fun _ h => r.inside_put h
  | st8 r ea =>
      exact inside_ea ea (fun _ _ => rfl) (fun _ => rfl) (r.inside_get.bind fun _ _ =>
        (inside_alu (Q := Any) fun _ => trivial).bind fun _ _ => inside_wrmemEa word _)
  | bin16 op src =>
      refine Inside.strengthen ?_ fun s (hs : (Insn.bin16 op src).Ready n f s) => hs.behind
      cases src with
      | imm clk =>
          exact (Src16.imm clk).inside_andThen (k := fun v => do op.run (← v))
            (l := fun v => do op.run (← v)) (fun b d h => h.sequential rfl) fun hv =>
            hv.bind fun _ _ => op.inside_run _
      | mem ea =>
          refine ea.inside_andThen (fun b d h => h.sequential rfl) ?_
          exact Inside.weaken (inside_rdmem16Ea.bind fun _ _ => (op.inside_run _).bind fun _ _ =>
            inside_tick 1) fun _ hs => hs.forget
  | ldd src =>
      refine Inside.strengthen ?_ fun s (hs : (Insn.ldd src).Ready n f s) => hs.behind
      exact src.inside_andThen (fun b d h => h.sequential rfl) fun hv =>
        hv.bind fun _ h => (inside_alu (Q := Word) fun _ => h).bind fun _ h => inside_wrAB h
  | std ea =>
      exact inside_ea ea (fun _ _ => rfl) (fun _ => rfl) ((inside_reads _).bind fun _ _ =>
        (inside_reads _).bind fun _ _ => (inside_alu (Q := Any) fun _ => trivial).bind fun _ _ =>
        inside_rdEa.bind fun _ h => (inside_reads _).bind fun _ _ => inside_wrmem16 word h _)
  | cmp16 r src =>
      refine Inside.strengthen ?_ fun s (hs : (Insn.cmp16 r src).Ready n f s) => hs.behind
      cases src with
      | imm clk =>
          exact (Src16.imm clk).inside_andThen (k := fun v => do alu (Alu.cmp16 (← r.get) (← v)))
            (l := fun v => do alu (Alu.cmp16 (← r.get) (← v))) (fun b d h => h.sequential rfl)
            fun hv => r.inside_get.bind fun _ _ => hv.bind fun _ _ => inside_alu fun _ => trivial
      | mem ea =>
          refine ea.inside_andThen (fun b d h => h.sequential rfl) ?_
          exact Inside.weaken (r.inside_get.bind fun _ _ => inside_rdmem16Ea.bind fun _ _ =>
            (inside_alu (Q := Any) fun _ => trivial).bind fun _ _ => inside_tick 1)
            fun _ hs => hs.forget
  | ld16 r src =>
      refine Inside.strengthen ?_ fun s (hs : (Insn.ld16 r src).Ready n f s) => hs.behind
      exact src.inside_andThen (fun b d h => h.sequential rfl) fun hv =>
        hv.bind fun _ h => (inside_alu (Q := Word) fun _ => h).bind fun _ h => r.inside_put h
  | st16 r ea =>
      exact inside_ea ea (fun _ _ => rfl) (fun _ => rfl) (r.inside_get.bind fun _ _ =>
        (inside_alu (Q := Any) fun _ => trivial).bind fun _ _ => inside_rdEa.bind fun _ h =>
        inside_wrmem16 word h _)
  | lea r =>
      exact inside_ea .indexed (fun _ _ => rfl) (fun _ => rfl) (inside_rdEa.bind fun _ h =>
        (r.inside_put h).bind fun _ _ => (inside_reads _).bind fun _ _ =>
        inside_keep (fun _ => rfl) fun _ => rfl)
  | leaStack r =>
      exact inside_ea .indexed (fun _ _ => rfl) (fun _ => rfl) (inside_rdEa.bind fun _ h =>
        r.inside_put h)
  | bra =>
      refine Inside.bind (Q := Any) (f := fun _ => tick 3) (k := fun _ => tick 3) ?_
        fun _ _ => inside_tick 3
      refine inside_post (fun _ => rfl) fun b d h hroom => ?_
      exact (inside_skip _).weaken fun s hs => hs.mono fun v hv =>
        hv ▸ word_int8 hroom (h.next _ rfl)
  | brn =>
      refine inside_next (k := 1) (fun _ _ => rfl) fun hw => ?_
      exact Inside.bind (inside_skip 1) fun _ _ => (inside_tick 3).weaken fun s hs =>
        hs.mono fun v hv => hv ▸ hw
  | branch cc =>
      refine (Inside.reads (Q := (· = cc.holds f)) fun _ hs => congrArg cc.holds hs.flags).bind
        fun _ hb => ?_
      rw [hb]
      refine Inside.bind (Q := Any) (f := fun _ => tick 3) (k := fun _ => tick 3)
        (Inside.ite (fun hc => ?_) fun hc => ?_) fun _ _ => inside_tick 3
      · refine inside_post (fun _ => rfl) fun b d h hroom => ?_
        have hnext := h.next _ rfl
        rw [if_pos hc] at hnext
        exact (inside_skip _).weaken fun s hs => hs.mono fun v hv => hv ▸ word_int8 hroom hnext
      · refine inside_next (k := 1) (fun b _ => ?_) fun hw => ?_
        · exact congrArg (some : Int → Option Int) (if_neg hc)
        exact (inside_skip 1).weaken fun s hs => hs.mono fun v hv => hv ▸ hw
  | bsr =>
      refine inside_post (fun _ => rfl) fun b d h hroom => ?_
      exact inside_call (x := (· + int8 (b.setWidth 32))) (word_int8 hroom (h.next _ rfl))
  | longBra =>
      refine Inside.bind (Q := Any) (f := fun _ => tick 5) (k := fun _ => tick 5) ?_
        fun _ _ => inside_tick 5
      refine inside_post16 (fun _ => rfl) fun b d h hroom => ?_
      exact (inside_skip _).weaken fun s hs => hs.mono fun v hv =>
        hv ▸ word_int16 hroom (h.next _ rfl)
  | longBrn =>
      refine inside_next (k := 2) (fun _ _ => rfl) fun hw => ?_
      exact Inside.bind (inside_tick 5) fun _ _ => (inside_skip 2).weaken fun s hs =>
        hs.mono fun v hv => hv ▸ hw
  | longBranch cc =>
      refine (Inside.reads (Q := (· = cc.holds f)) fun _ hs => congrArg cc.holds hs.flags).bind
        fun _ hb => ?_
      rw [hb]
      refine Inside.ite (fun hc => ?_) fun hc => ?_
      · refine Inside.bind (Q := Any) (f := fun _ => tick 6) (k := fun _ => tick 6) ?_
          fun _ _ => inside_tick 6
        refine inside_post16 (fun _ => rfl) fun b d h hroom => ?_
        have hnext := h.next _ rfl
        rw [if_pos hc] at hnext
        exact (inside_skip _).weaken fun s hs => hs.mono fun v hv => hv ▸ word_int16 hroom hnext
      · refine inside_next (k := 2) (fun _ d => ?_) fun hw => ?_
        · exact congrArg (some : Int → Option Int) (if_neg hc)
        exact Inside.bind (inside_skip 2) fun _ _ => (inside_tick 5).weaken fun s hs =>
          hs.mono fun v hv => hv ▸ hw
  | longBsr =>
      refine inside_post16 (fun _ => rfl) fun b d h hroom => ?_
      exact inside_call (x := (· + int16 (d.setWidth 32))) (word_int16 hroom (h.next _ rfl))
  | nop => exact inside_implied (fun _ _ => rfl) (fun _ => rfl) (inside_tick 2)
  | sync =>
      exact inside_implied (fun _ _ => rfl) (fun _ => rfl) ((inside_tick 4).bind fun _ _ =>
        inside_simError)
  | cwai => exact inside_implied (fun _ _ => rfl) (fun _ => rfl) inside_simError
  | daa =>
      exact inside_implied (fun _ _ => rfl) (fun _ => rfl) (inside_rdA.bind fun _ _ =>
        (inside_alu (Q := Byte) fun _ => byte_and _).bind fun _ h => (inside_wrA h).bind fun _ _ =>
        inside_tick 2)
  | orcc | andcc =>
      refine inside_post (fun _ => rfl) fun b d h _ => ?_
      refine Inside.strengthen ?_ fun s (hs : Known (· = n + 1) Any s) =>
        hs.mono (q := Word) fun v hv => hv ▸ (h.sequential rfl).2
      exact (inside_reads _).bind fun _ _ => (inside_setCc _).bind fun _ _ => inside_tick 3
  | sex =>
      refine inside_implied (fun _ _ => rfl) (fun _ => rfl) (inside_rdB.bind fun b hb =>
        (inside_alu (Q := Byte) fun _ => ?_).bind fun _ h => (inside_wrA h).bind fun _ _ =>
        inside_tick 2)
      change Byte (if b &&& 0x80 ≠ 0 then 0xff else b &&& 0x80)
      split
      · exact (by decide : (0xff : Unsigned).toNat < 2 ^ 8)
      · exact Words.and_lt hb
  | exg =>
      refine inside_post (fun _ => rfl) fun b d h _ => ?_
      refine Inside.bind (Inside.modify fun s hs => hs.exg (Words.setWidth_lt b) fun hno v hv => ?_)
        fun _ _ => inside_tick 8
      exact hv ▸ (h.sequential (if_neg fun ht => hno (of_decide_eq_true ht))).2
  | tfr =>
      refine inside_post (fun _ => rfl) fun b d h _ => ?_
      refine Inside.bind (Inside.modify fun s hs => hs.tfr (Words.setWidth_lt b) fun hno v hv => ?_)
        fun _ _ => inside_tick 6
      exact hv ▸ (h.sequential (if_neg fun ht => hno (of_decide_eq_true ht))).2
  | abx =>
      exact inside_implied (fun _ _ => rfl) (fun _ => rfl) ((inside_reads _).bind fun _ _ =>
        (inside_reads _).bind fun _ _ => (inside_wrX (word_and _)).bind fun _ _ => inside_tick 3)
  | mul =>
      exact inside_implied (fun _ _ => rfl) (fun _ => rfl) ((inside_reads _).bind fun _ _ =>
        (inside_reads _).bind fun _ _ => (inside_alu (Q := Word) fun _ => word_and _).bind
        fun _ h => (inside_wrA (byte_shiftRight h)).bind fun _ _ =>
        (inside_wrB (byte_and _)).bind fun _ _ => inside_tick 11)
  | pshs =>
      refine inside_post (fun _ => rfl) fun b d h _ => ?_
      exact Inside.strengthen (inside_pshsPost word _) fun s hs =>
        hs.mono fun v hv => hv ▸ (h.sequential rfl).2
  | pshu =>
      refine inside_post (fun _ => rfl) fun b d h _ => ?_
      exact Inside.strengthen (inside_pshuPost word _) fun s hs =>
        hs.mono fun v hv => hv ▸ (h.sequential rfl).2
  | puls =>
      refine inside_post (fun _ => rfl) fun b d h _ => inside_pulsPost fun hno v hv => ?_
      exact hv ▸ (h.sequential (if_neg fun ht => hno (of_decide_eq_true ht))).2
  | pulu =>
      refine inside_post (fun _ => rfl) fun b d h _ => inside_puluPost fun hno v hv => ?_
      exact hv ▸ (h.sequential (if_neg fun ht => hno (of_decide_eq_true ht))).2
  | rts => exact inside_loads inside_rts
  | rti => exact inside_loads inside_rti
  | swi =>
      exact inside_loads (inside_swiWith (fun _ _ => trivial) _ (by decide)
        (by decide : (0xfffa : Unsigned).toNat < 2 ^ 16))
  | swi2 =>
      exact inside_loads (inside_swiWith (fun _ _ => trivial) _ (by decide)
        (by decide : (0xfff4 : Unsigned).toNat < 2 ^ 16))
  | swi3 =>
      exact inside_loads (inside_swiWith (fun _ _ => trivial) _ (by decide)
        (by decide : (0xfff2 : Unsigned).toNat < 2 ^ 16))
  | invalid => exact inside_invalid
  | invalidPrefixed =>
      exact inside_implied (fun _ _ => rfl) (fun _ => rfl) inside_simError

/-! ## Decoding -/

/-- The state behind a byte fetched at `PC`. -/
def Cpu.fetched (s : Cpu σ) : Cpu σ :=
  { s with world := (Machine.read8 s.view s.world s.PC).world, PC := s.PC + 1 }

/-- The instruction at `PC`, and the state behind its opcode. -/
def Cpu.insnAt (s : Cpu σ) : Insn × Cpu σ :=
  match insns0.lookup s.operand with
  | none => (.invalid, s.fetched)
  | some (.insn i) => (i, s.fetched)
  | some .page10 => (decodePrefixed insns10 s.fetched.operand, s.fetched.fetched)
  | some .page11 => (decodePrefixed insns11 s.fetched.operand, s.fetched.fetched)

/-- The instruction at `PC` lies in the address space and so does the place where it goes on,
whatever the devices behind the bus see of the registers. -/
def Cpu.Contained (s : Cpu σ) : Prop :=
  ∀ v v', s.insnAt.1.Fits s.insnAt.2.PC.toNat s.insnAt.2.flags
    (Machine.read8 v s.insnAt.2.world s.insnAt.2.PC).val
    (Machine.read16 v' s.insnAt.2.world s.insnAt.2.PC).val

/-- `t` is `s` up to what no bus access sees. -/
def Cpu.Near (s t : Cpu σ) : Prop :=
  ∃ pc on n, Word pc ∧ t = { s with iPC := pc, monitorOn := on, simErrors := n }

lemma immByte_near {s t : Cpu σ} {v : Unsigned} (h : immByte s = .ok (v, t)) :
    v = s.operand ∧ ∃ on n, t = { s.fetched with monitorOn := on, simErrors := n } := by
  obtain ⟨pc, s₁, h₁, k₁⟩ := bind_eq_ok.mp h
  obtain ⟨b, s₂, h₂, k₂⟩ := bind_eq_ok.mp k₁
  obtain ⟨_, s₃, h₃, k₃⟩ := bind_eq_ok.mp k₂
  cases h₁
  obtain ⟨rfl, on, n, rfl⟩ := rdmem_eq_ok h₂
  cases h₃
  cases k₃
  exact ⟨rfl, on, n, rfl⟩

lemma Widths.fetched {s : Cpu σ} (h : Widths s) : Widths s.fetched :=
  { h with A := h.A }

lemma inside_fetch {s : Cpu σ} (hs : Widths s) (hpc : Word s.PC) :
    Inside c s.Near (immByte : M σ Unsigned) immByte (· = s.operand) s.fetched.Near := by
  intro t ht
  obtain ⟨pc, on, n, hword, rfl⟩ := ht
  obtain ⟨he, -⟩ := inside_immByte (c := c) (e := Any) hpc
    { s with iPC := pc, monitorOn := on, simErrors := n } ⟨{ hs with A := hs.A }, rfl, trivial⟩
  refine ⟨he, fun v u hv => ?_⟩
  obtain ⟨rfl, on', n', rfl⟩ := immByte_near hv
  exact ⟨rfl, pc, on', n', hword, rfl⟩

/-- Fetch and decode, with all opcode bytes below the end of the address space. -/
lemma inside_decode {s : Cpu σ} (hs : Widths s) (hpc : Word s.PC)
    (hroom : s.insnAt.2.PC.toNat ≤ MAX_CPU_ADDR) :
    Inside c s.Near (decode : M σ Insn) decode (· = s.insnAt.1) s.insnAt.2.Near := by
  refine (inside_fetch hs hpc).bind fun v hv => ?_
  subst hv
  rw [Cpu.insnAt] at hroom ⊢
  -- behind a prefix the next byte is still in the address space
  have hnext (h : (s.PC + 1 + 1).toNat ≤ MAX_CPU_ADDR) : Word s.fetched.PC := by
    have hlt : s.PC.toNat < 65536 := hpc
    change (s.PC + 1).toNat < 2 ^ 16
    rw [BitVec.toNat_add, BitVec.toNat_add] at h
    rw [BitVec.toNat_add]
    change (_ : Nat) ≤ 65536 at h
    change (_ + 1) % _ < _
    change ((_ + 1) % 2 ^ 32 + 1) % 2 ^ 32 ≤ _ at h
    omega
  rcases hl : insns0.lookup s.operand with _ | (i | _ | _) <;> rw [hl] at hroom
  · exact Inside.pure rfl
  · exact Inside.pure rfl
  · refine (inside_fetch hs.fetched (hnext hroom)).bind fun v hv => ?_
    exact Inside.pure (congrArg (decodePrefixed insns10) hv)
  · refine (inside_fetch hs.fetched (hnext hroom)).bind fun v hv => ?_
    exact Inside.pure (congrArg (decodePrefixed insns11) hv)

lemma Widths.insnAt {s : Cpu σ} (h : Widths s) : Widths s.insnAt.2 := by
  rw [Cpu.insnAt]
  rcases insns0.lookup s.operand with _ | (i | _ | _)
  · exact h.fetched
  · exact h.fetched
  · exact h.fetched.fetched
  · exact h.fetched.fetched

/-- **A contained instruction asks for 16-bit addresses, and `PC` is one behind it.** -/
lemma inside_cpuInsn {s : Cpu σ} (hs : Widths s) (hpc : Word s.PC) (h : s.Contained) :
    Inside c (· = s) (cpuInsn : M σ Unit) cpuInsn Any (Known Word Any) := by
  have hroom : s.insnAt.2.PC.toNat ≤ MAX_CPU_ADDR :=
    (Nat.le_add_right _ _).trans (h s.view s.view).room
  rw [cpuInsn_eq, cpuInsn_eq]
  refine Inside.bind (L := s.Near) (Q := Any) ?_ fun _ _ => ?_
  · refine Inside.modify fun t ht => ?_
    subst ht
    exact ⟨t.PC, t.monitorOn, t.simErrors, hpc, rfl⟩
  refine (inside_decode hs hpc hroom).bind fun i hi => ?_
  subst hi
  refine Inside.bind (Q := Any) ?_ fun _ _ => inside_ccCheck fun _ hv => hv
  refine Inside.strengthen (Insn.inside_exec _ s.insnAt.2.PC s.insnAt.2.flags) fun t ht => ?_
  obtain ⟨pc, on, n, hword, rfl⟩ := ht
  exact ⟨⟨⟨{ hs.insnAt with A := hs.insnAt.A }, rfl, trivial⟩, h⟩, rfl, hword⟩

/-- The fence ends a read from outside the address space. -/
lemma fenced_rdmem {addr : Unsigned} (h : ¬Word addr) (s : Cpu (Fenced c σ)) :
    (rdmem addr : M (Fenced c σ) Unsigned) s = .error (.code c) := by
  have hcall : (fun v w => Machine.read8 v w addr : View → Fenced c σ → Reply (Fenced c σ) U8) =
      fun _ w => ⟨0, w, [.exit c]⟩ := funext fun _ => funext fun _ => if_neg h
  rw [rdmem, hcall]
  rfl

/-- The fence ends an instruction whose opcode is outside the address space. -/
lemma fenced_cpuInsn {s : Cpu (Fenced c σ)} (h : ¬Word s.PC) :
    (cpuInsn : M (Fenced c σ) Unit) s = .error (.code c) := by
  have hfetch : (immByte : M (Fenced c σ) Unsigned) { s with iPC := s.PC } = .error (.code c) := by
    rw [immByte, ok_bind (reads_apply Cpu.PC { s with iPC := s.PC })]
    exact error_bind (fenced_rdmem h { s with iPC := s.PC })
  rw [cpuInsn, ok_bind (modify_apply (fun s => { s with iPC := s.PC }) s)]
  exact error_bind hfetch

/-- The fetch is on this side of the fence. -/
lemma Cpu.AsksInside.pc {s : Cpu σ} (h : s.AsksInside) : Word s.PC := by
  by_contra hpc
  have hne : (Except.error (Exit.code 0) : Except Exit (Unit × Cpu σ)) = .error (.code 1) :=
    (fenced_cpuInsn (c := 0) hpc).symm.trans (((h 0).trans (h 1).symm).trans
      (fenced_cpuInsn (c := 1) hpc))
  cases hne

/-! ## Runs -/

section Run

-- `monitor6809`, as in `cpu_execute`.
variable (monitor6809 : M σ Bool)

/-- `cpu_execute (cycles)` from `s` comes to an instruction that begins in this state. -/
inductive Begins (cycles : Int) (s : Cpu σ) : Cpu σ → Prop
  | first {t : Cpu σ} (h : beforeInsn monitor6809 (s.grant cycles) = .ok (false, t)) :
      Begins cycles s t
  | next {t u v : Cpu σ} (h : Begins cycles s t) (hi : cpuInsn t = .ok ((), u))
      (hclk : 0 < u.cpuClk) (hb : beforeInsn monitor6809 u = .ok (false, v)) : Begins cycles s v

/-- A session with the debugger leaves the registers at their widths and an address in `PC`. -/
def Courteous : Prop := Triple (Known Word Any) monitor6809 fun _ => Known Word Any

variable {monitor6809}

lemma inside_beforeInsn (h : Courteous monitor6809) :
    Inside c (Known Word Any) (beforeInsn monitor6809) (beforeInsn (unfenced c monitor6809)) Any
      (Known Word Any) :=
  (inside_access fun _ _ => rfl).bind fun _ _ => (inside_reads _).bind fun _ _ =>
    Inside.ite (fun _ => Inside.silent fun s hs a t ht => ⟨trivial, h s hs a t ht⟩)
      fun _ => Inside.pure trivial

/-- Where the loop tests `cpu_clk`, and where it starts. -/
inductive Heads (monitor6809 : M σ Bool) (cycles : Int) (s : Cpu σ) : Cpu σ → Prop
  | start : Heads monitor6809 cycles s (s.grant cycles)
  | again {t u : Cpu σ} (h : Begins monitor6809 cycles s t) (hi : cpuInsn t = .ok ((), u))
      (hclk : 0 < u.cpuClk) : Heads monitor6809 cycles s u

omit [Machine σ] in
lemma Known.grant {s : Cpu σ} (h : Known p e s) (cycles : Int) : Known p e (s.grant cycles) :=
  ⟨{ h.widths with A := h.widths.A }, h.pc, h.ea⟩

lemma Heads.begins {cycles : Int} {s u t : Cpu σ} (h : Heads monitor6809 cycles s u)
    (hb : beforeInsn monitor6809 u = .ok (false, t)) : Begins monitor6809 cycles s t := by
  cases h with
  | start => exact .first hb
  | again h hi hclk => exact .next h hi hclk hb

variable {cycles : Int} {s : Cpu σ}

lemma inside_cpuLoop (h : Courteous monitor6809)
    (hc : ∀ t, Begins monitor6809 cycles s t → t.Contained) (fuel : Nat) :
    Inside c (fun u => Known Word Any u ∧ Heads monitor6809 cycles s u)
      (cpuLoop monitor6809 fuel) (cpuLoop (unfenced c monitor6809) fuel) Any (Known Word Any) := by
  induction fuel with
  | zero => exact Inside.weaken (Inside.pure trivial) fun _ hs => hs.1
  | succ n ih =>
      rw [cpuLoop_succ, cpuLoop_succ]
      refine Inside.bindRun (Inside.strengthen (inside_beforeInsn h) fun _ hs => hs.1)
        fun u leave t hu hb _ ht => ?_
      cases leave with
      | true => exact Inside.strengthen (Inside.pure trivial) fun _ hs => hs ▸ ht
      | false =>
          have hbegin : Begins monitor6809 cycles s t := hu.2.begins hb
          refine Inside.bindRun (inside_cpuInsn ht.widths ht.pc (hc t hbegin))
            fun t' _ v hv hi _ hk => ?_
          subst hv
          refine Inside.bindRun (Q := Any) (inside_reads _) fun v' clk w hv hr _ hw => ?_
          subst hv
          cases hr
          refine Inside.ite (fun hclk => ?_) fun _ => ?_
          · exact Inside.strengthen ih fun _ hs => hs ▸ ⟨hk, .again hbegin hi hclk⟩
          · exact Inside.strengthen (Inside.pure trivial) fun _ hs => hs ▸ hk

lemma inside_cpuExecute (h : Courteous monitor6809)
    (hc : ∀ t, Begins monitor6809 cycles s t → t.Contained) (fuel : Nat) :
    Inside c (fun u => Known Word Any u ∧ u = s) (cpuExecute monitor6809 fuel cycles)
      (cpuExecute (unfenced c monitor6809) fuel cycles) Any (Known Word Any) := by
  refine Inside.bind (L := fun u => Known Word Any u ∧ Heads monitor6809 cycles s u) (Q := Any)
    ?_ fun _ _ => (inside_cpuLoop h hc fuel).bind fun r _ => ?_
  · exact Inside.modify fun u hu => ⟨hu.1.grant cycles, hu.2 ▸ .start⟩
  cases r with
  | none => exact Inside.pure trivial
  | some =>
      exact Inside.bind (inside_keep (fun _ => rfl) fun _ => rfl) fun _ _ =>
        Inside.bind (inside_keep (fun _ => rfl) fun _ => rfl) fun _ _ =>
        (inside_reads _).bind fun _ _ => Inside.pure trivial

/-- Every begun instruction finds the registers at their widths and a 16-bit `PC`. -/
lemma Begins.known (h : Courteous monitor6809)
    (hc : ∀ t, Begins monitor6809 cycles s t → t.Contained) (hs : Known Word Any s) {t : Cpu σ}
    (ht : Begins monitor6809 cycles s t) : Known Word Any t := by
  induction ht with
  | first hb => exact ((inside_beforeInsn (c := 0) h _ (hs.grant cycles)).2 _ _ hb).2
  | next ht hi _ hb ih =>
      have hu := (inside_cpuInsn (c := 0) ih.widths ih.pc (hc _ ht) _ rfl).2 _ _ hi
      exact ((inside_beforeInsn (c := 0) h _ hu.2).2 _ _ hb).2

end Run

/-- **Every address the interpreter puts on the bus is a 16-bit address, as long as no instruction
reaches over the end of the address space.**  The whole call of `cpu_execute` is the same with a
fence around the address space. -/
theorem cpuExecute_asksInside {monitor6809 : M σ Bool} {cycles : Int} {s : Cpu σ}
    (h : Courteous monitor6809) (hs : Widths s) (hpc : s.PC.toNat < MAX_CPU_ADDR)
    (hc : ∀ t, Begins monitor6809 cycles s t → t.Contained) :
    (∀ t, Begins monitor6809 cycles s t → t.PC.toNat < MAX_CPU_ADDR ∧ t.AsksInside) ∧
      ∀ fuel,
        (∀ c, cpuExecute (unfenced c monitor6809) fuel cycles s =
          cpuExecute monitor6809 fuel cycles s) ∧
        ∀ v t, cpuExecute monitor6809 fuel cycles s = .ok (v, t) →
          Widths t ∧ t.PC.toNat < MAX_CPU_ADDR := by
  have hstart : Known Word Any s := ⟨hs, hpc, trivial⟩
  refine ⟨fun t ht => ?_, fun fuel => ⟨fun c => ?_, fun v t hv => ?_⟩⟩
  · have hk := ht.known h hc hstart
    exact ⟨hk.pc, fun c => (inside_cpuInsn hk.widths hk.pc (hc t ht) t rfl).1⟩
  · exact (inside_cpuExecute h hc fuel s ⟨hstart, rfl⟩).1
  · obtain ⟨-, hk⟩ := (inside_cpuExecute (c := 0) h hc fuel s ⟨hstart, rfl⟩).2 v t hv
    exact ⟨hk.widths, hk.pc⟩

end Instructions

/-! ## The end of memory -/

/-- A branch to itself in the last two bytes of memory. -/
def lastBytes : Cpu Flat :=
  { Cpu.zeroed ⟨Flat.bytes 0xfffe [0x20, 0xfe]⟩ with PC := 0xfffe }

lemma Flat.contained {s : Cpu Flat} (h : s.insnAt.1.Fits s.insnAt.2.PC.toNat s.insnAt.2.flags
    (s.insnAt.2.world.get s.insnAt.2.PC)
    (s.insnAt.2.world.get s.insnAt.2.PC ++ s.insnAt.2.world.get (s.insnAt.2.PC + 1))) :
    s.Contained :=
  fun _ _ => h

lemma Flat.beforeInsn_pure (s : Cpu Flat) :
    beforeInsn (pure false) s = .ok (false, s) := by
  change (if s.monitorOn then pure false else pure false : M Flat Bool) s = .ok (false, s)
  rw [ite_self]
  rfl

/-- Three cycles are enough for the branch and for no more. -/
lemma begins_lastBytes {t : Cpu Flat} (h : Begins (pure false) 3 lastBytes t) :
    t = lastBytes.grant 3 := by
  induction h with
  | first hb =>
      rw [Flat.beforeInsn_pure] at hb
      exact (congrArg Prod.snd (Except.ok.inj hb)).symm
  | @next t u v ht hi hclk hb ih =>
      subst ih
      have hrun : cpuInsn (lastBytes.grant 3) = .ok ((), after cpuInsn (lastBytes.grant 3)) :=
        eq_ok_after (by decide)
      have hu : u = after cpuInsn (lastBytes.grant 3) :=
        congrArg Prod.snd (Except.ok.inj (hi.symm.trans hrun))
      have hspent : ¬0 < (after cpuInsn (lastBytes.grant 3)).cpuClk := by decide
      exact absurd (hu ▸ hclk) hspent

/-- The branch takes the last byte as its operand and goes back before `PC` counts any further. -/
theorem cpuExecute_asksInside_lastBytes :
    (cpuExecute (unfenced 7 (pure false)) 3 3 lastBytes = cpuExecute (pure false) 3 3 lastBytes) ∧
      result (cpuExecute (pure false) 3 3) lastBytes = some (some 3) := by
  refine ⟨((cpuExecute_asksInside (fun s hs a t ht => ?_) ?_ (by decide) fun t ht => ?_).2 3).1 7,
    by decide⟩
  · cases ht
    exact hs
  · exact ⟨by decide, by decide, by decide, by decide, by decide, by decide, by decide, by decide⟩
  · rw [begins_lastBytes ht]
    exact Flat.contained ⟨by decide, by decide⟩

/-- Without the branch `PC` runs out of the address space, and the next fetch with it. -/
example : (after (cpuInsn : M Flat Unit)
    { Cpu.zeroed ⟨Flat.bytes 0xffff [0x12]⟩ with PC := 0xffff }).PC = 0x10000 := by decide

end Exec09
