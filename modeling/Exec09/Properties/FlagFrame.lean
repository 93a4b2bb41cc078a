import Exec09.Cpu.Flat
import Exec09.Properties.LazyFlags
import Exec09.Properties.Undisturbed

/-!
# Which instructions change which condition code bits

The flags are globals that every helper assigns.  `Insn.ChangesH`, `Insn.ChangesC`, `Insn.KeepsV`
and `Insn.KeepsFlags` list the instructions by what they may do to a bit of `get_cc`, and
`flag_frame` says that the whole instruction set respects the lists.
-/

namespace Exec09

open Program

variable {σ γ : Type}

/-! ## Bits of the condition code byte -/

/-- The bits of `get_cc` in the mask are the same. -/
def CcKept (mask : Unsigned) (s t : Cpu σ) : Prop := t.getCc &&& mask = s.getCc &&& mask

lemma Cpu.getCc_masked (s : Cpu σ) (mask : Unsigned) :
    s.getCc &&& mask = ((s.EFI &&& EFI_MASK) &&& mask) ||| (s.flags.bits.byte &&& mask) := by
  rw [s.getCc_eq, BitVec.and_or_distrib_right]

/-- Away from `E`, `F` and `I` only the lazy flags matter. -/
lemma CcKept.ofBits {mask : Unsigned} (hm : EFI_MASK &&& mask = 0) {s t : Cpu σ}
    (h : t.flags.bits.byte &&& mask = s.flags.bits.byte &&& mask) : CcKept mask s t := by
  rw [CcKept, t.getCc_masked, s.getCc_masked, BitVec.and_assoc, BitVec.and_assoc, hm, h]
  simp

/-- On `E`, `F` and `I` only `EFI` matters. -/
lemma CcKept.ofEfi {mask : Unsigned} (hm : mask &&& EFI_MASK = mask) {s t : Cpu σ}
    (h : t.EFI &&& mask = s.EFI &&& mask) : CcKept mask s t := by
  rw [CcKept, t.getCc_and hm, s.getCc_and hm, h]

lemma CcBits.byte_and_h (b : CcBits) : b.byte &&& H_FLAG = if b.h then H_FLAG else 0 := by
  rcases b with ⟨_ | _, _ | _, _ | _, _ | _, _ | _⟩ <;> decide

lemma CcBits.byte_and_v (b : CcBits) : b.byte &&& V_FLAG = if b.v then V_FLAG else 0 := by
  rcases b with ⟨_ | _, _ | _, _ | _, _ | _, _ | _⟩ <;> decide

lemma CcBits.byte_and_c (b : CcBits) : b.byte &&& C_FLAG = if b.c then C_FLAG else 0 := by
  rcases b with ⟨_ | _, _ | _, _ | _, _ | _, _ | _⟩ <;> decide

lemma CcBits.byte_and_not_z (b : CcBits) :
    b.byte &&& ~~~Z_FLAG = { b with z := false }.byte := by
  rcases b with ⟨_ | _, _ | _, _ | _, _ | _, _ | _⟩ <;> decide

/-! ## The lists -/

/-- `ADD` and `ADC`. -/
def Insn.ChangesH : Insn → Bool
  | .bin8 .add _ _ | .bin8 .adc _ _ => true
  | _ => false

/-- Carry: `ADD`, `ADC`, `SUB`, `SBC`, `CMP`, `ADDD`, `SUBD`, `NEG`, `COM`, `CLR`, the shifts,
`DAA` and `MUL`. -/
def Insn.ChangesC : Insn → Bool
  | .bin8 .add _ _ | .bin8 .adc _ _ | .bin8 .sub _ _ | .bin8 .sbc _ _ => true
  | .test8 .cmp _ _ | .cmp16 _ _ | .bin16 _ _ => true
  | .unaryMem op _ | .unaryAcc op _ =>
      op ∈ [Unary.neg, .com, .clr, .asl, .asr, .lsr, .rol, .ror]
  | .daa | .mul => true
  | _ => false

/-- Branches, taken or not, and the subroutine calls among them. -/
def Insn.IsBranch : Insn → Bool
  | .bra | .brn | .branch _ | .longBra | .longBrn | .longBranch _ | .bsr | .longBsr => true
  | _ => false

/-- `LEAS`, `LEAU`, `ABX`, `PSHx`, branches, jumps, calls and `RTS`. -/
def Insn.KeepsFlags : Insn → Bool
  | .leaStack _ | .abx | .pshs | .pshu | .jmp _ | .jsr _ | .rts => true
  | i => i.IsBranch

/-- Overflow is left alone by these, and by `TFR`, `EXG` and `PULx` when they do not name the
condition codes. -/
def Insn.KeepsV : Insn → Bool
  | .unaryMem op _ | .unaryAcc op _ => op ∈ [Unary.asr, .lsr, .ror]
  | .mul | .sex | .lea _ | .tfr | .exg | .puls | .pulu | .nop => true
  | i => i.KeepsFlags

/-! ## Flag computations respect the lists -/

lemma Insn.FlagOp.keeps_h {i : Insn} {u : Flags → Flags} (hu : i.FlagOp u)
    (hi : i.ChangesH = false) (f : Flags) : (u f).bits.h = f.bits.h := by
  cases i with
  | unaryMem op _ | unaryAcc op _ =>
      obtain ⟨arg, rfl⟩ := hu
      cases op <;> rfl
  | bin8 op _ _ =>
      obtain ⟨arg, val, rfl⟩ := hu
      cases op <;> first | rfl | cases hi
  | test8 op _ _ =>
      obtain ⟨arg, val, rfl⟩ := hu
      cases op <;> rfl
  | bin16 op _ => cases op <;> obtain ⟨arg, val, rfl⟩ := hu <;> rfl
  | cmp16 _ _ | std _ | mul =>
      obtain ⟨arg, val, rfl⟩ := hu
      rfl
  | tstMem _ | tstAcc _ | ld8 _ _ | st8 _ _ | ldd _ | ld16 _ _ | st16 _ _ | lea _ | daa | sex =>
      obtain ⟨arg, rfl⟩ := hu
      rfl
  | _ => exact hu.elim

lemma Insn.FlagOp.keeps_c {i : Insn} {u : Flags → Flags} (hu : i.FlagOp u)
    (hi : i.ChangesC = false) (f : Flags) : (u f).bits.c = f.bits.c := by
  cases i with
  | unaryMem op _ | unaryAcc op _ =>
      obtain ⟨arg, rfl⟩ := hu
      cases op <;> first | rfl | cases hi
  | bin8 op _ _ =>
      obtain ⟨arg, val, rfl⟩ := hu
      cases op <;> first | rfl | cases hi
  | test8 op _ _ =>
      obtain ⟨arg, val, rfl⟩ := hu
      cases op <;> first | rfl | cases hi
  | bin16 _ _ | cmp16 _ _ | daa | mul => cases hi
  | std _ =>
      obtain ⟨a, b, rfl⟩ := hu
      rfl
  | tstMem _ | tstAcc _ | ld8 _ _ | st8 _ _ | ldd _ | ld16 _ _ | st16 _ _ | lea _ | sex =>
      obtain ⟨arg, rfl⟩ := hu
      rfl
  | _ => exact hu.elim

lemma Insn.FlagOp.keeps_v {i : Insn} {u : Flags → Flags} (hu : i.FlagOp u)
    (hi : i.KeepsV = true) (f : Flags) : (u f).bits.v = f.bits.v := by
  cases i with
  | unaryMem op _ | unaryAcc op _ =>
      obtain ⟨arg, rfl⟩ := hu
      cases op <;> first | rfl | cases hi
  | mul =>
      obtain ⟨a, b, rfl⟩ := hu
      rfl
  | lea _ | sex =>
      obtain ⟨arg, rfl⟩ := hu
      rfl
  | _ => first | exact hu.elim | cases hi

lemma Insn.not_flagOp {i : Insn} (hi : i.KeepsFlags = true) (u : Flags → Flags) :
    ¬i.FlagOp u := by
  cases i <;> first | exact id | cases hi

/-! ## Whole instructions -/

variable [Machine σ]

lemma sameFlags_wrmem {g : Flags → γ} (a d : Unsigned) :
    Keeps (fun s : Cpu σ => g s.flags) (wrmem a d) :=
  (undisturbed_wrmem a d).mono fun _ _ h => congrArg g h.1

/-- What the flag computation of an instruction leaves alone, the instruction leaves alone, unless
it assigns the condition codes. -/
lemma Insn.exec_sameFlags {g : Flags → γ} {i : Insn} {s t : Cpu σ}
    (hw : i.TargetsCc s.operand = false) (hg : ∀ u, i.FlagOp u → ∀ f, g (u f) = g f)
    (h : i.exec s = .ok ((), t)) : g t.flags = g s.flags := by
  have keep (s t : Cpu σ) (hc : t.core = s.core) : SameOn (fun s : Cpu σ => g s.flags) s t :=
    congrArg (fun c : Core => g c.flags) hc
  by_cases hc : i.WritesCc = true
  · exact Insn.steps_exec_cc keep hc (fun hw' => absurd (hw.symm.trans hw') (by decide)) h
  by_cases hs : i.IsSwi = true
  · exact Insn.steps_exec_swi keep sameFlags_wrmem hs (fun _ _ _ => rfl) _ _ _ h
  · exact Insn.steps_exec_plain keep (fun _ => sameFlags_wrmem) (by simp [Insn.Plain, hc, hs])
      (fun u hu s => hg u hu s.flags) _ _ _ h

/-- What a step leaves alone if it enters no handler. -/
def Unentered (g : Cpu σ → γ) (s t : Cpu σ) : Prop :=
  ∃ es, t.hist = es ++ s.hist ∧ ((∀ e ∈ es, e.isEntry = false) → g t = g s)

instance (g : Cpu σ → γ) : IsPreorder (Cpu σ) (Unentered g) where
  refl _ := ⟨[], rfl, fun _ => rfl⟩
  trans s t u h h' := by
    obtain ⟨es, he, hs⟩ := h
    obtain ⟨es', he', hs'⟩ := h'
    refine ⟨es' ++ es, by rw [he', he, List.append_assoc], fun hn => ?_⟩
    exact (hs' fun e hm => hn e (List.mem_append_left _ hm)).trans
      (hs fun e hm => hn e (List.mem_append_right _ hm))

omit [Machine σ] in
lemma Unentered.silent {g : Cpu σ → γ} {s t : Cpu σ} (hh : t.hist = s.hist) (hg : g t = g s) :
    Unentered g s t := ⟨[], hh, fun _ => hg⟩

omit [Machine σ] in
lemma Unentered.apply {g : Cpu σ → γ} {s t : Cpu σ} (h : Unentered g s t) (hn : NoEntry s t) :
    g t = g s := by
  obtain ⟨es, he, hs⟩ := h
  exact hs ((noEntry_iff he).mp hn)

omit [Machine σ] in
lemma Undisturbed.unentered {g : Cpu σ → γ} (hg : ∀ s t : Cpu σ, t.still = s.still → g t = g s)
    {s t : Cpu σ} (h : Undisturbed s t) : Unentered g s t := by
  obtain ⟨-, es, he, hs⟩ := h
  exact ⟨es, he, fun hn => hg s t (hs hn)⟩

/-- The bits of `EFI` in a mask are changed by the condition code writers and by the software
interrupts that set one of them. -/
lemma Insn.exec_sameEfi {mask : Unsigned} {i : Insn} {s t : Cpu σ}
    (hw : i.TargetsCc s.operand = false)
    (hm : i.IsSwi = true → E_FLAG &&& mask = 0 ∧ i.swiMasks &&& mask = 0)
    (h : i.exec s = .ok ((), t)) : Unentered (fun s => s.EFI &&& mask) s t := by
  have keep (s t : Cpu σ) (hc : t.core = s.core) : Unentered (fun s => s.EFI &&& mask) s t :=
    Unentered.silent (congrArg (fun c => c.lines.hist) hc)
      (congrArg (fun c => c.lines.efi &&& mask) hc)
  have write (a d : Unsigned) : Steps (Unentered fun s => s.EFI &&& mask) (wrmem a d : M σ Unit) :=
    (undisturbed_wrmem a d).mono fun _ _ => Undisturbed.unentered fun _ _ hs =>
      congrArg (fun c => c.EFI &&& mask) hs
  by_cases hc : i.WritesCc = true
  · exact Insn.steps_exec_cc keep hc (fun hw' => absurd (hw.symm.trans hw') (by decide)) h
  by_cases hs : i.IsSwi = true
  · refine Insn.steps_exec_swi keep write hs (fun m hm' s => ?_) _ _ _ h
    have hz : m &&& mask = 0 := by
      obtain rfl | rfl := hm'
      · exact (hm hs).1
      · exact (hm hs).2
    refine Unentered.silent rfl ?_
    rw [BitVec.and_or_distrib_right, hz]
    exact BitVec.or_zero
  · exact Insn.steps_exec_plain keep (fun _ => write) (by simp [Insn.Plain, hc, hs])
      (fun u hu s => Unentered.silent rfl rfl) _ _ _ h

/-- An iteration runs the instruction it has fetched and ends with the check. -/
lemma cpuInsn_eq_ok {s u t : Cpu σ} {i : Insn} (hf : cpuFetch s = .ok (i, u))
    (h : cpuInsn s = .ok ((), t)) :
    ∃ m, i.exec u = .ok ((), m) ∧ ccCheck m = .ok ((), t) := by
  rw [cpuInsn_eq_body] at h
  obtain ⟨j, m, hb, hc⟩ := bind_eq_ok.mp h
  obtain ⟨v, hv, hm⟩ := cpuBody_eq_ok hb
  cases hf.symm.trans hv
  exact ⟨m, hm, hc⟩

/-- The flags after a whole iteration. -/
lemma cpuInsn_sameFlags {g : Flags → γ} {s u t : Cpu σ} {i : Insn} (hf : cpuFetch s = .ok (i, u))
    (h : cpuInsn s = .ok ((), t)) (hw : i.TargetsCc u.operand = false)
    (hg : ∀ u, i.FlagOp u → ∀ f, g (u f) = g f) : g t.flags = g s.flags := by
  obtain ⟨m, hm, hc⟩ := cpuInsn_eq_ok hf h
  have hcore : u.core = s.core := keeps_cpuFetch _ _ _ hf
  calc g t.flags = g m.flags := congrArg g (ccCheck_undisturbed hc).1
    _ = g u.flags := Insn.exec_sameFlags hw hg hm
    _ = g s.flags := congrArg (fun c : Core => g c.flags) hcore

/-- `E`, `F` and `I` after a whole iteration. -/
lemma cpuInsn_sameEfi {mask : Unsigned} {s u t : Cpu σ} {i : Insn}
    (hf : cpuFetch s = .ok (i, u)) (h : cpuInsn s = .ok ((), t)) (hn : NoEntry s t)
    (hw : i.TargetsCc u.operand = false)
    (hm : i.IsSwi = true → E_FLAG &&& mask = 0 ∧ i.swiMasks &&& mask = 0) :
    t.EFI &&& mask = s.EFI &&& mask := by
  obtain ⟨m, hx, hc⟩ := cpuInsn_eq_ok hf h
  have hcore : u.core = s.core := keeps_cpuFetch _ _ _ hf
  have fetch : Unentered (fun s => s.EFI &&& mask) s u :=
    Unentered.silent (congrArg (fun c => c.lines.hist) hcore)
      (congrArg (fun c => c.lines.efi &&& mask) hcore)
  have check : Unentered (fun s => s.EFI &&& mask) m t := by
    obtain ⟨-, es, he, hs⟩ := ccCheck_undisturbed hc
    refine ⟨es, he, fun hn => ?_⟩
    obtain rfl | rfl := hs hn
    · rfl
    · rfl
  have all : Unentered (fun s => s.EFI &&& mask) s t :=
    IsTrans.trans _ _ _ fetch (IsTrans.trans _ _ _ (Insn.exec_sameEfi hw hm hx) check)
  exact all.apply hn

/-- **The flag frame of the instruction set.**  `u` is the state when the opcode `i` has been
fetched; its operand byte tells whether `PULx`, `TFR` and `EXG` name the condition codes. -/
theorem flag_frame (s u t : Cpu σ) (i : Insn) (hf : cpuFetch s = .ok (i, u))
    (h : cpuInsn s = .ok ((), t)) :
    (i.TargetsCc u.operand = false →
      (i.ChangesH = false → CcKept H_FLAG s t) ∧
      (i.ChangesC = false → CcKept C_FLAG s t) ∧
      (i.KeepsV = true → CcKept V_FLAG s t)) ∧
    (NoEntry s t →
      (∀ r, i = .lea r → CcKept (~~~Z_FLAG) s t) ∧
      (i.KeepsFlags = true → t.getCc = s.getCc) ∧
      (i.TargetsCc u.operand = false → i.IsSwi = false → CcKept EFI_MASK s t) ∧
      (i = .swi2 ∨ i = .swi3 → CcKept (F_FLAG ||| I_FLAG) s t)) := by
  refine ⟨fun hw => ⟨fun hi => ?_, fun hi => ?_, fun hi => ?_⟩,
    fun hn => ⟨?_, fun hi => ?_, fun hw hi => ?_, fun hi => ?_⟩⟩
  · refine CcKept.ofBits (by decide) ?_
    rw [CcBits.byte_and_h, CcBits.byte_and_h,
      cpuInsn_sameFlags (g := fun f => f.bits.h) hf h hw fun _ hu => hu.keeps_h hi]
  · refine CcKept.ofBits (by decide) ?_
    rw [CcBits.byte_and_c, CcBits.byte_and_c,
      cpuInsn_sameFlags (g := fun f => f.bits.c) hf h hw fun _ hu => hu.keeps_c hi]
  · refine CcKept.ofBits (by decide) ?_
    rw [CcBits.byte_and_v, CcBits.byte_and_v,
      cpuInsn_sameFlags (g := fun f => f.bits.v) hf h hw fun _ hu => hu.keeps_v hi]
  · rintro r rfl
    have hb : { t.flags with Z := 0 } = { s.flags with Z := 0 } :=
      cpuInsn_sameFlags (g := fun f => { f with Z := 0 }) hf h rfl <| by
        rintro _ ⟨z, rfl⟩ f
        rfl
    have he : t.EFI &&& EFI_MASK = s.EFI &&& EFI_MASK :=
      cpuInsn_sameEfi hf h hn rfl (by simp [Insn.IsSwi])
    rw [CcKept, t.getCc_masked, s.getCc_masked, he, CcBits.byte_and_not_z, CcBits.byte_and_not_z]
    simp only [Flags.mk.injEq] at hb
    obtain ⟨hH, hN, -, hV, hC⟩ := hb
    simp only [Flags.bits, hH, hN, hV, hC]
  · have hw : i.TargetsCc u.operand = false := by
      cases i <;> first | rfl | cases hi
    have hs : i.IsSwi = false := by
      cases i <;> first | rfl | cases hi
    rw [Cpu.getCc_eq_iff]
    refine ⟨cpuInsn_sameEfi hf h hn hw (by simp [hs]), ?_⟩
    exact cpuInsn_sameFlags hf h hw fun u hu => absurd hu (Insn.not_flagOp hi u)
  · exact CcKept.ofEfi (by decide) (cpuInsn_sameEfi hf h hn hw (by simp [hi]))
  · refine CcKept.ofEfi (by decide) (cpuInsn_sameEfi hf h hn ?_ fun _ => ⟨by decide, ?_⟩)
    · obtain rfl | rfl := hi
      · rfl
      · rfl
    · obtain rfl | rfl := hi
      · decide
      · decide

/-- `INCA` with the carry set. -/
def incaState : Cpu Flat := { Cpu.zeroed ⟨[(0x1000, 0x4c)]⟩ with
  PC := 0x1000, A := 0x7f, flags := { H := 0, N := 0, Z := 1, OV := 0, C := 1 } }

theorem flag_frame_inca :
    (after cpuInsn incaState).getCc = N_FLAG ||| V_FLAG ||| C_FLAG ∧
      CcKept C_FLAG incaState (after cpuInsn incaState) ∧
      CcKept EFI_MASK incaState (after cpuInsn incaState) := by
  obtain ⟨hflags, hefi⟩ := flag_frame incaState (after cpuFetch incaState) _ (.unaryAcc .inc .A)
    (eq_ok_after (by decide +kernel)) (eq_ok_after (a := ()) (by decide +kernel))
  exact ⟨by decide +kernel, (hflags rfl).2.1 rfl, (hefi (by decide +kernel)).2.2.1 rfl rfl⟩

end Exec09
