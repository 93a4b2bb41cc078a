import Exec09.Machine.Boards

/-!
# The WPC machine

`wpc.c`: a pinball controller whose ASIC banks the ROM at 0x4000, the pages of the display memory
at 0x3800 and 0x3A00, and the read-only part of the RAM.  The ASIC also has a bit shifter, a lamp
and a switch matrix and the display's page sequencer.  What the sequencer sends over its socket is
not modelled.

The matrices are functions of an integer, so that an index outside the array of the source stands
for whatever the C compiler places there.
-/

namespace Exec09

/-- `struct wpc_asic`, and the static variables of the functions on it. -/
structure WpcAsic where
  led : U8
  rombank : U8
  ramUnlocked : U8
  ramLockSize : U8
  shiftaddr : U16
  shiftbit : U16
  lampStrobe : U8
  lampMx : Int → U8
  switchStrobe : U8
  switchMx : Int → U8
  dmdMaps : Nat → U8
  dmdPhase : Nat
  dmdVisibles : Nat → U8
  dmdLastVisibles : Nat → U8
  currSw : Int
  currSwTime : Int
  wdogTimer : Int
  consoleInited : Bool
  lastFirqTime : BitVec 64
  noChangeCount : Int

namespace WpcAsic

/-! ## Switches and lamps -/

/-- The number of the highest bit that is set, or -1. -/
def scanbit (val : U8) : Int :=
  if val &&& 0x80 ≠ 0 then 7
  else if val &&& 0x40 ≠ 0 then 6
  else if val &&& 0x20 ≠ 0 then 5
  else if val &&& 0x10 ≠ 0 then 4
  else if val &&& 0x08 ≠ 0 then 3
  else if val &&& 0x04 ≠ 0 then 2
  else if val &&& 0x02 ≠ 0 then 1
  else if val &&& 0x01 ≠ 0 then 0
  else -1

/-- C division truncates towards zero. -/
def readSwitch (w : WpcAsic) (num : Int) : Bool :=
  w.switchMx (num.tdiv 8) &&& (1 <<< (num.tmod 8).toNat) ≠ 0

def writeSwitch (w : WpcAsic) (num : Int) (flag : Bool) : WpcAsic :=
  let col := num.tdiv 8
  let val : U8 := 1 <<< (num.tmod 8).toNat
  { w with switchMx := fun c =>
      if c = col then if flag then (w.switchMx c &&& ~~~val) ||| val else w.switchMx c &&& ~~~val
      else w.switchMx c }

def pressSwitch (w : WpcAsic) (num delay : Int) : WpcAsic :=
  { w.writeSwitch num true with currSw := num, currSwTime := delay }

/-- Gather a column bit by bit. -/
def readSwitchColumn (w : WpcAsic) (col : Int) : U8 :=
  (List.range 8).foldl
    (fun (val : U8) (row : Nat) =>
      if w.readSwitch (col * 8 + (row : Int)) then val ||| (1 <<< row) else val) 0

/-! ## The display's page sequencer -/

/-- `wpc_dmd_set_visible` at time `now`: the three pages of the current cycle are collected, and
sent on when they have changed, or not for a long time. -/
def dmdSetVisible (w : WpcAsic) (now : BitVec 64) (val : U8) : WpcAsic :=
  if now - w.lastFirqTime ≤ 1850 * 8 then w
  else
    let w :=
      if now - w.lastFirqTime ≥ 1850 * 8 * 5 then
        { w with dmdVisibles := fun i => if i < 3 then val else w.dmdVisibles i, dmdPhase := 0 }
      else
        { w with
          dmdVisibles := fun i => if i = w.dmdPhase then val else w.dmdVisibles i
          dmdPhase := if w.dmdPhase + 1 = 3 then 0 else w.dmdPhase + 1 }
    let w := { w with lastFirqTime := now }
    let same := w.dmdVisibles 0 = w.dmdLastVisibles 0 ∧ w.dmdVisibles 1 = w.dmdLastVisibles 1 ∧
      w.dmdVisibles 2 = w.dmdLastVisibles 2
    let w := if same then { w with noChangeCount := w.noChangeCount + 1 } else w
    if same ∧ w.noChangeCount < 100 then w
    else
      { w with
        noChangeCount := 0
        dmdLastVisibles := fun i => if i < 3 then w.dmdVisibles i else w.dmdLastVisibles i }

/-- It changes nothing but the page sequencer. -/
lemma dmdSetVisible_fields (w : WpcAsic) (now : BitVec 64) (val : U8) :
    ∃ v p t n l, w.dmdSetVisible now val =
      { w with
        dmdVisibles := v, dmdPhase := p, lastFirqTime := t, noChangeCount := n
        dmdLastVisibles := l } := by
  unfold dmdSetVisible
  split
  · exact ⟨_, _, _, _, _, rfl⟩
  · extract_lets w₁ w₂ same w₃
    have h₁ : ∃ v p, w₁ = { w with dmdVisibles := v, dmdPhase := p } := by
      unfold w₁
      split
      · exact ⟨_, _, rfl⟩
      · exact ⟨_, _, rfl⟩
    have h₃ : ∃ n, w₃ = { w₂ with noChangeCount := n } := by
      unfold w₃
      split
      · exact ⟨_, rfl⟩
      · exact ⟨_, rfl⟩
    obtain ⟨v, p, h₁⟩ := h₁
    obtain ⟨n, h₃⟩ := h₃
    have h : w₃ = { w with
        dmdVisibles := v, dmdPhase := p, lastFirqTime := now, noChangeCount := n } := by
      rw [h₃]
      unfold w₂
      rw [h₁]
    split
    · exact ⟨v, p, now, n, _, h⟩
    · exact ⟨v, p, now, 0, _, by rw [h]⟩

/-! ## Reset -/

/-- `memset` of the struct, and switch 19 is always closed.  The static variables keep their
value, which at this point is still zero. -/
def reset : WpcAsic :=
  writeSwitch
    { led := 0, rombank := 0, ramUnlocked := 0, ramLockSize := 0, shiftaddr := 0, shiftbit := 0
      lampStrobe := 0, lampMx := fun _ => 0, switchStrobe := 0, switchMx := fun _ => 0
      dmdMaps := fun _ => 0, dmdPhase := 0, dmdVisibles := fun _ => 0
      dmdLastVisibles := fun _ => 0, currSw := 0, currSwTime := 0, wdogTimer := 0
      consoleInited := false, lastFirqTime := 0, noChangeCount := 0 } 19 true

/-- `wpc_periodic`, after the keyboard is polled. -/
def periodic (w : WpcAsic) : WpcAsic :=
  let w := { w with wdogTimer := w.wdogTimer - 50 }
  if w.currSwTime > 0 then
    let w := { w with currSwTime := w.currSwTime - 100 }
    if w.currSwTime ≤ 0 then { w with currSwTime := 0 }.writeSwitch w.currSw false else w
  else w

end WpcAsic

/-! ## Registers -/

/-- The registers that do something. -/
inductive AsicReg
  | debugData | debugControl
  | dmdHighPage | dmdFirqRow | dmdLowPage | dmdActivePage
  | fliptronicA | fliptronicB
  | lampRow | lampCol | swJumper | swCabinet | swRow | swCol | flipperSwitch
  | leds | shiftaddrHi | shiftaddrLo | shiftbit
  | romBank | ramLock | ramLockSize | zerocross
  deriving DecidableEq, Repr

/-- By CPU address, the ASIC being at 0x3C00. -/
def asicRegs : List (BitVec 64 × AsicReg) :=
  [ (0x3d60, .debugData), (0x3d61, .debugControl),
    (0x3fbc, .dmdHighPage), (0x3fbd, .dmdFirqRow), (0x3fbe, .dmdLowPage), (0x3fbf, .dmdActivePage),
    (0x3fd4, .fliptronicA), (0x3fd5, .fliptronicB),
    (0x3fe4, .lampRow), (0x3fe5, .lampCol), (0x3fe7, .swJumper), (0x3fe8, .swCabinet),
    (0x3fe9, .swRow), (0x3fea, .swCol), (0x3fef, .flipperSwitch),
    (0x3ff2, .leds), (0x3ff4, .shiftaddrHi), (0x3ff5, .shiftaddrLo), (0x3ff6, .shiftbit),
    (0x3ffc, .romBank), (0x3ffd, .ramLock), (0x3ffe, .ramLockSize), (0x3fff, .zerocross) ]

def asicReg (addr : BitVec 64) : Option AsicReg := asicRegs.lookup (addr + 0x3c00)

/-- The ASIC and the maps it controls. -/
structure Wpc where
  asic : WpcAsic
  maps : Busmaps

namespace Wpc

abbrev WPC_RAM_SIZE : Nat := 0x2000

/-- Bytes at the end of the RAM that the lock protects.  The case 0x7 of the source falls through
to the next. -/
def lockedBytes (w : WpcAsic) : Nat :=
  if w.ramUnlocked ≠ 0 then 0
  else if w.ramLockSize = 0xf then 256
  else if w.ramLockSize = 0x7 then 512 + 1024
  else if w.ramLockSize = 0x3 then 1024
  else if w.ramLockSize = 0x1 then 2048
  else if w.ramLockSize = 0 then 4096
  else 0

/-- Enforce the current read-only area of RAM. -/
def updateRam (w : Wpc) : Wpc :=
  let writable := WPC_RAM_SIZE - lockedBytes w.asic
  let m := busMap 0x0000 2 0 (BitVec.ofNat 32 writable) MAP_READWRITE w.maps
  { w with
    maps := if writable < WPC_RAM_SIZE then
        busMap (BitVec.ofNat 32 writable) 2 (BitVec.ofNat 64 writable)
          (BitVec.ofNat 32 (WPC_RAM_SIZE - writable)) MAP_READABLE m
      else m }

/-- The device number 2 is a literal of the source. -/
def setRomPage (w : Wpc) (val : U8) : Wpc :=
  { w with maps := busMap 0x4000 2 (val.setWidth 64 * 0x4000) 0x4000 MAP_READABLE w.maps }

/-- The device number 3 is a literal of the source. -/
def setDmdPage (w : Wpc) (map : Nat) (val : U8) : Wpc where
  asic := { w.asic with dmdMaps := fun i => if i = map then val else w.asic.dmdMaps i }
  maps := busMap (BitVec.ofNat 32 (0x3800 + map * 0x200)) 3 (val.setWidth 64 * 0x200) 0x200
    MAP_READWRITE w.maps

/-- `wpc_asic_write` at time `now`, less what it prints. -/
def write (w : Wpc) (now : BitVec 64) (addr : BitVec 64) (val : U8) : Wpc :=
  match asicReg addr with
  | some .dmdLowPage => w.setDmdPage 0 val
  | some .dmdHighPage => w.setDmdPage 1 val
  | some .dmdActivePage => { w with asic := w.asic.dmdSetVisible now val }
  | some .leds => { w with asic := { w.asic with led := val } }
  | some .zerocross => { w with asic := { w.asic with wdogTimer := w.asic.wdogTimer + 1 } }
  | some .romBank => { w with asic := { w.asic with rombank := val } }.setRomPage val
  | some .ramLock => { w with asic := { w.asic with ramUnlocked := val } }.updateRam
  | some .ramLockSize => { w with asic := { w.asic with ramLockSize := val } }.updateRam
  | some .shiftaddrHi =>
    { w with asic := { w.asic with
        shiftaddr := (w.asic.shiftaddr &&& 0x00ff) ||| (val.setWidth 16 <<< 8) } }
  | some .shiftaddrLo =>
    { w with asic := { w.asic with
        shiftaddr := (w.asic.shiftaddr &&& 0xff00) ||| val.setWidth 16 } }
  | some .shiftbit => { w with asic := { w.asic with shiftbit := val.setWidth 16 } }
  | some .lampRow =>
    { w with asic := { w.asic with
        lampMx := fun i => if i = WpcAsic.scanbit w.asic.lampStrobe then val
          else w.asic.lampMx i } }
  | some .lampCol => { w with asic := { w.asic with lampStrobe := val } }
  | some .swCol => { w with asic := { w.asic with switchStrobe := val } }
  | _ => w

/-- In the order in which they are attached: ASIC, RAM, ROM, display memory. -/
def devices : List HwDevice :=
  table [(.io, 0x800), (.ram, 0x2000), (.rom, 0x100000), (.ram, 16 * 512)]

/-- `wpc_init`. -/
def init : Wpc :=
  updateRam
    { asic := WpcAsic.reset
      maps :=
        busMap 0x3800 4 0 0x400 MAP_READWRITE <|
        busMap 0x8000 3 0xf8000 0x8000 MAP_READABLE <|
        busMap 0x4000 3 0 0x4000 MAP_READABLE <|
        busMap 0x0000 2 0 0x2000 MAP_READWRITE <|
        busMap 0x3c00 1 0 0x400 MAP_READWRITE unmapped }

/-- A guest write to a register: when, where and what. -/
structure RegWrite where
  now : BitVec 64
  addr : BitVec 64
  val : U8
  deriving DecidableEq, Repr

/-- The machine after a sequence of guest writes to registers. -/
def after (l : List RegWrite) : Wpc := l.foldl (fun w x => w.write x.now x.addr x.val) init

end Wpc

/-! ## Reading -/

/-- `wpc_asic_read`, less the console. -/
def WpcAsic.read (w : WpcAsic) (addr : BitVec 64) : U8 :=
  match asicReg addr with
  | some .leds => w.led
  | some .romBank => w.rombank
  | some .debugControl => if w.consoleInited then 1 else 1 ||| 2
  | some .shiftaddrHi => (w.shiftaddr >>> 8).setWidth 8
  | some .shiftaddrLo => ((w.shiftaddr &&& 0xff) + w.shiftbit / 8).setWidth 8
  | some .shiftbit => 1 <<< (w.shiftbit.toNat % 8)
  | some .swRow =>
    if w.switchStrobe ≥ 0x16 ∧ w.switchStrobe ≤ 0x1f then
      w.readSwitchColumn (w.switchStrobe.toNat - 0x16 + 1)
    else w.readSwitchColumn (1 + scanbit w.switchStrobe)
  | some .swJumper => 0x55
  | some .swCabinet => w.readSwitchColumn 0
  | some .fliptronicA => w.readSwitchColumn 9
  | some .fliptronicB => w.readSwitchColumn 9
  | some .flipperSwitch => w.readSwitchColumn 9
  | _ => 0

variable {δ : Type} [Host δ]

instance : Devices WpcAsic δ where
  fault := []
  read b _ phy :=
    if asicReg phy = some .debugData then
      -- the first read of the data port only marks the console as used
      if b.io.dev.consoleInited then
        ⟨(Host.read .terminal b.io.host).1, b.setHost (Host.read .terminal b.io.host).2, []⟩
      else ⟨0, b.setDev { b.io.dev with consoleInited := true }, []⟩
    else ⟨b.io.dev.read phy, b, []⟩
  write v b _ phy val :=
    let w := Wpc.write ⟨b.io.dev, b.busmaps⟩ v.cycles phy val
    let b := { b with busmaps := w.maps }.setDev w.asic
    if asicReg phy = some .debugData then ⟨b.setHost (Host.put .terminal val b.io.host), []⟩
    else ⟨b, []⟩

/-- A bus with the given ASIC and memory contents. -/
def Wpc.bus (w : Wpc) (priv : Nat → BitVec 64 → U8) (h : δ) : Bus (Io WpcAsic δ) where
  busmaps := w.maps
  deviceTable := Wpc.devices
  priv := priv
  systemRunning := true
  io := ⟨w.asic, h⟩

end Exec09
