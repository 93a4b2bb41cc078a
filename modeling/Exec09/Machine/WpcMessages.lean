import Exec09.Machine.Wpc

/-!
# Messages of the WPC display

`wpclib.c`: a message is a struct in memory, filled in by `wpc_msg_insert` or by hand and sent as a
datagram.  The layout is that of a little-endian host with four-byte integers.

`wpc_dmd_set_visible` sends two messages whenever the visible pages have changed.
-/

namespace Exec09

/-- `struct wpc_message`: three bytes of padding follow the code, and the union is at the end of
the struct.  Behind its 1600 bytes `u` stands for whatever follows the struct in memory. -/
structure WpcMessage where
  code : U8
  padding : Nat → U8
  timestamp : Unsigned
  len : Unsigned
  u : Nat → U8

namespace WpcMessage

/-- `offsetof (struct wpc_message, u)`. -/
abbrev dataOffset : Nat := 12

/-- `sizeof (struct wpc_message)`. -/
abbrev size : Nat := 1612

/-- The bytes of an `unsigned int`. -/
def wordByte (x : Unsigned) (i : Nat) : U8 := (x >>> (8 * i)).setWidth 8

/-- The byte at an offset from the start of the struct. -/
def byte (msg : WpcMessage) (i : Nat) : U8 :=
  if i = 0 then msg.code
  else if i < 4 then msg.padding (i - 1)
  else if i < 8 then wordByte msg.timestamp (i - 4)
  else if i < dataOffset then wordByte msg.len (i - 8)
  else msg.u (i - dataOffset)

/-- `memcpy` of `n` bytes to offset `off` of the union. -/
def store (u : Nat → U8) (off n : Nat) (p : Nat → U8) : Nat → U8 :=
  fun i => if off ≤ i ∧ i < off + n then p (i - off) else u i

/-- `wpc_msg_init`, on a struct with any contents. -/
def init (code : U8) (msg : WpcMessage) : WpcMessage :=
  { msg with code := code, timestamp := 0, len := 0 }

/-- `wpc_msg_insert`. -/
def insert (msg : WpcMessage) (p : List U8) : WpcMessage :=
  { msg with
    u := store msg.u msg.len.toNat p.length fun i => p.getD i 0
    len := msg.len + BitVec.ofNat 32 p.length }

/-- The length that `wpc_msg_send` passes on, as an `int`. -/
def sendLength (msg : WpcMessage) : BitVec 32 :=
  (msg.len.setWidth 64 + BitVec.ofNat 64 size - 1000).setWidth 32

/-- What `wpc_msg_send` transmits. -/
def send (msg : WpcMessage) : List U8 := (List.range msg.sendLength.toNat).map msg.byte

end WpcMessage

namespace WpcAsic

abbrev CODE_DMD_PAGE : U8 := 0
abbrev CODE_DMD_VISIBLE : U8 := 3

/-- `wpc_dmd_set_visible` once more, with whether it gets as far as sending. -/
def dmdSetVisibleSends (w : WpcAsic) (now : BitVec 64) (val : U8) : WpcAsic × Bool :=
  if now - w.lastFirqTime ≤ 1850 * 8 then (w, false)
  else
    let w :=
      if now - w.lastFirqTime ≥ 1850 * 8 * 5 then
        { w with dmdVisibles := fun i => if i < 3 then val else w.dmdVisibles i, dmdPhase := 0 }
      else
        { w with
          dmdVisibles := fun i => if i = w.dmdPhase then val else w.dmdVisibles i
          dmdPhase := if w.dmdPhase + 1 = 3 then 0 else w.dmdPhase + 1 }
    let w := { w with lastFirqTime := now }
    let same := w.dmdVisibles 0 = w.dmdLastVisibles 0 ∧ w.dmdVisibles 1 = w.dmdLastVisibles 1 ∧
      w.dmdVisibles 2 = w.dmdLastVisibles 2
    let w := if same then { w with noChangeCount := w.noChangeCount + 1 } else w
    if same ∧ w.noChangeCount < 100 then (w, false)
    else
      ({ w with
        noChangeCount := 0
        dmdLastVisibles := fun i => if i < 3 then w.dmdVisibles i else w.dmdLastVisibles i }, true)

/-- The contents of the three visible pages: for each its number, and 512 bytes of the display
memory `dmd`. -/
def dmdPageMessage (dmd : Nat → U8) (visibles : Nat → U8) (msg : WpcMessage) : WpcMessage :=
  let msg := WpcMessage.init CODE_DMD_PAGE msg
  let u := (List.range 3).foldl
    (fun u i =>
      let u := WpcMessage.store u (516 * i) 4 (WpcMessage.wordByte ((visibles i).setWidth 32))
      WpcMessage.store u (516 * i + 4) 512 fun j => dmd ((visibles i).toNat * 512 + j)) msg.u
  { msg with u := u, len := 1548 }

/-- Which pages are visible now. -/
def dmdVisibleMessage (visibles : Nat → U8) (msg : WpcMessage) : WpcMessage :=
  let msg := WpcMessage.init CODE_DMD_VISIBLE msg
  let u := (List.range 3).foldl
    (fun u i => WpcMessage.store u (4 * i) 4 (WpcMessage.wordByte ((visibles i).setWidth 32)))
    msg.u
  { msg with u := u, len := 12 }

/-- The messages of `wpc_dmd_set_visible`, both of them in the local variable `msg`. -/
def dmdMessages (w : WpcAsic) (now : BitVec 64) (val : U8) (dmd : Nat → U8) (msg : WpcMessage) :
    List WpcMessage :=
  let r := w.dmdSetVisibleSends now val
  if r.2 then
    let pages := dmdPageMessage dmd r.1.dmdVisibles msg
    [pages, dmdVisibleMessage r.1.dmdVisibles pages]
  else []

lemma dmdSetVisibleSends_fst (w : WpcAsic) (now : BitVec 64) (val : U8) :
    (w.dmdSetVisibleSends now val).1 = w.dmdSetVisible now val := by
  unfold dmdSetVisibleSends dmdSetVisible
  exact (apply_ite Prod.fst _ _ _).trans (if_congr Iff.rfl rfl (apply_ite Prod.fst _ _ _))

end WpcAsic

end Exec09
