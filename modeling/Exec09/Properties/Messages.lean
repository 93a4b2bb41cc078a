import Exec09.Machine.WpcMessages
import Mathlib.Data.List.GetD

/-!
# What is sent of a message

A message holds its payload from the start of its union on, in the order of insertion.
`wpc_msg_send` adds the size of the struct to the length of the payload and takes 1000 off, as for a
union of 1000 bytes; the union has 1600.
-/

namespace Exec09

namespace WpcMessage

/-- The header: everything before the union. -/
def header (msg : WpcMessage) : List U8 := (List.range dataOffset).map msg.byte

/-- As many bytes of the union as `len` says. -/
def payload (msg : WpcMessage) : List U8 := (List.range msg.len.toNat).map msg.u

/-- The header and the payload are sent and nothing else, and it does not take more than the
struct. -/
def SentWhole (msg : WpcMessage) (payload : List U8) : Prop :=
  msg.send = msg.header ++ payload ∧ msg.send.length = dataOffset + msg.len.toNat ∧
    msg.send.length ≤ size

/-- A message started by `wpc_msg_init` and extended by some calls of `wpc_msg_insert`. -/
def built (code : U8) (msg : WpcMessage) (chunks : List (List U8)) : WpcMessage :=
  chunks.foldl insert (init code msg)

/-! ## The payload -/

lemma payload_length (msg : WpcMessage) : msg.payload.length = msg.len.toNat := by
  rw [payload, List.length_map, List.length_range]

lemma len_insert {msg : WpcMessage} {p : List U8} (h : msg.len.toNat + p.length < 2 ^ 32) :
    (msg.insert p).len.toNat = msg.len.toNat + p.length := by
  change (msg.len.toNat + p.length % 2 ^ 32) % 2 ^ 32 = _
  omega

/-- The inserted bytes follow the payload so far. -/
lemma payload_insert {msg : WpcMessage} {p : List U8} (h : msg.len.toNat + p.length < 2 ^ 32) :
    (msg.insert p).payload = msg.payload ++ p := by
  apply List.ext_getElem
  · rw [payload_length, len_insert h, List.length_append, payload_length]
  · intro i hi hi'
    simp only [payload, List.getElem_map, List.getElem_range]
    change (if msg.len.toNat ≤ i ∧ i < msg.len.toNat + p.length then p.getD (i - msg.len.toNat) 0
      else msg.u i) = _
    rw [payload_length, len_insert h] at hi
    by_cases hlt : i < msg.len.toNat
    · rw [if_neg (by omega), List.getElem_append_left (by simpa using hlt)]
      simp
    · rw [if_pos (by omega), List.getElem_append_right (by simpa using Nat.le_of_not_lt hlt),
        List.getD_eq_getElem _ _ (by omega)]
      simp

lemma payload_foldl (chunks : List (List U8)) (msg : WpcMessage)
    (h : msg.len.toNat + chunks.flatten.length < 2 ^ 32) :
    (chunks.foldl insert msg).len.toNat = msg.len.toNat + chunks.flatten.length ∧
      (chunks.foldl insert msg).payload = msg.payload ++ chunks.flatten := by
  induction chunks generalizing msg with
  | nil => simp
  | cons p chunks ih =>
    rw [List.flatten_cons, List.length_append] at h
    have hp : msg.len.toNat + p.length < 2 ^ 32 := by omega
    obtain ⟨hlen, hpay⟩ := ih (msg.insert p) (by rw [len_insert hp]; omega)
    rw [List.foldl_cons, hlen, hpay, len_insert hp, payload_insert hp, List.flatten_cons,
      List.length_append]
    exact ⟨by omega, List.append_assoc ..⟩

/-- A message holds what was inserted, in that order. -/
lemma payload_built (code : U8) (msg : WpcMessage) {chunks : List (List U8)}
    (h : chunks.flatten.length ≤ 1600) :
    (built code msg chunks).len.toNat = chunks.flatten.length ∧
      (built code msg chunks).payload = chunks.flatten := by
  have h0 : (init code msg).len.toNat + chunks.flatten.length < 2 ^ 32 := by
    change 0 + chunks.flatten.length < 2 ^ 32
    omega
  obtain ⟨hlen, hpay⟩ := payload_foldl chunks (init code msg) h0
  exact ⟨hlen.trans (Nat.zero_add _), hpay⟩

/-! ## Sending -/

lemma sendLength_toNat {msg : WpcMessage} (h : msg.len.toNat ≤ 1600) :
    msg.sendLength.toNat = msg.len.toNat + 612 := by
  unfold sendLength
  rw [BitVec.toNat_setWidth, BitVec.toNat_sub, BitVec.toNat_add, BitVec.toNat_setWidth]
  change (2 ^ 64 - 1000 + (msg.len.toNat % 2 ^ 64 + 1612) % 2 ^ 64) % 2 ^ 64 % 2 ^ 32 = _
  omega

/-- **What is sent** of any message with a payload that fits: the header, the payload and 600 bytes
more. -/
lemma send_eq {msg : WpcMessage} (h : msg.len.toNat ≤ 1600) :
    msg.send = msg.header ++ msg.payload ++
      (List.range 600).map fun i => msg.u (msg.len.toNat + i) := by
  have hsplit : msg.len.toNat + 612 = dataOffset + msg.len.toNat + 600 := by
    change _ = 12 + msg.len.toNat + 600
    omega
  have hu : ∀ i, msg.byte (dataOffset + i) = msg.u i := by
    intro i
    change msg.byte (12 + i) = msg.u i
    unfold byte
    rw [if_neg (by omega), if_neg (by omega), if_neg (by omega), if_neg (by omega),
      Nat.add_sub_cancel_left]
  rw [send, sendLength_toNat h, hsplit, List.range_add, List.range_add, List.map_append,
    List.map_append, List.map_map, List.map_map]
  refine congrArg₂ _ (congrArg₂ _ rfl ?_) ?_
  · exact List.map_congr_left fun i _ => hu i
  · refine List.map_congr_left fun i _ => ?_
    change msg.byte (dataOffset + msg.len.toNat + i) = _
    rw [Nat.add_assoc, hu]

lemma send_length {msg : WpcMessage} (h : msg.len.toNat ≤ 1600) :
    msg.send.length = dataOffset + msg.len.toNat + 600 := by
  rw [send_eq h, List.length_append, List.length_append, payload_length, List.length_map,
    List.length_range, header, List.length_map, List.length_range]

/-- From 1001 bytes of payload on, memory behind the struct is sent. -/
lemma send_length_le_size_iff {msg : WpcMessage} (h : msg.len.toNat ≤ 1600) :
    msg.send.length ≤ size ↔ msg.len.toNat ≤ 1000 := by
  rw [send_length h]
  change 12 + msg.len.toNat + 600 ≤ 1612 ↔ _
  omega

lemma not_sentWhole {msg : WpcMessage} (h : msg.len.toNat ≤ 1600) (p : List U8) :
    ¬msg.SentWhole p := by
  rintro ⟨-, hlen, -⟩
  rw [send_length h] at hlen
  omega

end WpcMessage

lemma WpcAsic.dmdMessages_len {w : WpcAsic} {now : BitVec 64} {val : U8} {dmd : Nat → U8}
    {msg m : WpcMessage} (hm : m ∈ w.dmdMessages now val dmd msg) : m.len.toNat ≤ 1600 := by
  simp only [dmdMessages] at hm
  split at hm
  · rcases List.mem_cons.mp hm with rfl | hm
    · exact (by decide : (1548 : Unsigned).toNat ≤ 1600)
    · rw [List.mem_singleton.mp hm]
      exact (by decide : (12 : Unsigned).toNat ≤ 1600)
  · exact absurd hm List.not_mem_nil

namespace WpcMessage

/-- **No message is sent whole and alone.**  A message built by insertions holds the inserted bytes
in their order, but it is not sent as header and payload; nor is any message of
`wpc_dmd_set_visible`. -/
theorem never_sent_whole (code : U8) (msg : WpcMessage) :
    (∀ chunks : List (List U8), chunks.flatten.length ≤ 1600 →
      (built code msg chunks).payload = chunks.flatten ∧
        ¬(built code msg chunks).SentWhole chunks.flatten) ∧
    ∀ (w : WpcAsic) (now : BitVec 64) (val : U8) (dmd : Nat → U8),
      ∀ m ∈ w.dmdMessages now val dmd msg, ¬m.SentWhole m.payload := by
  refine ⟨fun chunks h => ?_, fun w now val dmd m hm => ?_⟩
  · obtain ⟨hlen, hpay⟩ := payload_built code msg h
    exact ⟨hpay, not_sentWhole (by rw [hlen]; exact h) _⟩
  · exact not_sentWhole (WpcAsic.dmdMessages_len hm) _

/-- A message of zeros. -/
def zeros : WpcMessage := ⟨0, fun _ => 0, 0, 0, fun _ => 0⟩

/-- The general statement at a message of one byte. -/
theorem never_sent_whole_one :
    (built 1 zeros [[7]]).payload = [[7]].flatten ∧
      ¬(built 1 zeros [[7]]).SentWhole [[7]].flatten :=
  (never_sent_whole 1 zeros).1 [[7]] (by decide)

/-- With one byte of payload 613 bytes are sent. -/
theorem one_byte_padded : ¬∀ (code : U8) (msg : WpcMessage) (chunks : List (List U8)),
    chunks.flatten.length ≤ 1600 → (built code msg chunks).SentWhole chunks.flatten := by
  intro h
  obtain ⟨-, hlen, -⟩ := h 1 zeros [[7]] (by decide)
  rw [send_length (by decide)] at hlen
  exact absurd hlen (by decide)

end WpcMessage

end Exec09
