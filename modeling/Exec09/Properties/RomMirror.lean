import Exec09.Machine.Rom

/-!
# Images smaller than the ROM

The loop of `rom_create` copies the image behind itself until nothing is left of the size.  It
stops inside the buffer just when the image's size divides the device's.
-/

namespace Exec09

/-- The first `m` bytes repeat the image. -/
def Block.Mirrors (image : List U8) (m : Nat) (b : Block) : Prop :=
  ∀ i < m, image[i % image.length]? = some (b.bytes i)

/-- All accesses are below `m`. -/
def Block.Within (m : Nat) (b : Block) : Prop := ∀ i ∈ b.touched, i < m

namespace Block

lemma within_memcpy {b : Block} {dst src n m : Nat} (h : b.Within m) (hs : src + n ≤ m)
    (hd : dst + n ≤ m) : (b.memcpy dst src n).Within m := by
  intro i hi
  simp only [memcpy, List.mem_append, List.mem_range'_1] at hi
  rcases hi with (hi | hi) | hi
  · exact h i hi
  · omega
  · omega

/-- One more copy of the image, behind those there are. -/
lemma Mirrors.memcpy {image : List U8} {buf : Nat} {b : Block}
    (h : b.Mirrors image (buf + image.length)) :
    (b.memcpy (buf + image.length) buf image.length).Mirrors image
      (buf + image.length + image.length) := by
  intro i hi
  by_cases hlow : i < buf + image.length
  · have hout : ¬(buf + image.length ≤ i ∧ i < buf + image.length + image.length) := by omega
    simp only [Block.memcpy]
    rw [if_neg hout]
    exact h i hlow
  · have hin : buf + image.length ≤ i ∧ i < buf + image.length + image.length := by omega
    have hsrc : buf + (i - (buf + image.length)) = i - image.length := by omega
    have hmod : i % image.length = (i - image.length) % image.length :=
      Nat.mod_eq_sub_mod (by omega)
    simp only [Block.memcpy]
    rw [if_pos hin, hsrc, hmod]
    exact h (i - image.length) (by omega)

lemma mirrors_fread (image : List U8) (b : Block) :
    (b.fread image.length image).Mirrors image image.length := by
  intro i hi
  rw [Nat.mod_eq_of_lt hi, List.getElem?_eq_getElem hi]
  simp only [fread, List.take_length, List.getD_eq_getElem?_getD, List.getElem?_eq_getElem hi]
  rfl

end Block

/-- The accesses made so far stay. -/
lemma touched_mirrorLoop {imageSize : Unsigned} {fuel buf : Nat} {maxsize : Unsigned} {b b' : Block}
    (h : mirrorLoop imageSize fuel buf maxsize b = some b') : b.touched ⊆ b'.touched := by
  induction fuel generalizing buf maxsize b with
  | zero => cases h
  | succ fuel ih =>
    rw [mirrorLoop] at h
    split at h
    · refine List.Subset.trans (fun i hi => ?_) (ih h)
      simp only [Block.memcpy, List.mem_append]
      exact Or.inl (Or.inl hi)
    · cases h
      exact fun i hi => hi

lemma toNat_sub_size {maxsize imageSize : Unsigned} (h : imageSize.toNat ≤ maxsize.toNat) :
    (maxsize - imageSize).toNat = maxsize.toNat - imageSize.toNat :=
  BitVec.toNat_sub_of_le (BitVec.le_def.mpr h)

lemma size_pos {maxsize : Unsigned} : maxsize > 0 ↔ 0 < maxsize.toNat := Iff.rfl

/-- **When the sizes divide**, the loop makes as many copies as fit. -/
lemma mirrorLoop_of_dvd {image : List U8} {imageSize : Unsigned}
    (hsize : imageSize.toNat = image.length) (hpos : 0 < image.length) (k : Nat) {buf limit : Nat}
    {maxsize : Unsigned} {b : Block} (hk : maxsize.toNat = k * image.length)
    (hlimit : buf + image.length + maxsize.toNat = limit)
    (hm : b.Mirrors image (buf + image.length)) (hw : b.Within limit) :
    ∃ b', mirrorLoop imageSize (k + 1) buf maxsize b = some b' ∧ b'.Mirrors image limit ∧
      b'.Within limit := by
  induction k generalizing buf maxsize b with
  | zero =>
    rw [Nat.zero_mul] at hk
    refine ⟨b, ?_, ?_, hw⟩
    · rw [mirrorLoop, if_neg (by rw [size_pos]; omega)]
    · rw [hk, Nat.add_zero] at hlimit
      rwa [← hlimit]
  | succ k ih =>
    rw [Nat.succ_mul] at hk
    have hle : imageSize.toNat ≤ maxsize.toNat := by omega
    have hsub := toNat_sub_size hle
    rw [mirrorLoop, if_pos (by rw [size_pos]; omega), hsize]
    refine ih (by omega) (by omega) hm.memcpy (Block.within_memcpy hw (by omega) (by omega))

/-- **When they do not**, the last copy goes beyond the end. -/
lemma mirrorLoop_beyond {imageSize : Unsigned} (hpos : 0 < imageSize.toNat) {fuel buf : Nat}
    {maxsize : Unsigned} {b b' : Block} (hdvd : ¬imageSize.toNat ∣ maxsize.toNat)
    (h : mirrorLoop imageSize fuel buf maxsize b = some b') :
    ∃ i ∈ b'.touched, buf + imageSize.toNat + maxsize.toNat ≤ i := by
  induction fuel generalizing buf maxsize b with
  | zero => cases h
  | succ fuel ih =>
    have hmax : 0 < maxsize.toNat := by
      refine Nat.pos_of_ne_zero fun h0 => hdvd ?_
      rw [h0]
      exact Nat.dvd_zero _
    rw [mirrorLoop, if_pos (size_pos.mpr hmax)] at h
    by_cases hle : imageSize.toNat ≤ maxsize.toNat
    · have hsub := toNat_sub_size hle
      have hdvd' : ¬imageSize.toNat ∣ (maxsize - imageSize).toNat := by
        rw [hsub]
        intro hd
        exact hdvd ((Nat.dvd_sub_iff_left hle (Nat.dvd_refl _)).mp hd)
      obtain ⟨i, hi, hlow⟩ := ih hdvd' h
      exact ⟨i, hi, by omega⟩
    · refine ⟨buf + imageSize.toNat + (imageSize.toNat - 1), touched_mirrorLoop h ?_, by omega⟩
      simp only [Block.memcpy, List.mem_append, List.mem_range'_1]
      exact Or.inr ⟨by omega, by omega⟩

/-- `rom_create` comes back, has stayed inside its buffer, and the device repeats the image. -/
def RomMirrored (image : List U8) (maxsize : Unsigned) (garbage : Nat → U8) : Prop :=
  ∃ fuel rom, romCreate fuel (.image image) maxsize garbage = some (some rom) ∧
    rom.buffer.Within maxsize.toNat ∧ rom.buffer.Mirrors image maxsize.toNat

lemma toNat_sizeofFile {image : List U8} {maxsize : Unsigned} (h : image.length ≤ maxsize.toNat) :
    (sizeofFile image).toNat = image.length := by
  have hlt := maxsize.isLt
  rw [sizeofFile, BitVec.toNat_ofNat, Nat.mod_eq_of_lt (by omega)]

lemma within_fread {image : List U8} {b : Block} {m : Nat} (hb : b.Within m)
    (h : image.length ≤ m) : (b.fread image.length image).Within m := by
  intro i hi
  simp only [Block.fread, List.mem_append, List.mem_range] at hi
  rcases hi with hi | hi
  · exact hb i hi
  · omega

/-- **A small image is mirrored** exactly when its size divides that of the ROM. -/
theorem rom_mirrored_iff {image : List U8} {maxsize : Unsigned} (garbage : Nat → U8)
    (hpos : 1 ≤ image.length) (hfits : image.length ≤ maxsize.toNat) :
    RomMirrored image maxsize garbage ↔ image.length ∣ maxsize.toNat := by
  have hsize := toNat_sizeofFile hfits
  have hsub : (maxsize - sizeofFile image).toNat = maxsize.toNat - (sizeofFile image).toNat :=
    toNat_sub_size (by omega)
  have hdvd : image.length ∣ maxsize.toNat ↔ image.length ∣ (maxsize - sizeofFile image).toNat := by
    rw [hsub, hsize, Nat.dvd_sub_iff_left hfits (Nat.dvd_refl _)]
  constructor
  · rintro ⟨fuel, rom, hrom, hwithin, -⟩
    obtain ⟨b, hb, hr⟩ := Option.map_eq_some_iff.mp hrom
    obtain rfl := Option.some.inj hr
    by_contra hnot
    rw [hdvd, ← hsize] at hnot
    obtain ⟨i, hi, hlow⟩ := mirrorLoop_beyond (by omega) hnot hb
    have hlt := hwithin i hi
    omega
  · intro h
    obtain ⟨k, hk⟩ := hdvd.mp h
    have hstart : (Block.fread ⟨garbage, []⟩ image.length image).Mirrors image (0 + image.length) := by
      rw [Nat.zero_add]
      exact Block.mirrors_fread image ⟨garbage, []⟩
    have hinside : (Block.fread ⟨garbage, []⟩ image.length image).Within maxsize.toNat :=
      within_fread (fun i hi => by cases hi) hfits
    obtain ⟨b, hb, hm, hw⟩ := mirrorLoop_of_dvd hsize hpos k (hk.trans (Nat.mul_comm _ _))
      (show 0 + image.length + (maxsize - sizeofFile image).toNat = maxsize.toNat by omega)
      hstart hinside
    refine ⟨k + 1, ⟨⟨.rom, maxsize.toNat⟩, b⟩, ?_, hw, hm⟩
    simp only [romCreate, hsize, hb, Option.map_some]

/-- Two bytes in a ROM of eight. -/
theorem rom_mirrored_iff_two : RomMirrored [0xde, 0xad] 8 fun _ => 0 := by
  have h : RomMirrored [0xde, 0xad] 8 (fun _ => 0) ↔ _ :=
    rom_mirrored_iff (fun _ => 0) (by decide) (by decide)
  exact h.mpr (by decide)

/-- Three bytes do not fit evenly into eight. -/
theorem rom_not_mirrored : ¬RomMirrored [1, 2, 3] 8 fun _ => 0 := by
  rintro ⟨fuel, rom, hrom, hwithin, -⟩
  obtain ⟨b, hb, hr⟩ := Option.map_eq_some_iff.mp hrom
  obtain rfl := Option.some.inj hr
  obtain ⟨i, hi, hlow⟩ := mirrorLoop_beyond (by decide) (by decide) hb
  exact absurd (hwithin i hi) (Nat.not_lt_of_le hlow)

end Exec09
