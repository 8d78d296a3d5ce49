import TraceRelay.Proofs.Text.Segments
import TraceRelay.Text.Utf8

/-!
# Decoding line by line

A line break ends whatever sequence is open and begins none, and no sequence of several bytes comes
to a line break. So the text of some bytes is cut into its lines where the bytes are, and each line
is the text of its own bytes, however ill-formed they are.
-/

namespace TraceRelay.Text

/-! ## Open sequences -/

/-- What holds of a sequence that has begun: the byte that goes on with it is no ASCII byte, and
what it comes to is no ASCII character. Of a longer sequence the second byte sees to that. -/
structure OpenSequence.Sound (s : OpenSequence) : Prop where
  low_le : 0x80 ≤ s.low.toNat
  bits_le : 2 ≤ s.bits * 64 + (s.low.toNat - 0x80)
  last_le : s.owed ≤ 1 → 2 ≤ s.bits

/-- A state that decoding can be in. -/
def SoundState (state : Option OpenSequence) : Prop :=
  ∀ s ∈ state, s.Sound

theorem soundState_none : SoundState none := by
  simp [SoundState]

theorem soundState_some {s : OpenSequence} : SoundState (some s) ↔ s.Sound := by
  simp [SoundState]

theorem sound_of_low {bits owed : Nat} {low high : UInt8} (first : Nat)
    (hlow : low.toNat = 0x80 + first) (hbits : 2 ≤ bits * 64 + first)
    (hlast : owed ≤ 1 → 2 ≤ bits) :
    OpenSequence.Sound ⟨bits, owed, low, high⟩ := by
  refine ⟨?_, ?_, hlast⟩
  · show 0x80 ≤ low.toNat
    omega
  · show 2 ≤ bits * 64 + (low.toNat - 0x80)
    omega

/-- Of a longer sequence the first bits are not zero, or the second byte makes up for it. -/
theorem sound_of_lead {b lead : UInt8} (hlead : lead ≤ b) {owed : Nat} (howed : 1 < owed)
    {low high : UInt8} (hlow : 0x82 ≤ low) :
    OpenSequence.Sound ⟨b.toNat - lead.toNat, owed, if b = lead then low else 0x80, high⟩ := by
  rw [UInt8.le_iff_toNat_le] at hlead
  change 0x82 ≤ low.toNat at hlow
  by_cases hb : b = lead
  · rw [if_pos hb]
    exact sound_of_low (low.toNat - 0x80) (by omega) (by omega) (by omega)
  · rw [if_neg hb]
    have hne : b.toNat ≠ lead.toNat := mt UInt8.toNat_inj.mp hb
    exact sound_of_low 0 rfl (by omega) (by omega)

/-! ## One byte -/

/-- Only the code point of a line break is one; what is no code point stands for another
character. -/
theorem ofNat_eq_newline_iff {n : Nat} : Char.ofNat n = '\n' ↔ n = 10 := by
  constructor
  · intro h
    by_cases hvalid : n.isValidChar
    · rw [Char.ofNat, dif_pos hvalid] at h
      exact congrArg Char.toNat h
    · rw [Char.ofNat, dif_neg hvalid] at h
      exact absurd h (by decide)
  · rintro rfl
    rfl

/-- What a byte comes to: the state is sound again, a line break is completed by its own byte only,
and a byte that leaves no sequence open completes something. -/
structure SoundStep (b : UInt8) (step : List (Option Char) × Option OpenSequence) : Prop where
  sound : SoundState step.2
  newline_iff : some '\n' ∈ step.1 ↔ b.toNat = 10
  ne_nil : step.2 = none → step.1 ≠ []

namespace SoundStep

variable {b : UInt8} {s : OpenSequence} {n : Nat}

theorem character (h : n = 10 ↔ b.toNat = 10) : SoundStep b ([some (Char.ofNat n)], none) := by
  refine ⟨soundState_none, ?_, by simp⟩
  rw [List.mem_singleton, Option.some.injEq, eq_comm, ofNat_eq_newline_iff, h]

theorem lone (h : 0x80 ≤ b) : SoundStep b ([none], none) := by
  have hlarge : 0x80 ≤ b.toNat := h
  exact ⟨soundState_none, iff_of_false (by simp) (by omega), by simp⟩

theorem opens (h : 0x80 ≤ b) (hs : s.Sound) : SoundStep b ([], some s) := by
  have hlarge : 0x80 ≤ b.toNat := h
  exact ⟨soundState_some.mpr hs, iff_of_false (by simp) (by omega), by simp⟩

/-- What is ill-formed in front of a byte changes nothing in what the byte comes to. -/
theorem ends {step : List (Option Char) × Option OpenSequence} (h : SoundStep b step) :
    SoundStep b (none :: step.1, step.2) :=
  ⟨h.sound, by simpa using h.newline_iff, by simp⟩

end SoundStep

theorem soundStep_beginSequence (b : UInt8) : SoundStep b (beginSequence b) := by
  have hlarge {bound : UInt8} (hbound : 0x80 ≤ bound) (h : ¬ b < bound) : 0x80 ≤ b :=
    UInt8.le_trans hbound (UInt8.not_lt.mp h)
  unfold beginSequence
  split
  · exact .character Iff.rfl
  · next hascii =>
    split
    · exact .lone (hlarge (by decide) hascii)
    · next hlone =>
      have hlow : 0xC2 ≤ b.toNat := UInt8.le_iff_toNat_le.mp (UInt8.not_lt.mp hlone)
      split
      · exact .opens (hlarge (by decide) hascii) (sound_of_low 0 rfl (by omega) (by omega))
      · next htwo =>
        split
        · exact .opens (hlarge (by decide) hascii)
            (sound_of_lead (UInt8.not_lt.mp htwo) (by decide) (by decide))
        · next hthree =>
          split
          · exact .opens (hlarge (by decide) hascii)
              (sound_of_lead (UInt8.not_lt.mp hthree) (by decide) (by decide))
          · exact .lone (hlarge (by decide) hascii)

theorem soundStep_decodeByte {state : Option OpenSequence} (h : SoundState state) (b : UInt8) :
    SoundStep b (decodeByte state b) := by
  cases state with
  | none => exact soundStep_beginSequence b
  | some s =>
    obtain ⟨hlow, hbits, hlast⟩ := soundState_some.mp h
    simp only [decodeByte]
    split
    · next hrange =>
      have hbyte := UInt8.le_iff_toNat_le.mp hrange.1
      split
      · next howed =>
        have hlarge := hlast howed
        exact .character (by omega)
      · exact .opens (Nat.le_trans hlow hbyte) (sound_of_low 0 rfl (by omega) fun _ => by omega)
    · exact (soundStep_beginSequence b).ends

/-- A line break ends the sequence that is open, if one is. -/
theorem decodePieces_newline {state : Option OpenSequence} (h : SoundState state)
    (bytes : List UInt8) :
    decodePieces state (0x0A :: bytes) =
      decodePieces state [] ++ some '\n' :: decodePieces none bytes := by
  cases state with
  | none => rfl
  | some s =>
    have hout : ¬ (s.low ≤ 0x0A ∧ 0x0A ≤ s.high) := by
      intro hrange
      have hlow := (soundState_some.mp h).low_le
      have hbelow : s.low.toNat ≤ 10 := UInt8.le_iff_toNat_le.mp hrange.1
      omega
    have hbyte : decodeByte (some s) 0x0A = ([none, some '\n'], none) := by
      simp only [decodeByte]
      exact if_neg hout
    show (decodeByte (some s) 0x0A).1 ++ decodePieces (decodeByte (some s) 0x0A).2 bytes = _
    rw [hbyte]
    rfl

/-! ## Pieces -/

section Pieces

variable {state : Option OpenSequence} {bytes : List UInt8}

/-- What is decoded in front of a line break does not depend on what stands behind it. By induction
on the bytes in front, with the state as it is by then. -/
theorem decodePieces_append_newline (h : SoundState state) (front rest : List UInt8) :
    decodePieces state (front ++ 0x0A :: rest) =
      decodePieces state front ++ some '\n' :: decodePieces none rest := by
  induction front generalizing state with
  | nil => exact decodePieces_newline h rest
  | cons b front ih =>
    rw [List.cons_append, decodePieces, decodePieces, ih (soundStep_decodeByte h b).sound,
      List.append_assoc]

theorem newline_not_mem_decodePieces (h : SoundState state) (hbytes : 0x0A ∉ bytes) :
    some '\n' ∉ decodePieces state bytes := by
  induction bytes generalizing state with
  | nil => cases state <;> simp [decodePieces]
  | cons b bytes ih =>
    rw [List.mem_cons, not_or] at hbytes
    have hstep := soundStep_decodeByte h b
    have hb : b.toNat ≠ (0x0A : UInt8).toNat := mt UInt8.toNat_inj.mp (Ne.symm hbytes.1)
    rw [decodePieces, List.mem_append, not_or]
    exact ⟨mt hstep.newline_iff.mp hb, ih hstep.sound hbytes.2⟩

/-- Nothing is decoded of no bytes alone: a sequence that is open comes to something. -/
theorem decodePieces_eq_nil (h : SoundState state) (hnil : decodePieces state bytes = []) :
    state = none ∧ bytes = [] := by
  induction bytes generalizing state with
  | nil =>
    cases state with
    | none => exact ⟨rfl, rfl⟩
    | some s => cases hnil
  | cons b bytes ih =>
    have hstep := soundStep_decodeByte h b
    rw [decodePieces] at hnil
    obtain ⟨hpieces, hrest⟩ := List.append_eq_nil_iff.mp hnil
    exact absurd hpieces (hstep.ne_nil (ih hstep.sound hrest).1)

end Pieces

/-! ## Texts -/

theorem decodeLossy_append_newline (front rest : List UInt8) :
    decodeLossy (front ++ 0x0A :: rest) = decodeLossy front ++ '\n' :: decodeLossy rest := by
  rw [decodeLossy, decodePieces_append_newline soundState_none, List.map_append]
  rfl

theorem newline_not_mem_decodeLossy {bytes : List UInt8} (h : 0x0A ∉ bytes) :
    '\n' ∉ decodeLossy bytes := by
  intro hmem
  obtain ⟨piece, hpiece, hchar⟩ := List.mem_map.mp hmem
  cases piece with
  | none => exact absurd hchar (by decide)
  | some c =>
    cases hchar
    exact newline_not_mem_decodePieces soundState_none h hpiece

theorem newline_mem_decodeLossy_iff {bytes : List UInt8} :
    '\n' ∈ decodeLossy bytes ↔ 0x0A ∈ bytes := by
  constructor
  · intro h
    exact Decidable.by_contra fun hnot => newline_not_mem_decodeLossy hnot h
  · intro h
    obtain ⟨front, rest, rfl⟩ := List.append_of_mem h
    rw [decodeLossy_append_newline]
    simp

theorem decodeLossy_ne_nil {bytes : List UInt8} (h : bytes ≠ []) : decodeLossy bytes ≠ [] := by
  intro hnil
  exact h (decodePieces_eq_nil soundState_none (List.map_eq_nil_iff.mp hnil)).2

/-- **A text has its line breaks where its bytes have them**: the lines of the text are the texts of
the lines of the bytes. -/
theorem cuts_decodeLossy (bytes : List UInt8) :
    Cuts '\n' (decodeLossy bytes) ((segments (· == 0x0A) bytes).map decodeLossy) := by
  induction bytes using cut_induction (0x0A : UInt8) with
  | unended body h =>
    by_cases hne : body = []
    · rw [hne]
      exact .nil
    · rw [segments_of_not_mem h hne]
      exact .single (newline_not_mem_decodeLossy h) (decodeLossy_ne_nil hne)
  | ended body rest h ih =>
    rw [segments_append_cons h, decodeLossy_append_newline, List.map_cons,
      decodeLossy_append_newline]
    exact .cons (newline_not_mem_decodeLossy h) ih

end TraceRelay.Text
