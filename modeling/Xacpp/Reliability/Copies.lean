import Xacpp.Reliability.Framing
/-!
# Held copies

A held copy is read against a history: the payloads framed so far and the
bytes appended so far (`PendingTxn.Holds`). Operations on a copy fall into
three kinds, and each keeps the copy true to its history: those that frame
more of it (`Holds.taken`, `Holds.extend`), those that leave its contents
alone and touch clocks and flags (`PendingTxn.SameCopy`), and the one that
releases frames (`Holds.acked`). Resends come out of the copy, so they are
frames of the history (`Holds.mem`).
-/

namespace Xacpp

namespace Reliability

variable {id : TxId} {total : UInt32} {now : ℕ} {txn txn' : PendingTxn}
variable {framed ps : List Bytes} {appended rest chunk : Bytes} {f : Frame} {entry : AckEntry}

namespace PendingTxn

/-- The copy is true to its history: every retained frame is the framed
payload at its position, and the framed payloads with the tail buffer are
the bytes appended. -/
structure Holds (txn : PendingTxn) (id : TxId) (total : UInt32) (framed : List Bytes)
    (appended : Bytes) : Prop where
  totalLen : txn.totalLen = total
  frames_length : txn.frames.length = framed.length
  states_length : txn.states.length = framed.length
  copy : ∀ i f, txn.frames[i]? = some (some f) →
    ∃ p, framed[i]? = some p ∧ f = dataFrame id total i p
  bytes : framed.flatten ++ txn.partialBytes = appended
  written : txn.written = appended.length
  fits : appended.length ≤ total.toNat
  nonempty : ∀ p ∈ framed, p ≠ []

/-- Nothing of the contents differs: only clocks and flags do. -/
structure SameCopy (txn txn' : PendingTxn) : Prop where
  totalLen : txn'.totalLen = txn.totalLen
  frames : txn'.frames = txn.frames
  states_length : txn'.states.length = txn.states.length
  partialBytes : txn'.partialBytes = txn.partialBytes
  written : txn'.written = txn.written
  ackedContiguous : txn'.ackedContiguous = txn.ackedContiguous

theorem SameCopy.refl (txn : PendingTxn) : SameCopy txn txn := ⟨rfl, rfl, rfl, rfl, rfl, rfl⟩

theorem Holds.congr (h : txn.Holds id total framed appended) (hsame : SameCopy txn txn') :
    txn'.Holds id total framed appended where
  totalLen := hsame.totalLen.trans h.totalLen
  frames_length := by rw [hsame.frames, h.frames_length]
  states_length := by rw [hsame.states_length, h.states_length]
  copy := by rw [hsame.frames]; exact h.copy
  bytes := by rw [hsame.partialBytes, h.bytes]
  written := hsame.written.trans h.written
  fits := h.fits
  nonempty := h.nonempty

/-- The framed bytes are among the appended ones. -/
theorem Holds.flatten_length_le (h : txn.Holds id total framed appended) :
    framed.flatten.length ≤ appended.length := by
  rw [← h.bytes, List.length_append]
  omega

/-- **Frames never outnumber the declared bytes**, so a frame index is a
`u32` and no cast of one wraps. -/
theorem Holds.length_lt (h : txn.Holds id total framed appended) : framed.length < 2 ^ 32 := by
  have h₁ := length_le_length_flatten h.nonempty
  have h₂ := h.flatten_length_le
  have h₃ := h.fits
  have h₄ := total.toNat_lt
  omega

theorem Holds.frameCount (h : txn.Holds id total framed appended) :
    txn.frameCount = framed.length := by
  rw [PendingTxn.frameCount, asU32, h.frames_length, Nat.mod_eq_of_lt h.length_lt]

/-- A retained frame is a frame of the history. -/
theorem Holds.mem (h : txn.Holds id total framed appended) (hf : some f ∈ txn.frames) :
    ∃ i p, framed[i]? = some p ∧ f = dataFrame id total i p := by
  obtain ⟨i, hi⟩ := List.mem_iff_getElem?.1 hf
  exact ⟨i, h.copy i f hi⟩

/-! ## Framing more -/

/-- A copy just opened has an empty history. -/
theorem Holds.opened (htotal : txn.totalLen = total) (hframes : txn.frames = [])
    (hstates : txn.states = []) (hpart : txn.partialBytes = []) (hwritten : txn.written = 0) :
    txn.Holds id total [] [] where
  totalLen := htotal
  frames_length := by rw [hframes, List.length_nil, List.length_nil]
  states_length := by rw [hstates, List.length_nil, List.length_nil]
  copy := by
    intro i f hf
    rw [hframes] at hf
    cases hf
  bytes := hpart
  written := hwritten
  fits := Nat.zero_le _
  nonempty := fun p hp => absurd hp List.not_mem_nil

theorem Holds.taken (h : txn.Holds id total framed appended)
    (hfits : txn.written + chunk.length ≤ txn.totalLen.toNat) :
    (txn.taken chunk).Holds id total framed (appended ++ chunk) where
  totalLen := h.totalLen
  frames_length := h.frames_length
  states_length := h.states_length
  copy := h.copy
  bytes := by
    simp only [PendingTxn.taken]
    rw [← List.append_assoc, h.bytes]
  written := by
    simp only [PendingTxn.taken]
    rw [h.written, List.length_append]
  fits := by
    rw [List.length_append, ← h.written, ← h.totalLen]
    exact hfits
  nonempty := h.nonempty

theorem Holds.extend (now : ℕ) (h : txn.Holds id total framed appended)
    (hps : ps.flatten ++ rest = txn.partialBytes) (hne : ∀ p ∈ ps, p ≠ []) :
    (txn.extend id ps rest now).Holds id total (framed ++ ps) appended where
  totalLen := h.totalLen
  frames_length := by rw [length_frames_extend, List.length_append, h.frames_length]
  states_length := by
    simp only [PendingTxn.extend]
    rw [List.length_append, List.length_append, List.length_replicate, h.states_length]
  copy := by
    intro i f hf
    simp only [PendingTxn.extend] at hf
    rcases Nat.lt_or_ge i txn.frames.length with hi | hi
    · rw [List.getElem?_append_left hi] at hf
      obtain ⟨p, hp, rfl⟩ := h.copy i f hf
      exact ⟨p, by rw [List.getElem?_append_left (h.frames_length ▸ hi), hp], rfl⟩
    · rw [List.getElem?_append_right hi, List.getElem?_map, getElem?_framesFrom] at hf
      obtain ⟨g, hg, hfg⟩ := Option.map_eq_some_iff.1 hf
      obtain ⟨p, hp, rfl⟩ := Option.map_eq_some_iff.1 hg
      refine ⟨p, ?_, ?_⟩
      · rw [List.getElem?_append_right (h.frames_length ▸ hi), ← h.frames_length, hp]
      · rw [← Option.some.inj hfg, h.totalLen, Nat.add_sub_cancel' hi]
  bytes := by
    rw [extend_partialBytes, List.flatten_append, List.append_assoc, hps, h.bytes]
  written := h.written
  fits := h.fits
  nonempty := fun p hp => (List.mem_append.1 hp).elim (h.nonempty p) (hne p)

/-! ## Acknowledgements -/

/-- Where every report was about frames that exist, clamping changes
nothing. -/
theorem Holds.ackedContiguous_acked (h : txn.Holds id total framed appended)
    (hm : txn.merged entry < framed.length) :
    (txn.acked entry now).ackedContiguous = some (txn.merged entry) := by
  simp only [PendingTxn.acked, h.frameCount]
  rw [Option.some.injEq]
  exact Nat.min_eq_left (by omega)

/-- A report releases the frames up to the merged progress and no others. -/
theorem getElem?_frames_acked {i : ℕ}
    (hi : txn.merged entry < i) : (txn.acked entry now).frames[i]? = txn.frames[i]? := by
  have hout : ¬ i < min (min (txn.merged entry) (txn.frameCount - 1) + 1) txn.states.length := by
    omega
  simp only [PendingTxn.acked, List.getElem?_mapIdx, hout, if_false, Option.map_id']

theorem Holds.acked (h : txn.Holds id total framed appended) :
    (txn.acked entry now).Holds id total framed appended where
  totalLen := h.totalLen
  frames_length := by simp only [PendingTxn.acked, List.length_mapIdx, h.frames_length]
  states_length := by simp only [PendingTxn.acked, List.length_mapIdx, h.states_length]
  copy := by
    intro i f hf
    simp only [PendingTxn.acked, List.getElem?_mapIdx] at hf
    obtain ⟨g, hg, hgf⟩ := Option.map_eq_some_iff.1 hf
    split at hgf
    · cases hgf
    · exact h.copy i f (hgf ▸ hg)
  bytes := h.bytes
  written := h.written
  fits := h.fits
  nonempty := h.nonempty

/-- A fully acknowledged copy has framed every declared byte, and its last
frame is covered. -/
theorem Holds.of_isFullyAcked (h : txn.Holds id total framed appended)
    (hack : txn.isFullyAcked = true) :
    framed.flatten = appended ∧ appended.length = total.toNat ∧
      ∃ last, framed.length = last + 1 ∧ txn.ackedContiguous = some last := by
  simp only [isFullyAcked, isFullySent, Bool.and_eq_true, decide_eq_true_eq,
    List.isEmpty_iff, h.frameCount] at hack
  obtain ⟨⟨hwritten, hpart⟩, hlast⟩ := hack
  refine ⟨?_, ?_, ?_⟩
  · rw [← h.bytes, hpart, List.append_nil]
  · rw [← h.written, hwritten, h.totalLen]
  · split at hlast
    · cases hlast
    · next last hcount =>
      simp only [Bool.and_eq_true, decide_eq_true_eq] at hlast
      exact ⟨last, hcount, hlast.1⟩

/-! ## Resends -/

theorem sameCopy_resend (pick : FrameState → Bool) : SameCopy txn (txn.resend pick now).1 :=
  ⟨rfl, rfl, List.length_mapIdx, rfl, rfl, rfl⟩

theorem mem_resend {pick : FrameState → Bool} (hf : f ∈ (txn.resend pick now).2) :
    some f ∈ txn.frames := by
  obtain ⟨⟨state, frame⟩, hmem, hpick⟩ := List.mem_filterMap.1 hf
  dsimp only at hpick
  split at hpick
  · rw [← hpick]
    exact (List.of_mem_zip hmem).2
  · cases hpick

theorem sameCopy_dueRetransmissions (config : SenderConfig) :
    SameCopy txn (txn.dueRetransmissions config now).1 := by
  unfold PendingTxn.dueRetransmissions
  split
  · exact SameCopy.refl txn
  · exact sameCopy_resend _

theorem mem_dueRetransmissions {config : SenderConfig}
    (hf : f ∈ (txn.dueRetransmissions config now).2) : some f ∈ txn.frames := by
  unfold PendingTxn.dueRetransmissions at hf
  split at hf
  · exact absurd hf List.not_mem_nil
  · exact mem_resend hf

/-- The loop of a NACK: it touches clocks only, and adds retained frames
only. -/
theorem nacked_spec (now : ℕ) (seqs : List UInt32) (states : List FrameState) (out : List Frame) :
    (txn.nacked now seqs (states, out)).1.length = states.length ∧
      ∀ f ∈ (txn.nacked now seqs (states, out)).2, f ∈ out ∨ some f ∈ txn.frames := by
  induction seqs generalizing states out with
  | nil => exact ⟨rfl, fun f hf => .inl hf⟩
  | cons seq seqs ih =>
    rw [nacked]
    split
    · exact ih states out
    · split
      · exact ih states out
      · dsimp only
        split
        · obtain ⟨hlen, hmem⟩ := ih (states.set seq.toNat _) out
          exact ⟨by rw [hlen, List.length_set], hmem⟩
        · next frame hframe =>
          obtain ⟨hlen, hmem⟩ := ih (states.set seq.toNat _) (out ++ [frame])
          refine ⟨by rw [hlen, List.length_set], fun f hf => ?_⟩
          rcases hmem f hf with hf | hf
          · rcases List.mem_append.1 hf with hf | hf
            · exact .inl hf
            · rw [List.mem_singleton.1 hf]
              exact .inr (List.mem_of_getElem? (Option.join_eq_some_iff.1 hframe))
          · exact .inr hf

end PendingTxn

end Reliability

end Xacpp
