import Xacpp.Wire.Streams
/-!
# What the decoder keeps

A decoder that has been fed keeps less than it would need to go on: in
`Sync` less than a header, and nothing but a magic candidate or the three
bytes one may begin in; in `Body` less than the rest of a frame whose size
the header check has capped. A feed that fails leaves nothing. The loop of
`feed` is `Looped`, by the calls of `progress` it makes.
-/

namespace Xacpp

namespace FrameDecoder

variable {crc32 : Bytes → UInt32} {d d' : FrameDecoder} {e : FrameError}
variable {frames frames' out : List Frame}

/-! ## The loop ends -/

/-- The loop of `feed`, entered with `frames` collected, returns after `n`
calls of `progress`. -/
inductive Looped (crc32 : Bytes → UInt32) :
    ℕ → FrameDecoder → List Frame → Except FrameError (List Frame) × FrameDecoder → Prop
  | failed {d d' : FrameDecoder} {frames frames' : List Frame} {e : FrameError}
      (h : d.progress crc32 frames = (.error e, d', frames')) :
      Looped crc32 1 d frames (.error e, d')
  | waited {d d' : FrameDecoder} {frames frames' : List Frame}
      (h : d.progress crc32 frames = (.ok false, d', frames')) :
      Looped crc32 1 d frames (.ok frames', d')
  | wentOn {n : ℕ} {d d' : FrameDecoder} {frames frames' : List Frame}
      {r : Except FrameError (List Frame) × FrameDecoder}
      (h : d.progress crc32 frames = (.ok true, d', frames'))
      (hrest : Looped crc32 n d' frames' r) : Looped crc32 (n + 1) d frames r

/-- Every call that goes on takes a byte at least. -/
theorem looped_feedLoop (crc32 : Bytes → UInt32) {fuel : ℕ} (hfuel : d.buf.length < fuel)
    (frames : List Frame) :
    ∃ n ≤ d.buf.length + 1, Looped crc32 n d frames (feedLoop crc32 fuel d frames) := by
  induction fuel generalizing d frames with
  | zero => exact absurd hfuel (Nat.not_lt_zero _)
  | succ fuel ih =>
    obtain ⟨res, d', out, heq, hstep⟩ := progress_steps crc32 d frames
    rw [feedLoop, heq]
    cases res with
    | error e => exact ⟨1, by omega, .failed heq⟩
    | ok more =>
      cases more with
      | false => exact ⟨1, by omega, .waited heq⟩
      | true =>
        have hlt := hstep.length_lt
        obtain ⟨n, hn, hrest⟩ := ih (d := d') (by omega) (frames ++ out)
        exact ⟨n + 1, by omega, .wentOn heq hrest⟩

/-! ## Validated headers -/

/-- A header that was accepted declares a frame within the cap, whatever its
type. -/
theorem frameLen_of_checkFrameLen {t : FrameType} {n : ℕ} (h : checkFrameLen t n = .ok ()) :
    headerLen + n + crcLen ≤ maxDecodeTotalCap := by
  have hcap : maxDecodeTotalCap = 67108864 := rfl
  have hhead : headerLen = 36 := rfl
  have hcrc : crcLen = 4 := rfl
  have hover : frameOverhead = 40 := rfl
  unfold checkFrameLen at h
  cases hmax : t.maxFrameLen with
  | none =>
    rw [hmax] at h
    dsimp only at h
    split at h
    · cases h
    · omega
  | some max =>
    rw [hmax] at h
    dsimp only at h
    have := FrameType.maxFrameLen_le hmax
    split at h
    · cases h
    · omega

theorem frameLen_of_checkHeader {hdr : Bytes} {info : HeaderInfo}
    (h : checkHeader hdr = .ok info) : headerLen + info.frameLen + crcLen ≤ maxDecodeTotalCap := by
  unfold checkHeader at h
  dsimp only at h
  split at h
  · cases h
  · cases hlen : checkFrameLen (FrameType.fromU16 (UInt16.ofNat (fromBE ((hdr.drop 6).take 2))))
        (fromBE ((hdr.drop 32).take 4)) with
    | error e =>
      rw [hlen] at h
      cases h
    | ok u =>
      rw [hlen] at h
      change (if h : _ then _ else _) = _ at h
      split at h
      · cases h
        exact frameLen_of_checkFrameLen hlen
      · cases h

/-- The frame being accumulated is within the cap. -/
def Capped (d : FrameDecoder) : Prop :=
  ∀ header info, d.state = .body header info →
    headerLen + info.frameLen + crcLen ≤ maxDecodeTotalCap

theorem Steps.capped {res : Except FrameError Bool} (h : Steps crc32 d res d' out)
    (hd : d.Capped) : d'.Capped := by
  intro header info hstate
  cases h with
  | header _ _ _ hcheck =>
    cases hstate
    exact frameLen_of_checkHeader hcheck
  | incomplete => exact hd header info hstate
  | scanned | candidate | refused | corrupt | complete => cases hstate

/-! ## After a feed -/

/-- What a decoder keeps while it waits for input. -/
def Waiting (d : FrameDecoder) : Prop :=
  match d.state with
  | .sync => d.buf.length < headerLen ∧
      if magic <:+: d.buf then magic <+: d.buf else d.buf.length ≤ 3
  | .body _ info => d.buf.length < info.frameLen + crcLen ∧
      headerLen + info.frameLen + crcLen ≤ maxDecodeTotalCap

/-- **A step that waits keeps less than it needs.** -/
theorem Steps.waiting (h : Steps crc32 d (.ok false) d' out) (hd : d.Capped) : d'.Waiting := by
  cases h with
  | scanned hstate hnone =>
    -- three bytes at most, so no magic among them
    have hlen : (d.buf.drop (d.buf.length - min d.buf.length 3)).length ≤ 3 := by
      rw [List.length_drop]
      omega
    have hno : ¬ magic <:+: d.buf.drop (d.buf.length - min d.buf.length 3) := by
      intro hin
      have := hin.length_le
      have : magic.length = 4 := rfl
      omega
    refine ⟨?_, ?_⟩
    · have : headerLen = 36 := rfl
      exact lt_of_le_of_lt hlen (by omega)
    · rw [if_neg hno]
      exact hlen
  | candidate hstate hpos hshort =>
    have hat := (position_eq_some_iff.1 hpos).2.1
    refine ⟨hshort, ?_⟩
    rw [if_pos hat.isInfix]
    exact hat
  | incomplete hstate hshort =>
    rw [Waiting, hstate]
    exact ⟨hshort, hd _ _ hstate⟩

/-- What a call of `feed` may leave. -/
def Left : Except FrameError (List Frame) × FrameDecoder → Prop
  | (.ok _, d) => d.Waiting
  | (.error _, d) => d = new

theorem Drains.left {r : Except FrameError (List Frame) × FrameDecoder}
    (h : Drains crc32 d r) (hd : d.Capped) : Left r ∧ r.2.Capped := by
  induction h with
  | fails hstep =>
    refine ⟨?_, hstep.capped hd⟩
    cases hstep with
    | refused | corrupt => rfl
  | waits hstep => exact ⟨hstep.waiting hd, hstep.capped hd⟩
  | @goesOn d d' d'' out res hstep hrest ih =>
    obtain ⟨hleft, hcapped⟩ := ih (hstep.capped hd)
    refine ⟨?_, hcapped⟩
    cases res with
    | error e | ok frames => exact hleft

theorem capped_feed (hd : d.Capped) (crc32 : Bytes → UInt32) (chunk : Bytes) :
    (d.feed crc32 chunk).2.Capped :=
  ((drains_feed crc32 d chunk).left hd).2

/-- The decoder after a sequence of feeds, failed ones among them. -/
def fed (crc32 : Bytes → UInt32) (chunks : List Bytes) : FrameDecoder :=
  chunks.foldl (fun d chunk => (d.feed crc32 chunk).2) new

theorem capped_fed (crc32 : Bytes → UInt32) (chunks : List Bytes) :
    (fed crc32 chunks).Capped := by
  induction chunks using List.reverseRecOn with
  | nil =>
    intro header info hstate
    cases hstate
  | append_singleton chunks chunk ih =>
    rw [fed, List.foldl_concat]
    exact capped_feed ih crc32 chunk

/-- **The decoder's buffer is bounded.** From any decoder that feeds can
lead to, the loop of `feed` returns, after no more calls of `progress` than
there are bytes and one. Where it returns frames the buffer holds less than
a header in `Sync` (three bytes at most unless it begins with the magic) and
less than the rest of a frame within the cap in `Body`; where it fails the
buffer is empty and the state is `Sync`. -/
theorem feed_bounded (crc32 : Bytes → UInt32) (chunks : List Bytes) (chunk : Bytes) :
    let d := fed crc32 chunks
    (∃ n ≤ (d.extend chunk).buf.length + 1,
      Looped crc32 n (d.extend chunk) [] (d.feed crc32 chunk)) ∧
    (∀ frames, (d.feed crc32 chunk).1 = .ok frames → (d.feed crc32 chunk).2.Waiting) ∧
    (∀ e, (d.feed crc32 chunk).1 = .error e →
      (d.feed crc32 chunk).2.buf = [] ∧ (d.feed crc32 chunk).2.state = .sync) := by
  intro d
  have hleft := ((drains_feed crc32 d chunk).left (capped_fed crc32 chunks)).1
  refine ⟨looped_feedLoop crc32 (Nat.lt_succ_self _) [], fun frames hok => ?_, fun e herr => ?_⟩
  · generalize d.feed crc32 chunk = r at hleft hok
    obtain ⟨res, d'⟩ := r
    cases hok
    exact hleft
  · generalize d.feed crc32 chunk = r at hleft herr
    obtain ⟨res, d'⟩ := r
    cases herr
    cases hleft
    exact ⟨rfl, rfl⟩

end FrameDecoder

end Xacpp
