import Xacpp.Wire.Decoder
/-!
# Chunks do not matter

Feeding a stream in chunks is feeding it whole. One step of the decoder is
stable under more input: a step that goes on or fails does the same with
bytes appended, and a step that waits leaves a decoder that cannot be told
from the one it started at, whatever arrives next (`progress_extend`).
`Drains` is the loop of `feed` as a relation, without its fuel.
-/

namespace Xacpp

namespace FrameDecoder

variable {crc32 : Bytes → UInt32} {d d' d'' : FrameDecoder} {e : FrameError}
variable {frames out : List Frame} {chunk more : Bytes}
variable {r r' : Except FrameError (List Frame) × FrameDecoder}

theorem magic_ne_nil : magic ≠ [] := List.cons_ne_nil _ _

@[simp] theorem extend_buf : (d.extend chunk).buf = d.buf ++ chunk := rfl

@[simp] theorem extend_state : (d.extend chunk).state = d.state := rfl

@[simp] theorem extend_nil : d.extend [] = d := by
  rw [extend, List.append_nil]

@[simp] theorem extend_extend : (d.extend chunk).extend more = d.extend (chunk ++ more) := by
  rw [extend, extend, extend, List.append_assoc]

/-! ## One step -/

/-- What one step can do with the buffer and the state. -/
inductive Steps (crc32 : Bytes → UInt32) (d : FrameDecoder) :
    Except FrameError Bool → FrameDecoder → List Frame → Prop
  | scanned (hstate : d.state = .sync) (hnone : position magic d.buf = none) :
      Steps crc32 d (.ok false) ⟨d.buf.drop (d.buf.length - min d.buf.length 3), .sync⟩ []
  | candidate {pos : ℕ} (hstate : d.state = .sync) (hpos : position magic d.buf = some pos)
      (hshort : (d.buf.drop pos).length < headerLen) :
      Steps crc32 d (.ok false) ⟨d.buf.drop pos, .sync⟩ []
  | refused {pos : ℕ} {e : FrameError} (hstate : d.state = .sync)
      (hpos : position magic d.buf = some pos) (hfull : headerLen ≤ (d.buf.drop pos).length)
      (hcheck : checkHeader ((d.buf.drop pos).take headerLen) = .error e) :
      Steps crc32 d (.error e) ⟨[], .sync⟩ []
  | header {pos : ℕ} {info : HeaderInfo} (hstate : d.state = .sync)
      (hpos : position magic d.buf = some pos) (hfull : headerLen ≤ (d.buf.drop pos).length)
      (hcheck : checkHeader ((d.buf.drop pos).take headerLen) = .ok info) :
      Steps crc32 d (.ok true)
        ⟨(d.buf.drop pos).drop headerLen, .body ((d.buf.drop pos).take headerLen) info⟩ []
  | incomplete {header : Bytes} {info : HeaderInfo} (hstate : d.state = .body header info)
      (hshort : d.buf.length < info.frameLen + crcLen) : Steps crc32 d (.ok false) d []
  | corrupt {header : Bytes} {info : HeaderInfo} (hstate : d.state = .body header info)
      (hfull : info.frameLen + crcLen ≤ d.buf.length)
      (hcrc : crc32 (header ++ d.buf.take info.frameLen) ≠
        UInt32.ofNat (fromBE ((d.buf.drop info.frameLen).take 4))) :
      Steps crc32 d (.error (.crcMismatch
        (UInt32.ofNat (fromBE ((d.buf.drop info.frameLen).take 4)))
        (crc32 (header ++ d.buf.take info.frameLen)))) ⟨[], .sync⟩ []
  | complete {header : Bytes} {info : HeaderInfo} (hstate : d.state = .body header info)
      (hfull : info.frameLen + crcLen ≤ d.buf.length)
      (hcrc : crc32 (header ++ d.buf.take info.frameLen) =
        UInt32.ofNat (fromBE ((d.buf.drop info.frameLen).take 4))) :
      Steps crc32 d (.ok true) ⟨d.buf.drop (info.frameLen + crcLen), .sync⟩
        [⟨info.frameType, info.transactionId, info.totalLen, info.seq, d.buf.take info.frameLen⟩]

theorem progress_steps (crc32 : Bytes → UInt32) (d : FrameDecoder) (frames : List Frame) :
    ∃ res d' out, d.progress crc32 frames = (res, d', frames ++ out) ∧
      Steps crc32 d res d' out := by
  unfold progress
  cases hstate : d.state with
  | sync =>
    dsimp only
    unfold progressSync
    cases hpos : position magic d.buf with
    | none => exact ⟨_, _, [], by rw [List.append_nil, hstate]; rfl, .scanned hstate hpos⟩
    | some pos =>
      dsimp only
      split
      · next hshort =>
        exact ⟨_, _, [], by rw [List.append_nil, hstate], .candidate hstate hpos hshort⟩
      · next hfull =>
        cases hcheck : checkHeader ((d.buf.drop pos).take headerLen) with
        | error e =>
          exact ⟨_, _, [], by rw [List.append_nil], .refused hstate hpos (not_lt.1 hfull) hcheck⟩
        | ok info =>
          exact ⟨_, _, [], by rw [List.append_nil], .header hstate hpos (not_lt.1 hfull) hcheck⟩
  | body header info =>
    dsimp only
    unfold progressBody
    dsimp only
    split
    · next hshort => exact ⟨_, _, [], by rw [List.append_nil], .incomplete hstate hshort⟩
    · next hfull =>
      split
      · next hcrc =>
        exact ⟨_, _, [], by rw [List.append_nil], .corrupt hstate (not_lt.1 hfull) hcrc⟩
      · next hcrc =>
        exact ⟨_, _, _, rfl, .complete hstate (not_lt.1 hfull) (not_not.1 hcrc)⟩

/-- The cases exclude each other: each is what `progress` computes. -/
theorem Steps.progress {res : Except FrameError Bool} (h : Steps crc32 d res d' out)
    (frames : List Frame) : d.progress crc32 frames = (res, d', frames ++ out) := by
  unfold FrameDecoder.progress
  cases h with
  | scanned hstate hnone =>
    simp only [hstate, progressSync, hnone, List.append_nil]
    rfl
  | candidate hstate hpos hshort =>
    simp only [hstate, progressSync, hpos, hshort, if_true, List.append_nil]
  | refused hstate hpos hfull hcheck | header hstate hpos hfull hcheck =>
    simp only [hstate, progressSync, hpos, not_lt.2 hfull, hcheck, if_false, List.append_nil]
  | incomplete hstate hshort =>
    simp only [hstate, progressBody, hshort, if_true, List.append_nil]
  | corrupt hstate hfull hcrc =>
    simp only [hstate, progressBody, not_lt.2 hfull, hcrc, ne_eq, not_false_eq_true, if_true,
      if_false, List.append_nil]
  | complete hstate hfull hcrc =>
    simp only [hstate, progressBody, not_lt.2 hfull, hcrc, ne_eq, not_true_eq_false, if_false]

/-! ## More input -/

/-- A scan that dropped bytes no magic begins at goes on as if it had not. -/
theorem Steps.of_dropped {res : Except FrameError Bool} {k : ℕ} (hstate : d.state = .sync)
    (hk : k ≤ d.buf.length)
    (hpos : position magic (d.buf ++ more) = (position magic (d.buf.drop k ++ more)).map (· + k))
    (hkept : position magic (d.buf.drop k ++ more) = none → k + min d.buf.length 3 = d.buf.length)
    (h : Steps crc32 (extend ⟨d.buf.drop k, .sync⟩ more) res d' out) :
    Steps crc32 (d.extend more) res d' out := by
  have hbuf : ∀ n, (d.extend more).buf.drop (n + k) = (d.buf.drop k ++ more).drop n := by
    intro n
    rw [extend_buf, Nat.add_comm, ← List.drop_drop, List.drop_append_of_le_length hk]
  have hfound : ∀ {n}, position magic (d.buf.drop k ++ more) = some n →
      position magic (d.extend more).buf = some (n + k) := by
    intro n hn
    rw [extend_buf, hpos, hn, Option.map_some]
  cases h with
  | incomplete hbody | corrupt hbody | complete hbody => cases hbody
  | scanned _ hnone =>
    -- both keep the last three bytes of the same list
    rw [extend_buf] at hnone
    have hnone' : position magic (d.extend more).buf = none := by
      rw [extend_buf, hpos, hnone, Option.map_none]
    have hlen := hkept hnone
    have hsame : (d.extend more).buf.drop ((d.extend more).buf.length -
        min (d.extend more).buf.length 3) = (d.buf.drop k ++ more).drop
          ((d.buf.drop k ++ more).length - min (d.buf.drop k ++ more).length 3) := by
      rw [← hbuf]
      congr 1
      simp only [extend_buf, List.length_append, List.length_drop]
      omega
    have hstep : Steps crc32 (d.extend more) _ _ [] := .scanned hstate hnone'
    rw [hsame] at hstep
    exact hstep
  | candidate _ hn hshort =>
    have hstep : Steps crc32 (d.extend more) _ _ [] :=
      .candidate hstate (hfound hn) (by rw [hbuf]; exact hshort)
    rw [hbuf] at hstep
    exact hstep
  | refused _ hn hfull hcheck =>
    exact .refused hstate (hfound hn) (by rw [hbuf]; exact hfull) (by rw [hbuf]; exact hcheck)
  | header _ hn hfull hcheck =>
    have hstep : Steps crc32 (d.extend more) _ _ [] :=
      .header hstate (hfound hn) (by rw [hbuf]; exact hfull) (by rw [hbuf]; exact hcheck)
    rw [hbuf] at hstep
    exact hstep

/-- **A step that waits loses nothing**: whatever arrives next, the decoder
it leaves and the one it started at do the same. -/
theorem Steps.waits (h : Steps crc32 d (.ok false) d' out) :
    out = [] ∧ ∀ more res d'' out', Steps crc32 (d'.extend more) res d'' out' →
      Steps crc32 (d.extend more) res d'' out' := by
  cases h with
  | scanned hstate hnone =>
    refine ⟨rfl, fun more res d'' out' h => ?_⟩
    refine .of_dropped hstate (by omega) ?_ (fun _ => by omega) h
    by_cases hshort : d.buf.length < 3
    · rw [Nat.min_eq_left (by omega), Nat.sub_self, List.drop_zero]
      exact Option.map_id'.symm
    · refine position_trim hnone ?_ magic_ne_nil
      have : magic.length = 4 := rfl
      omega
  | @candidate pos hstate hpos hshort =>
    refine ⟨rfl, fun more res d'' out' h => ?_⟩
    obtain ⟨hle, hat, -⟩ := position_eq_some_iff.1 hpos
    have hzero : position magic (d.buf.drop pos) = some 0 :=
      position_eq_some_iff.2 ⟨Nat.zero_le _, hat, fun m hm => absurd hm (Nat.not_lt_zero m)⟩
    have hnow := position_append (r := more) hzero
    refine .of_dropped hstate hle ?_ (fun hnone => ?_) h
    · rw [hnow, position_append hpos, Option.map_some, Nat.zero_add]
    · rw [hnow] at hnone
      cases hnone
  | incomplete hstate hshort => exact ⟨rfl, fun more res d'' out' h => h⟩

/-- The part of a buffer a step has read is the same with more behind it. -/
theorem take_drop_append {l : Bytes} {i j : ℕ} (h : i + j ≤ l.length) :
    ((l ++ more).drop i).take j = (l.drop i).take j := by
  rw [List.drop_append_of_le_length (by omega),
    List.take_append_of_le_length (by rw [List.length_drop]; omega)]

theorem position_extend {pos : ℕ} (h : position magic d.buf = some pos) (more : Bytes) :
    position magic (d.extend more).buf = some pos ∧
      (d.extend more).buf.drop pos = d.buf.drop pos ++ more := by
  refine ⟨position_append h, ?_⟩
  have := le_length_of_position h
  rw [extend_buf, List.drop_append_of_le_length (by omega)]

/-- **A step that goes on does the same with more input.** -/
theorem Steps.goesOn (h : Steps crc32 d (.ok true) d' out) (more : Bytes) :
    Steps crc32 (d.extend more) (.ok true) (d'.extend more) out := by
  cases h with
  | @header pos info hstate hpos hfull hcheck =>
    obtain ⟨hpos', hdrop⟩ := position_extend hpos more
    have htake : (d.buf.drop pos ++ more).take headerLen = (d.buf.drop pos).take headerLen :=
      List.take_append_of_le_length hfull
    have hstep : Steps crc32 (d.extend more) _ _ [] := .header hstate hpos'
      (by rw [hdrop, List.length_append]; omega) (by rw [hdrop, htake]; exact hcheck)
    rw [hdrop, htake, List.drop_append_of_le_length hfull] at hstep
    exact hstep
  | @complete header info hstate hfull hcrc =>
    have hlen : info.frameLen + 4 ≤ d.buf.length := hfull
    have htake : (d.buf ++ more).take info.frameLen = d.buf.take info.frameLen :=
      List.take_append_of_le_length (by omega)
    have hstep : Steps crc32 (d.extend more) _ _ _ := .complete hstate
      (by rw [extend_buf, List.length_append]; omega)
      (by rw [extend_buf, htake, take_drop_append hlen]; exact hcrc)
    rw [extend_buf, htake, List.drop_append_of_le_length hfull] at hstep
    exact hstep

/-- **A step that fails does the same with more input.** -/
theorem Steps.fails (h : Steps crc32 d (.error e) d' out) (more : Bytes) :
    Steps crc32 (d.extend more) (.error e) d' out := by
  cases h with
  | @refused pos e hstate hpos hfull hcheck =>
    obtain ⟨hpos', hdrop⟩ := position_extend hpos more
    exact .refused hstate hpos' (by rw [hdrop, List.length_append]; omega)
      (by rw [hdrop, List.take_append_of_le_length hfull]; exact hcheck)
  | @corrupt header info hstate hfull hcrc =>
    have hlen : info.frameLen + 4 ≤ d.buf.length := hfull
    have htake : (d.buf ++ more).take info.frameLen = d.buf.take info.frameLen :=
      List.take_append_of_le_length (by omega)
    have hstep : Steps crc32 (d.extend more) _ _ [] := .corrupt hstate
      (by rw [extend_buf, List.length_append]; omega)
      (by rw [extend_buf, htake, take_drop_append hlen]; exact hcrc)
    rw [extend_buf, htake, take_drop_append hlen] at hstep
    exact hstep

/-! ## The loop -/

/-- **The loop of `feed`**: what draining a buffer comes to. -/
inductive Drains (crc32 : Bytes → UInt32) :
    FrameDecoder → Except FrameError (List Frame) × FrameDecoder → Prop
  | fails {d d' : FrameDecoder} {e : FrameError} {out : List Frame}
      (h : Steps crc32 d (.error e) d' out) : Drains crc32 d (.error e, d')
  | waits {d d' : FrameDecoder} {out : List Frame} (h : Steps crc32 d (.ok false) d' out) :
      Drains crc32 d (.ok [], d')
  | goesOn {d d' d'' : FrameDecoder} {out : List Frame} {res : Except FrameError (List Frame)}
      (h : Steps crc32 d (.ok true) d' out) (hrest : Drains crc32 d' (res, d'')) :
      Drains crc32 d (res.map (out ++ ·), d'')

/-- A step that goes on takes bytes out of the buffer. -/
theorem Steps.length_lt (h : Steps crc32 d (.ok true) d' out) :
    d'.buf.length < d.buf.length := by
  cases h with
  | header hstate hpos hfull hcheck =>
    rw [List.length_drop] at hfull
    rw [List.length_drop, List.length_drop]
    have : headerLen = 36 := rfl
    omega
  | complete hstate hfull hcrc =>
    rw [List.length_drop]
    have : crcLen = 4 := rfl
    omega

/-- Fuel beyond the length of the buffer is enough. -/
theorem drains_feedLoop (crc32 : Bytes → UInt32) {fuel : ℕ} (hfuel : d.buf.length < fuel)
    (frames : List Frame) :
    ∃ res d', feedLoop crc32 fuel d frames = (res.map (frames ++ ·), d') ∧
      Drains crc32 d (res, d') := by
  induction fuel generalizing d frames with
  | zero => exact absurd hfuel (Nat.not_lt_zero _)
  | succ fuel ih =>
    obtain ⟨res, d', out, heq, hstep⟩ := progress_steps crc32 d frames
    rw [feedLoop, heq]
    match res with
    | .error e => exact ⟨.error e, d', rfl, .fails hstep⟩
    | .ok false =>
      have hout := hstep.waits.1
      exact ⟨.ok [], d', by rw [hout]; rfl, .waits hstep⟩
    | .ok true =>
      have hlt := hstep.length_lt
      obtain ⟨res, d'', hloop, hdrains⟩ := ih (d := d') (by omega) (frames ++ out)
      refine ⟨res.map (out ++ ·), d'', ?_, .goesOn hstep hdrains⟩
      dsimp only
      rw [hloop]
      cases res with
      | error e => rfl
      | ok rest => simp only [Except.map, List.append_assoc]

theorem drains_feed (crc32 : Bytes → UInt32) (d : FrameDecoder) (chunk : Bytes) :
    Drains crc32 (d.extend chunk) (d.feed crc32 chunk) := by
  obtain ⟨res, d', hloop, hdrains⟩ :=
    drains_feedLoop crc32 (Nat.lt_succ_self (d.extend chunk).buf.length) []
  rw [feed, hloop]
  cases res with
  | error e | ok frames => exact hdrains

theorem Drains.unique (h : Drains crc32 d r) (h' : Drains crc32 d r') : r = r' := by
  induction h generalizing r' with
  | fails hstep =>
    have hprog := hstep.progress []
    cases h' with
    | fails hstep' => cases hprog.symm.trans (hstep'.progress []); rfl
    | waits hstep' | goesOn hstep' hrest' => cases hprog.symm.trans (hstep'.progress [])
  | waits hstep =>
    have hprog := hstep.progress []
    cases h' with
    | fails hstep' => cases hprog.symm.trans (hstep'.progress [])
    | waits hstep' => cases hprog.symm.trans (hstep'.progress []); rfl
    | goesOn hstep' hrest' => cases hprog.symm.trans (hstep'.progress [])
  | goesOn hstep hrest ih =>
    have hprog := hstep.progress []
    cases h' with
    | fails hstep' | waits hstep' => cases hprog.symm.trans (hstep'.progress [])
    | goesOn hstep' hrest' =>
      cases hprog.symm.trans (hstep'.progress [])
      cases ih hrest'
      rfl

theorem Drains.feed (h : Drains crc32 (d.extend chunk) r) : d.feed crc32 chunk = r :=
  (drains_feed crc32 d chunk).unique h

/-- **More input, after a buffer that was drained.** -/
theorem Drains.extend (h : Drains crc32 d (.ok frames, d')) (more : Bytes)
    (hmore : Drains crc32 (d'.extend more) r) :
    Drains crc32 (d.extend more) (r.1.map (frames ++ ·), r.2) := by
  generalize hr : (Except.ok frames, d') = r₀ at h
  induction h generalizing frames d' with
  | fails hstep => cases hr
  | waits hstep =>
    cases hr
    -- the loop stood still: what it does now, it would have done
    have hsame := hstep.waits.2 more
    have hnil : ∀ res : Except FrameError (List Frame), res.map ([] ++ ·) = res := by
      intro res
      cases res <;> rfl
    rw [hnil]
    cases hmore with
    | fails hstep' => exact .fails (hsame _ _ _ hstep')
    | waits hstep' => exact .waits (hsame _ _ _ hstep')
    | goesOn hstep' hrest => exact .goesOn (hsame _ _ _ hstep') hrest
  | @goesOn d d₁ d₂ out res hstep hrest ih =>
    cases res with
    | error e => cases hr
    | ok rest =>
      cases hr
      have hdrains := Drains.goesOn (hstep.goesOn more) (ih hmore rfl)
      have hassoc : (r.1.map (rest ++ ·)).map (out ++ ·) = r.1.map ((out ++ rest) ++ ·) := by
        cases r.1 with
        | error e => rfl
        | ok fs => simp only [Except.map, List.append_assoc]
      rw [hassoc] at hdrains
      exact hdrains

theorem Drains.extend_error (h : Drains crc32 d (.error e, d')) (more : Bytes) :
    Drains crc32 (d.extend more) (.error e, d') := by
  generalize hr : (Except.error e, d') = r₀ at h
  induction h generalizing d' with
  | fails hstep =>
    cases hr
    exact .fails (hstep.fails more)
  | waits hstep => cases hr
  | @goesOn d d₁ d₂ out res hstep hrest ih =>
    cases res with
    | error e' =>
      cases hr
      exact .goesOn (hstep.goesOn more) (ih rfl)
    | ok rest => cases hr

/-- **Two chunks are one.** -/
theorem feed_append (h : d.feed crc32 chunk = (.ok frames, d')) (more : Bytes) :
    d.feed crc32 (chunk ++ more) =
      ((d'.feed crc32 more).1.map (frames ++ ·), (d'.feed crc32 more).2) := by
  have hdrains := drains_feed crc32 d chunk
  rw [h] at hdrains
  have hall := hdrains.extend more (drains_feed crc32 d' more)
  rw [extend_extend] at hall
  exact hall.feed

theorem feed_append_error (h : d.feed crc32 chunk = (.error e, d')) (more : Bytes) :
    d.feed crc32 (chunk ++ more) = (.error e, d') := by
  have hdrains := drains_feed crc32 d chunk
  rw [h] at hdrains
  have hall := hdrains.extend_error more
  rw [extend_extend] at hall
  exact hall.feed

/-- A decoder that has done all it can with what it holds. -/
def Settled (crc32 : Bytes → UInt32) (d : FrameDecoder) : Prop :=
  d.feed crc32 [] = (.ok [], d)

theorem settled_new (crc32 : Bytes → UInt32) : Settled crc32 new := rfl

theorem Drains.settled (h : Drains crc32 d (.ok frames, d')) : Settled crc32 d' := by
  generalize hr : (Except.ok frames, d') = r₀ at h
  induction h generalizing frames d' with
  | fails hstep => cases hr
  | @waits d₀ d₁ out₀ hstep =>
    cases hr
    -- what it would do now is what it did: wait
    obtain ⟨res, d'', out', -, hnow⟩ := progress_steps crc32 d₁ []
    have hthen := hstep.waits.2 [] res d'' out' (by rw [extend_nil]; exact hnow)
    rw [extend_nil] at hthen
    cases (hstep.progress []).symm.trans (hthen.progress [])
    have hdrains : Drains crc32 (d₁.extend []) (.ok [], d₁) := by
      rw [extend_nil]
      exact .waits hnow
    exact hdrains.feed
  | @goesOn d d₁ d₂ out res hstep hrest ih =>
    cases res with
    | error e => cases hr
    | ok rest =>
      cases hr
      exact ih rfl

/-- What the chunks come to, as one call would report it. -/
def asOne : List Frame × Option FrameError × FrameDecoder →
    Except FrameError (List Frame) × FrameDecoder
  | (frames, none, d) => (.ok frames, d)
  | (_, some e, d) => (.error e, d)

theorem asOne_eq_ok {res : List Frame × Option FrameError × FrameDecoder}
    (h : asOne res = (.ok frames, d)) : res = (frames, none, d) := by
  obtain ⟨out, failure, d'⟩ := res
  cases failure with
  | none =>
    cases h
    rfl
  | some e => cases h

theorem asOne_feedAll (hd : Settled crc32 d) (chunks : List Bytes) :
    asOne (feedAll crc32 d chunks) = d.feed crc32 chunks.flatten := by
  induction chunks generalizing d with
  | nil => exact hd.symm
  | cons chunk rest ih =>
    rw [feedAll, List.flatten_cons]
    have hdrains := drains_feed crc32 d chunk
    cases hfeed : d.feed crc32 chunk with
    | mk res d' =>
      cases res with
      | error e => exact (feed_append_error hfeed rest.flatten).symm
      | ok frames =>
        rw [hfeed] at hdrains
        rw [feed_append hfeed, ← ih hdrains.settled]
        dsimp only
        cases feedAll crc32 d' rest with
        | mk more tail =>
          cases tail with
          | mk failure d'' =>
            cases failure with
            | none | some e => rfl

/-- **A stream decodes the same however it is cut.** Feeding the chunks one
by one fails exactly when feeding them at once does, with the same error;
and where neither fails, the frames and the decoder left are the same. -/
theorem feed_chunks_eq_feed (crc32 : Bytes → UInt32) (chunks : List Bytes) :
    (∀ e, (feedAll crc32 new chunks).2.1 = some e ↔
      (new.feed crc32 chunks.flatten).1 = .error e) ∧
    ∀ frames d, feedAll crc32 new chunks = (frames, none, d) ↔
      new.feed crc32 chunks.flatten = (.ok frames, d) := by
  rw [← asOne_feedAll (settled_new crc32) chunks]
  cases feedAll crc32 new chunks with
  | mk out tail =>
    cases tail with
    | mk failure d' =>
      cases failure with
      | none | some e => simp [asOne]

end FrameDecoder

end Xacpp
