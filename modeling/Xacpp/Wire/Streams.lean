import Xacpp.Wire.Chunking
/-!
# Streams of frames

What the decoder makes of a stream it can be told the parts of: garbage
without the magic, encoded frames, and a unit it rejects. The frames come
out in order, whatever their payloads hold; a unit that is cut short gives
nothing yet; and a rejected one is fatal. `feed` loses the frames it has
collected when it fails, so what a caller was given by then depends on
where the stream was cut.
-/

namespace Xacpp

variable {crc32 : Bytes → UInt32}

theorem borderless_magic : Borderless magic := by decide

/-! ## Headers -/

theorem length_writeHeader (t : FrameType) (id : TxId) (total seq : UInt32) (n : ℕ) :
    (writeHeader t id total seq n).length = headerLen := by
  simp [writeHeader, magic, headerLen]

theorem magic_writeHeader (t : FrameType) (id : TxId) (total seq : UInt32) (n : ℕ) :
    magic <+: writeHeader t id total seq n := List.prefix_append _ _

/-- A type is canonical when the wire value names it. -/
def FrameType.Canonical (t : FrameType) : Prop := fromU16 t.toU16 = t

instance (t : FrameType) : Decidable t.Canonical := inferInstanceAs (Decidable (_ = _))

/-- No frame class allows a payload beyond that of `DATA_BINARY`. -/
theorem FrameType.maxFrameLen_le {t : FrameType} {max : ℕ} (h : t.maxFrameLen = some max) :
    max ≤ 16777216 := by
  cases t <;> cases h <;> decide

/-- What `encode` admits, the decoder admits, and it fits the length field. -/
theorem checkFrameLen_ok {t : FrameType} {n : ℕ}
    (h : n ≤ t.maxFrameLen.getD (maxDecodeTotalCap - frameOverhead)) :
    checkFrameLen t n = .ok () ∧ n < 2 ^ 32 := by
  have hcap : maxDecodeTotalCap = 67108864 := rfl
  have hover : frameOverhead = 40 := rfl
  unfold checkFrameLen
  cases hmax : t.maxFrameLen with
  | none =>
    rw [hmax, Option.getD_none] at h
    exact ⟨if_neg (by omega), by omega⟩
  | some max =>
    rw [hmax, Option.getD_some] at h
    have := FrameType.maxFrameLen_le hmax
    exact ⟨if_neg (by omega), by omega⟩

/-- **A written header reads back.** -/
theorem checkHeader_writeHeader {t : FrameType} {id : TxId} {total seq : UInt32} {n : ℕ}
    (ht : t.Canonical) (hn : n ≤ t.maxFrameLen.getD (maxDecodeTotalCap - frameOverhead)) :
    checkHeader (writeHeader t id total seq n) = .ok ⟨t, id, total, seq, n⟩ := by
  obtain ⟨hlimit, hfits⟩ := checkFrameLen_ok hn
  -- the fields, one behind the other
  generalize hl : writeHeader t id total seq n = hdr
  have h4 : hdr.getD 4 0 = versionMajor := by rw [← hl]; rfl
  have h6 : hdr.drop 6 = toBE 2 t.toU16.toNat ++ (id.toList ++ (toBE 4 total.toNat ++
      (toBE 4 seq.toNat ++ toBE 4 (UInt32.ofNat n).toNat))) := by rw [← hl]; rfl
  have h8 : hdr.drop 8 = _ := drop_next h6 (length_toBE 2 _)
  have h24 : hdr.drop 24 = _ := drop_next h8 id.toList_length
  have h28 : hdr.drop 28 = _ := drop_next h24 (length_toBE 4 _)
  have h32 : hdr.drop 32 = _ := drop_next h28 (length_toBE 4 _)
  have htype : FrameType.fromU16 (UInt16.ofNat (fromBE ((hdr.drop 6).take 2))) = t := by
    rw [h6, List.take_left' (length_toBE 2 _), fromBE_toBE]
    have hmod : t.toU16.toNat % 256 ^ 2 = t.toU16.toNat := Nat.mod_eq_of_lt t.toU16.toNat_lt
    rw [hmod, UInt16.ofNat_toNat]
    exact ht
  have hu32 : ∀ x : UInt32, x.toNat % 256 ^ 4 = x.toNat := fun x => Nat.mod_eq_of_lt x.toNat_lt
  have hframeLen : fromBE ((hdr.drop 32).take 4) = n := by
    rw [h32, List.take_of_length_le (length_toBE 4 _).le, fromBE_toBE, hu32,
      UInt32.toNat_ofNat_of_lt' hfits]
  have hid : (hdr.drop 8).take 16 = id.toList := by rw [h8, List.take_left' id.toList_length]
  have htotal : UInt32.ofNat (fromBE ((hdr.drop 24).take 4)) = total := by
    rw [h24, List.take_left' (length_toBE 4 _), fromBE_toBE, hu32, UInt32.ofNat_toNat]
  have hseq : UInt32.ofNat (fromBE ((hdr.drop 28).take 4)) = seq := by
    rw [h28, List.take_left' (length_toBE 4 _), fromBE_toBE, hu32, UInt32.ofNat_toNat]
  have hlength : ((hdr.drop 8).take 16).length = 16 := by rw [hid]; exact id.toList_length
  unfold checkHeader
  simp only [h4, htype, hframeLen, hlimit, htotal, hseq, ne_eq, not_true_eq_false, if_false,
    dif_pos hlength]
  have hvec : (⟨(hdr.drop 8).take 16, hlength⟩ : TxId) = id := Subtype.ext hid
  rw [hvec]
  rfl

theorem encode_ok {f : Frame} {bytes : Bytes} (h : f.encode crc32 = .ok bytes) :
    f.payload.length ≤ f.frameType.maxFrameLen.getD (maxDecodeTotalCap - frameOverhead) ∧
      bytes = f.header ++ (f.payload ++ toBE 4 (crc32 (f.header ++ f.payload)).toNat) := by
  unfold Frame.encode at h
  dsimp only at h
  split at h
  · cases h
  · next hle =>
    cases h
    exact ⟨not_lt.1 hle, List.append_assoc _ _ _⟩

/-! ## Units of a stream -/

namespace FrameDecoder

variable {g hdr body rest c : Bytes} {info : HeaderInfo} {d d' : FrameDecoder}
variable {e : FrameError} {res : Except FrameError (List Frame)} {f : Frame} {fs : List Frame}

/-- Behind garbage, the step takes the header that follows. -/
theorem header_found (hg : ¬ magic <:+: g) (hmagic : magic <+: hdr) (hlen : hdr.length = headerLen)
    (rest : Bytes) :
    position magic (g ++ (hdr ++ rest)) = some g.length ∧
      (g ++ (hdr ++ rest)).drop g.length = hdr ++ rest ∧
        headerLen ≤ (hdr ++ rest).length ∧ (hdr ++ rest).take headerLen = hdr ∧
          (hdr ++ rest).drop headerLen = rest := by
  obtain ⟨t, rfl⟩ := hmagic
  refine ⟨?_, List.drop_left, ?_, List.take_left' hlen, List.drop_left' hlen⟩
  · rw [List.append_assoc]
    exact position_behind borderless_magic hg
  · rw [List.length_append]
    omega

theorem steps_header (crc32 : Bytes → UInt32) (hg : ¬ magic <:+: g) (hmagic : magic <+: hdr)
    (hlen : hdr.length = headerLen) (hcheck : checkHeader hdr = .ok info) (rest : Bytes) :
    Steps crc32 ⟨g ++ (hdr ++ rest), .sync⟩ (.ok true) ⟨rest, .body hdr info⟩ [] := by
  obtain ⟨hpos, hdrop, hfull, htake, hrest⟩ := header_found hg hmagic hlen rest
  have hstep : Steps crc32 ⟨g ++ (hdr ++ rest), .sync⟩ _ _ [] := .header rfl hpos
    (by rw [hdrop]; exact hfull) (by rw [hdrop, htake]; exact hcheck)
  rw [hdrop, htake, hrest] at hstep
  exact hstep

theorem steps_refused (crc32 : Bytes → UInt32) (hg : ¬ magic <:+: g) (hmagic : magic <+: hdr)
    (hlen : hdr.length = headerLen) (hcheck : checkHeader hdr = .error e) (rest : Bytes) :
    Steps crc32 ⟨g ++ (hdr ++ rest), .sync⟩ (.error e) ⟨[], .sync⟩ [] := by
  obtain ⟨hpos, hdrop, hfull, htake, -⟩ := header_found hg hmagic hlen rest
  exact .refused rfl hpos (by rw [hdrop]; exact hfull) (by rw [hdrop, htake]; exact hcheck)

/-- The parts of a body the decoder looks at. -/
theorem body_found (info : HeaderInfo) {payload trailer : Bytes}
    (hpayload : payload.length = info.frameLen)
    (htrailer : trailer.length = crcLen) (rest : Bytes) :
    info.frameLen + crcLen ≤ (payload ++ (trailer ++ rest)).length ∧
      (payload ++ (trailer ++ rest)).take info.frameLen = payload ∧
        ((payload ++ (trailer ++ rest)).drop info.frameLen).take 4 = trailer ∧
          (payload ++ (trailer ++ rest)).drop (info.frameLen + crcLen) = rest := by
  have hdrop : (payload ++ (trailer ++ rest)).drop info.frameLen = trailer ++ rest :=
    List.drop_left' hpayload
  refine ⟨?_, List.take_left' hpayload, ?_, drop_next hdrop htrailer⟩
  · rw [List.length_append, List.length_append]
    omega
  · rw [hdrop]
    exact List.take_left' htrailer

/-- **An encoded frame behind garbage comes out**, and the decoder goes on
with what follows. -/
theorem drains_frame {bytes : Bytes} (hg : ¬ magic <:+: g) (hcanon : f.frameType.Canonical)
    (hencode : f.encode crc32 = .ok bytes) (hrest : Drains crc32 ⟨rest, .sync⟩ (res, d)) :
    Drains crc32 ⟨g ++ (bytes ++ rest), .sync⟩ (res.map (f :: ·), d) := by
  obtain ⟨hle, rfl⟩ := encode_ok hencode
  have hcheck : checkHeader f.header =
      .ok ⟨f.frameType, f.transactionId, f.totalLen, f.seq, f.payload.length⟩ :=
    checkHeader_writeHeader hcanon hle
  generalize htrailer : toBE 4 (crc32 (f.header ++ f.payload)).toNat = trailer
  have hlen : trailer.length = crcLen := by rw [← htrailer]; exact length_toBE 4 _
  have hcrc : crc32 (f.header ++ f.payload) = UInt32.ofNat (fromBE trailer) := by
    have hmod := Nat.mod_eq_of_lt (crc32 (f.header ++ f.payload)).toNat_lt
    rw [← htrailer, fromBE_toBE]
    exact (congrArg UInt32.ofNat hmod).trans UInt32.ofNat_toNat |>.symm
  have hheader := steps_header crc32 hg (magic_writeHeader ..) (length_writeHeader ..) hcheck
    (f.payload ++ (trailer ++ rest))
  obtain ⟨hfull, htake, hsum, hdrop⟩ := body_found
    ⟨f.frameType, f.transactionId, f.totalLen, f.seq, f.payload.length⟩ rfl hlen rest
  have hbody : Steps crc32 ⟨f.payload ++ (trailer ++ rest), .body f.header _⟩ _ _ _ :=
    .complete rfl hfull (by rw [htake, hsum]; exact hcrc)
  rw [htake, hdrop] at hbody
  have hdrains := Drains.goesOn hheader (.goesOn hbody hrest)
  have hmap : (res.map ([f] ++ ·)).map ([] ++ ·) = res.map (f :: ·) := by
    cases res <;> rfl
  rw [hmap] at hdrains
  rw [List.append_assoc, List.append_assoc]
  exact hdrains

/-- **Garbage gives nothing.** -/
theorem drains_garbage (crc32 : Bytes → UInt32) (hg : ¬ magic <:+: g) :
    ∃ d, Drains crc32 ⟨g, .sync⟩ (.ok [], d) :=
  ⟨_, .waits (.scanned rfl (position_eq_none_iff.2 hg))⟩

/-- **A header that is cut short gives nothing yet**, behind garbage. -/
theorem drains_cut_header (crc32 : Bytes → UInt32) (hg : ¬ magic <:+: g) (hmagic : magic <+: hdr)
    (hlen : hdr.length = headerLen) (hc : c <+: g ++ hdr) (hshort : c.length < (g ++ hdr).length) :
    ∃ d, Drains crc32 ⟨c, .sync⟩ (.ok [], d) := by
  cases hpos : position magic c with
  | none => exact ⟨_, .waits (.scanned rfl hpos)⟩
  | some pos =>
    -- the magic that was found is the header's own
    obtain ⟨t, ht⟩ := hc
    have hfound := (header_found hg hmagic hlen []).1
    rw [List.append_nil, ← ht, position_append hpos, Option.some.injEq] at hfound
    refine ⟨_, .waits (.candidate rfl hpos ?_)⟩
    rw [List.length_append] at hshort
    have hdrop : (c.drop pos).length = c.length - g.length := by rw [List.length_drop, hfound]
    have hpositive : 0 < headerLen := by decide
    exact hdrop.trans_lt (by omega)

/-- **A body that is cut short gives nothing yet.** -/
theorem drains_cut_body (crc32 : Bytes → UInt32) (hg : ¬ magic <:+: g) (hmagic : magic <+: hdr)
    (hlen : hdr.length = headerLen) (hcheck : checkHeader hdr = .ok info)
    (hbody : body.length = info.frameLen + crcLen) (hc : c <+: g ++ (hdr ++ body))
    (hshort : c.length < (g ++ (hdr ++ body)).length) :
    ∃ d, Drains crc32 ⟨c, .sync⟩ (.ok [], d) := by
  rw [← List.append_assoc] at hc hshort
  rcases Nat.lt_or_ge c.length (g ++ hdr).length with hlt | hge
  · have hc' : c <+: g ++ hdr :=
      List.prefix_of_prefix_length_le hc (List.prefix_append _ _) hlt.le
    exact drains_cut_header crc32 hg hmagic hlen hc' hlt
  · obtain ⟨b, rfl⟩ := List.prefix_of_prefix_length_le (List.prefix_append _ _) hc hge
    simp only [List.length_append] at hshort
    have hheader := steps_header crc32 hg hmagic hlen hcheck b
    have hwaits : Steps crc32 ⟨b, .body hdr info⟩ _ _ _ :=
      .incomplete rfl (by rw [← hbody]; exact Nat.lt_of_add_lt_add_left hshort)
    rw [List.append_assoc]
    exact ⟨_, .goesOn hheader (.waits hwaits)⟩

namespace Sample

/-- A heartbeat whose payload holds the magic. -/
def heartbeat : Frame := ⟨.heartbeat, zeroId, 0, 0, magic ++ [1]⟩

def extension : Frame := ⟨.unknown 0x00AA, zeroId, 3, 1, []⟩

def bytesOf (frame : Frame) : Bytes := ((frame.encode crc32IsoHdlc).toOption).getD []

/-- A header of another major version. -/
def foreign : Bytes := magic ++ (2 :: List.replicate 31 0)

end Sample

/-! ## Clean and dirty streams -/

/-- Encoded frames with garbage around them. -/
inductive Stream (crc32 : Bytes → UInt32) : List Frame → Bytes → Prop
  | garbage {g : Bytes} (hg : ¬ magic <:+: g) : Stream crc32 [] g
  | frame {g bytes rest : Bytes} {f : Frame} {fs : List Frame} (hg : ¬ magic <:+: g)
      (hcanon : f.frameType.Canonical) (hencode : f.encode crc32 = .ok bytes)
      (hrest : Stream crc32 fs rest) : Stream crc32 (f :: fs) (g ++ (bytes ++ rest))

theorem Stream.drains {s : Bytes} (h : Stream crc32 fs s) :
    ∃ d, Drains crc32 ⟨s, .sync⟩ (.ok fs, d) := by
  induction h with
  | garbage hg => exact drains_garbage crc32 hg
  | frame hg hcanon hencode hrest ih =>
    obtain ⟨d, hd⟩ := ih
    exact ⟨d, drains_frame hg hcanon hencode hd⟩

/-- **A stream of encoded frames decodes to them**, whatever garbage without
the magic stands around them and whatever their payloads hold. -/
theorem feed_stream {s : Bytes} (h : Stream crc32 fs s) :
    ∃ d, new.feed crc32 s = (.ok fs, d) := by
  obtain ⟨d, hd⟩ := h.drains
  exact ⟨d, hd.feed⟩

theorem feed_stream_sample :
    ∃ d, new.feed crc32IsoHdlc ([0x58, 0x41] ++ (Sample.bytesOf Sample.heartbeat ++
      ([0x50] ++ (Sample.bytesOf Sample.extension ++ [])))) =
        (.ok [Sample.heartbeat, Sample.extension], d) :=
  feed_stream (.frame (by decide) (by decide) rfl (.frame (by decide) (by decide) rfl
    (.garbage (by decide))))

/-! ## Streams that fail -/

/-- Encoded frames, one behind the other. -/
inductive Encoded (crc32 : Bytes → UInt32) : List Frame → Bytes → Prop
  | nil : Encoded crc32 [] []
  | cons {bytes rest : Bytes} {f : Frame} {fs : List Frame} (hcanon : f.frameType.Canonical)
      (hencode : f.encode crc32 = .ok bytes) (hrest : Encoded crc32 fs rest) :
      Encoded crc32 (f :: fs) (bytes ++ rest)

/-- A unit the decoder rejects: a header of another major version or of an
oversized frame, or a body that does not match its checksum. -/
inductive Rejected (crc32 : Bytes → UInt32) : Bytes → FrameError → Prop
  | header {hdr : Bytes} {e : FrameError} (hmagic : magic <+: hdr)
      (hlen : hdr.length = headerLen) (hcheck : checkHeader hdr = .error e) :
      Rejected crc32 hdr e
  | checksum {hdr payload trailer : Bytes} {info : HeaderInfo} (hmagic : magic <+: hdr)
      (hlen : hdr.length = headerLen) (hcheck : checkHeader hdr = .ok info)
      (hpayload : payload.length = info.frameLen) (htrailer : trailer.length = crcLen)
      (hcrc : crc32 (hdr ++ payload) ≠ UInt32.ofNat (fromBE trailer)) :
      Rejected crc32 (hdr ++ (payload ++ trailer))
        (.crcMismatch (UInt32.ofNat (fromBE trailer)) (crc32 (hdr ++ payload)))

theorem Rejected.drains {bad : Bytes} (h : Rejected crc32 bad e) (hg : ¬ magic <:+: g)
    (rest : Bytes) : Drains crc32 ⟨g ++ (bad ++ rest), .sync⟩ (.error e, ⟨[], .sync⟩) := by
  cases h with
  | header hmagic hlen hcheck => exact .fails (steps_refused crc32 hg hmagic hlen hcheck rest)
  | @checksum hdr payload trailer info hmagic hlen hcheck hpayload htrailer hcrc =>
    obtain ⟨hfull, htake, hsum, -⟩ := body_found info hpayload htrailer rest
    have hheader := steps_header crc32 hg hmagic hlen hcheck (payload ++ (trailer ++ rest))
    have hbody : Steps crc32 ⟨payload ++ (trailer ++ rest), .body hdr info⟩ _ _ _ :=
      .corrupt rfl hfull (by rw [htake, hsum]; exact hcrc)
    rw [htake, hsum] at hbody
    rw [List.append_assoc, List.append_assoc]
    exact .goesOn hheader (.fails hbody)

theorem Rejected.drains_cut {bad : Bytes} (h : Rejected crc32 bad e) (hg : ¬ magic <:+: g)
    (hc : c <+: g ++ bad) (hshort : c.length < (g ++ bad).length) :
    ∃ d, Drains crc32 ⟨c, .sync⟩ (.ok [], d) := by
  cases h with
  | header hmagic hlen hcheck => exact drains_cut_header crc32 hg hmagic hlen hc hshort
  | @checksum hdr payload trailer info hmagic hlen hcheck hpayload htrailer hcrc =>
    refine drains_cut_body crc32 hg hmagic hlen hcheck ?_ hc hshort
    rw [List.length_append, hpayload, htrailer]

/-- An encoded frame that is cut short gives nothing yet. -/
theorem drains_cut_frame {bytes : Bytes} (hcanon : f.frameType.Canonical)
    (hencode : f.encode crc32 = .ok bytes) (hc : c <+: bytes) (hshort : c.length < bytes.length) :
    ∃ d, Drains crc32 ⟨c, .sync⟩ (.ok [], d) := by
  obtain ⟨hle, rfl⟩ := encode_ok hencode
  have hnil : ¬ magic <:+: [] := by decide
  refine drains_cut_body crc32 hnil (magic_writeHeader ..) (length_writeHeader ..)
    (checkHeader_writeHeader hcanon hle) ?_ hc hshort
  rw [List.length_append, length_toBE]
  rfl

/-- **What a part of the stream gives**, up to where it fails: all frames
once they are in, and not all before. -/
theorem Encoded.drains_part {valid bad : Bytes} (hvalid : Encoded crc32 fs valid)
    (hg : ¬ magic <:+: g) (hbad : Rejected crc32 bad e) (hc : c <+: valid ++ (g ++ bad))
    (hshort : c.length < (valid ++ (g ++ bad)).length) :
    ∃ out d, Drains crc32 ⟨c, .sync⟩ (.ok out, d) ∧
      (out = fs ↔ fs = [] ∨ valid.length ≤ c.length) := by
  induction hvalid generalizing c with
  | nil =>
    obtain ⟨d, hd⟩ := hbad.drains_cut hg hc hshort
    exact ⟨[], d, hd, by simp⟩
  | @cons bytes rest f fs hcanon hencode hrest ih =>
    rw [List.append_assoc] at hc hshort
    rcases Nat.lt_or_ge c.length bytes.length with hlt | hge
    · -- the first frame is not in yet
      have hc' : c <+: bytes :=
        List.prefix_of_prefix_length_le hc (List.prefix_append _ _) hlt.le
      obtain ⟨d, hd⟩ := drains_cut_frame hcanon hencode hc' hlt
      refine ⟨[], d, hd, ?_⟩
      rw [List.length_append]
      constructor
      · intro h
        cases h
      · rintro (h | h)
        · cases h
        · omega
    · obtain ⟨c', rfl⟩ := List.prefix_of_prefix_length_le (List.prefix_append _ _) hc hge
      rw [List.prefix_append_right_inj] at hc
      rw [List.length_append, List.length_append] at hshort
      obtain ⟨out, d, hd, hiff⟩ := ih hc (Nat.lt_of_add_lt_add_left hshort)
      have hnil : ¬ magic <:+: [] := by decide
      have hdrains := drains_frame hnil hcanon hencode hd
      refine ⟨f :: out, d, hdrains, ?_⟩
      have hnone : fs = [] → rest.length = 0 := by
        rintro rfl
        cases hrest
        rfl
      rw [List.cons_eq_cons, hiff, List.length_append, List.length_append]
      constructor
      · rintro ⟨-, h | h⟩
        · exact .inr (by rw [hnone h]; omega)
        · exact .inr (by omega)
      · rintro (h | h)
        · cases h
        · exact ⟨rfl, .inr (by omega)⟩

theorem Encoded.drains_all {valid bad : Bytes} (hvalid : Encoded crc32 fs valid)
    (hg : ¬ magic <:+: g) (hbad : Rejected crc32 bad e) (rest : Bytes) :
    Drains crc32 ⟨valid ++ (g ++ (bad ++ rest)), .sync⟩ (.error e, ⟨[], .sync⟩) := by
  induction hvalid with
  | nil => exact hbad.drains hg rest
  | cons hcanon hencode hrest ih =>
    have hnil : ¬ magic <:+: [] := by decide
    rw [List.append_assoc]
    exact drains_frame hnil hcanon hencode ih

/-- Chunks after chunks that did not fail. -/
theorem feedAll_append {xs : List Bytes} (h : feedAll crc32 d xs = (fs, none, d'))
    (ys : List Bytes) :
    feedAll crc32 d (xs ++ ys) =
      (fs ++ (feedAll crc32 d' ys).1, (feedAll crc32 d' ys).2) := by
  induction xs generalizing d fs with
  | nil =>
    cases h
    rfl
  | cons chunk xs ih =>
    rw [feedAll] at h
    rw [List.cons_append, feedAll]
    cases hfeed : d.feed crc32 chunk with
    | mk res d₁ =>
      rw [hfeed] at h
      cases res with
      | error e => cases h
      | ok out =>
        dsimp only at h ⊢
        cases hall : feedAll crc32 d₁ xs with
        | mk more tail =>
          obtain ⟨failure, d₂⟩ := tail
          rw [hall] at h
          cases h
          rw [ih hall, List.append_assoc]

/-- The chunk in which a place of the stream falls. -/
theorem exists_cut (chunks : List Bytes) {q : ℕ} (hpos : 0 < q)
    (hq : q ≤ chunks.flatten.length) :
    ∃ m chunk post, chunks = chunks.take m ++ chunk :: post ∧
      (chunks.take (m + 1)).flatten = (chunks.take m).flatten ++ chunk ∧
        (chunks.take m).flatten.length < q ∧ q ≤ ((chunks.take m).flatten ++ chunk).length := by
  induction chunks generalizing q with
  | nil => exact absurd (hpos.trans_le hq) (Nat.lt_irrefl 0)
  | cons chunk rest ih =>
    rcases Nat.lt_or_ge chunk.length q with hlt | hge
    · rw [List.flatten_cons, List.length_append] at hq
      obtain ⟨m, c, post, heq, hnext, hbefore, hin⟩ :=
        ih (q := q - chunk.length) (by omega) (by omega)
      refine ⟨m + 1, c, post, ?_, ?_, ?_, ?_⟩
      · rw [List.take_succ_cons, List.cons_append, ← heq]
      · rw [List.take_succ_cons, List.take_succ_cons, List.flatten_cons, List.flatten_cons, hnext,
          List.append_assoc]
      · rw [List.take_succ_cons, List.flatten_cons, List.length_append]
        omega
      · rw [List.length_append] at hin
        rw [List.take_succ_cons, List.flatten_cons, List.length_append, List.length_append]
        omega
    · exact ⟨0, chunk, rest, rfl, List.append_nil _, hpos, hge⟩

theorem length_flatten_take_mono (chunks : List Bytes) {k m : ℕ} (h : k ≤ m) :
    (chunks.take k).flatten.length ≤ (chunks.take m).flatten.length := by
  have hsplit := List.take_append_drop k (chunks.take m)
  rw [List.take_take, Nat.min_eq_left h] at hsplit
  rw [← hsplit, List.flatten_append, List.length_append]
  exact Nat.le_add_right _ _

theorem Rejected.length_pos {bad : Bytes} (h : Rejected crc32 bad e) : 0 < bad.length := by
  have hheader : 0 < headerLen := by decide
  cases h with
  | header hmagic hlen hcheck => omega
  | checksum hmagic hlen hcheck hpayload htrailer hcrc =>
    rw [List.length_append]
    omega

/-- **What the caller was given by the time `feed` fails.** The stream fails
however it is cut. All frames in front of the rejected unit were returned
if and only if there are none, or the stream was cut behind the last of
them and before the end of the unit: a `feed` that fails loses the frames
it has completed. -/
theorem returned_before_failure {valid bad rest : Bytes} {chunks : List Bytes}
    (hvalid : Encoded crc32 fs valid) (hg : ¬ magic <:+: g) (hbad : Rejected crc32 bad e)
    (hchunks : chunks.flatten = valid ++ (g ++ (bad ++ rest))) :
    (feedAll crc32 new chunks).2.1 = some e ∧
      ((feedAll crc32 new chunks).1 = fs ↔ fs = [] ∨
        ∃ k, valid.length ≤ (chunks.take k).flatten.length ∧
          (chunks.take k).flatten.length < valid.length + (g.length + bad.length)) := by
  have hunit : (valid ++ (g ++ bad)).length = valid.length + (g.length + bad.length) := by
    rw [List.length_append, List.length_append]
  have hstream : chunks.flatten = valid ++ (g ++ bad) ++ rest := by
    rw [hchunks, List.append_assoc, List.append_assoc]
  have hpos := hbad.length_pos
  obtain ⟨m, chunk, post, hsplit, hnext, hbefore, hin⟩ := exists_cut chunks
    (q := valid.length + (g.length + bad.length)) (by omega)
    (by rw [hstream, List.length_append, hunit]; omega)
  have hflat : (chunks.take m).flatten ++ chunk ++ post.flatten = valid ++ (g ++ bad) ++ rest := by
    have hjoined := congrArg List.flatten hsplit
    rw [hstream, List.flatten_append, List.flatten_cons] at hjoined
    rw [List.append_assoc, hjoined]
  -- the chunks before the one that fails
  have hpart : (chunks.take m).flatten <+: valid ++ (g ++ bad) :=
    List.prefix_of_prefix_length_le
      ⟨chunk ++ post.flatten, by rw [← List.append_assoc]; exact hflat⟩
      (List.prefix_append _ _) (by omega)
  obtain ⟨out, d, hdrains, hall⟩ := hvalid.drains_part hg hbad hpart (by omega)
  have hfirst : new.feed crc32 (chunks.take m).flatten = (.ok out, d) := hdrains.feed
  have hbeforeAll : feedAll crc32 new (chunks.take m) = (out, none, d) := by
    have hone := asOne_feedAll (settled_new crc32) (chunks.take m)
    rw [hfirst] at hone
    exact asOne_eq_ok hone
  -- the chunk that fails
  obtain ⟨more, hmore⟩ := List.prefix_of_prefix_length_le
    (List.prefix_append (valid ++ (g ++ bad)) rest) ⟨post.flatten, hflat⟩ (by omega)
  have hfails : Drains crc32 (new.extend ((chunks.take m).flatten ++ chunk))
      (.error e, ⟨[], .sync⟩) := by
    have hdrop := hvalid.drains_all hg hbad more
    rw [← List.append_assoc g, ← List.append_assoc, hmore] at hdrop
    exact hdrop
  have hfeed := feed_append hfirst chunk
  rw [hfails.feed, Prod.mk.injEq] at hfeed
  have hchunk : (d.feed crc32 chunk).1 = .error e := by
    cases hres : (d.feed crc32 chunk).1 with
    | error e' =>
      rw [hres] at hfeed
      exact hfeed.1.symm
    | ok frames =>
      rw [hres] at hfeed
      cases hfeed.1
  have hresult : feedAll crc32 new chunks = (out, some e, (d.feed crc32 chunk).2) := by
    rw [hsplit, feedAll_append hbeforeAll, feedAll, ← Prod.mk.eta (p := d.feed crc32 chunk), hchunk]
    dsimp only
    rw [List.append_nil]
  rw [hresult]
  refine ⟨rfl, hall.trans (or_congr_right ⟨fun h => ⟨m, h, hbefore⟩, ?_⟩)⟩
  rintro ⟨k, hk, hend⟩
  -- a cut before the end of the unit is no later than the last before it
  rcases Nat.lt_or_ge m k with hlt | hge
  · have hmono := length_flatten_take_mono chunks (Nat.succ_le_of_lt hlt)
    rw [hnext] at hmono
    omega
  · exact hk.trans (length_flatten_take_mono chunks hge)

theorem returned_before_failure_sample :
    (feedAll crc32IsoHdlc new [Sample.bytesOf Sample.heartbeat, Sample.foreign]).1 =
      [Sample.heartbeat] := by
  have hvalid : Encoded crc32IsoHdlc [Sample.heartbeat] (Sample.bytesOf Sample.heartbeat ++ []) :=
    .cons (by decide) rfl .nil
  have hbad : Rejected crc32IsoHdlc Sample.foreign (.versionMismatch 2 1) :=
    .header (by decide) (by decide) (by decide)
  have hcut : ([Sample.bytesOf Sample.heartbeat, Sample.foreign] : List Bytes).flatten =
      (Sample.bytesOf Sample.heartbeat ++ []) ++ ([] ++ (Sample.foreign ++ [])) := by
    simp only [List.flatten_cons, List.flatten_nil, List.append_nil, List.nil_append]
  have hbetween : (Sample.bytesOf Sample.heartbeat ++ []).length ≤
      (List.take 1 [Sample.bytesOf Sample.heartbeat, Sample.foreign]).flatten.length ∧
      (List.take 1 [Sample.bytesOf Sample.heartbeat, Sample.foreign]).flatten.length <
        (Sample.bytesOf Sample.heartbeat ++ []).length + (0 + Sample.foreign.length) := by
    decide +kernel
  exact (returned_before_failure hvalid (by decide) hbad hcut).2.2 (.inr ⟨1, hbetween⟩)

/-- **The same stream in one read**: the frame in front of the foreign
header is complete, and the caller never sees it. -/
theorem lost_with_the_failure :
    ∃ bytes, Sample.heartbeat.encode crc32IsoHdlc = .ok bytes ∧
      Sample.heartbeat.frameType.Canonical ∧
      Rejected crc32IsoHdlc Sample.foreign (.versionMismatch 2 1) ∧
      feedAll crc32IsoHdlc new [bytes ++ Sample.foreign] =
        ([], some (.versionMismatch 2 1), new) := by
  refine ⟨Sample.bytesOf Sample.heartbeat, rfl, by decide,
    .header (by decide) (by decide) (by decide), ?_⟩
  decide +kernel

end FrameDecoder

end Xacpp
