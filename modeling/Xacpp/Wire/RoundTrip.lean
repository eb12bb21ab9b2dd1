import Xacpp.Wire.Control
/-!
# Control payloads: exact codecs

What a control payload encodes to is what it decodes from, and only that: a
decoder accepts exactly the image of its encoder (`Exact`). The payloads
with a count byte and entries of one width share one argument, the entries
being the chunks of the rest; `NACK` has lists within its entries and is
read off the front entry by entry.
-/

namespace Xacpp

variable {bytes : Bytes}

/-- The decoder accepts exactly what the encoder writes, and that is within
the cap. -/
structure Exact {α : Type} (encode : α → Except ControlError Bytes)
    (decode : Bytes → Except ControlError α) : Prop where
  fits : ∀ p bytes, encode p = .ok bytes → bytes.length ≤ controlPayloadCap
  reads : ∀ p bytes, encode p = .ok bytes → decode bytes = .ok p
  writes : ∀ bytes p, bytes.length ≤ controlPayloadCap → decode bytes = .ok p →
    encode p = .ok bytes

section Except

variable {α β ε : Type}

theorem mapM_map_ok {g : β → α} {f : α → Except ε β} (h : ∀ x, f (g x) = .ok x)
    (l : List β) : (l.map g).mapM f = .ok l := by
  induction l with
  | nil => rfl
  | cons x l ih =>
    rw [List.map_cons, List.mapM_cons, h x, ih]
    rfl

theorem of_bind_ok {x : Except ε α} {f : α → Except ε β} {r : β} (h : (x >>= f) = .ok r) :
    ∃ a, x = .ok a ∧ f a = .ok r := by
  cases x with
  | error e => cases h
  | ok a => exact ⟨a, rfl, h⟩

theorem map_of_mapM_ok {g : β → α} {f : α → Except ε β} {l : List α} {r : List β}
    (hf : ∀ a ∈ l, ∀ b, f a = .ok b → g b = a) (h : l.mapM f = .ok r) : r.map g = l := by
  induction l generalizing r with
  | nil =>
    cases h
    rfl
  | cons a l ih =>
    rw [List.mapM_cons] at h
    obtain ⟨b, hb, h⟩ := of_bind_ok h
    obtain ⟨bs, hbs, h⟩ := of_bind_ok h
    cases h
    rw [List.map_cons, hf a List.mem_cons_self b hb,
      ih (fun a ha => hf a (List.mem_cons_of_mem _ ha)) hbs]

end Except

/-! ## Fields -/

theorem fixedField_toList {n : ℕ} (v : List.Vector UInt8 n) : fixedField n v.toList = .ok v := by
  rw [fixedField, dif_pos v.toList_length]
  rfl

theorem toList_of_fixedField {n : ℕ} {v : List.Vector UInt8 n}
    (h : fixedField n bytes = .ok v) : v.toList = bytes := by
  unfold fixedField at h
  split at h
  · cases h
    rfl
  · cases h

theorem readU32_toBE (n : UInt32) : readU32 (toBE 4 n.toNat) = .ok n := by
  have hlen : (toBE 4 n.toNat).length = 4 := length_toBE 4 n.toNat
  have hval : fromBE (toBE 4 n.toNat) = n.toNat := by
    rw [fromBE_toBE]
    exact Nat.mod_eq_of_lt n.toNat_lt
  rw [readU32, fixedField, dif_pos hlen]
  show Except.ok (UInt32.ofNat (fromBE (toBE 4 n.toNat))) = .ok n
  rw [hval, UInt32.ofNat_toNat]

theorem toBE_of_readU32 {n : UInt32} (h : readU32 bytes = .ok n) : toBE 4 n.toNat = bytes := by
  obtain ⟨field, hfield, h⟩ := of_bind_ok h
  cases h
  have hbytes := toList_of_fixedField hfield
  have hlen : bytes.length = 4 := by rw [← hbytes]; exact field.toList_length
  have hlt : fromBE bytes < 2 ^ 32 := by
    have := fromBE_lt bytes
    rw [hlen] at this
    exact this
  rw [hbytes, UInt32.toNat_ofNat_of_lt' hlt]
  have hback := toBE_fromBE bytes
  rw [hlen] at hback
  exact hback

/-- The count byte of at most 255 entries reads back. -/
theorem toNat_ofNat_count {n : ℕ} (h : n ≤ 255) : (UInt8.ofNat n).toNat = n := by
  rw [UInt8.toNat_ofNat']
  exact Nat.mod_eq_of_lt (by omega)

theorem of_checkCount {count min max : ℕ} (h : checkCount count min max = .ok ()) :
    min ≤ count ∧ count ≤ max := by
  unfold checkCount at h
  split at h
  · cases h
  · omega

/-- A payload that passed the encoder had a count in range. -/
theorem of_checkCount_bind {α : Type} {count min max : ℕ} {next : Except ControlError α} {r : α}
    (h : (do checkCount count min max; next) = Except.ok r) :
    min ≤ count ∧ count ≤ max ∧ next = .ok r := by
  obtain ⟨u, hcount, h⟩ := of_bind_ok h
  obtain ⟨hmin, hmax⟩ := of_checkCount hcount
  exact ⟨hmin, hmax, h⟩

theorem of_finish {out bytes : Bytes} (h : finish out = .ok bytes) :
    bytes = out ∧ bytes.length ≤ controlPayloadCap := by
  unfold finish at h
  split at h
  · cases h
  · cases h
    exact ⟨rfl, by omega⟩

theorem finish_ok {out : Bytes} (h : out.length ≤ controlPayloadCap) : finish out = .ok out := by
  rw [finish, if_neg (by omega)]

theorem checkCount_ok {count min max : ℕ} (hmin : min ≤ count) (hmax : count ≤ max) :
    checkCount count min max = .ok () := by
  rw [checkCount, if_neg (by omega)]

/-! ## Entries of one width -/

section Entries

variable {β : Type} {n : ℕ} {write : β → Bytes} {read : Bytes → Except ControlError β}

/-- Entries of `n` bytes each, read back one by one. -/
structure Layout (n : ℕ) (write : β → Bytes) (read : Bytes → Except ControlError β) : Prop where
  pos : 0 < n
  length : ∀ entry, (write entry).length = n
  reads : ∀ entry, read (write entry) = .ok entry
  writes : ∀ chunk entry, chunk.length = n → read chunk = .ok entry → write entry = chunk

theorem Layout.reads_all (h : Layout n write read) (entries : List β) :
    (chunksExact n (entries.flatMap write)).mapM read = .ok entries := by
  rw [chunksExact_flatMap h.pos h.length]
  exact mapM_map_ok h.reads entries

theorem Layout.writes_all (h : Layout n write read) {entries : List β} {count : ℕ}
    (hlen : bytes.length = count * n) (hread : (chunksExact n bytes).mapM read = .ok entries) :
    entries.flatMap write = bytes ∧ entries.length = count := by
  have hmap : entries.map write = chunksExact n bytes :=
    map_of_mapM_ok (fun chunk hc entry he => h.writes chunk entry (length_of_mem_chunksExact hc) he)
      hread
  have hrest : chunksRest n bytes = [] := by
    rw [chunksRest, hlen, Nat.mul_div_cancel _ h.pos, Nat.mul_comm, ← hlen, List.drop_length]
  have hbytes : entries.flatMap write = bytes := by
    have hflat := flatten_chunksExact n bytes
    rw [hrest, List.append_nil, ← hmap] at hflat
    rw [List.flatMap_def]
    exact hflat
  refine ⟨hbytes, Nat.eq_of_mul_eq_mul_right h.pos ?_⟩
  rw [← length_flatMap_const h.length, hbytes, hlen]

end Entries

/-! ## `ACK` and `RESUME` -/

theorem readAckEntry_writeAckEntry (entry : AckEntry) :
    readAckEntry (writeAckEntry entry) = .ok entry := by
  have hid : entry.transactionId.toList.length = 16 := entry.transactionId.toList_length
  have hfirst : (writeAckEntry entry).take 16 = entry.transactionId.toList :=
    List.take_left' hid
  have hrest : (writeAckEntry entry).drop 16 =
      toBE 4 entry.highestContiguousSeq.toNat ++ toBE 4 entry.receivedFrames.toNat :=
    List.drop_left' hid
  have hcontig : ((writeAckEntry entry).drop 16).take 4 =
      toBE 4 entry.highestContiguousSeq.toNat := by
    rw [hrest]
    exact List.take_left' (length_toBE _ _)
  have hcount : ((writeAckEntry entry).drop 20).take 4 = toBE 4 entry.receivedFrames.toNat := by
    have hdrop : (writeAckEntry entry).drop 20 = ((writeAckEntry entry).drop 16).drop 4 := by
      rw [List.drop_drop]
    rw [hdrop, hrest, List.drop_left' (length_toBE _ _)]
    exact List.take_of_length_le (length_toBE _ _).le
  rw [readAckEntry, hfirst, hcontig, hcount, fixedField_toList, readU32_toBE, readU32_toBE]
  rfl

theorem writeAckEntry_of_read {chunk : Bytes} {entry : AckEntry} (hlen : chunk.length = ackEntryLen)
    (h : readAckEntry chunk = .ok entry) : writeAckEntry entry = chunk := by
  obtain ⟨id, hid, h⟩ := of_bind_ok h
  obtain ⟨highest, hhighest, h⟩ := of_bind_ok h
  obtain ⟨received, hreceived, h⟩ := of_bind_ok h
  cases h
  have hsplit : (chunk.drop 16).drop 4 = chunk.drop 20 := by rw [List.drop_drop]
  have hlast : (chunk.drop 20).take 4 = chunk.drop 20 := by
    refine List.take_of_length_le ?_
    rw [List.length_drop, hlen]
    decide
  rw [writeAckEntry, toList_of_fixedField hid, toBE_of_readU32 hhighest, toBE_of_readU32 hreceived,
    hlast, ← hsplit, List.take_append_drop, List.take_append_drop]

theorem layout_ackEntry : Layout ackEntryLen writeAckEntry readAckEntry where
  pos := by decide
  length := fun entry => by simp [writeAckEntry, ackEntryLen]
  reads := readAckEntry_writeAckEntry
  writes := fun _ _ => writeAckEntry_of_read

theorem chunksExact_take {n count : ℕ} (hn : 0 < n)
    (hlen : bytes.length = count * n) : (chunksExact n bytes).take count = chunksExact n bytes := by
  refine List.take_of_length_le ?_
  rw [chunksExact, length_takeChunks, hlen, Nat.mul_div_cancel _ hn]

theorem exact_ackEntries (min : ℕ) : Exact (encodeAckEntries min) (decodeAckEntries min) where
  fits entries bytes h := by
    obtain ⟨-, -, hfinish⟩ := of_checkCount_bind h
    exact (of_finish hfinish).2
  reads entries bytes h := by
    obtain ⟨hmin, hmax, hfinish⟩ := of_checkCount_bind h
    have hlen := length_flatMap_const layout_ackEntry.length entries
    rw [(of_finish hfinish).1, decodeAckEntries]
    simp only [toNat_ofNat_count hmax, checkCount_ok hmin hmax, hlen, ne_eq, not_true_eq_false,
      if_false, readAckEntries, chunksExact_take layout_ackEntry.pos hlen]
    exact layout_ackEntry.reads_all entries
  writes bytes entries hcap h := by
    cases bytes with
    | nil => cases h
    | cons countByte rest =>
      obtain ⟨hmin, hmax, h⟩ := of_checkCount_bind h
      dsimp only at h
      split at h
      · cases h
      · next hlen =>
        rw [readAckEntries, chunksExact_take layout_ackEntry.pos (not_not.1 hlen)] at h
        obtain ⟨hbytes, hcount⟩ := layout_ackEntry.writes_all (not_not.1 hlen) h
        rw [encodeAckEntries, hcount, checkCount_ok hmin hmax, hbytes, UInt8.ofNat_toNat]
        exact finish_ok hcap

/-- The count is one byte. -/
theorem length_of_decodeAckEntries {min : ℕ} {entries : List AckEntry}
    (h : decodeAckEntries min bytes = .ok entries) :
    min ≤ entries.length ∧ entries.length ≤ 255 := by
  cases bytes with
  | nil => cases h
  | cons countByte rest =>
    obtain ⟨hmin, hmax, h⟩ := of_checkCount_bind h
    dsimp only at h
    split at h
    · cases h
    · next hlen =>
      rw [readAckEntries, chunksExact_take layout_ackEntry.pos (not_not.1 hlen)] at h
      rw [(layout_ackEntry.writes_all (not_not.1 hlen) h).2]
      exact ⟨hmin, hmax⟩

theorem decodeResumeRequest_encodeResumeRequest {entries : List AckEntry}
    (h : encodeResumeRequest entries = .ok bytes) : decodeResumeRequest bytes = .ok entries :=
  (exact_ackEntries 0).reads entries bytes h

/-! ## `NACK` -/

theorem layout_u32 : Layout 4 (fun seq : UInt32 => toBE 4 seq.toNat) readU32 where
  pos := by decide
  length := fun seq => length_toBE 4 seq.toNat
  reads := readU32_toBE
  writes := fun _ _ _ h => toBE_of_readU32 h

/-- **One entry comes off the front** of what was written. -/
theorem readNackEntries_succ {entry : NackEntry} {count : ℕ} {rest : Bytes}
    (hshort : entry.missingSeqs.length ≤ 65535) :
    readNackEntries (count + 1) (writeNackEntry entry ++ rest) =
      (readNackEntries count rest).map fun r => (entry :: r.1, r.2) := by
  generalize hseqs : entry.missingSeqs.flatMap (fun seq => toBE 4 seq.toNat) = seqs
  generalize hall : writeNackEntry entry ++ rest = all
  have hid : all.drop 0 = entry.transactionId.toList ++
      (toBE 2 entry.missingSeqs.length ++ (seqs ++ rest)) := by
    rw [← hall, writeNackEntry, hseqs, List.drop_zero, List.append_assoc, List.append_assoc]
  have h16 : all.drop 16 = _ := drop_next hid entry.transactionId.toList_length
  have h18 : all.drop 18 = _ := drop_next h16 (length_toBE 2 _)
  have hseqsLen : seqs.length = entry.missingSeqs.length * 4 := by
    rw [← hseqs, length_flatMap_const layout_u32.length]
  have hlong : ¬ all.length < 18 := by
    have := congrArg List.length hid
    simp only [List.drop_zero, List.length_append, List.Vector.toList_length, length_toBE] at this
    omega
  have hcount : fromBE ((all.drop 16).take 2) = entry.missingSeqs.length := by
    rw [h16, List.take_left' (length_toBE 2 _), fromBE_toBE]
    exact Nat.mod_eq_of_lt (by omega)
  have hfield : all.take 16 = entry.transactionId.toList := by
    rw [← List.drop_zero (l := all), hid]
    exact List.take_left' entry.transactionId.toList_length
  have hlist : (chunksExact 4 seqs).mapM readU32 = .ok entry.missingSeqs := by
    rw [← hseqs]
    exact layout_u32.reads_all _
  have henough : ¬ (seqs ++ rest).length < entry.missingSeqs.length * 4 := by
    rw [List.length_append]
    omega
  rw [readNackEntries, if_neg hlong, hfield, fixedField_toList, hcount, h18]
  dsimp only [bind, Except.bind]
  rw [if_neg henough, List.take_left' hseqsLen, List.drop_left' hseqsLen, hlist]
  cases readNackEntries count rest with
  | error e | ok r => rfl

theorem readNackEntries_writeNackEntries {entries : List NackEntry} {body : Bytes}
    (h : writeNackEntries entries = .ok body) (rest : Bytes) :
    readNackEntries entries.length (body ++ rest) = .ok (entries, rest) := by
  induction entries generalizing body with
  | nil =>
    cases h
    rfl
  | cons entry entries ih =>
    rw [writeNackEntries] at h
    split at h
    · cases h
    · next hshort =>
      obtain ⟨tail, htail, h⟩ := of_bind_ok h
      cases h
      rw [List.length_cons, List.append_assoc, readNackEntries_succ (by omega), ih htail]
      rfl

/-- **What comes off the front was written so.** -/
theorem writeNackEntries_of_read {count : ℕ} {bytes rest : Bytes} {entries : List NackEntry}
    (h : readNackEntries count bytes = .ok (entries, rest)) :
    ∃ body, writeNackEntries entries = .ok body ∧ bytes = body ++ rest ∧
      entries.length = count := by
  induction count generalizing bytes entries with
  | zero =>
    cases h
    exact ⟨[], rfl, rfl, rfl⟩
  | succ count ih =>
    rw [readNackEntries] at h
    split at h
    · cases h
    · next hlong =>
      obtain ⟨id, hid, h⟩ := of_bind_ok h
      dsimp only at h
      split at h
      · cases h
      · next henough =>
        obtain ⟨seqs, hseqs, h⟩ := of_bind_ok h
        obtain ⟨⟨more, rest'⟩, hmore, h⟩ := of_bind_ok h
        cases h
        obtain ⟨body, hbody, hrest, hlen⟩ := ih hmore
        generalize hn : fromBE ((bytes.drop 16).take 2) = n at *
        have htwo : ((bytes.drop 16).take 2).length = 2 := by
          rw [List.length_take, List.length_drop]
          omega
        have hsmall : n < 256 ^ 2 := by
          have := fromBE_lt ((bytes.drop 16).take 2)
          rw [hn, htwo] at this
          exact this
        have htake : ((bytes.drop 18).take (n * 4)).length = n * 4 := by
          rw [List.length_take]
          omega
        obtain ⟨hflat, hcount⟩ := layout_u32.writes_all htake hseqs
        have hback := toBE_fromBE ((bytes.drop 16).take 2)
        rw [htwo, hn] at hback
        refine ⟨writeNackEntry ⟨id, seqs⟩ ++ body, ?_, ?_, ?_⟩
        · rw [writeNackEntries, if_neg (by dsimp only; omega), hbody]
          rfl
        · have h18 : (bytes.drop 16).drop 2 = bytes.drop 18 := by rw [List.drop_drop]
          rw [writeNackEntry]
          dsimp only
          rw [toList_of_fixedField hid, hcount, hback, hflat, List.append_assoc, List.append_assoc,
            List.append_assoc, ← hrest, List.take_append_drop, ← h18,
            List.take_append_drop, List.take_append_drop]
        · rw [List.length_cons, hlen]

theorem exact_nack : Exact encodeNackPayload decodeNackPayload where
  fits entries bytes h := by
    obtain ⟨-, -, h⟩ := of_checkCount_bind h
    obtain ⟨body, -, hfinish⟩ := of_bind_ok h
    exact (of_finish hfinish).2
  reads entries bytes h := by
    obtain ⟨hmin, hmax, h⟩ := of_checkCount_bind h
    obtain ⟨body, hbody, hfinish⟩ := of_bind_ok h
    have hread := readNackEntries_writeNackEntries hbody []
    rw [List.append_nil] at hread
    rw [(of_finish hfinish).1, decodeNackPayload, toNat_ofNat_count hmax, checkCount_ok hmin hmax,
      hread]
    rfl
  writes bytes entries hcap h := by
    cases bytes with
    | nil => cases h
    | cons countByte rest =>
      obtain ⟨hmin, hmax, h⟩ := of_checkCount_bind h
      obtain ⟨⟨entries', left⟩, hread, h⟩ := of_bind_ok h
      dsimp only at h
      split at h
      · cases h
      · next hleft =>
        cases h
        obtain ⟨body, hbody, hrest, hcount⟩ := writeNackEntries_of_read hread
        rw [not_not.1 hleft, List.append_nil] at hrest
        rw [encodeNackPayload, hcount, checkCount_ok hmin hmax, hbody, UInt8.ofNat_toNat, ← hrest]
        exact finish_ok hcap

/-! ## `RESUME_RESPONSE` -/

theorem fromU8_toU8 (status : ResumeStatus) : ResumeStatus.fromU8 status.toU8 = .ok status := by
  cases status <;> rfl

theorem toU8_of_fromU8 {value : UInt8} {status : ResumeStatus}
    (h : ResumeStatus.fromU8 value = .ok status) : status.toU8 = value := by
  unfold ResumeStatus.fromU8 at h
  split at h
  · next hv => cases h; exact hv.symm
  · split at h
    · next hv => cases h; exact hv.symm
    · split at h
      · next hv => cases h; exact hv.symm
      · cases h

theorem readResumeStatusEntry_writeResumeStatusEntry (entry : ResumeStatusEntry) :
    readResumeStatusEntry (writeResumeStatusEntry entry) = .ok entry := by
  have hid : entry.transactionId.toList.length = 16 := entry.transactionId.toList_length
  have hfirst : (writeResumeStatusEntry entry).take 16 = entry.transactionId.toList :=
    List.take_left' hid
  have hlast : (writeResumeStatusEntry entry).getD 16 0 = entry.status.toU8 := by
    rw [List.getD_eq_getElem?_getD, writeResumeStatusEntry,
      List.getElem?_append_right (by omega), hid]
    rfl
  rw [readResumeStatusEntry, hfirst, hlast, fixedField_toList, fromU8_toU8]
  rfl

theorem writeResumeStatusEntry_of_read {chunk : Bytes} {entry : ResumeStatusEntry}
    (hlen : chunk.length = resumeStatusEntryLen) (h : readResumeStatusEntry chunk = .ok entry) :
    writeResumeStatusEntry entry = chunk := by
  obtain ⟨id, hid, h⟩ := of_bind_ok h
  obtain ⟨status, hstatus, h⟩ := of_bind_ok h
  cases h
  have hlen' : chunk.length = 17 := hlen
  have hlast : [chunk.getD 16 0] = chunk.drop 16 := by
    rw [List.drop_eq_getElem_cons (by omega), List.drop_of_length_le (by omega),
      List.getD_eq_getElem?_getD, List.getElem?_eq_getElem (by omega), Option.getD_some]
  rw [writeResumeStatusEntry, toList_of_fixedField hid, toU8_of_fromU8 hstatus, hlast,
    List.take_append_drop]

theorem layout_resumeStatusEntry :
    Layout resumeStatusEntryLen writeResumeStatusEntry readResumeStatusEntry where
  pos := by decide
  length := fun entry => by simp [writeResumeStatusEntry, resumeStatusEntryLen]
  reads := readResumeStatusEntry_writeResumeStatusEntry
  writes := fun _ _ => writeResumeStatusEntry_of_read

theorem exact_resumeResponse : Exact encodeResumeResponse decodeResumeResponse where
  fits entries bytes h := by
    obtain ⟨-, -, hfinish⟩ := of_checkCount_bind h
    exact (of_finish hfinish).2
  reads entries bytes h := by
    obtain ⟨hmin, hmax, hfinish⟩ := of_checkCount_bind h
    have hlen := length_flatMap_const layout_resumeStatusEntry.length entries
    rw [(of_finish hfinish).1, decodeResumeResponse]
    simp only [toNat_ofNat_count hmax, checkCount_ok hmin hmax, hlen, ne_eq, not_true_eq_false,
      if_false]
    exact layout_resumeStatusEntry.reads_all entries
  writes bytes entries hcap h := by
    cases bytes with
    | nil => cases h
    | cons countByte rest =>
      obtain ⟨hmin, hmax, h⟩ := of_checkCount_bind h
      dsimp only at h
      split at h
      · cases h
      · next hlen =>
        obtain ⟨hbytes, hcount⟩ := layout_resumeStatusEntry.writes_all (not_not.1 hlen) h
        rw [encodeResumeResponse, hcount, checkCount_ok hmin hmax, hbytes, UInt8.ofNat_toNat]
        exact finish_ok hcap

theorem encodeResumeResponse_of_le {entries : List ResumeStatusEntry}
    (hmax : entries.length ≤ 255) : ∃ bytes, encodeResumeResponse entries = .ok bytes := by
  have hlen := length_flatMap_const layout_resumeStatusEntry.length entries
  have hcap : (UInt8.ofNat entries.length :: entries.flatMap writeResumeStatusEntry).length ≤
      controlPayloadCap := by
    have hwidth : resumeStatusEntryLen = 17 := rfl
    have hbound : controlPayloadCap = 16384 := rfl
    rw [List.length_cons, hlen, hwidth, hbound]
    omega
  exact ⟨_, by rw [encodeResumeResponse, checkCount_ok (Nat.zero_le _) hmax]; exact finish_ok hcap⟩

theorem decodeResumeResponse_encodeResumeResponse {entries : List ResumeStatusEntry}
    (h : encodeResumeResponse entries = .ok bytes) :
    decodeResumeResponse bytes = .ok entries :=
  exact_resumeResponse.reads entries bytes h

/-! ## Fixed layouts -/

theorem exact_transactionId : Exact encodeTransactionId decodeTransactionId where
  fits id bytes h := (of_finish h).2
  reads id bytes h := by
    have hlen : ¬ id.toList.length ≠ 16 := not_not.2 id.toList_length
    rw [(of_finish h).1, decodeTransactionId, if_neg hlen, fixedField_toList]
  writes bytes id hcap h := by
    unfold decodeTransactionId at h
    split at h
    · cases h
    · rw [encodeTransactionId, toList_of_fixedField h]
      exact finish_ok hcap

theorem exact_heartbeat : Exact encodeHeartbeat decodeHeartbeat where
  fits payload bytes h := (of_finish h).2
  reads payload bytes h := by
    have hlen : (toBE 4 payload.monotonicSeq.toNat ++ toBE 8 payload.senderEpochMs.toNat).length =
        12 := by simp
    have hepoch : fixedField 8 (toBE 8 payload.senderEpochMs.toNat) =
        .ok ⟨toBE 8 payload.senderEpochMs.toNat, length_toBE 8 _⟩ :=
      fixedField_toList ⟨toBE 8 payload.senderEpochMs.toNat, length_toBE 8 _⟩
    rw [(of_finish h).1, decodeHeartbeat, if_neg (not_not.2 hlen),
      List.take_left' (length_toBE 4 _),
      List.drop_left' (length_toBE 4 _), List.take_of_length_le (length_toBE 8 _).le, readU32_toBE,
      hepoch]
    have hmod : payload.senderEpochMs.toNat % 256 ^ 8 = payload.senderEpochMs.toNat :=
      Nat.mod_eq_of_lt payload.senderEpochMs.toNat_lt
    show Except.ok (HeartbeatPayload.mk payload.monotonicSeq
      (UInt64.ofNat (fromBE (toBE 8 payload.senderEpochMs.toNat)))) = _
    rw [fromBE_toBE, hmod, UInt64.ofNat_toNat]
  writes bytes payload hcap h := by
    unfold decodeHeartbeat at h
    split at h
    · cases h
    · next hlen =>
      obtain ⟨seq, hseq, h⟩ := of_bind_ok h
      obtain ⟨epoch, hepoch, h⟩ := of_bind_ok h
      cases h
      have hlast : (bytes.drop 4).take 8 = bytes.drop 4 := by
        refine List.take_of_length_le ?_
        rw [List.length_drop, not_not.1 hlen]
      have hfield := toList_of_fixedField hepoch
      rw [hlast] at hfield
      have height : (bytes.drop 4).length = 8 := by rw [← hfield]; exact epoch.toList_length
      have hlt : fromBE (bytes.drop 4) < 2 ^ 64 := by
        have := fromBE_lt (bytes.drop 4)
        rw [height] at this
        exact this
      have hback := toBE_fromBE (bytes.drop 4)
      rw [height] at hback
      rw [encodeHeartbeat]
      dsimp only
      rw [toBE_of_readU32 hseq, hfield, UInt64.toNat_ofNat_of_lt' hlt, hback,
        List.take_append_drop]
      exact finish_ok hcap

/-- The bytes of a string read back as the string, and only they do. -/
theorem fromUTF8?_eq_some_iff {s : String} :
    String.fromUTF8? ⟨bytes.toArray⟩ = some s ↔ s.toUTF8.data.toList = bytes := by
  unfold String.fromUTF8?
  constructor
  · intro h
    split at h
    · cases h
      rfl
    · cases h
  · rintro rfl
    exact dif_pos s.isValidUTF8

theorem exact_error : Exact encodeError decodeError where
  fits payload bytes h := (of_finish h).2
  reads payload bytes h := by
    have hcode : (toBE 2 payload.code.toNat).length = 2 := length_toBE 2 _
    have hlen : ¬ (toBE 2 payload.code.toNat ++ payload.message.toUTF8.data.toList).length < 2 := by
      rw [List.length_append]
      omega
    have hmod : payload.code.toNat % 256 ^ 2 = payload.code.toNat :=
      Nat.mod_eq_of_lt payload.code.toNat_lt
    rw [(of_finish h).1, decodeError, if_neg hlen, List.take_left' hcode, List.drop_left' hcode,
      fromUTF8?_eq_some_iff.2 rfl]
    dsimp only
    rw [fromBE_toBE, hmod, UInt16.ofNat_toNat]
  writes bytes payload hcap h := by
    unfold decodeError at h
    split at h
    · cases h
    · next hlen =>
      split at h
      · cases h
      · next message hmessage =>
        cases h
        have htwo : (bytes.take 2).length = 2 := by
          rw [List.length_take]
          omega
        have hlt : fromBE (bytes.take 2) < 2 ^ 16 := by
          have := fromBE_lt (bytes.take 2)
          rw [htwo] at this
          exact this
        have hback := toBE_fromBE (bytes.take 2)
        rw [htwo] at hback
        rw [encodeError]
        dsimp only
        rw [UInt16.toNat_ofNat_of_lt' hlt, hback, fromUTF8?_eq_some_iff.1 hmessage,
          List.take_append_drop]
        exact finish_ok hcap

/-- **Every control payload has an exact codec.** -/
theorem control_payloads_exact :
    Exact encodeAckPayload decodeAckPayload ∧ Exact encodeNackPayload decodeNackPayload ∧
      Exact encodeResumeRequest decodeResumeRequest ∧
      Exact encodeResumeResponse decodeResumeResponse ∧
      Exact encodeHeartbeat decodeHeartbeat ∧
      Exact encodeTransactionPause decodeTransactionPause ∧
      Exact encodeTransactionAbort decodeTransactionAbort ∧
      Exact encodeTransactionCompleted decodeTransactionCompleted ∧
      Exact encodeError decodeError :=
  ⟨exact_ackEntries 1, exact_nack, exact_ackEntries 0, exact_resumeResponse, exact_heartbeat,
    exact_transactionId, exact_transactionId, exact_transactionId, exact_error⟩

end Xacpp
