import Xacpp.Transfer.Model.Inbound
import Xacpp.Wire.Hex
/-!
# The two parsers of transaction ids

A fetch message spells an id out as a whole string, an expiry error at the
head of its message. The first is read by characters and the second by
bytes; on the digits of an id the two are the same, since each digit is one
byte of UTF-8.
-/

namespace Xacpp

namespace Transfer

namespace Handling

/-! ## Strings by their bytes -/

theorem byteArray_toList_loop (bs : ByteArray) (i : ℕ) (r : Bytes) :
    ByteArray.toList.loop bs i r = r.reverse ++ bs.data.toList.drop i := by
  fun_induction ByteArray.toList.loop bs i r with
  | case1 i r hlt ih =>
    have hlen : i < bs.data.toList.length := hlt
    have hget : bs.get! i = bs.data.toList[i] := getElem!_pos bs.data i hlt
    rw [ih, hget, List.reverse_cons, List.append_assoc, List.singleton_append,
      ← List.drop_eq_getElem_cons hlen]
  | case2 i r hge =>
    rw [List.drop_eq_nil_of_le (Nat.le_of_not_lt hge), List.append_nil]

/-- The bytes of a string are those of its characters. -/
theorem toUTF8_toList (s : String) :
    s.toUTF8.toList = s.toList.flatMap String.utf8EncodeChar := by
  rw [ByteArray.toList, byteArray_toList_loop, List.reverse_nil, List.nil_append, List.drop_zero,
    String.toUTF8_eq_toByteArray, ← String.utf8Encode_toList, List.utf8Encode,
    List.data_toByteArray]

/-- The byte of a hex digit. -/
def hexCode (n : ℕ) : UInt8 := UInt8.ofNat (hexChar n).toNat

/-- A digit is one byte, and reads back from it. -/
theorem hexCode_spec : ∀ n < 16, String.utf8EncodeChar (hexChar n) = [hexCode n] ∧
    hexDigit (hexCode n) = some (UInt8.ofNat n) := by decide

/-- A byte that reads as a digit is the byte of that digit. -/
theorem hexCode_of_hexDigit {code value : UInt8} (h : hexDigit code = some value) :
    hexCode value.toNat = code ∧ value.toNat < 16 := by
  have hall : ∀ n < 256, ∀ v ∈ hexDigit (UInt8.ofNat n),
      hexCode v.toNat = UInt8.ofNat n ∧ v.toNat < 16 := by decide +kernel
  have hcode := hall code.toNat code.toNat_lt value
  rw [UInt8.ofNat_toNat] at hcode
  exact hcode h

/-- The two bytes that spell a byte. -/
def hexCodes (b : UInt8) : Bytes := [hexCode (b.toNat / 16), hexCode (b.toNat % 16)]

theorem utf8_hexPair (b : UInt8) : (hexPair b).flatMap String.utf8EncodeChar = hexCodes b := by
  have hlt := b.toNat_lt
  rw [hexPair, List.flatMap_cons, List.flatMap_cons, List.flatMap_nil,
    (hexCode_spec _ (by omega)).1, (hexCode_spec _ (by omega)).1]
  rfl

theorem utf8_formatTransactionId (txid : TxId) :
    (formatTransactionId txid).toUTF8.toList = txid.toList.flatMap hexCodes := by
  rw [toUTF8_toList, formatTransactionId_eq, String.toList_ofList, List.flatMap_assoc]
  simp only [utf8_hexPair]

/-! ## The head of an expiry message -/

/-- **Bytes read back from the bytes that spell them.** -/
theorem hexBytes_flatMap (l : Bytes) : hexBytes (l.flatMap hexCodes) = some l := by
  induction l with
  | nil => rfl
  | cons b l ih =>
    have hlt := b.toNat_lt
    have hbyte : UInt8.ofNat (b.toNat / 16) * 16 + UInt8.ofNat (b.toNat % 16) = b := by
      have hsum := UInt8.ofNat_add (b.toNat / 16 * 16) (b.toNat % 16)
      rw [Nat.div_add_mod', UInt8.ofNat_toNat, UInt8.ofNat_mul] at hsum
      exact hsum.symm
    rw [List.flatMap_cons, hexCodes, List.cons_append, List.cons_append, List.nil_append, hexBytes,
      (hexCode_spec _ (by omega)).2, (hexCode_spec _ (by omega)).2, ih]
    simp only [Option.bind_eq_bind, Option.bind_some, Option.pure_def, hbyte]

theorem hexCodes_spelled {hi lo : UInt8} (hhi : hi.toNat < 16) (hlo : lo.toNat < 16) :
    hexCodes (hi * 16 + lo) = [hexCode hi.toNat, hexCode lo.toNat] := by
  have hnat : (hi * 16 + lo).toNat = hi.toNat * 16 + lo.toNat := by
    rw [UInt8.toNat_add, UInt8.toNat_mul, show (16 : UInt8).toNat = 16 from rfl]
    omega
  rw [hexCodes, hnat, show (hi.toNat * 16 + lo.toNat) / 16 = hi.toNat by omega,
    show (hi.toNat * 16 + lo.toNat) % 16 = lo.toNat by omega]

/-- **What is read spells what it was read from.** -/
theorem of_hexBytes {codes l : Bytes} (h : hexBytes codes = some l) :
    codes = l.flatMap hexCodes := by
  fun_induction hexBytes codes generalizing l with
  | case1 => cases h; rfl
  | case2 => cases h
  | case3 hi lo rest ih =>
    obtain ⟨high, hhigh, h⟩ := Option.bind_eq_some_iff.1 h
    obtain ⟨low, hlow, h⟩ := Option.bind_eq_some_iff.1 h
    obtain ⟨tail, htail, h⟩ := Option.bind_eq_some_iff.1 h
    cases h
    obtain ⟨rfl, hhi⟩ := hexCode_of_hexDigit hhigh
    obtain ⟨rfl, hlo⟩ := hexCode_of_hexDigit hlow
    rw [List.flatMap_cons, hexCodes_spelled hhi hlo, ← ih htail]
    rfl

/-- **The head of a message is read exactly where it spells an id.** -/
theorem parseHexTxidPrefix_eq_some_iff {message : String} {txid : TxId} :
    parseHexTxidPrefix message = some txid ↔
      (formatTransactionId txid).toUTF8.toList = message.toUTF8.toList.take 32 := by
  rw [utf8_formatTransactionId, parseHexTxidPrefix]
  constructor
  · intro h
    cases hbytes : hexBytes (message.toUTF8.toList.take 32) with
    | none =>
      rw [hbytes] at h
      cases h
    | some bytes =>
      rw [hbytes] at h
      dsimp only at h
      split at h
      · cases h
        exact (of_hexBytes hbytes).symm
      · cases h
  · intro h
    rw [← h, hexBytes_flatMap]
    exact dif_pos txid.toList_length

theorem take_utf8_append (txid : TxId) (rest : String) :
    (formatTransactionId txid ++ rest).toUTF8.toList.take 32 =
      (formatTransactionId txid).toUTF8.toList := by
  rw [toUTF8_toList, String.toList_append, List.flatMap_append, ← toUTF8_toList,
    utf8_formatTransactionId]
  refine List.take_left' ?_
  rw [length_flatMap_const (n := 2) (f := hexCodes) fun _ => rfl, txid.toList_length]

/-! ## Both parsers -/

/-- **Ids and their texts.** `parse_transaction_id` accepts the strings of 32
lowercase hex digits and is inverse to `format_transaction_id` on them, both
ways round; the parser of expiry messages reads the same id off any message
that begins with the text of one, and accepts only messages whose first 32
bytes are such a text. -/
theorem transactionId_texts :
    (∀ s, (∃ txid, parseTransactionId s = .ok txid) ↔ IdText s) ∧
    (∀ txid, parseTransactionId (formatTransactionId txid) = .ok txid) ∧
    (∀ s txid, parseTransactionId s = .ok txid → formatTransactionId txid = s) ∧
    (∀ txid rest, parseHexTxidPrefix (formatTransactionId txid ++ rest) = some txid) ∧
    (∀ message : String,
      (¬ ∃ s, IdText s ∧ s.toUTF8.toList = message.toUTF8.toList.take 32) →
        parseHexTxidPrefix message = none) := by
  refine ⟨fun s => parseTransactionId_ok_iff, parseTransactionId_format,
    fun s txid => format_of_parseTransactionId, fun txid rest => ?_, fun message hno => ?_⟩
  · exact parseHexTxidPrefix_eq_some_iff.2 (take_utf8_append txid rest).symm
  · cases hparse : parseHexTxidPrefix message with
    | none => rfl
    | some txid =>
      exact absurd ⟨_, idText_formatTransactionId txid, parseHexTxidPrefix_eq_some_iff.1 hparse⟩ hno

end Handling

end Transfer

end Xacpp
