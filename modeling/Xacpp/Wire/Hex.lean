import Mathlib.Data.Vector.Basic
import Xacpp.Wire.Fetch
/-!
# Transaction ids as text

`parseTransactionId` and `formatTransactionId` are inverse to each other:
an id is the text of one string only, and the texts are the strings of 32
lowercase hex digits (`IdText`).
-/

namespace Xacpp

/-- The text of a transaction id: 32 characters from `0-9a-f`. -/
def IdText (s : String) : Prop :=
  s.toList.length = 32 ∧ ∀ c ∈ s.toList, c ∈ "0123456789abcdef".toList

instance (s : String) : Decidable (IdText s) :=
  have := List.decidableBAll (fun c => c ∈ "0123456789abcdef".toList) s.toList
  inferInstanceAs (Decidable (_ ∧ _))

/-! ## One digit -/

variable {c : Char} {n : ℕ}

theorem char_le_iff {a b : Char} : a ≤ b ↔ a.toNat ≤ b.toNat := Iff.rfl

theorem isLowerHex_iff :
    isLowerHex c = true ↔ (48 ≤ c.toNat ∧ c.toNat ≤ 57) ∨ (97 ≤ c.toNat ∧ c.toNat ≤ 102) := by
  rw [isLowerHex, decide_eq_true_iff, char_le_iff, char_le_iff, char_le_iff, char_le_iff]
  rfl

/-- A value is read as it was written, from one of the sixteen digits. -/
theorem hexChar_spec : ∀ n < 16, hexValue (hexChar n) = n ∧
    hexChar n ∈ "0123456789abcdef".toList ∧ isLowerHex (hexChar n) = true := by decide

/-- **A digit is written as it was read.** -/
theorem hexChar_hexValue (h : isLowerHex c = true) :
    hexValue c < 16 ∧ hexChar (hexValue c) = c := by
  have hzero : '0'.toNat = 48 := rfl
  have hten : 'a'.toNat = 97 := rfl
  rw [isLowerHex_iff] at h
  unfold hexValue
  by_cases hdigit : c ≤ '9'
  · rw [if_pos hdigit]
    have hle : c.toNat ≤ 57 := char_le_iff.1 hdigit
    refine ⟨by omega, ?_⟩
    rw [hexChar, if_pos (by omega), show '0'.toNat + (c.toNat - '0'.toNat) = c.toNat by omega]
    exact c.ofNat_toNat
  · rw [if_neg hdigit]
    have hgt : ¬ c.toNat ≤ 57 := fun hle => hdigit (char_le_iff.2 hle)
    refine ⟨by omega, ?_⟩
    rw [hexChar, if_neg (by omega),
      show 'a'.toNat + (c.toNat - 'a'.toNat + 10 - 10) = c.toNat by omega]
    exact c.ofNat_toNat

/-- The sixteen digits, listed. -/
theorem isLowerHex_iff_mem : isLowerHex c = true ↔ c ∈ "0123456789abcdef".toList := by
  constructor
  · intro h
    obtain ⟨hlt, hback⟩ := hexChar_hexValue h
    rw [← hback]
    exact (hexChar_spec _ hlt).2.1
  · intro h
    have hall : "0123456789abcdef".toList.all isLowerHex = true := by decide +kernel
    exact List.all_eq_true.1 hall c h

/-! ## Pairs of digits -/

/-- The two digits of a byte. -/
def hexPair (b : UInt8) : List Char := [hexChar (b.toNat / 16), hexChar (b.toNat % 16)]

theorem formatTransactionId_eq (txid : TxId) :
    formatTransactionId txid = String.ofList (txid.toList.flatMap hexPair) := rfl

theorem isLowerHex_of_mem_flatMap {l : Bytes} (h : c ∈ l.flatMap hexPair) :
    isLowerHex c = true := by
  obtain ⟨b, -, hc⟩ := List.mem_flatMap.1 h
  have hlt := b.toNat_lt
  rcases List.mem_cons.1 hc with rfl | hc
  · exact (hexChar_spec _ (by omega)).2.2
  · rw [List.mem_singleton.1 hc]
    exact (hexChar_spec _ (by omega)).2.2

/-- The byte two digits spell. -/
theorem hexByte_zero (hi lo : Char) (rest : List Char) :
    hexByte (hi :: lo :: rest) 0 = UInt8.ofNat (hexValue hi * 16 + hexValue lo) := rfl

theorem hexByte_hexPair (b : UInt8) (rest : List Char) : hexByte (hexPair b ++ rest) 0 = b := by
  have hlt := b.toNat_lt
  rw [hexPair, List.cons_append, List.cons_append, hexByte_zero,
    (hexChar_spec _ (by omega)).1, (hexChar_spec _ (by omega)).1, Nat.div_add_mod']
  exact UInt8.ofNat_toNat

/-- **Bytes read back from their digits.** -/
theorem ofFn_hexByte_flatMap {k : ℕ} {l : Bytes} (hlen : l.length = k) :
    (List.ofFn fun i : Fin k => hexByte (l.flatMap hexPair) i) = l := by
  subst hlen
  induction l with
  | nil => rfl
  | cons b l ih =>
    rw [List.flatMap_cons]
    refine List.ofFn_succ.trans ?_
    rw [Fin.val_zero, hexByte_hexPair]
    congr 1

/-- **Digits are written as they were read.** -/
theorem flatMap_ofFn_hexByte {k : ℕ} {digits : List Char} (hlen : digits.length = 2 * k)
    (hhex : ∀ c ∈ digits, isLowerHex c = true) :
    (List.ofFn fun i : Fin k => hexByte digits i).flatMap hexPair = digits := by
  -- two digits go with each byte
  induction k generalizing digits with
  | zero => rw [List.length_eq_zero_iff.1 hlen]; rfl
  | succ k ih =>
    cases digits with
    | nil => cases hlen
    | cons hi digits =>
      cases digits with
      | nil =>
        rw [List.length_singleton] at hlen
        omega
      | cons lo rest =>
        have hrest : rest.length = 2 * k := by
          rw [List.length_cons, List.length_cons] at hlen
          omega
        obtain ⟨hhi, hhi'⟩ := hexChar_hexValue (hhex hi (by simp))
        obtain ⟨hlo, hlo'⟩ := hexChar_hexValue (hhex lo (by simp))
        have hbyte : (UInt8.ofNat (hexValue hi * 16 + hexValue lo)).toNat =
            hexValue hi * 16 + hexValue lo := UInt8.toNat_ofNat_of_lt' (by
          have : UInt8.size = 256 := rfl
          omega)
        have hpair : hexPair (hexByte (hi :: lo :: rest) 0) = [hi, lo] := by
          rw [hexByte_zero, hexPair, hbyte,
            show (hexValue hi * 16 + hexValue lo) / 16 = hexValue hi by omega,
            show (hexValue hi * 16 + hexValue lo) % 16 = hexValue lo by omega, hhi', hlo']
        have htail := ih hrest fun c hc =>
          hhex c (List.mem_cons_of_mem _ (List.mem_cons_of_mem _ hc))
        have hhead : (List.ofFn fun i : Fin (k + 1) => hexByte (hi :: lo :: rest) i) =
            hexByte (hi :: lo :: rest) 0 :: List.ofFn fun i : Fin k => hexByte rest i :=
          List.ofFn_succ
        rw [hhead, List.flatMap_cons, hpair, htail]
        rfl

/-! ## Ids -/

variable {s : String} {txid : TxId}

theorem idText_iff :
    IdText s ↔ s.toList.length = 32 ∧ s.toList.all isLowerHex = true := by
  rw [IdText, List.all_eq_true]
  constructor
  · rintro ⟨hlen, hmem⟩
    exact ⟨hlen, fun c hc => isLowerHex_iff_mem.2 (hmem c hc)⟩
  · rintro ⟨hlen, hhex⟩
    exact ⟨hlen, fun c hc => isLowerHex_iff_mem.1 (hhex c hc)⟩

theorem idText_formatTransactionId (txid : TxId) : IdText (formatTransactionId txid) := by
  rw [idText_iff, formatTransactionId_eq, String.toList_ofList,
    length_flatMap_const (n := 2) (f := hexPair) fun _ => rfl, txid.toList_length]
  exact ⟨rfl, List.all_eq_true.2 fun c hc => isLowerHex_of_mem_flatMap hc⟩

/-- The parser accepts the texts of ids and nothing else. -/
theorem parseTransactionId_ok_iff : (∃ txid, parseTransactionId s = .ok txid) ↔ IdText s := by
  rw [idText_iff, parseTransactionId]
  by_cases h : s.toList.length = 32 ∧ s.toList.all isLowerHex = true
  · rw [if_pos h]
    exact iff_of_true ⟨_, rfl⟩ h
  · rw [if_neg h]
    exact iff_of_false (fun ⟨_, hok⟩ => by cases hok) h

/-- Neither the hyphenated form of an id nor uppercase digits. -/
example : ¬ IdText "00000000-0000-0000-0000-000000000007" ∧
    ¬ IdText "AB0000000000000000000000000000EF" := by decide +kernel

/-- **A formatted id parses to itself.** -/
theorem parseTransactionId_format (txid : TxId) :
    parseTransactionId (formatTransactionId txid) = .ok txid := by
  rw [parseTransactionId, if_pos (idText_iff.1 (idText_formatTransactionId txid)),
    formatTransactionId_eq, String.toList_ofList]
  congr 1
  refine List.Vector.eq _ _ ?_
  rw [List.Vector.toList_ofFn]
  exact ofFn_hexByte_flatMap txid.toList_length

/-- **A parsed text is the text of its id.** -/
theorem format_of_parseTransactionId (h : parseTransactionId s = .ok txid) :
    formatTransactionId txid = s := by
  obtain ⟨hlen, hhex⟩ := idText_iff.1 (parseTransactionId_ok_iff.1 ⟨txid, h⟩)
  rw [parseTransactionId, if_pos ⟨hlen, hhex⟩] at h
  cases h
  rw [formatTransactionId_eq, List.Vector.toList_ofFn,
    flatMap_ofFn_hexByte hlen (List.all_eq_true.1 hhex), String.ofList_toList]

end Xacpp
