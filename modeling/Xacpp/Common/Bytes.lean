import Mathlib.Data.List.Basic
import Mathlib.Tactic.Ring
/-!
# Byte strings

Big-endian integers of any width and the cutting of a byte string into
chunks of one size, with the facts a decoder rests on: reading back the
bytes of a number and writing back a number that was read (`fromBE_toBE`,
`toBE_fromBE`), and cutting a concatenation of blocks of the chunk size
back into its blocks (`chunksExact_flatMap`). A framing loop rests on the
converse: the chunks and the remainder together are the string
(`flatten_chunksExact`).
-/

namespace Xacpp

/-- A byte string. -/
abbrev Bytes := List UInt8

/-- The `w` low-order bytes of `n`, most significant first. -/
def toBE : ℕ → ℕ → Bytes
  | 0, _ => []
  | w + 1, n => UInt8.ofNat (n / 256 ^ w) :: toBE w n

/-- The number a byte string spells, most significant byte first. -/
def fromBE (l : Bytes) : ℕ := l.foldl (fun acc b => acc * 256 + b.toNat) 0

@[simp] theorem length_toBE (w n : ℕ) : (toBE w n).length = w := by
  induction w with
  | zero => rfl
  | succ w ih => rw [toBE, List.length_cons, ih]

/-- The accumulating form: what the bytes add to a number already read. -/
theorem foldl_toBE (w n acc : ℕ) :
    (toBE w n).foldl (fun acc b => acc * 256 + b.toNat) acc = acc * 256 ^ w + n % 256 ^ w := by
  induction w generalizing acc with
  | zero => simp [toBE, Nat.mod_one]
  | succ w ih =>
    have hbyte : (UInt8.ofNat (n / 256 ^ w)).toNat = n / 256 ^ w % 256 := UInt8.toNat_ofNat'
    have hmod : n % 256 ^ (w + 1) = n % 256 ^ w + 256 ^ w * (n / 256 ^ w % 256) := by
      rw [Nat.pow_succ, Nat.mod_mul]
    rw [toBE, List.foldl_cons, ih, hbyte, hmod]
    ring

/-- **Reading back the bytes of a number** gives it modulo the width. -/
theorem fromBE_toBE (w n : ℕ) : fromBE (toBE w n) = n % 256 ^ w := by
  rw [fromBE, foldl_toBE, Nat.zero_mul, Nat.zero_add]

theorem foldl_fromBE (l : Bytes) (acc : ℕ) :
    l.foldl (fun acc b => acc * 256 + b.toNat) acc = acc * 256 ^ l.length + fromBE l := by
  induction l generalizing acc with
  | nil => simp [fromBE]
  | cons b l ih =>
    rw [fromBE, List.foldl_cons, List.foldl_cons, ih, ih, List.length_cons]
    ring

theorem fromBE_cons (b : UInt8) (l : Bytes) :
    fromBE (b :: l) = b.toNat * 256 ^ l.length + fromBE l := by
  rw [fromBE, List.foldl_cons, foldl_fromBE, Nat.zero_mul, Nat.zero_add]

theorem fromBE_lt (l : Bytes) : fromBE l < 256 ^ l.length := by
  induction l with
  | nil => simp [fromBE]
  | cons b l ih =>
    have hb : b.toNat + 1 ≤ 256 := b.toNat_lt
    rw [fromBE_cons, List.length_cons, Nat.pow_succ]
    calc b.toNat * 256 ^ l.length + fromBE l
        < b.toNat * 256 ^ l.length + 256 ^ l.length := Nat.add_lt_add_left ih _
      _ = (b.toNat + 1) * 256 ^ l.length := by ring
      _ ≤ 256 * 256 ^ l.length := Nat.mul_le_mul_right _ hb
      _ = 256 ^ l.length * 256 := Nat.mul_comm _ _

/-- Only the low-order part is written. -/
theorem toBE_mul_add (w a n : ℕ) : toBE w (a * 256 ^ w + n) = toBE w n := by
  induction w generalizing a with
  | zero => rfl
  | succ w ih =>
    have hsplit : a * 256 ^ (w + 1) + n = a * 256 * 256 ^ w + n := by ring
    have hbyte : UInt8.ofNat ((a * 256 * 256 ^ w + n) / 256 ^ w) = UInt8.ofNat (n / 256 ^ w) := by
      rw [Nat.add_comm, Nat.add_mul_div_right _ _ (Nat.pow_pos (by decide))]
      apply UInt8.toNat_inj.1
      rw [UInt8.toNat_ofNat', UInt8.toNat_ofNat', Nat.add_mul_mod_self_right]
    rw [hsplit, toBE, toBE, ih, hbyte]

/-- **Writing back a number that was read** gives its bytes. -/
theorem toBE_fromBE (l : Bytes) : toBE l.length (fromBE l) = l := by
  induction l with
  | nil => rfl
  | cons b l ih =>
    have hpos : 0 < 256 ^ l.length := Nat.pow_pos (by decide)
    have hhead : (b.toNat * 256 ^ l.length + fromBE l) / 256 ^ l.length = b.toNat := by
      rw [Nat.add_comm, Nat.add_mul_div_right _ _ hpos, Nat.div_eq_of_lt (fromBE_lt l),
        Nat.zero_add]
    rw [fromBE_cons, List.length_cons, toBE, toBE_mul_add, ih, hhead, UInt8.ofNat_toNat]

/-- The next field of a layout begins where the last one ends. -/
theorem drop_next {l a r : Bytes} {i j : ℕ} (h : l.drop i = a ++ r) (hj : a.length = j) :
    l.drop (i + j) = r := by
  rw [← List.drop_drop, h, List.drop_left' hj]

variable {α β : Type*}

/-- The first `k` chunks of size `n`. -/
def takeChunks (n : ℕ) : ℕ → List α → List (List α)
  | 0, _ => []
  | k + 1, l => l.take n :: takeChunks n k (l.drop n)

/-- The full chunks of size `n`; a shorter remainder is dropped. -/
def chunksExact (n : ℕ) (l : List α) : List (List α) := takeChunks n (l.length / n) l

/-- What the full chunks leave over. -/
def chunksRest (n : ℕ) (l : List α) : List α := l.drop (n * (l.length / n))

theorem length_takeChunks (n k : ℕ) (l : List α) : (takeChunks n k l).length = k := by
  induction k generalizing l with
  | zero => rfl
  | succ k ih => rw [takeChunks, List.length_cons, ih]

theorem takeChunks_flatMap {n : ℕ} {f : β → List α} (hf : ∀ x, (f x).length = n) (xs : List β) :
    takeChunks n xs.length (xs.flatMap f) = xs.map f := by
  induction xs with
  | nil => rfl
  | cons x xs ih =>
    have hlen := hf x
    rw [List.length_cons, takeChunks, List.flatMap_cons, List.map_cons,
      List.take_left' hlen, List.drop_left' hlen, ih]

theorem length_flatMap_const {n : ℕ} {f : β → List α} (hf : ∀ x, (f x).length = n) (xs : List β) :
    (xs.flatMap f).length = xs.length * n := by
  induction xs with
  | nil => simp
  | cons x xs ih =>
    rw [List.flatMap_cons, List.length_append, ih, hf, List.length_cons]
    ring

/-- **A concatenation of blocks is cut back into its blocks.** -/
theorem chunksExact_flatMap {n : ℕ} (hn : 0 < n) {f : β → List α} (hf : ∀ x, (f x).length = n)
    (xs : List β) : chunksExact n (xs.flatMap f) = xs.map f := by
  rw [chunksExact, length_flatMap_const hf, Nat.mul_div_cancel _ hn, takeChunks_flatMap hf]

/-! ## Cutting and putting back together -/

theorem flatten_takeChunks (n k : ℕ) (l : List α) :
    (takeChunks n k l).flatten = l.take (n * k) := by
  induction k generalizing l with
  | zero => rw [takeChunks, Nat.mul_zero, List.take_zero, List.flatten_nil]
  | succ k ih =>
    rw [takeChunks, List.flatten_cons, ih, Nat.mul_succ, Nat.add_comm, List.take_add]

/-- **The chunks and the remainder are the string.** -/
theorem flatten_chunksExact (n : ℕ) (l : List α) :
    (chunksExact n l).flatten ++ chunksRest n l = l := by
  rw [chunksExact, flatten_takeChunks, chunksRest, List.take_append_drop]

theorem length_of_mem_takeChunks {n k : ℕ} {l c : List α} (hk : n * k ≤ l.length)
    (hc : c ∈ takeChunks n k l) : c.length = n := by
  induction k generalizing l with
  | zero => exact absurd hc List.not_mem_nil
  | succ k ih =>
    rw [Nat.mul_succ] at hk
    rcases List.mem_cons.1 hc with rfl | hc
    · rw [List.length_take]
      omega
    · exact ih (by rw [List.length_drop]; omega) hc

theorem length_of_mem_chunksExact {n : ℕ} {l c : List α} (hc : c ∈ chunksExact n l) :
    c.length = n :=
  length_of_mem_takeChunks (Nat.mul_div_le l.length n) hc

theorem chunksExact_of_lt {n : ℕ} {l : List α} (h : l.length < n) : chunksExact n l = [] := by
  rw [chunksExact, Nat.div_eq_of_lt h, takeChunks]

theorem chunksRest_of_lt {n : ℕ} {l : List α} (h : l.length < n) : chunksRest n l = l := by
  rw [chunksRest, Nat.div_eq_of_lt h, Nat.mul_zero, List.drop_zero]

theorem length_div_of_le {n : ℕ} {l : List α} (hn : 0 < n) (h : n ≤ l.length) :
    l.length / n = (l.drop n).length / n + 1 := by
  rw [List.length_drop, Nat.div_eq_sub_div hn h]

theorem chunksExact_of_le {n : ℕ} {l : List α} (hn : 0 < n) (h : n ≤ l.length) :
    chunksExact n l = l.take n :: chunksExact n (l.drop n) := by
  rw [chunksExact, length_div_of_le hn h, takeChunks, chunksExact]

theorem chunksRest_of_le {n : ℕ} {l : List α} (hn : 0 < n) (h : n ≤ l.length) :
    chunksRest n l = chunksRest n (l.drop n) := by
  rw [chunksRest, length_div_of_le hn h, chunksRest, List.drop_drop, Nat.mul_succ, Nat.add_comm]

/-- Induction along the cutting: one chunk at a time, down to a remainder. -/
theorem chunks_induct {n : ℕ} (hn : 0 < n) {P : List α → Prop}
    (hshort : ∀ l, l.length < n → P l) (hcut : ∀ l, n ≤ l.length → P (l.drop n) → P l)
    (l : List α) : P l := by
  induction hlen : l.length using Nat.strong_induction_on generalizing l with
  | _ len ih =>
    rcases Nat.lt_or_ge l.length n with hlt | hle
    · exact hshort l hlt
    · exact hcut l hle (ih (l.drop n).length (by rw [List.length_drop]; omega) _ rfl)

/-- **Cutting goes on where it stopped**: what comes later is cut together
with the remainder of what came before. -/
theorem chunksExact_append {n : ℕ} (hn : 0 < n) (l l' : List α) :
    chunksExact n (l ++ l') = chunksExact n l ++ chunksExact n (chunksRest n l ++ l') := by
  induction l using chunks_induct hn with
  | hshort l hlt => rw [chunksExact_of_lt hlt, chunksRest_of_lt hlt, List.nil_append]
  | hcut l hle ih =>
    have hle' : n ≤ (l ++ l').length := by rw [List.length_append]; omega
    rw [chunksExact_of_le hn hle', List.take_append_of_le_length hle,
      List.drop_append_of_le_length hle, ih, chunksExact_of_le hn hle, chunksRest_of_le hn hle,
      List.cons_append]

theorem chunksRest_append {n : ℕ} (hn : 0 < n) (l l' : List α) :
    chunksRest n (l ++ l') = chunksRest n (chunksRest n l ++ l') := by
  induction l using chunks_induct hn with
  | hshort l hlt => rw [chunksRest_of_lt hlt]
  | hcut l hle ih =>
    have hle' : n ≤ (l ++ l').length := by rw [List.length_append]; omega
    rw [chunksRest_of_le hn hle', List.drop_append_of_le_length hle, ih, chunksRest_of_le hn hle]

end Xacpp
