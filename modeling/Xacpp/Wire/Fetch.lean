import Xacpp.Wire.Frame
/-!
# The fetch kernel on the wire

A transaction id travels in a fetch message as 32 lowercase hex digits, two
for each of its bytes.
-/

namespace Xacpp

/-- Fetch wire error codes. -/
def fetchNotFound : String := "fetch_not_found"

def fetchRefused : String := "fetch_refused"

/-- Metadata announced by a `fetch_ready` response. -/
structure FetchReadyMeta where
  txid : TxId
  sha256 : String
  sizeBytes : ℕ
  mime : String
deriving DecidableEq

def isLowerHex (c : Char) : Bool := ('0' ≤ c ∧ c ≤ '9') ∨ ('a' ≤ c ∧ c ≤ 'f')

/-- The value of a hex digit. -/
def hexValue (c : Char) : ℕ := if c ≤ '9' then c.toNat - '0'.toNat else c.toNat - 'a'.toNat + 10

/-- The hex digit of a value below 16. -/
def hexChar (n : ℕ) : Char :=
  if n < 10 then Char.ofNat ('0'.toNat + n) else Char.ofNat ('a'.toNat + (n - 10))

/-- The `i`-th byte that a string of hex digits spells. -/
def hexByte (digits : List Char) (i : ℕ) : UInt8 :=
  UInt8.ofNat (hexValue (digits.getD (2 * i) '0') * 16 + hexValue (digits.getD (2 * i + 1) '0'))

/-- Exactly 32 lowercase hex digits; the error is the text of an internal
error. -/
def parseTransactionId (s : String) : Except String TxId :=
  if s.toList.length = 32 ∧ s.toList.all isLowerHex then
    .ok (List.Vector.ofFn fun i => hexByte s.toList i)
  else
    .error ("malformed fetch transaction id '" ++ s ++ "': expected 32 lowercase hex chars")

/-- The wire form of a transaction id. -/
def formatTransactionId (txid : TxId) : String :=
  String.ofList (txid.toList.flatMap fun b => [hexChar (b.toNat / 16), hexChar (b.toNat % 16)])

end Xacpp
