import Xacpp.Common.Search
import Xacpp.Wire.Frame
/-!
# The frame codec

`Frame.encode` and the incremental `FrameDecoder` for byte streams. The
decoder scans for the magic, validates the 36-byte header behind it, and
then takes as many bytes as the header declares; a rejected header or a
checksum that does not match is fatal and drains it. The checksum is a
parameter: all that is used of it is that it is a function of the bytes.
`crc32IsoHdlc` is the one the wire format names.
-/

namespace Xacpp

/-- Frame magic: ASCII `XACP`. -/
def magic : Bytes := [0x58, 0x41, 0x43, 0x50]

def versionMajor : UInt8 := 1

def versionMinor : UInt8 := 2

/-- Fixed header size. -/
def headerLen : ℕ := 36

/-- Checksum trailer size. -/
def crcLen : ℕ := 4

def frameOverhead : ℕ := headerLen + crcLen

def maxControlFrameLen : ℕ := 16 * 1024

def maxDataJsonFrameLen : ℕ := 1024 * 1024

def maxDataBinaryFrameLen : ℕ := 16 * 1024 * 1024

/-- Cap on the wire size of a frame of any type. -/
def maxDecodeTotalCap : ℕ := 64 * 1024 * 1024

namespace FrameType

/-- The value on the wire. -/
def toU16 : FrameType → UInt16
  | negotiate => 0x0001
  | ack => 0x0002
  | nack => 0x0003
  | resume => 0x0004
  | resumeResponse => 0x0008
  | heartbeat => 0x0005
  | error => 0x0006
  | transactionPause => 0x0009
  | transactionAbort => 0x000A
  | transactionCompleted => 0x000B
  | securityUpgrade => 0x0007
  | dataJson => 0x1001
  | dataBinary => 0x1002
  | unknown v => v

/-- Classify a value of the wire. -/
def fromU16 (v : UInt16) : FrameType :=
  match v with
  | 0x0001 => negotiate
  | 0x0002 => ack
  | 0x0003 => nack
  | 0x0004 => resume
  | 0x0008 => resumeResponse
  | 0x0005 => heartbeat
  | 0x0006 => error
  | 0x0009 => transactionPause
  | 0x000A => transactionAbort
  | 0x000B => transactionCompleted
  | 0x0007 => securityUpgrade
  | 0x1001 => dataJson
  | 0x1002 => dataBinary
  | other => unknown other

/-- Payload limit of the frame class; none for unknown types. -/
def maxFrameLen : FrameType → Option ℕ
  | negotiate | ack | nack | resume | resumeResponse | heartbeat | error | transactionPause
  | transactionAbort | transactionCompleted | securityUpgrade => some maxControlFrameLen
  | dataJson => some maxDataJsonFrameLen
  | dataBinary => some maxDataBinaryFrameLen
  | unknown _ => none

end FrameType

/-- Frame codec error. -/
inductive FrameError
  | versionMismatch (got expected : UInt8)
  | frameTooLarge (frameType : FrameType) (max actual : ℕ)
  | crcMismatch (expected actual : UInt32)
  | fieldLength (expected actual : ℕ)
deriving DecidableEq

/-- One byte of a CRC-32/ISO-HDLC register, reflected. -/
def crcByte (crc : UInt32) (byte : UInt8) : UInt32 :=
  (List.range 8).foldl (fun crc _ => if crc &&& 1 = 1 then crc >>> 1 ^^^ 0xEDB88320 else crc >>> 1)
    (crc ^^^ byte.toUInt32)

/-- Standard CRC-32/ISO-HDLC. -/
def crc32IsoHdlc (bytes : Bytes) : UInt32 := ~~~ bytes.foldl crcByte 0xFFFFFFFF

/-- The interop anchor: the checksum of the ASCII digits 1 to 9. -/
example : crc32IsoHdlc [0x31, 0x32, 0x33, 0x34, 0x35, 0x36, 0x37, 0x38, 0x39] = 0xCBF43926 := by
  decide +kernel

/-- The fixed header. -/
def writeHeader (frameType : FrameType) (transactionId : TxId) (totalLen seq : UInt32)
    (frameLen : ℕ) : Bytes :=
  magic ++ (versionMajor :: versionMinor :: (toBE 2 frameType.toU16.toNat ++
    (transactionId.toList ++ (toBE 4 totalLen.toNat ++ (toBE 4 seq.toNat ++
      toBE 4 (UInt32.ofNat frameLen).toNat)))))

/-- The header of a frame. -/
def Frame.header (frame : Frame) : Bytes :=
  writeHeader frame.frameType frame.transactionId frame.totalLen frame.seq frame.payload.length

/-- Encode the full frame: header, payload, checksum trailer. -/
def Frame.encode (crc32 : Bytes → UInt32) (frame : Frame) : Except FrameError Bytes :=
  let max := frame.frameType.maxFrameLen.getD (maxDecodeTotalCap - frameOverhead)
  if frame.payload.length > max then
    .error (.frameTooLarge frame.frameType max frame.payload.length)
  else
    let out := frame.header ++ frame.payload
    .ok (out ++ toBE 4 (crc32 out).toNat)

/-- What a validated header says. -/
structure HeaderInfo where
  frameType : FrameType
  transactionId : TxId
  totalLen : UInt32
  seq : UInt32
  frameLen : ℕ
deriving DecidableEq

/-- The limit on a declared payload: a known type has its own, the others
share the cap on the whole frame. -/
def checkFrameLen (frameType : FrameType) (frameLen : ℕ) : Except FrameError Unit :=
  match frameType.maxFrameLen with
  | some max => if frameLen > max then .error (.frameTooLarge frameType max frameLen) else .ok ()
  | none =>
    if frameOverhead + frameLen > maxDecodeTotalCap then
      .error (.frameTooLarge frameType (maxDecodeTotalCap - frameOverhead) frameLen)
    else .ok ()

/-- Validate a fully buffered header. -/
def checkHeader (hdr : Bytes) : Except FrameError HeaderInfo :=
  let major := hdr.getD 4 0
  if major ≠ versionMajor then .error (.versionMismatch major versionMajor)
  else do
    let frameType := FrameType.fromU16 (UInt16.ofNat (fromBE ((hdr.drop 6).take 2)))
    let frameLen := fromBE ((hdr.drop 32).take 4)
    checkFrameLen frameType frameLen
    let id := (hdr.drop 8).take 16
    if h : id.length = 16 then
      .ok ⟨frameType, ⟨id, h⟩, UInt32.ofNat (fromBE ((hdr.drop 24).take 4)),
        UInt32.ofNat (fromBE ((hdr.drop 28).take 4)), frameLen⟩
    else .error (.fieldLength 16 id.length)

/-- Decoder internal state. -/
inductive DecoderState
  /-- Scanning for a magic candidate. -/
  | sync
  /-- Header validated; accumulating payload and trailer. -/
  | body (header : Bytes) (info : HeaderInfo)
deriving DecidableEq

/-- Incremental frame decoder. -/
structure FrameDecoder where
  buf : Bytes
  state : DecoderState
deriving DecidableEq

namespace FrameDecoder

def new : FrameDecoder := ⟨[], .sync⟩

variable (d : FrameDecoder)

/-- `Sync`: find a magic candidate, validate its header. -/
def progressSync : Except FrameError Bool × FrameDecoder :=
  match position magic d.buf with
  | none =>
    -- a magic may have begun in the last three bytes
    let keep := min d.buf.length (magic.length - 1)
    (.ok false, { d with buf := d.buf.drop (d.buf.length - keep) })
  | some pos =>
    let buf := d.buf.drop pos
    if buf.length < headerLen then (.ok false, { d with buf := buf })
    else
      match checkHeader (buf.take headerLen) with
      | .error e => (.error e, ⟨[], .sync⟩)
      | .ok info => (.ok true, ⟨buf.drop headerLen, .body (buf.take headerLen) info⟩)

/-- `Body`: wait for payload and trailer, verify, emit the frame. -/
def progressBody (crc32 : Bytes → UInt32) (header : Bytes) (info : HeaderInfo)
    (frames : List Frame) : Except FrameError Bool × FrameDecoder × List Frame :=
  let need := info.frameLen + crcLen
  if d.buf.length < need then (.ok false, d, frames)
  else
    let payload := d.buf.take info.frameLen
    let actual := crc32 (header ++ payload)
    let expected := UInt32.ofNat (fromBE ((d.buf.drop info.frameLen).take 4))
    if actual ≠ expected then (.error (.crcMismatch expected actual), ⟨[], .sync⟩, frames)
    else
      (.ok true, ⟨d.buf.drop need, .sync⟩,
        frames ++ [⟨info.frameType, info.transactionId, info.totalLen, info.seq, payload⟩])

/-- One step of the state machine; `false` asks for more input. -/
def progress (crc32 : Bytes → UInt32) (frames : List Frame) :
    Except FrameError Bool × FrameDecoder × List Frame :=
  match d.state with
  | .sync => (d.progressSync.1, d.progressSync.2, frames)
  | .body header info => d.progressBody crc32 header info frames

/-- The loop of `feed`. -/
def feedLoop (crc32 : Bytes → UInt32) :
    ℕ → FrameDecoder → List Frame → Except FrameError (List Frame) × FrameDecoder
  | 0, d, frames => (.ok frames, d)
  | fuel + 1, d, frames =>
    match d.progress crc32 frames with
    -- the frames collected so far are lost with the error
    | (.error e, d, _) => (.error e, d)
    | (.ok false, d, frames) => (.ok frames, d)
    | (.ok true, d, frames) => feedLoop crc32 fuel d frames

/-- The decoder with more bytes in its buffer. -/
def extend (chunk : Bytes) : FrameDecoder := { d with buf := d.buf ++ chunk }

/-- Consume a chunk. Every step that goes on takes bytes out of the buffer,
so its length bounds them. -/
def feed (crc32 : Bytes → UInt32) (chunk : Bytes) : Except FrameError (List Frame) × FrameDecoder :=
  feedLoop crc32 ((d.extend chunk).buf.length + 1) (d.extend chunk) []

/-- Feed chunks one by one, up to the first that fails: the frames the calls
before it returned, its error if there is one, and the decoder left. -/
def feedAll (crc32 : Bytes → UInt32) :
    FrameDecoder → List Bytes → List Frame × Option FrameError × FrameDecoder
  | d, [] => ([], none, d)
  | d, chunk :: rest =>
    match d.feed crc32 chunk with
    | (.error e, d) => ([], some e, d)
    | (.ok frames, d) =>
      let (more, failure, d) := feedAll crc32 d rest
      (frames ++ more, failure, d)

end FrameDecoder

end Xacpp
