import Libbgp.PathAttrib

namespace Libbgp

/-!
# Parsing one path attribute

`BgpUpdateMessage::parse` reads an attribute's type code with
`GetTypeFromBuffer`, creates an object of the class for it and calls the
object's `parse(buffer, length)`, where `buffer` is the attribute's first
byte and `length` what is left of the attribute section.  Every parser
begins with `parseHeader`, which reads the flags, the type code and a
one-byte length, and returns `2`; every parser then goes on only when that
call returned `3`.  So no attribute parser of the sources ever returns a
count: each returns `-1` right after the header, having set no error of its
own unless `parseHeader` did.  The code after that check is modelled as it
stands, and the parsers whose bodies are not among the sources follow the
same pattern (spec §4.1 and its open question (iii)).

A parser's buffer runs from the attribute's first byte to the end of the
message, so a read that stays in the message but passes `length` is not an
overread here.
-/

/-- The members `parseHeader` sets: the flags byte (as the four flag
members), the type code, and the one-byte `value_len`. -/
structure AttribHeader where
  flags : UInt8
  typeCode : UInt8
  valueLen : Nat
  deriving DecidableEq, Repr

namespace AttribHeader

def optional (header : AttribHeader) : Bool := (header.flags >>> 7) &&& 1 == 1
def transitive (header : AttribHeader) : Bool := (header.flags >>> 6) &&& 1 == 1
def partialBit (header : AttribHeader) : Bool := (header.flags >>> 5) &&& 1 == 1
def extended (header : AttribHeader) : Bool := (header.flags >>> 4) &&& 1 == 1

/-- The parsed object: the header's members and the class's `body`. -/
def attrib (header : AttribHeader) (body : AttribBody) : BgpPathAttrib :=
  ⟨header.optional, header.transitive, header.partialBit, header.extended, header.typeCode, body⟩

end AttribHeader

/-- `BgpPathAttrib::parseHeader(from, buffer_sz)`: the header and the value
it returns, which is `2`. -/
def parseHeader (buf : List UInt8) (bufferSz : Nat) : Parse (AttribHeader × Nat) := do
  failIf (bufferSz < 3) (.update eUnspecUpdate)
  let flags <- readByte buf 0
  let typeCode <- readByte buf 1
  let valueLen <- readByte buf 2
  failIf (valueLen.toNat > bufferSz - 3) (.update eUnspecUpdate)
  pure (⟨flags, typeCode, valueLen.toNat⟩, 2)

theorem parseHeader_consumed {buf : List UInt8} {bufferSz : Nat} {header : AttribHeader}
    {consumed : Nat} (parsed : parseHeader buf bufferSz = .ok (header, consumed)) :
    consumed = 2 := by
  simp only [parseHeader, failIf, bind_eq_ok] at parsed
  obtain ⟨_, -, _, -, _, -, _, -, _, -, last⟩ := parsed
  exact (Prod.mk.inj (Except.ok.inj last)).2.symm

theorem parseHeader_completes {buf : List UInt8} {bufferSz : Nat} (fits : bufferSz <= buf.length) :
    Completes (fun _ => True) (parseHeader buf bufferSz) := by
  unfold parseHeader
  refine completes_failIf_bind fun _ => ?_
  simp only [readByte_of_lt (show 0 < buf.length by omega),
    readByte_of_lt (show 1 < buf.length by omega), readByte_of_lt (show 2 < buf.length by omega),
    ok_bind]
  exact completes_failIf_bind fun _ => trivial

/-- `BgpPathAttrib::GetTypeFromBuffer(buffer, buffer_sz)`, the body the
sources give as `getType`: the second byte as an `int8_t`, so a type code
of 128 or more comes out negative. -/
def getTypeFromBuffer (buf : List UInt8) (bufferSz : Nat) : Parse Int := do
  if bufferSz < 3 then pure (-1) else do
    let byte <- readByte buf 1
    pure (if byte.toNat < 128 then byte.toNat else byte.toNat - 256)

theorem getTypeFromBuffer_completes {buf : List UInt8} {bufferSz : Nat}
    (fits : bufferSz <= buf.length) : Completes (fun _ => True) (getTypeFromBuffer buf bufferSz) := by
  unfold getTypeFromBuffer
  split
  · trivial
  · exact completes_bind (readByte_completes (by omega)) fun _ _ => trivial

/-- `BgpPathAttribOrigin::parse`. -/
def BgpPathAttribOrigin.parse (buf : List UInt8) (length : Nat) :
    Parse (BgpPathAttrib × Nat) := do
  let (header, consumed) <- parseHeader buf length
  failIf (consumed ≠ 3) .none
  failIf (header.valueLen < 1) (.update eUnspecUpdate)
  if header.valueLen != 1 then fail ⟨eUpdate, eAttrLen, <- readBytes buf 0 4⟩
  if header.optional || !header.transitive then fail ⟨eUpdate, eAttrFlag, <- readBytes buf 0 4⟩
  let origin <- readByte buf 3
  if origin > 2 then fail ⟨eUpdate, eOrigin, <- readBytes buf 0 4⟩
  pure (header.attrib (.origin origin), 4)

/-- `BgpPathAttribUnknow::parse`, the parser of the base class: it keeps the
raw value and returns the whole `length` it was given. -/
def BgpPathAttribUnknow.parse (buf : List UInt8) (length : Nat) :
    Parse (BgpPathAttrib × Nat) := do
  let (header, consumed) <- parseHeader buf length
  failIf (consumed ≠ 3) .none
  if !header.optional && header.transitive then
    fail ⟨eUpdate, eBadWellKnown, <- readBytes buf 0 (header.valueLen + 3)⟩
  let value <- readBytes buf 3 header.valueLen
  pure (header.attrib (.unknown value), length)

/-- The ASNs of one AS_PATH segment, each read by `getValue<uint32_t>` or
`getValue<uint16_t>` in host order. -/
def readAsns (is4b : Bool) (buf : List UInt8) (offset : Nat) : Nat -> Parse (List UInt32)
  | 0 => pure []
  | count + 1 => do
      let width := if is4b then 4 else 2
      let bytes <- readBytes buf offset width
      let rest <- readAsns is4b buf (offset + width) count
      pure (UInt32.ofNat (hostValue bytes) :: rest)

/-- The segment loop of `BgpPathAttribAsPath::parse`.  `offset` is where the
cursor is, `parsed` is `parsed_len`, an `uint8_t`, and so is `asns_length`,
the byte count of a segment's ASNs as the loop computes it; the cursor moves
by the ASNs actually read. -/
def parseSegments (is4b : Bool) (buf : List UInt8) (valueLen : Nat) :
    Nat -> Nat -> Nat -> Parse (List BgpAsPathSegment × Nat)
  | 0, _, parsed => if parsed < valueLen then throw .diverges else pure ([], parsed)
  | fuel + 1, offset, parsed =>
      if parsed < valueLen then do
        failIf (valueLen - parsed < 3) (.update eAsPath)
        let type <- readByte buf offset
        let nAsn <- readByte buf (offset + 1)
        let width := if is4b then 4 else 2
        let parsed := (parsed + 2) % 256
        let asnsLength := nAsn.toNat * width % 256
        failIf (parsed + asnsLength > valueLen) (.update eAsPath)
        let values <- readAsns is4b buf (offset + 2) nAsn.toNat
        let (rest, parsedEnd) <- parseSegments is4b buf valueLen fuel
          (offset + 2 + nAsn.toNat * width) ((parsed + asnsLength) % 256)
        pure (⟨is4b, type, values⟩ :: rest, parsedEnd)
      else pure ([], parsed)

/-- `BgpPathAttribAsPath::parse` for a path of width `is4b`.  The segment
loop takes at most `value_len` rounds, each reading two bytes or more. -/
def BgpPathAttribAsPath.parse (is4b : Bool) (buf : List UInt8) (length : Nat) :
    Parse (BgpPathAttrib × Nat) := do
  let (header, consumed) <- parseHeader buf length
  failIf (consumed ≠ 3) .none
  if header.optional || !header.transitive then fail ⟨eUpdate, eAttrFlag, <- readBytes buf 0 4⟩
  if header.valueLen = 0 then return (header.attrib (.asPath is4b []), 3)
  let (segs, parsedLen) <- parseSegments is4b buf header.valueLen header.valueLen 3 0
  assert (parsedLen = header.valueLen)
  pure (header.attrib (.asPath is4b segs), parsedLen + 3)

/-- A four-octet AS_SEQUENCE declaring 64 ASNs in a value of three bytes,
in a buffer that holds exactly the attribute.  `asns_length` is
`64 * 4 = 256` in an `uint8_t`, that is `0`, so the overflow check passes and
the loop goes on to read the 256 bytes of ASNs, past the value's end and
past the buffer's, where `E_AS_PATH` was due. -/
theorem parseSegments_reads_past_value :
    parseSegments true [64, 2, 3, 2, 64, 0] 3 3 3 0 = .error .overread :=
  rfl

/-- Modelled from the spec: the parsers of NEXT_HOP, MULTI_EXIT_DISC,
LOCAL_PREF, ATOMIC_AGGREGATE, AGGREGATOR, COMMUNITY and AS4_AGGREGATOR,
whose bodies are not among the sources.  Like the parsers that are, each
reads the header with `parseHeader` and goes on only when it returns `3`
(spec §4.1, open question (iii)); it then checks the value's length and the
flag pattern of its type, echoing the header (spec §4.1), and reads the
value. -/
def parseFixed (optional transitive : Bool) (valueLen : Nat) (build : List UInt8 -> AttribBody)
    (buf : List UInt8) (length : Nat) : Parse (BgpPathAttrib × Nat) := do
  let (header, consumed) <- parseHeader buf length
  failIf (consumed ≠ 3) .none
  if header.valueLen != valueLen then fail ⟨eUpdate, eAttrLen, <- readBytes buf 0 3⟩
  if header.optional != optional || header.transitive != transitive then
    fail ⟨eUpdate, eAttrFlag, <- readBytes buf 0 3⟩
  let value <- readBytes buf 3 valueLen
  pure (header.attrib (build value), valueLen + 3)

/-- Modelled from the spec: `BgpPathAttribAs4Path::parse`, not among the
sources.  AS4_PATH is optional transitive and always four-octet (spec §3);
its segments are read as `BgpPathAttribAsPath::parse` reads them. -/
def BgpPathAttribAs4Path.parse (buf : List UInt8) (length : Nat) :
    Parse (BgpPathAttrib × Nat) := do
  let (header, consumed) <- parseHeader buf length
  failIf (consumed ≠ 3) .none
  if !header.optional || !header.transitive then fail ⟨eUpdate, eAttrFlag, <- readBytes buf 0 3⟩
  let (segs, parsedLen) <- parseSegments true buf header.valueLen header.valueLen 3 0
  assert (parsedLen = header.valueLen)
  pure (header.attrib (.as4Path segs), parsedLen + 3)

/-- The `switch` of `BgpUpdateMessage::parse` on the type code it read, and
the `parse` of the object it creates. -/
def parseAttrib (attrType : UInt8) (use4bAsn : Bool) (buf : List UInt8) (length : Nat) :
    Parse (BgpPathAttrib × Nat) :=
  let word (bytes : List UInt8) : UInt32 := UInt32.ofNat (hostValue bytes)
  open BgpPathAttribType in
  if attrType = origin then BgpPathAttribOrigin.parse buf length
  else if attrType = asPath then BgpPathAttribAsPath.parse use4bAsn buf length
  else if attrType = nextHop then
    parseFixed false true 4 (fun value => .nexthop (word value)) buf length
  else if attrType = multiExitDisc then
    parseFixed true false 4 (fun value => .med (word value)) buf length
  else if attrType = localPref then
    parseFixed false true 4 (fun value => .localPref (word value)) buf length
  else if attrType = atomicAggregate then
    parseFixed false true 0 (fun _ => .atomicAggregate) buf length
  else if attrType = aggreator then
    let asnBytes := if use4bAsn then 4 else 2
    parseFixed true true (asnBytes + 4)
      (fun value => .aggregator use4bAsn (word (value.drop asnBytes)) (word (value.take asnBytes)))
      buf length
  else if attrType = community then
    parseFixed true true 4 (fun value => .community (word value)) buf length
  else if attrType = as4Path then BgpPathAttribAs4Path.parse buf length
  else if attrType = as4Aggregator then
    parseFixed true true 8
      (fun value => .as4Aggregator (word (value.drop 4)) (word (value.take 4))) buf length
  else BgpPathAttribUnknow.parse buf length

/-! ## No parser gets past the header -/

theorem parseHeader_bind_eq {α : Type} {buf : List UInt8} {length : Nat}
    {rest : AttribHeader × Nat -> Parse α} (stops : ∀ header, rest (header, 2) = fail .none) :
    (parseHeader buf length >>= rest) = (parseHeader buf length >>= fun _ => fail .none) := by
  rcases parsed : parseHeader buf length with stop | ⟨header, consumed⟩
  · rfl
  · rw [parseHeader_consumed parsed]; exact stops header

theorem BgpPathAttribOrigin.parse_eq (buf : List UInt8) (length : Nat) :
    BgpPathAttribOrigin.parse buf length = (parseHeader buf length >>= fun _ => fail .none) :=
  parseHeader_bind_eq fun _ => rfl

theorem BgpPathAttribUnknow.parse_eq (buf : List UInt8) (length : Nat) :
    BgpPathAttribUnknow.parse buf length = (parseHeader buf length >>= fun _ => fail .none) :=
  parseHeader_bind_eq fun _ => rfl

theorem BgpPathAttribAsPath.parse_eq (is4b : Bool) (buf : List UInt8) (length : Nat) :
    BgpPathAttribAsPath.parse is4b buf length = (parseHeader buf length >>= fun _ => fail .none) :=
  parseHeader_bind_eq fun _ => rfl

theorem parseFixed_eq (optional transitive : Bool) (valueLen : Nat)
    (build : List UInt8 -> AttribBody) (buf : List UInt8) (length : Nat) :
    parseFixed optional transitive valueLen build buf length =
      (parseHeader buf length >>= fun _ => fail .none) :=
  parseHeader_bind_eq fun _ => rfl

theorem BgpPathAttribAs4Path.parse_eq (buf : List UInt8) (length : Nat) :
    BgpPathAttribAs4Path.parse buf length = (parseHeader buf length >>= fun _ => fail .none) :=
  parseHeader_bind_eq fun _ => rfl

/-- Whatever the type code, the attribute parse fails right after the
header. -/
theorem parseAttrib_eq (attrType : UInt8) (use4bAsn : Bool) (buf : List UInt8) (length : Nat) :
    parseAttrib attrType use4bAsn buf length = (parseHeader buf length >>= fun _ => fail .none) := by
  unfold parseAttrib
  simp only [BgpPathAttribOrigin.parse_eq, BgpPathAttribUnknow.parse_eq,
    BgpPathAttribAsPath.parse_eq, parseFixed_eq, BgpPathAttribAs4Path.parse_eq, ite_self]

theorem parseAttrib_ne_ok (attrType : UInt8) (use4bAsn : Bool) (buf : List UInt8) (length : Nat)
    (result : BgpPathAttrib × Nat) : parseAttrib attrType use4bAsn buf length ≠ .ok result := by
  rw [parseAttrib_eq]
  rcases parseHeader buf length with stop | header <;> simp

/-- On `length` bytes of its buffer the attribute parse reads no byte past
it, ends, and returns no count at all. -/
theorem parseAttrib_completes (attrType : UInt8) (use4bAsn : Bool) {buf : List UInt8}
    {length : Nat} (post : BgpPathAttrib × Nat -> Prop) (fits : length <= buf.length) :
    Completes post (parseAttrib attrType use4bAsn buf length) := by
  rw [parseAttrib_eq]
  exact completes_bind (parseHeader_completes fits) (fun _ _ => completes_fail _)

end Libbgp
