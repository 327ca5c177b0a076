import Libbgp.UpdateMessage.Attribs
import Libbgp.PathAttribParse

namespace Libbgp

/-!
# Parsing an UPDATE message

`BgpUpdateMessage::parse(from, msg_sz)` reads the three sections of an
UPDATE body: the withdrawn routes behind a two-byte length, the path
attributes behind another, and the NLRI, which take the rest.  The route
sections are read by two copies of one loop; the attribute section by a loop
that hands each attribute to the parser of its class and moves on by the
count that parser returns.  The results are appended to the message object,
whose attribute list `validateAttribs` then checks.

The framing is generic in the attribute classes: `AttribParser` gathers what
it asks of them, and `Bounded` what it needs of their parsers to stay inside
the buffer and to end.  The library's own classes are `bgpAttribParser`.
The attribute loop runs on fuel, one round per byte of the section; running
out of it models a loop that does not end, which a parser returning `0`
would cause.
-/

/-- What the UPDATE framing uses of an attribute class hierarchy: the
`type_code` member, and the `switch` on a type code creating an object of
its class (given the session's ASN width) followed by the object's
`parse(buffer, length)`, with the count it returns. -/
structure AttribParser (α : Type) where
  typeCode : α -> UInt8
  parse : UInt8 -> Bool -> List UInt8 -> Nat -> Parse (α × Nat)

/-- An attribute parser the framing can rely on: on `length` bytes that lie
in its buffer it reads nothing past the buffer, ends, and returns a count
between `1` and `length`. -/
def AttribParser.Bounded {α : Type} (codec : AttribParser α) : Prop :=
  forall attrType use4bAsn (buf : List UInt8) length, length <= buf.length ->
    Completes (fun result => 0 < result.2 ∧ result.2 <= length)
      (codec.parse attrType use4bAsn buf length)

/-- The attribute classes of the library. -/
def bgpAttribParser : AttribParser BgpPathAttrib := ⟨(·.typeCode), parseAttrib⟩

/-- The library's attribute parsers are bounded, vacuously in their counts:
they return none. -/
theorem bgpAttribParser_bounded : bgpAttribParser.Bounded :=
  fun attrType use4bAsn _ _ fits => parseAttrib_completes attrType use4bAsn _ fits

namespace UpdateMessage

variable {α : Type}

open BgpPathAttribType

/-! ## `validateAttribs` -/

/-- The loop of `validateAttribs()` with its three flags and
`typecode_bitsmap`.  A shift by 32 or more of the 32-bit map, or by 64 or
more of `1UL`, is undefined in C; the model takes the shift count modulo the
width, as the hardware does. -/
def validateAttribsFrom (typeCode : α -> UInt8) :
    List α -> Bool -> Bool -> Bool -> UInt32 -> Option BgpError
  | [], hasOrigin, hasNexthop, hasAsPath, _ =>
      if hasAsPath && hasNexthop && hasOrigin then none else some (.update eMissWellKnown)
  | attr :: rest, hasOrigin, hasNexthop, hasAsPath, bitmap =>
      let type := typeCode attr
      let (hasOrigin, hasNexthop, hasAsPath) :=
        if type = asPath then (hasOrigin, hasNexthop, true)
        else if type = nextHop then (hasOrigin, true, hasAsPath)
        else if type = origin then (true, hasNexthop, hasAsPath)
        else (hasOrigin, hasNexthop, hasAsPath)
      if (bitmap >>> type.toUInt32) &&& 1 = 1 then some (.update eAttrList)
      else validateAttribsFrom typeCode rest hasOrigin hasNexthop hasAsPath
        (bitmap.toUInt64 &&& ~~~((1 : UInt64) <<< type.toUInt64)).toUInt32

/-- `validateAttribs()`: the error it sets, `none` when it returns `true`. -/
def validateAttribs (typeCode : α -> UInt8) (attrs : List α) : Option BgpError :=
  validateAttribsFrom typeCode attrs false false false 0

theorem bitmap_test_zero (type : UInt32) : ((0 : UInt32) >>> type) &&& 1 = 0 := by
  apply UInt32.eq_of_toBitVec_eq
  show (0#32 >>> (UInt32.mod type 32).toBitVec) &&& 1#32 = 0#32
  rw [BitVec.ushiftRight_eq', BitVec.zero_ushiftRight, BitVec.zero_and]

theorem bitmap_clear_zero (mask : UInt64) : ((0 : UInt32).toUInt64 &&& mask).toUInt32 = 0 := by
  apply UInt32.eq_of_toBitVec_eq
  show BitVec.ofNat 32 ((0#64 &&& mask.toBitVec).toNat) = 0#32
  simp

/-- `typecode_bitsmap` starts empty and the loop only clears bits of it
(`&= ~(1UL << type_code)`), so it stays empty: the duplicate test never
fires, and only the three flags decide. -/
theorem validateAttribsFrom_eq (typeCode : α -> UInt8) (attrs : List α)
    (hasOrigin hasNexthop hasAsPath : Bool) :
    validateAttribsFrom typeCode attrs hasOrigin hasNexthop hasAsPath 0 =
      if (hasAsPath || attrs.any (typeCode · == asPath)) &&
          (hasNexthop || attrs.any (typeCode · == nextHop)) &&
          (hasOrigin || attrs.any (typeCode · == origin))
      then none else some (.update eMissWellKnown) := by
  induction attrs generalizing hasOrigin hasNexthop hasAsPath with
  | nil => simp [validateAttribsFrom]
  | cons attr rest ih =>
    have one : (1 : UInt32) ≠ 0 := by decide
    have codes : asPath ≠ nextHop ∧ asPath ≠ origin ∧ nextHop ≠ origin ∧
      nextHop ≠ asPath ∧ origin ≠ asPath ∧ origin ≠ nextHop := by decide
    simp only [validateAttribsFrom, bitmap_test_zero, bitmap_clear_zero, one, if_false]
    by_cases isAsPath : typeCode attr = asPath
    · simp [isAsPath, ih, codes]
    by_cases isNextHop : typeCode attr = nextHop
    · simp [isNextHop, ih, codes]
    by_cases isOrigin : typeCode attr = origin
    · simp [isOrigin, ih, codes]
    · simp [isAsPath, isNextHop, isOrigin, ih]

/-- So `validateAttribs()` accepts a list exactly when AS_PATH, NEXT_HOP and
ORIGIN occur in it, whatever else it holds twice. -/
theorem validateAttribs_eq_none_iff (typeCode : α -> UInt8) (attrs : List α) :
    validateAttribs typeCode attrs = none ↔
      asPath ∈ attrs.map typeCode ∧ nextHop ∈ attrs.map typeCode ∧
        origin ∈ attrs.map typeCode := by
  simp only [validateAttribs, validateAttribsFrom_eq, Bool.false_or, Bool.and_eq_true,
    List.any_eq_true, beq_iff_eq, List.mem_map, ite_eq_left_iff, reduceCtorEq, imp_false,
    not_not, and_assoc]

/-- ORIGIN twice, next to AS_PATH and NEXT_HOP, all type codes below 32:
`validateAttribs()` returns `true` on a list that holds a type code twice. -/
theorem validateAttribs_accepts_duplicate_origin :
    validateAttribs (·.typeCode) [BgpPathAttribOrigin.newWithLogger igp,
        BgpPathAttribOrigin.newWithLogger igp, BgpPathAttribAsPath.newWithLogger true,
        BgpPathAttribNexthop.new 1] = none ∧
      ¬ ([BgpPathAttribOrigin.newWithLogger igp, BgpPathAttribOrigin.newWithLogger igp,
        BgpPathAttribAsPath.newWithLogger true, BgpPathAttribNexthop.new 1].map (·.typeCode)).Nodup := by
  decide

/-! ## The three loops -/

/-- The loop over a route section of `len` bytes at `base`, `parsed` bytes
into it: withdrawn routes and NLRI alike.  A prefix of more than 32 bits, or
one that runs past the section, is an error.  The withdrawn loop's counter
is an `uint16_t`, but it never passes the section's length. -/
def parseRoutes (buf : List UInt8) (base len : Nat) : Nat -> Nat -> Parse (List Route × Nat)
  | 0, parsed => if parsed < len then throw .diverges else pure ([], parsed)
  | fuel + 1, parsed =>
      if parsed < len then do
        failIf (len - parsed < 1) (.update eUnspec)
        let routeLen <- readByte buf (base + parsed)
        failIf (routeLen > 32) (.update eUnspec)
        let bytes := prefixBytes routeLen.toNat
        failIf (parsed + 1 + bytes > len) (.update eUnspec)
        let addr <- readBytes buf (base + parsed + 1) bytes
        let (rest, parsedEnd) <- parseRoutes buf base len fuel (parsed + 1 + bytes)
        pure (⟨UInt32.ofNat (hostValue addr), routeLen⟩ :: rest, parsedEnd)
      else pure ([], parsed)

theorem parseRoutes_completes {buf : List UInt8} {base len : Nat}
    (inside : base + len <= buf.length) (fuel parsed : Nat) (started : parsed <= len)
    (enough : len - parsed <= fuel) :
    Completes (fun result => result.2 = len) (parseRoutes buf base len fuel parsed) := by
  induction fuel generalizing parsed with
  | zero => simp [parseRoutes, show parsed = len by omega]
  | succ fuel ih =>
    unfold parseRoutes
    split
    · refine completes_failIf_bind fun _ => ?_
      refine completes_bind (readByte_completes (by omega)) fun _ _ => ?_
      refine completes_failIf_bind fun _ => completes_failIf_bind fun _ => ?_
      refine completes_bind (readBytes_completes (by omega)) fun _ _ => ?_
      exact completes_bind (ih _ (by omega) (by omega)) fun _ done => done
    · simp; omega

/-- The attribute loop over `attributeLen` bytes: `offset` is the cursor and
`parsed` is `parsed_attribute_len`, an `uint16_t`.  The result is the
attributes, the final cursor and the final count. -/
def parseAttribs (codec : AttribParser α) (use4bAsn : Bool) (buf : List UInt8)
    (attributeLen : Nat) : Nat -> Nat -> Nat -> Parse (List α × Nat × Nat)
  | 0, offset, parsed =>
      if parsed < attributeLen then throw .diverges else pure ([], offset, parsed)
  | fuel + 1, offset, parsed =>
      if parsed < attributeLen then do
        failIf (attributeLen - parsed < 3) (.update eUnspec)
        let attrType <- getTypeFromBuffer (buf.drop offset) (attributeLen - parsed)
        failIf (attrType < 0) (.update eUnspec)
        let (attrib, attribParsed) <-
          codec.parse attrType.toNat.toUInt8 use4bAsn (buf.drop offset) (attributeLen - parsed)
        let (rest, offsetEnd, parsedEnd) <- parseAttribs codec use4bAsn buf attributeLen fuel
          (offset + attribParsed) ((parsed + attribParsed) % 65536)
        pure (attrib :: rest, offsetEnd, parsedEnd)
      else pure ([], offset, parsed)


/-- `BgpUpdateMessage::parse(from, msg_sz)` with `msg_sz` the buffer's
length: the message with what was read appended, and the return value. -/
def parse (codec : AttribParser α) (msg : UpdateMessage α) (buf : List UInt8) :
    Parse (UpdateMessage α × Nat) := do
  let msgSz := buf.length
  failIf (msgSz < 4) ⟨eHeader, eLength, [UInt8.ofNat msgSz]⟩
  let withdrawnLen <- readU16 buf 0
  failIf (withdrawnLen > msgSz - 4) (.update eUnspec)
  let (withdrawn, parsedWithdrawnLen) <- parseRoutes buf 2 withdrawnLen withdrawnLen 0
  assert (parsedWithdrawnLen = withdrawnLen)
  let attributeLen <- readU16 buf (2 + withdrawnLen)
  failIf (attributeLen + withdrawnLen + 4 > msgSz) (.update eAttrList)
  let (attribs, nlriStart, parsedAttributeLen) <-
    parseAttribs codec msg.use4bAsn buf attributeLen attributeLen (4 + withdrawnLen) 0
  match validateAttribs codec.typeCode (msg.pathAttribute ++ attribs) with
  | some err => fail err
  | none =>
      assert (parsedAttributeLen = attributeLen)
      let nlriLen := msgSz - 4 - parsedAttributeLen - parsedWithdrawnLen
      let (nlri, parsedNlriLen) <- parseRoutes buf nlriStart nlriLen nlriLen 0
      assert (parsedNlriLen + parsedAttributeLen + parsedWithdrawnLen + 4 = msgSz)
      pure ({ msg with withdrawnRoutes := msg.withdrawnRoutes ++ withdrawn,
                       pathAttribute := msg.pathAttribute ++ attribs,
                       nlri := msg.nlri ++ nlri }, msgSz)

section Bounded

variable {codec : AttribParser α} (bounded : codec.Bounded)
include bounded

theorem parseAttribs_completes (use4bAsn : Bool) {buf : List UInt8} {attributeLen : Nat}
    (short : attributeLen < 65536) (fuel offset parsed : Nat) (started : parsed <= attributeLen)
    (inside : offset + (attributeLen - parsed) <= buf.length)
    (enough : attributeLen - parsed <= fuel) :
    Completes (fun result => result.2.1 = offset + (attributeLen - parsed) ∧ result.2.2 = attributeLen)
      (parseAttribs codec use4bAsn buf attributeLen fuel offset parsed) := by
  induction fuel generalizing offset parsed with
  | zero => simp [parseAttribs, show parsed = attributeLen by omega]
  | succ fuel ih =>
    unfold parseAttribs
    split
    · refine completes_failIf_bind fun _ => ?_
      refine completes_bind (getTypeFromBuffer_completes (by simp; omega)) fun _ _ => ?_
      refine completes_failIf_bind fun _ => ?_
      refine completes_bind (bounded _ _ _ _ (by simp; omega)) fun (_, n) bound => ?_
      obtain ⟨pos, le⟩ : 0 < n ∧ n <= attributeLen - parsed := bound
      dsimp only
      rw [Nat.mod_eq_of_lt (by omega)]
      have rest := ih (offset + n) (parsed + n) (by omega) (by omega) (by omega)
      rw [show offset + n + (attributeLen - (parsed + n)) = offset + (attributeLen - parsed)
        by omega] at rest
      exact completes_bind rest fun _ done => done
    · simp; omega

/-- With a bounded codec, `parse` on any buffer reads no byte past it, ends,
and fails none of its three assertions: when it returns, it returns
`msg_sz`, the three sections having tiled the buffer. -/
theorem parse_completes (msg : UpdateMessage α) (buf : List UInt8) :
    Completes (fun result => result.2 = buf.length) (parse codec msg buf) := by
  unfold parse
  refine completes_failIf_bind fun _ => ?_
  refine completes_bind (readU16_completes (by omega)) fun withdrawnLen _ => ?_
  refine completes_failIf_bind fun _ => ?_
  refine completes_bind (parseRoutes_completes (by omega) _ _ (Nat.zero_le _) (Nat.le_refl _))
    fun _ withdrawn => completes_assert_bind withdrawn ?_
  refine completes_bind (readU16_completes (by omega)) fun attributeLen short => ?_
  refine completes_failIf_bind fun _ => ?_
  refine completes_bind (parseAttribs_completes bounded _ short _ _ _ (Nat.zero_le _)
    (by omega) (by omega)) fun (_, nlriStart, parsedAttributeLen) done => ?_
  obtain ⟨cursor, count⟩ :
    nlriStart = 4 + withdrawnLen + (attributeLen - 0) ∧ parsedAttributeLen = attributeLen := done
  dsimp only
  split
  · trivial
  · refine completes_assert_bind count ?_
    refine completes_bind (parseRoutes_completes (by omega) _ _ (Nat.zero_le _) (Nat.le_refl _))
      fun _ nlri => completes_assert_bind (by omega) rfl

end Bounded

end UpdateMessage

namespace BgpUpdateMessage

open UpdateMessage

/-- `BgpUpdateMessage::parse` with the library's attribute classes. -/
def parse (msg : BgpUpdateMessage) (buf : List UInt8) : Parse (BgpUpdateMessage × Nat) :=
  UpdateMessage.parse bgpAttribParser msg buf

/-- On any buffer, however it was made, `parse` reads no byte past its end,
ends, and fails no assertion; when it returns, it returns `msg_sz`. -/
theorem parse_safe_on_any_buffer (msg : BgpUpdateMessage) (buf : List UInt8) :
    Completes (fun result => result.2 = buf.length) (parse msg buf) :=
  parse_completes bgpAttribParser_bounded msg buf

/-- The attribute loop of the library fails in any attribute section it
enters: the parser of the first attribute returns `-1`. -/
theorem parseAttribs_ne_ok (use4bAsn : Bool) (buf : List UInt8)
    {attributeLen parsed : Nat} (entered : parsed < attributeLen) (fuel offset : Nat)
    (result : List BgpPathAttrib × Nat × Nat) :
    parseAttribs bgpAttribParser use4bAsn buf attributeLen (fuel + 1) offset parsed ≠ .ok result := by
  intro returned
  simp only [parseAttribs, if_pos entered, failIf, bind_eq_ok] at returned
  obtain ⟨_, -, _, -, _, -, _, parsedAttrib, -⟩ := returned
  exact parseAttrib_ne_ok _ _ _ _ _ parsedAttrib

/-- So `parse` never returns on a message that holds no attribute yet, as
the library's callers give it: an attribute section that is not empty fails
in its first attribute, and an empty one leaves ORIGIN, AS_PATH and NEXT_HOP
missing. -/
theorem parse_ne_ok_of_fresh (msg : BgpUpdateMessage) (fresh : msg.pathAttribute = [])
    (buf : List UInt8) (result : BgpUpdateMessage × Nat) : parse msg buf ≠ .ok result := by
  intro returned
  simp only [parse, UpdateMessage.parse, failIf, assert, bind_eq_ok] at returned
  obtain ⟨_, -, _, -, _, -, _, -, _, -, attributeLen, -, _, -, ⟨attribs, _⟩, loop, returned⟩ :=
    returned
  cases attributeLen with
  | zero =>
    simp only [parseAttribs, lt_irrefl, if_false, pure_eq_ok, Except.ok.injEq, Prod.mk.injEq] at loop
    simp [fresh, ← loop.1, validateAttribs, validateAttribsFrom] at returned
  | succ attributeLen => exact parseAttribs_ne_ok _ _ (Nat.zero_lt_succ _) _ _ _ loop

/-- A fresh two-octet message, and an UPDATE with no routes whose attribute
section holds an ORIGIN. -/
theorem parse_ne_ok_of_fresh_message :
    (⟨false, [], [], []⟩ : BgpUpdateMessage).pathAttribute = [] ∧
      ∀ result, parse ⟨false, [], [], []⟩ [0, 0, 0, 4, 64, 1, 1, 0] ≠ .ok result :=
  ⟨rfl, parse_ne_ok_of_fresh _ rfl _⟩

/-- The attribute section `[0x40, 1, 1, 0]`, a well-formed ORIGIN of IGP, in
an UPDATE with no withdrawn routes and no NLRI: `parse` returns `-1`, with
the error code and subcode left at `0`. -/
theorem parse_rejects_origin_igp (msg : BgpUpdateMessage) :
    parse msg [0, 0, 0, 4, 64, 1, 1, 0] = fail .none := rfl

end BgpUpdateMessage

end Libbgp
