import Mathlib.Data.List.Basic

namespace Libbgp

/-!
# Bytes, error triples and checked reads

The codec of the library reads its input through a moving `const uint8_t *`
cursor and `getValue<T>`, and reports failure by `setError(code, subcode,
data, len)` followed by `return -1`.  Here a buffer is the list of bytes from
the cursor's base to the end of the memory the caller handed in, and every
read is checked against that end.  A read past it is not a BGP error but
undefined behaviour of the source; the model records it as `overread`, so
that a safety theorem can say it never happens.

Two further outcomes are kept apart from BGP errors: a failing `assert`, and
a loop that never ends (the model's fuel runs out).  Multi-byte reads through
`getValue` without `ntohs` take the host's byte order, which is little-endian
on the hosts the library is built for.
-/

/-- The triple `(code, subcode, data)` that `setError` records and a
NOTIFICATION carries. -/
structure BgpError where
  code : UInt8
  subcode : UInt8
  data : List UInt8
  deriving DecidableEq, Repr

/-! ## Error codes of `bgp-errcode.h` used by the codec -/

def eHeader : UInt8 := 1
def eUpdate : UInt8 := 3

def eLength : UInt8 := 2

def eUnspecUpdate : UInt8 := 0
def eAttrList : UInt8 := 1
def eBadWellKnown : UInt8 := 2
def eMissWellKnown : UInt8 := 3
def eAttrFlag : UInt8 := 4
def eAttrLen : UInt8 := 5
def eOrigin : UInt8 := 6
def eAsPath : UInt8 := 11

/-- `E_UNSPEC`, the code-level zero that `BgpUpdateMessage::parse` passes as
an UPDATE subcode. -/
def eUnspec : UInt8 := 0

/-- The error state of a freshly constructed attribute: code and subcode 0,
no data.  A parser that returns `-1` without calling `setError` forwards
exactly this. -/
def BgpError.none : BgpError := ⟨0, 0, []⟩

/-- An UPDATE error without data. -/
def BgpError.update (subcode : UInt8) : BgpError := ⟨eUpdate, subcode, []⟩

/-! ## Outcomes of a parse -/

/-- Why a parse ends without a result. -/
inductive ParseStop where
  /-- `setError(...)` and `return -1`. -/
  | error (err : BgpError)
  /-- A read at or past the end of the buffer. -/
  | overread
  /-- An `assert` of the source fails. -/
  | assertFailed
  /-- A loop runs on without end. -/
  | diverges
  deriving DecidableEq, Repr

/-- A computation over a received buffer. -/
abbrev Parse := Except ParseStop

/-- `x` ends the way the source can end without undefined behaviour, a
failed assertion or a loop without end, and a result it gives meets `post`:
with `return -1` and an error set as the other way out. -/
def Completes {α : Type} (post : α -> Prop) : Parse α -> Prop
  | .ok a => post a
  | .error (.error _) => True
  | .error _ => False

@[simp] theorem completes_ok {α : Type} {post : α -> Prop} (a : α) :
    Completes post (.ok a : Parse α) ↔ post a := Iff.rfl

@[simp] theorem completes_error {α : Type} {post : α -> Prop} (err : BgpError) :
    Completes post (.error (.error err) : Parse α) := trivial

theorem Completes.mono {α : Type} {post weaker : α -> Prop} {x : Parse α}
    (holds : Completes post x) (implies : forall a, post a -> weaker a) : Completes weaker x := by
  rcases x with ((err | _ | _ | _) | a)
  · trivial
  all_goals first | exact False.elim holds | exact implies a holds

/-! The monad laws of `Except` at its two constructors, for `simp`: the
parses here and the writes of the UPDATE message are both `Except`
computations. -/

@[simp] theorem ok_bind {ε α β : Type} (a : α) (f : α -> Except ε β) :
    ((.ok a : Except ε α) >>= f) = f a := rfl

@[simp] theorem error_bind {ε α β : Type} (stop : ε) (f : α -> Except ε β) :
    ((.error stop : Except ε α) >>= f) = .error stop := rfl

@[simp] theorem pure_eq_ok {ε α : Type} (a : α) : (pure a : Except ε α) = .ok a := rfl

theorem completes_bind {α β : Type} {mid : α -> Prop} {post : β -> Prop} {x : Parse α}
    {f : α -> Parse β} (first : Completes mid x) (rest : forall a, mid a -> Completes post (f a)) :
    Completes post (x >>= f) := by
  rcases x with ((err | _ | _ | _) | a)
  · trivial
  all_goals first | exact False.elim first | exact rest a first

/-- A `Parse` step that fails with a BGP error, for `setError` and `return -1`. -/
def fail {α : Type} (err : BgpError) : Parse α := .error (.error err)

@[simp] theorem completes_fail {α : Type} {post : α -> Prop} (err : BgpError) :
    Completes post (fail err : Parse α) :=
  trivial

@[simp] theorem fail_bind {α β : Type} (err : BgpError) (f : α -> Parse β) :
    ((fail err : Parse α) >>= f) = fail err := rfl

@[simp] theorem fail_ne_ok {α : Type} (err : BgpError) (a : α) : (fail err : Parse α) ≠ .ok a :=
  nofun

/-- `if (cond) { setError(err); return -1; }`, a check whose error carries
no data: the parse goes on when `cond` is false. -/
def failIf (cond : Prop) [Decidable cond] (err : BgpError) : Parse Unit :=
  if cond then fail err else pure ()

/-- `assert(cond)`. -/
def assert (cond : Prop) [Decidable cond] : Parse Unit :=
  if cond then pure () else .error .assertFailed

@[simp] theorem failIf_bind {β : Type} {cond : Prop} [Decidable cond] (err : BgpError)
    (f : Unit -> Parse β) : (failIf cond err >>= f) = if cond then fail err else f () := by
  unfold failIf; split <;> rfl

@[simp] theorem assert_bind {β : Type} {cond : Prop} [Decidable cond] (f : Unit -> Parse β) :
    (assert cond >>= f) = if cond then f () else .error .assertFailed := by
  unfold assert; split <;> rfl

theorem completes_failIf_bind {β : Type} {post : β -> Prop} {cond : Prop} [Decidable cond]
    {err : BgpError} {f : Unit -> Parse β} (rest : ¬cond -> Completes post (f ())) :
    Completes post (failIf cond err >>= f) := by
  rw [failIf_bind]; split
  · trivial
  · exact rest ‹_›

theorem completes_assert_bind {β : Type} {post : β -> Prop} {cond : Prop} [Decidable cond]
    {f : Unit -> Parse β} (holds : cond) (rest : Completes post (f ())) :
    Completes post (assert cond >>= f) := by
  rwa [assert_bind, if_pos holds]

theorem bind_eq_ok {ε α β : Type} {x : Except ε α} {f : α -> Except ε β} {b : β} :
    x >>= f = .ok b ↔ exists a, x = .ok a ∧ f a = .ok b := by
  rcases x with stop | a <;> simp

/-! ## Checked reads -/

/-- `getValue<uint8_t>` at offset `off`. -/
def readByte (buf : List UInt8) (off : Nat) : Parse UInt8 :=
  match buf[off]? with
  | some byte => .ok byte
  | none => .error .overread

/-- `memcpy(dst, buf + off, n)` from the buffer. -/
def readBytes (buf : List UInt8) (off n : Nat) : Parse (List UInt8) :=
  if off + n <= buf.length then .ok ((buf.drop off).take n) else .error .overread

/-- `ntohs(getValue<uint16_t>)`: a big-endian length field. -/
def readU16 (buf : List UInt8) (off : Nat) : Parse Nat := do
  let high <- readByte buf off
  let low <- readByte buf (off + 1)
  pure (high.toNat * 256 + low.toNat)

/-- The value of bytes copied into the low end of a zeroed host integer:
little-endian, as `memcpy(&prefix, buffer, n)` and `getValue<uint32_t>` see
them. -/
def hostValue (bytes : List UInt8) : Nat :=
  bytes.foldr (fun byte rest => byte.toNat + 256 * rest) 0

theorem readByte_of_lt {buf : List UInt8} {off : Nat} (inside : off < buf.length) :
    readByte buf off = .ok buf[off] := by
  simp [readByte, List.getElem?_eq_getElem inside]

theorem readU16_of_getElem? {buf : List UInt8} {off : Nat} {high low : UInt8}
    (atHigh : buf[off]? = some high) (atLow : buf[off + 1]? = some low) :
    readU16 buf off = .ok (high.toNat * 256 + low.toNat) := by
  simp [readU16, readByte, atHigh, atLow]

theorem readByte_completes {buf : List UInt8} {off : Nat} (inside : off < buf.length) :
    Completes (· = buf[off]) (readByte buf off) := by
  simp [readByte_of_lt inside]

theorem readBytes_completes {buf : List UInt8} {off n : Nat} (inside : off + n <= buf.length) :
    Completes (· = (buf.drop off).take n) (readBytes buf off n) := by
  simp [readBytes, inside]

theorem readU16_completes {buf : List UInt8} {off : Nat} (inside : off + 2 <= buf.length) :
    Completes (· < 65536) (readU16 buf off) := by
  have high : buf[off].toNat < 256 := buf[off].toNat_lt_size
  have low : buf[off + 1].toNat < 256 := buf[off + 1].toNat_lt_size
  simp only [readU16, readByte_of_lt (show off < buf.length by omega),
    readByte_of_lt (show off + 1 < buf.length by omega), ok_bind, pure_eq_ok, completes_ok]
  omega

/-! ## IPv4 prefixes -/

/-- `Route`: an IPv4 prefix as the class stores it, its `prefix` member (the
address, network byte order in memory) and its length. -/
structure Route where
  addr : UInt32
  length : UInt8
  deriving DecidableEq, Repr

/-- The number of address bytes a prefix of `length` bits occupies on the
wire, `(route_len + 7) / 8`. -/
def prefixBytes (length : Nat) : Nat := (length + 7) / 8

theorem prefixBytes_le_four {length : Nat} (short : length <= 32) : prefixBytes length <= 4 := by
  unfold prefixBytes; omega

end Libbgp
