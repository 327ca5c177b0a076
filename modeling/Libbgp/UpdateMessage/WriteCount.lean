import Libbgp.UpdateMessage.Layout

namespace Libbgp

/-!
# What `write` counts

`BgpUpdateMessage::write` stores its sections at the wrong places (see
`Libbgp.UpdateMessage.Write`), but the count it returns is the one the layout
intends: the two length fields, each route's length byte and prefix bytes,
and the bytes each attribute's `write` returned, added up.  This module
proves that of every call that returns, with any attribute writer that keeps
to its contract.

It also says which messages have a call that returns at all.  Each route's
prefix bytes are copied from the one-byte local `route_len`, so a route
longer than 8 bits makes the copy read past it: `write` returns for no
message holding such a route, whatever the destination.  The bytes it
stores are not described here beyond their number, which is the
destination's.
-/

namespace UpdateMessage

variable {α : Type}

theorem routeLenBytes_eq_ok {routeLen : UInt8} {n : Nat} {bytes : List UInt8}
    (copied : routeLenBytes routeLen n = .ok bytes) : n <= 1 ∧ bytes.length = n := by
  unfold routeLenBytes at copied
  split at copied
  · cases copied
    simp only [List.length_take, List.length_singleton]
    omega
  · cases copied

theorem length_encode (route : Route) :
    route.encode.length = 1 + prefixBytes route.length.toNat := by
  simp [Route.encode, Nat.add_comm]

/-- A route loop that returns has seen only routes of at most 8 bits, and
moved the cursor and the count by the length of their encodings. -/
theorem writeRoutes_ok {bufSz before : Nat} {routes : List Route} {buf out : List UInt8}
    {buffer written buffer' written' : Nat}
    (done : writeRoutes bufSz before routes buf buffer written = .ok (out, buffer', written')) :
    (∀ route ∈ routes, route.length.toNat <= 8) ∧ out.length = buf.length ∧
      buffer' = buffer + (encodeRoutes routes).length ∧
      written' = written + (encodeRoutes routes).length := by
  induction routes generalizing buf buffer written with
  | nil =>
    cases done
    simp
  | cons route rest ih =>
    simp only [writeRoutes, Encode.refuseIf_bind] at done
    split at done
    · cases done
    · obtain ⟨lenStored, lenIn, done⟩ := bind_eq_ok.1 done
      obtain ⟨bytes, copiedIn, done⟩ := bind_eq_ok.1 done
      obtain ⟨stored, storedIn, done⟩ := bind_eq_ok.1 done
      obtain ⟨one, _⟩ := routeLenBytes_eq_ok copiedIn
      obtain ⟨short, sameLength, cursor, count⟩ := ih done
      have routeShort : route.length.toNat <= 8 := by unfold prefixBytes at one; omega
      refine ⟨List.forall_mem_cons.2 ⟨routeShort, short⟩, ?_, ?_, ?_⟩
      · rw [sameLength, store_length storedIn, store_length lenIn]
      · simp only [cursor, encodeRoutes_cons, List.length_append, length_encode]
        omega
      · simp only [count, encodeRoutes_cons, List.length_append, length_encode]
        omega

/-- The attribute loop counts what each attribute's `write` returned, which
for a writer that keeps to its contract is the number of bytes it gave. -/
theorem writeAttribs_ok {codec : AttribWriter α} (within : codec.StaysWithin)
    {bufSz totWritten buffer : Nat} {attrs : List α} {buf out : List UInt8} {written total : Nat}
    (done : writeAttribs codec bufSz totWritten buffer attrs buf written = .ok (out, total)) :
    ∃ pieces : List (List UInt8),
      List.Forall₂ (fun attr bytes => ∃ bufLeft, codec.write attr bufLeft = some (bytes, bytes.length))
        attrs pieces ∧ total = written + pieces.flatten.length := by
  induction attrs generalizing buf written with
  | nil =>
    cases done
    exact ⟨[], .nil, rfl⟩
  | cons attr rest ih =>
    simp only [writeAttribs, Encode.assert_bind] at done
    split at done
    · split at done
      · cases done
      · rename_i bytes writeRet gave
        obtain ⟨_, _, done⟩ := bind_eq_ok.1 done
        obtain ⟨pieces, made, count⟩ := ih done
        obtain ⟨rfl, -⟩ := within _ _ _ _ gave
        refine ⟨bytes :: pieces, .cons ⟨_, gave⟩ made, ?_⟩
        rw [count, List.flatten_cons, List.length_append]
        omega
    · cases done

/-- Every call of `write` that returns, with an attribute writer that stores
what it counts within the space it is given, was given routes of at most 8
bits, keeps the destination's size, and returns the length of the intended
layout of the message: its routes' encodings and the bytes its attributes'
writers gave, each section after its length field. -/
theorem write_counts_layout {codec : AttribWriter α} (within : codec.StaysWithin)
    {msg : UpdateMessage α} {buf out : List UInt8} {n : Nat}
    (written : write codec msg buf = .ok (out, n)) :
    out.length = buf.length ∧ (∀ route ∈ msg.withdrawnRoutes ++ msg.nlri, route.length.toNat <= 8) ∧
      ∃ pieces : List (List UInt8),
        List.Forall₂ (fun attr bytes => ∃ bufLeft, codec.write attr bufLeft = some (bytes, bytes.length))
          msg.pathAttribute pieces ∧
        n = (layout msg.withdrawnRoutes pieces.flatten msg.nlri).length := by
  simp only [write, Encode.refuseIf_bind] at written
  split at written
  · cases written
  obtain ⟨⟨_, _, _⟩, withdrawnLoop, written⟩ := bind_eq_ok.1 written
  obtain ⟨_, withdrawnLen, written⟩ := bind_eq_ok.1 written
  obtain ⟨⟨_, _⟩, attribLoop, written⟩ := bind_eq_ok.1 written
  obtain ⟨_, attribLen, written⟩ := bind_eq_ok.1 written
  obtain ⟨⟨_, _, _⟩, nlriLoop, returned⟩ := bind_eq_ok.1 written
  obtain ⟨rfl, rfl⟩ := Prod.mk.inj (Except.ok.inj returned)
  obtain ⟨withdrawnShort, withdrawnSize, -, rfl⟩ := writeRoutes_ok withdrawnLoop
  obtain ⟨pieces, made, rfl⟩ := writeAttribs_ok within attribLoop
  obtain ⟨nlriShort, nlriSize, -, rfl⟩ := writeRoutes_ok nlriLoop
  refine ⟨?_, ?_, pieces, made, ?_⟩
  · rw [nlriSize, store_length attribLen, (writeAttribs_frame codec _ _ _ _ attribLoop).1,
      store_length withdrawnLen, withdrawnSize]
  · exact fun route member => (List.mem_append.1 member).elim (withdrawnShort route) (nlriShort route)
  · rw [length_layout]
    dsimp only
    omega

/-- A `/8` withdrawn route, two bare attributes and a `/0` route of NLRI
into 16 bytes: `write` returns 13, the 4 bytes of the length fields, 2 of
the withdrawn route, 6 of the attributes and 1 of the NLRI. -/
theorem write_counts_bare_message :
    bareWriter.StaysWithin ∧
      ∃ out, write bareWriter ⟨false, [⟨0, 8⟩], [1, 2], [⟨0, 0⟩]⟩ (List.replicate 16 0) =
          .ok (out, 13) ∧
        out.length = (List.replicate 16 (0 : UInt8)).length ∧
        (∀ route ∈ [(⟨0, 8⟩ : Route)] ++ [⟨0, 0⟩], route.length.toNat <= 8) ∧
        ∃ pieces : List (List UInt8),
          List.Forall₂ (fun attr bytes =>
              ∃ bufLeft, bareWriter.write attr bufLeft = some (bytes, bytes.length))
            [1, 2] pieces ∧
          13 = (layout [⟨0, 8⟩] pieces.flatten [⟨0, 0⟩]).length := by
  obtain ⟨out, written⟩ : ∃ out,
      write bareWriter ⟨false, [⟨0, 8⟩], [1, 2], [⟨0, 0⟩]⟩ (List.replicate 16 0) = .ok (out, 13) :=
    ⟨_, rfl⟩
  exact ⟨bare_roundTrips.staysWithin, out, written,
    write_counts_layout bare_roundTrips.staysWithin written⟩

end UpdateMessage

end Libbgp
