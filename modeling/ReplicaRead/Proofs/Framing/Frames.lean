import Mathlib.Algebra.Group.Nat.Defs
import Mathlib.Algebra.Ring.Int.Defs
import ReplicaRead.Proofs.Framing.Words
import ReplicaRead.Proofs.RequestFields
import ReplicaRead.Proofs.Text.Utf8

/-!
# Frames

The frame of a request says where it ends, and the request can be read off it. Each reader of a
field accepts exactly what the writer of that field produces, with whatever follows; the same holds
of whole frames, field after field.

Results: `Request.decode?_eq_some_iff`, by which reading accepts exactly what writing produces, and
`Request.encode_invertible`, with the exact limits of the fields and what follows for two frames.
-/

namespace ReplicaRead
namespace Request

/-! ### Fields -/

theorem take?_eq_some_iff {n : Nat} {bs front rest : Bytes} :
    take? n bs = some (front, rest) ↔ front.length = n ∧ bs = front ++ rest := by
  unfold take?
  constructor
  · intro h
    split at h
    · rename_i hn
      cases h
      exact ⟨List.length_take_of_le hn, (List.take_append_drop n bs).symm⟩
    · cases h
  · rintro ⟨rfl, rfl⟩
    rw [if_pos (by simp), List.take_left, List.drop_left]

theorem decodeNat?_eq_some_iff {width n : Nat} {bs rest : Bytes} :
    decodeNat? width bs = some (n, rest) ↔
      n < Word.count width ∧ bs = Word.ofNat width n ++ rest := by
  unfold decodeNat?
  rw [Option.map_eq_some_iff]
  constructor
  · rintro ⟨⟨front, rest'⟩, htake, hpair⟩
    obtain ⟨rfl, rfl⟩ := take?_eq_some_iff.1 htake
    cases hpair
    exact ⟨Word.toNat_lt_count front, by rw [Word.ofNat_toNat]⟩
  · rintro ⟨hn, rfl⟩
    refine ⟨(Word.ofNat width n, rest), take?_eq_some_iff.2 ⟨Word.length_ofNat width n, rfl⟩, ?_⟩
    exact congrArg (·, rest) (Word.toNat_ofNat hn)

theorem decodeInt?_eq_some_iff {width : Nat} {n : Int} {bs rest : Bytes} :
    decodeInt? width bs = some (n, rest) ↔
      Word.InRange width n ∧ bs = Word.ofNat width (Word.wrap width n) ++ rest := by
  unfold decodeInt?
  rw [Option.map_eq_some_iff]
  constructor
  · rintro ⟨⟨m, rest'⟩, hdecode, hpair⟩
    obtain ⟨hm, rfl⟩ := decodeNat?_eq_some_iff.1 hdecode
    cases hpair
    exact ⟨Word.inRange_signed hm, by rw [Word.wrap_signed hm]⟩
  · rintro ⟨hn, rfl⟩
    refine ⟨(Word.wrap width n, rest), decodeNat?_eq_some_iff.2 ⟨Word.wrap_lt_count width n, rfl⟩,
      ?_⟩
    exact congrArg (·, rest) (Word.signed_wrap hn)

theorem encodeInt?_eq_some_iff {n : Int} {bs : Bytes} :
    encodeInt? n = some bs ↔ Word.InRange 8 n ∧ bs = Word.ofNat 8 (Word.wrap 8 n) := by
  unfold encodeInt?
  rw [Option.ite_none_right_eq_some, Option.some.injEq, eq_comm (a := bs)]

/-- Reading an integer accepts exactly what writing it produces. -/
theorem decodeInt?_eq_some_iff_encodeInt? {n : Int} {bs rest : Bytes} :
    decodeInt? 8 bs = some (n, rest) ↔ ∃ field, encodeInt? n = some field ∧ bs = field ++ rest := by
  rw [decodeInt?_eq_some_iff]
  constructor
  · rintro ⟨hn, rfl⟩
    exact ⟨_, encodeInt?_eq_some_iff.2 ⟨hn, rfl⟩, rfl⟩
  · rintro ⟨field, hfield, rfl⟩
    obtain ⟨hn, rfl⟩ := encodeInt?_eq_some_iff.1 hfield
    exact ⟨hn, rfl⟩

/-- Reading counted bytes accepts exactly what writing them produces. -/
theorem decodeCounted?_eq_some_iff {width : Nat} {bs content rest : Bytes} :
    decodeCounted? width bs = some (content, rest) ↔
      ∃ field, encodeCounted? width content = some field ∧ bs = field ++ rest := by
  unfold decodeCounted? encodeCounted?
  rw [Option.bind_eq_some_iff]
  constructor
  · rintro ⟨⟨n, bs'⟩, hcount, htake⟩
    obtain ⟨hn, rfl⟩ := decodeNat?_eq_some_iff.1 hcount
    obtain ⟨rfl, rfl⟩ := take?_eq_some_iff.1 htake
    exact ⟨_, if_pos hn, (List.append_assoc _ _ _).symm⟩
  · rintro ⟨field, hfield, rfl⟩
    rw [Option.ite_none_right_eq_some, Option.some.injEq] at hfield
    obtain ⟨hn, rfl⟩ := hfield
    refine ⟨(content.length, content ++ rest), decodeNat?_eq_some_iff.2 ⟨hn, ?_⟩,
      take?_eq_some_iff.2 ⟨rfl, rfl⟩⟩
    rw [List.append_assoc]

/-! ### Whole frames -/

theorem encode_eq_ok_iff_encode? {r : Request} {payload : Bytes} :
    r.encode = .ok payload ↔ r.encode? = some payload := by
  unfold encode
  cases r.encode? with
  | none =>
      simp
  | some bs =>
      simp

/-- The frame of a request is made of its fields. -/
theorem encode?_eq_some_iff {r : Request} {payload : Bytes} :
    r.encode? = some payload ↔ ∃ blockId stamp offset length name token,
      encodeInt? r.blockId = some blockId ∧ encodeInt? r.stamp = some stamp ∧
      encodeInt? r.offset = some offset ∧ encodeInt? r.length = some length ∧
      encodeCounted? 2 (Utf8.encode r.clientName.toList) = some name ∧
      encodeCounted? 4 r.token = some token ∧
      payload = Word.ofNat 2 (Word.wrap 2 version) ++ (Word.ofNat 1 opcode ++ (blockId ++ (stamp ++
        (offset ++ (length ++ (name ++ token)))))) := by
  unfold encode?
  simp only [Option.bind_eq_bind, Option.bind_eq_some_iff, Option.pure_def, Option.some.injEq,
    List.append_assoc]
  constructor
  · rintro ⟨blockId, hblock, stamp, hstamp, offset, hoffset, length, hlength, name, hname, token,
      htoken, rfl⟩
    exact ⟨blockId, stamp, offset, length, name, token, hblock, hstamp, hoffset, hlength, hname,
      htoken, rfl⟩
  · rintro ⟨blockId, stamp, offset, length, name, token, hblock, hstamp, hoffset, hlength, hname,
      htoken, rfl⟩
    exact ⟨blockId, hblock, stamp, hstamp, offset, hoffset, length, hlength, name, hname, token,
      htoken, rfl⟩

/-- Reading a frame of this version and operation accepts exactly what writing it produces, with
whatever follows. -/
theorem decode?_eq_some_iff {r : Request} {bs rest : Bytes} :
    decode? bs = some (⟨version, opcode, r⟩, rest) ↔
      ∃ payload, r.encode = .ok payload ∧ bs = payload ++ rest := by
  simp only [encode_eq_ok_iff_encode?, encode?_eq_some_iff]
  unfold decode?
  simp only [Option.bind_eq_bind, Option.bind_eq_some_iff, Prod.exists]
  constructor
  · rintro ⟨v, bs₁, hv, op, bs₂, hop, blockId, bs₃, hblock, stamp, bs₄, hstamp, offset, bs₅, hoffset,
      length, bs₆, hlength, name, bs₇, hname, cs, hcs, token, bs₈, htoken, hframe⟩
    cases hframe
    obtain ⟨-, rfl⟩ := decodeInt?_eq_some_iff.1 hv
    obtain ⟨-, rfl⟩ := decodeNat?_eq_some_iff.1 hop
    obtain ⟨blockField, hblock', rfl⟩ := decodeInt?_eq_some_iff_encodeInt?.1 hblock
    obtain ⟨stampField, hstamp', rfl⟩ := decodeInt?_eq_some_iff_encodeInt?.1 hstamp
    obtain ⟨offsetField, hoffset', rfl⟩ := decodeInt?_eq_some_iff_encodeInt?.1 hoffset
    obtain ⟨lengthField, hlength', rfl⟩ := decodeInt?_eq_some_iff_encodeInt?.1 hlength
    obtain ⟨nameField, hname', rfl⟩ := decodeCounted?_eq_some_iff.1 hname
    obtain ⟨tokenField, htoken', rfl⟩ := decodeCounted?_eq_some_iff.1 htoken
    -- The reader gives the characters of the name, of which the writer has the bytes.
    rw [← Utf8.encode_of_decode? hcs, ← String.toList_ofList (l := cs)] at hname'
    refine ⟨_, ⟨blockField, stampField, offsetField, lengthField, nameField, tokenField, hblock',
      hstamp', hoffset', hlength', hname', htoken', rfl⟩, ?_⟩
    simp only [List.append_assoc]
  · rintro ⟨payload, ⟨blockField, stampField, offsetField, lengthField, nameField, tokenField,
      hblock, hstamp, hoffset, hlength, hname, htoken, rfl⟩, rfl⟩
    have hversion : Word.InRange 2 version := by decide
    have hopcode : opcode < Word.count 1 := by decide
    simp only [List.append_assoc]
    refine ⟨_, _, decodeInt?_eq_some_iff.2 ⟨hversion, rfl⟩,
      _, _, decodeNat?_eq_some_iff.2 ⟨hopcode, rfl⟩,
      _, _, decodeInt?_eq_some_iff_encodeInt?.2 ⟨_, hblock, rfl⟩,
      _, _, decodeInt?_eq_some_iff_encodeInt?.2 ⟨_, hstamp, rfl⟩,
      _, _, decodeInt?_eq_some_iff_encodeInt?.2 ⟨_, hoffset, rfl⟩,
      _, _, decodeInt?_eq_some_iff_encodeInt?.2 ⟨_, hlength, rfl⟩,
      _, _, decodeCounted?_eq_some_iff.2 ⟨_, hname, rfl⟩,
      _, Utf8.decode?_encode _,
      _, _, decodeCounted?_eq_some_iff.2 ⟨_, htoken, rfl⟩, ?_⟩
    rw [String.ofList_toList]
    rfl

/-! ### Limits -/

/-- An integer of a request has more than 64 bits, its client name more bytes than 16 bits can count,
or its token more than 32 bits can count. -/
def Overflows (r : Request) : Prop :=
  (∃ n ∈ [r.blockId, r.stamp, r.offset, r.length], n < -2 ^ 63 ∨ 2 ^ 63 ≤ n) ∨
    65535 < r.clientName.utf8ByteSize ∨ 2 ^ 32 - 1 < r.token.length

theorem inRange_eight_iff (n : Int) : Word.InRange 8 n ↔ ¬ (n < -2 ^ 63 ∨ 2 ^ 63 ≤ n) := by
  have hcount : (Word.count 8 : Int) = 18446744073709551616 := rfl
  rw [Word.InRange, hcount]
  omega

/-- A request overflows exactly if its fields do not all fit. -/
theorem overflows_iff (r : Request) : r.Overflows ↔ ¬ r.Fits := by
  have hname : Word.count 2 = 65536 := rfl
  have htoken : Word.count 4 = 4294967296 := rfl
  unfold Overflows
  constructor
  · intro hover hfits
    rcases hover with ⟨n, hn, hbad⟩ | hlong | hlong
    · have hrange : Word.InRange 8 n := by
        simp only [List.mem_cons, List.not_mem_nil, or_false] at hn
        rcases hn with rfl | rfl | rfl | rfl
        · exact hfits.blockId
        · exact hfits.stamp
        · exact hfits.offset
        · exact hfits.length
      exact (inRange_eight_iff n).1 hrange hbad
    · have hshort := hfits.clientName
      rw [Utf8.length_encode, hname] at hshort
      omega
    · have hshort := hfits.token
      rw [htoken] at hshort
      omega
  · intro hfits
    refine Classical.byContradiction fun hover => hfits ?_
    rw [not_or, not_or] at hover
    obtain ⟨hinteger, hclient, hcredential⟩ := hover
    have hrange : ∀ n ∈ [r.blockId, r.stamp, r.offset, r.length], Word.InRange 8 n := by
      intro n hn
      rw [inRange_eight_iff]
      exact fun hbad => hinteger ⟨n, hn, hbad⟩
    refine ⟨hrange _ (by simp), hrange _ (by simp), hrange _ (by simp), hrange _ (by simp), ?_, ?_⟩
    · rw [Utf8.length_encode, hname]
      omega
    · rw [htoken]
      omega

theorem encode_eq_error_iff (r : Request) : r.encode = .error .unencodable ↔ r.Overflows := by
  rw [overflows_iff]
  constructor
  · intro h hfits
    obtain ⟨payload, hpayload⟩ := (encode_eq_ok_iff r).2 hfits
    rw [hpayload] at h
    cases h
  · exact encode_of_not_fits

/-- A frame at the front of bytes is the frame of what is read there. -/
theorem decode?_encode {r : Request} {payload : Bytes} (h : r.encode = .ok payload) (rest : Bytes) :
    decode? (payload ++ rest) = some (⟨version, opcode, r⟩, rest) :=
  decode?_eq_some_iff.2 ⟨payload, h, rfl⟩

/-- A frame that begins another is the other. -/
theorem eq_of_prefix_frame {r r' : Request} {payload payload' : Bytes}
    (h : r.encode = .ok payload) (h' : r'.encode = .ok payload') (hle : payload <+: payload') :
    payload = payload' ∧ r = r' := by
  obtain ⟨rest, rfl⟩ := hle
  have hdecode := decode?_encode h rest
  have hdecode' := decode?_encode h' []
  rw [List.append_nil, hdecode] at hdecode'
  cases hdecode'
  exact ⟨(List.append_nil payload).symm, rfl⟩

/-- Framing is exactly invertible. A request has no frame exactly if a field overflows. Otherwise it is
read off the front of its frame with whatever follows, and a frame that is read in full is the frame
of the request that is read. So no two requests have one frame, and no frame begins another. -/
theorem encode_invertible :
    (∀ r : Request, r.encode = .error .unencodable ↔ r.Overflows) ∧
    (∀ r : Request, ¬ r.Overflows → ∃ payload, r.encode = .ok payload ∧
      ∀ rest, decode? (payload ++ rest) = some (⟨19, 81, r⟩, rest)) ∧
    (∀ (r : Request) (payload : Bytes),
      decode? payload = some (⟨19, 81, r⟩, []) → r.encode = .ok payload) ∧
    (∀ (r r' : Request) (payload : Bytes),
      r.encode = .ok payload → r'.encode = .ok payload → r = r') ∧
    (∀ (r r' : Request) (payload payload' : Bytes),
      r.encode = .ok payload → r'.encode = .ok payload' → payload <+: payload' →
        payload = payload') := by
  refine ⟨encode_eq_error_iff, ?read, ?written, ?injective, ?apart⟩
  case read =>
      intro r hover
      rw [overflows_iff, not_not] at hover
      obtain ⟨payload, hpayload⟩ := (encode_eq_ok_iff r).2 hover
      exact ⟨payload, hpayload, decode?_encode hpayload⟩
  case written =>
      intro r payload h
      obtain ⟨payload', hpayload, hsplit⟩ := decode?_eq_some_iff.1 h
      rw [List.append_nil] at hsplit
      rw [hsplit]
      exact hpayload
  case injective =>
      intro r r' payload h h'
      exact (eq_of_prefix_frame h h' List.prefix_rfl).2
  case apart =>
      intro r r' payload payload' h h' hle
      exact (eq_of_prefix_frame h h' hle).1

/-- The bytes of a name are counted, and not its characters. -/
example : (⟨-1, 2, 0, 3, "é", [7]⟩ : Request).encode = .ok
    [0, 19, 81, 255, 255, 255, 255, 255, 255, 255, 255, 0, 0, 0, 0, 0, 0, 0, 2, 0, 0, 0, 0, 0, 0, 0, 0,
      0, 0, 0, 0, 0, 0, 0, 3, 0, 2, 195, 169, 0, 0, 0, 1, 7] := by
  decide

end Request
end ReplicaRead
