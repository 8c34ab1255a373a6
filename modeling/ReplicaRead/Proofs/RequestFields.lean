import ReplicaRead.Request

/-!
# The fields of a request

A request has a frame exactly if each of its fields fits the bytes that the frame has for it.

Results: `Request.Fits` and `Request.encode_eq_ok_iff`.
-/

namespace ReplicaRead
namespace Request

/-- Every field of a request fits its place in the frame. -/
structure Fits (r : Request) : Prop where
  blockId : Word.InRange 8 r.blockId
  stamp : Word.InRange 8 r.stamp
  offset : Word.InRange 8 r.offset
  length : Word.InRange 8 r.length
  clientName : (Utf8.encode r.clientName.toList).length < Word.count 2
  token : r.token.length < Word.count 4

theorem isSome_encodeInt?_iff (n : Int) :
    (encodeInt? n).isSome ↔ Word.InRange 8 n := by
  unfold encodeInt?
  by_cases h : Word.InRange 8 n
  · simp [h]
  · simp [h]

theorem isSome_encodeCounted?_iff (width : Nat) (bs : Bytes) :
    (encodeCounted? width bs).isSome ↔ bs.length < Word.count width := by
  unfold encodeCounted?
  by_cases h : bs.length < Word.count width
  · simp [h]
  · simp [h]

theorem isSome_encode?_iff (r : Request) : r.encode?.isSome ↔ r.Fits := by
  constructor
  · intro h
    obtain ⟨bs, hbs⟩ := Option.isSome_iff_exists.mp h
    unfold encode? at hbs
    simp only [Option.bind_eq_bind, Option.bind_eq_some_iff] at hbs
    obtain ⟨block, hblock, stamp, hstamp, offset, hoffset, length, hlength,
      name, hname, token, htoken, -⟩ := hbs
    constructor
    · exact (isSome_encodeInt?_iff _).mp (Option.isSome_of_eq_some hblock)
    · exact (isSome_encodeInt?_iff _).mp (Option.isSome_of_eq_some hstamp)
    · exact (isSome_encodeInt?_iff _).mp (Option.isSome_of_eq_some hoffset)
    · exact (isSome_encodeInt?_iff _).mp (Option.isSome_of_eq_some hlength)
    · exact (isSome_encodeCounted?_iff _ _).mp (Option.isSome_of_eq_some hname)
    · exact (isSome_encodeCounted?_iff _ _).mp (Option.isSome_of_eq_some htoken)
  · intro h
    obtain ⟨block, hblock⟩ := Option.isSome_iff_exists.mp ((isSome_encodeInt?_iff _).mpr h.blockId)
    obtain ⟨stamp, hstamp⟩ := Option.isSome_iff_exists.mp ((isSome_encodeInt?_iff _).mpr h.stamp)
    obtain ⟨offset, hoffset⟩ := Option.isSome_iff_exists.mp ((isSome_encodeInt?_iff _).mpr h.offset)
    obtain ⟨length, hlength⟩ := Option.isSome_iff_exists.mp ((isSome_encodeInt?_iff _).mpr h.length)
    obtain ⟨name, hname⟩ :=
      Option.isSome_iff_exists.mp ((isSome_encodeCounted?_iff _ _).mpr h.clientName)
    obtain ⟨token, htoken⟩ :=
      Option.isSome_iff_exists.mp ((isSome_encodeCounted?_iff _ _).mpr h.token)
    unfold encode?
    rw [hblock, hstamp, hoffset, hlength, hname, htoken]
    rfl

instance (r : Request) : Decidable r.Fits :=
  decidable_of_iff _ (isSome_encode?_iff r)

/-- A request has a frame exactly if its fields fit. -/
theorem encode_eq_ok_iff (r : Request) : (∃ payload, r.encode = .ok payload) ↔ r.Fits := by
  rw [← isSome_encode?_iff]
  unfold encode
  cases r.encode? with
  | none =>
      simp
  | some bs =>
      simp

/-- A request whose fields do not all fit has no frame. -/
theorem encode_of_not_fits {r : Request} (h : ¬ r.Fits) : r.encode = .error .unencodable := by
  rw [← isSome_encode?_iff] at h
  unfold encode
  cases hr : r.encode? with
  | none =>
      rfl
  | some bs =>
      rw [hr] at h
      exact absurd rfl h

end Request
end ReplicaRead
