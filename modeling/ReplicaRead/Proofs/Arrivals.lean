import ReplicaRead.Network

/-!
# Arrivals byte by byte

What arrives on a connection comes in pieces of any size. Here it is laid out as a sequence of
items, each a single byte or a failure, and reads are described by the items they use up.

A piece without bytes is a failure, since it says that the data has ended. After the last arrival
every further read is such a failure: items are supplied as if followed by endless failures.

Results: `supplies_of_receive`, what one read uses up; `firstTwo`, which reads two bytes in
whatever pieces they come; and `content_receiveSized` and `content_firstTwo`, which bytes are left.
-/

namespace ReplicaRead
namespace Arrivals

/-- A byte that arrives, or a failure in its place. -/
abbrev Item := Except Fault UInt8

/-- The items of a list of arrivals. -/
def items : List Arrival → List Item
  | [] => []
  | .error f :: rest => .error f :: items rest
  | .ok [] :: rest => .error .prematureEnd :: items rest
  | .ok (b :: bs) :: rest => (b :: bs).map .ok ++ items rest

/-- The bytes among items. -/
def bytes (is : List Item) : Bytes :=
  is.filterMap Except.toOption

/-- The number of failures among items. -/
def failures (is : List Item) : Nat :=
  is.countP fun i => !i.isOk

@[simp] theorem bytes_nil : bytes [] = [] := rfl

@[simp] theorem bytes_append (is js : List Item) :
    bytes (is ++ js) = bytes is ++ bytes js :=
  List.filterMap_append

@[simp] theorem bytes_map_ok (bs : Bytes) :
    bytes (bs.map .ok) = bs := by
  induction bs with
  | nil =>
      rfl
  | cons b bs ih =>
      exact congrArg (List.cons b) ih

@[simp] theorem bytes_error_cons (f : Fault) (is : List Item) :
    bytes (.error f :: is) = bytes is := rfl

@[simp] theorem failures_nil : failures [] = 0 := rfl

@[simp] theorem failures_append (is js : List Item) :
    failures (is ++ js) = failures is + failures js :=
  List.countP_append

@[simp] theorem failures_map_ok (bs : Bytes) :
    failures (bs.map .ok) = 0 := by
  simp [failures, Except.isOk, Except.toBool]

@[simp] theorem failures_error_cons (f : Fault) (is : List Item) :
    failures (.error f :: is) = failures is + 1 := by
  simp [failures, Except.isOk, Except.toBool]

/-! ### Endless supply -/

/-- The items `front` come first when `is` is followed by endless failures. -/
def Supplies (is front : List Item) : Prop :=
  ∃ n, front <+: is ++ List.replicate n (.error .prematureEnd)

theorem supplies_nil (is : List Item) : Supplies is [] :=
  ⟨0, List.nil_prefix⟩

theorem Supplies.append {is front : List Item} (before : List Item) (h : Supplies is front) :
    Supplies (before ++ is) (before ++ front) := by
  obtain ⟨n, hn⟩ := h
  refine ⟨n, ?_⟩
  rw [List.append_assoc]
  exact (List.prefix_append_right_inj before).2 hn

/-- After the last item there is always one failure more. -/
theorem Supplies.cons_end {front : List Item} (h : Supplies [] front) :
    Supplies [] (.error .prematureEnd :: front) := by
  obtain ⟨n, hn⟩ := h
  refine ⟨n + 1, ?_⟩
  rw [List.nil_append] at hn ⊢
  rw [List.replicate_succ]
  exact (List.prefix_cons_inj _).2 hn

/-- Of two beginnings of one supply, one is a beginning of the other. -/
theorem Supplies.total {is front front' : List Item} (h : Supplies is front)
    (h' : Supplies is front') : front <+: front' ∨ front' <+: front := by
  obtain ⟨n, hn⟩ := h
  obtain ⟨n', hn'⟩ := h'
  have grow : ∀ k m, is ++ List.replicate k (.error Fault.prematureEnd) <+:
      is ++ List.replicate (k + m) (.error Fault.prematureEnd) := by
    intro k m
    rw [← List.replicate_append_replicate, ← List.append_assoc]
    exact List.prefix_append _ _
  have hl := hn.trans (grow n n')
  have hr := hn'.trans (grow n' n)
  rw [Nat.add_comm n' n] at hr
  exact List.prefix_or_prefix_of_prefix hl hr

/-! ### One read -/

/-- A read of a size that is not below zero is the same in both modes. -/
theorem receiveSized_of_nonneg {size : Int} (hsize : 0 ≤ size) (mode : Mode)
    (arrivals : List Arrival) : receiveSized mode size arrivals = receive size.toNat arrivals :=
  if_pos hsize

theorem receiveSized_natCast (mode : Mode) (n : Nat) (arrivals : List Arrival) :
    receiveSized mode n arrivals = receive n arrivals :=
  receiveSized_of_nonneg (Int.natCast_nonneg n) mode arrivals

theorem receiveSized_sync_of_neg {size : Int} (hsize : size < 0) (arrivals : List Arrival) :
    receiveSized .sync size arrivals = (.error .negativeSize, arrivals) :=
  if_neg (Int.not_le.2 hsize)

theorem receiveSized_async_of_neg {size : Int} (hsize : size < 0) (arrivals : List Arrival) :
    receiveSized .async size arrivals = receiveAll [] arrivals :=
  if_neg (Int.not_le.2 hsize)

/-- A piece of data, where no bytes are a premature end. -/
def piece : Bytes → Except Fault Bytes
  | [] => .error .prematureEnd
  | b :: bs => .ok (b :: bs)

/-- What a read of data brings. -/
def receivePiece (mode : Mode) (size : Int) (arrivals : List Arrival) : Except Fault Bytes :=
  (receiveSized mode size arrivals).1.bind piece

theorem receivePiece_of_nonneg {size : Int} (hsize : 0 ≤ size) (arrivals : List Arrival) :
    receivePiece .sync size arrivals = receivePiece .async size arrivals := by
  rw [receivePiece, receivePiece, receiveSized_of_nonneg hsize, receiveSized_of_nonneg hsize]

/-- The items that stand for what a read brought. -/
def used : Except Fault Bytes → List Item
  | .ok bs => bs.map .ok
  | .error f => [.error f]

theorem bytes_used_piece (bs : Bytes) : bytes (used (piece bs)) = bs := by
  cases bs with
  | nil =>
      rfl
  | cons b bs =>
      exact bytes_map_ok _

/-- A read brings the items that come first. -/
theorem supplies_of_receive {size : Int} (hsize : 0 < size) (mode : Mode) (arrivals : List Arrival)
    (front : List Item) (h : Supplies (items (receiveSized mode size arrivals).2) front) :
    Supplies (items arrivals) (used (receivePiece mode size arrivals) ++ front) := by
  obtain ⟨n, rfl⟩ := Int.eq_ofNat_of_zero_le (Int.le_of_lt hsize)
  have hne : n ≠ 0 := by omega
  rw [receivePiece]
  rw [receiveSized_natCast] at h ⊢
  match arrivals with
  | [] =>
      exact Supplies.cons_end h
  | .error f :: rest =>
      simp only [receive, hne, if_false] at h ⊢
      exact h.append [.error f]
  | .ok [] :: rest =>
      simp only [receive, hne, if_false, List.length_nil, Nat.zero_le, if_true] at h ⊢
      exact h.append [.error .prematureEnd]
  | .ok (b :: bs) :: rest =>
      by_cases hle : (b :: bs).length ≤ n
      · simp only [receive, hne, if_false, hle, if_true] at h ⊢
        exact h.append ((b :: bs).map .ok)
      · obtain ⟨m, rfl⟩ : ∃ m, n = m + 1 := ⟨n - 1, by omega⟩
        obtain ⟨c, cs, hdrop⟩ : ∃ c cs, bs.drop m = c :: cs := by
          refine List.exists_cons_of_ne_nil ?_
          simp only [List.length_cons] at hle
          simp only [ne_eq, List.drop_eq_nil_iff]
          omega
        have hsplit : b :: bs = (b :: bs.take m) ++ (c :: cs) := by
          rw [List.cons_append, ← hdrop, List.take_append_drop]
        simp only [receive, hne, if_false, hle, List.take_succ_cons, List.drop_succ_cons, hdrop]
          at h ⊢
        simp only [items, hsplit, List.map_append, List.append_assoc]
        exact h.append ((b :: bs.take m).map .ok)

theorem receivePiece_ok {mode : Mode} {size : Int} {arrivals : List Arrival} {bs : Bytes}
    (h : receivePiece mode size arrivals = .ok bs) :
    (receiveSized mode size arrivals).1 = .ok bs ∧ bs ≠ [] := by
  unfold receivePiece at h
  cases hr : (receiveSized mode size arrivals).1 with
  | error f =>
      rw [hr] at h
      cases h
  | ok got =>
      rw [hr] at h
      cases got with
      | nil =>
          cases h
      | cons b got =>
          cases h
          exact ⟨rfl, List.cons_ne_nil _ _⟩

/-- A read brings the byte that comes first, and perhaps more. -/
theorem receivePiece_of_items {size : Int} (hsize : 0 < size) (mode : Mode)
    {arrivals : List Arrival} {b : UInt8} {is : List Item} (h : items arrivals = .ok b :: is) :
    ∃ bs, receivePiece mode size arrivals = .ok (b :: bs) := by
  obtain ⟨n, rfl⟩ := Int.eq_ofNat_of_zero_le (Int.le_of_lt hsize)
  obtain ⟨m, rfl⟩ := Nat.exists_eq_succ_of_ne_zero (by omega : n ≠ 0)
  rw [receivePiece, receiveSized_natCast]
  match arrivals with
  | [] | .error f :: rest | .ok [] :: rest =>
      cases h
  | .ok (c :: cs) :: rest =>
      cases h
      by_cases hle : (b :: cs).length ≤ m + 1
      · exact ⟨cs, by simp only [receive, hle, if_true]; rfl⟩
      · exact ⟨cs.take m, by simp only [receive, hle, if_false]; rfl⟩

/-- A read fails with the premature end or with a fault that it meets. -/
theorem receivePiece_error {mode : Mode} {size : Int} {arrivals : List Arrival} {f : Fault}
    (h : receivePiece mode size arrivals = .error f) :
    f = .prematureEnd ∨ (receiveSized mode size arrivals).1 = .error f := by
  unfold receivePiece at h
  cases hr : (receiveSized mode size arrivals).1 with
  | error g =>
      rw [hr] at h
      cases h
      exact Or.inr rfl
  | ok got =>
      rw [hr] at h
      cases got with
      | nil =>
          cases h
          exact Or.inl rfl
      | cons b got =>
          cases h

/-- A read brings at most as many bytes as are asked for. -/
theorem length_le_of_receive {n : Nat} {arrivals : List Arrival} {bs : Bytes}
    (h : (receive n arrivals).1 = .ok bs) :
    bs.length ≤ n := by
  match arrivals with
  | [] =>
      cases h
      exact Nat.zero_le n
  | .error f :: rest =>
      simp only [receive] at h
      split at h
      · cases h
        exact Nat.zero_le n
      · cases h
  | .ok got :: rest =>
      simp only [receive] at h
      split at h
      · cases h
        exact Nat.zero_le n
      · split at h
        · rename_i hle
          cases h
          exact hle
        · cases h
          exact List.length_take_le _ _

/-- Only an awaited read of a size below zero brings more bytes than its size. -/
theorem length_le_of_receivePiece {mode : Mode} {size : Int} {arrivals : List Arrival} {bs : Bytes}
    (h : receivePiece mode size arrivals = .ok bs) :
    (bs.length : Int) ≤ size ∨ mode = .async ∧ size < 0 := by
  obtain ⟨hreceived, -⟩ := receivePiece_ok h
  rcases Int.lt_or_le size 0 with hsize | hsize
  · cases mode with
    | sync =>
        rw [receiveSized_sync_of_neg hsize] at hreceived
        cases hreceived
    | async =>
        exact Or.inr ⟨rfl, hsize⟩
  · rw [receiveSized_of_nonneg hsize] at hreceived
    have hle := length_le_of_receive hreceived
    exact Or.inl (by omega)

/-- A fault that is left to arrive, or that a read brings, is one of those that arrive. -/
theorem mem_of_receive {n : Nat} {arrivals : List Arrival} {f : Fault}
    (h : (receive n arrivals).1 = .error f ∨ .error f ∈ (receive n arrivals).2) :
    .error f ∈ arrivals := by
  match arrivals with
  | [] =>
      simp [receive] at h
  | .error g :: rest =>
      simp only [receive] at h
      split at h
      · rcases h with h | h
        · cases h
        · exact h
      · rcases h with h | h
        · cases h
          exact List.mem_cons_self
        · exact List.mem_cons_of_mem _ h
  | .ok got :: rest =>
      simp only [receive] at h
      split at h
      · rcases h with h | h
        · cases h
        · exact h
      · split at h
        · rcases h with h | h
          · cases h
          · exact List.mem_cons_of_mem _ h
        · rcases h with h | h
          · cases h
          · rcases List.mem_cons.1 h with h | h
            · cases h
            · exact List.mem_cons_of_mem _ h

theorem mem_of_receiveSized {mode : Mode} {size : Int} (hsize : 0 ≤ size)
    {arrivals : List Arrival} {f : Fault} (h : (receiveSized mode size arrivals).1 = .error f ∨
      .error f ∈ (receiveSized mode size arrivals).2) : .error f ∈ arrivals := by
  rw [receiveSized_of_nonneg hsize] at h
  exact mem_of_receive h

/-! ### Two bytes -/

/-- What the reading of two bytes comes to. -/
inductive Pair where
  | bytes (high low : UInt8)
  | fault (f : Fault)
  | short (got : Nat)
deriving DecidableEq

/-- The second of two bytes, and what is left to arrive. -/
def second (high : UInt8) : List Arrival → Pair × List Arrival
  | [] => (.short 1, [])
  | .error f :: rest => (.fault f, rest)
  | .ok [] :: rest => (.short 1, rest)
  | .ok [low] :: rest => (.bytes high low, rest)
  | .ok (low :: b :: bs) :: rest => (.bytes high low, .ok (b :: bs) :: rest)

/-- The first two bytes that arrive, and what is left to arrive. -/
def firstTwo : List Arrival → Pair × List Arrival
  | [] => (.short 0, [])
  | .error f :: rest => (.fault f, rest)
  | .ok [] :: rest => (.short 0, rest)
  | .ok [high] :: rest => second high rest
  | .ok [high, low] :: rest => (.bytes high low, rest)
  | .ok (high :: low :: b :: bs) :: rest => (.bytes high low, .ok (b :: bs) :: rest)

theorem second_of_items {high low : UInt8} {arrivals : List Arrival} {is : List Item}
    (h : items arrivals = .ok low :: is) :
    ∃ rest, second high arrivals = (.bytes high low, rest) ∧ items rest = is := by
  match arrivals with
  | [] =>
      cases h
  | .error f :: rest =>
      cases h
  | .ok [] :: rest =>
      cases h
  | .ok [b] :: rest =>
      cases h
      exact ⟨rest, rfl, rfl⟩
  | .ok (b :: c :: cs) :: rest =>
      cases h
      exact ⟨.ok (c :: cs) :: rest, rfl, rfl⟩

/-- Two bytes are read if no failure comes before them, and nothing after them is lost. -/
theorem firstTwo_of_items {high low : UInt8} {arrivals : List Arrival} {is : List Item}
    (h : items arrivals = .ok high :: .ok low :: is) :
    ∃ rest, firstTwo arrivals = (.bytes high low, rest) ∧ items rest = is := by
  match arrivals with
  | [] =>
      cases h
  | .error f :: rest =>
      cases h
  | .ok [] :: rest =>
      cases h
  | .ok [b] :: rest =>
      simp only [items, List.map_cons, List.map_nil, List.cons_append, List.nil_append,
        List.cons.injEq, Except.ok.injEq] at h
      obtain ⟨rfl, h⟩ := h
      exact second_of_items h
  | .ok [b, c] :: rest =>
      cases h
      exact ⟨rest, rfl, rfl⟩
  | .ok (b :: c :: d :: ds) :: rest =>
      cases h
      exact ⟨.ok (d :: ds) :: rest, rfl, rfl⟩

/-- Two bytes that are read are the first two items. -/
theorem items_of_second {high high' low : UInt8} {arrivals : List Arrival}
    (h : (second high arrivals).1 = .bytes high' low) :
    high' = high ∧ items arrivals = .ok low :: items (second high arrivals).2 := by
  match arrivals with
  | [] | .error f :: rest | .ok [] :: rest =>
      cases h
  | .ok [b] :: rest | .ok (b :: c :: cs) :: rest =>
      cases h
      exact ⟨rfl, rfl⟩

theorem items_of_firstTwo {high low : UInt8} {arrivals : List Arrival}
    (h : (firstTwo arrivals).1 = .bytes high low) :
    items arrivals = .ok high :: .ok low :: items (firstTwo arrivals).2 := by
  match arrivals with
  | [] | .error f :: rest | .ok [] :: rest =>
      cases h
  | .ok [b] :: rest =>
      obtain ⟨rfl, hitems⟩ := items_of_second h
      exact congrArg (List.cons (.ok high)) hitems
  | .ok [b, c] :: rest | .ok (b :: c :: d :: ds) :: rest =>
      cases h
      rfl

theorem mem_of_second {high : UInt8} {arrivals : List Arrival} {f : Fault}
    (h : (second high arrivals).1 = .fault f ∨ .error f ∈ (second high arrivals).2) :
    .error f ∈ arrivals := by
  match arrivals with
  | [] =>
      simp [second] at h
  | .error g :: rest =>
      rcases h with h | h
      · cases h
        exact List.mem_cons_self
      · exact List.mem_cons_of_mem _ h
  | .ok [] :: rest | .ok [b] :: rest =>
      rcases h with h | h
      · cases h
      · exact List.mem_cons_of_mem _ h
  | .ok (b :: c :: cs) :: rest =>
      rcases h with h | h
      · cases h
      · simpa [second] using h

/-- A fault that is left to arrive after two bytes, or that comes in their place, is one of those
that arrive. -/
theorem mem_of_firstTwo {arrivals : List Arrival} {f : Fault}
    (h : (firstTwo arrivals).1 = .fault f ∨ .error f ∈ (firstTwo arrivals).2) :
    .error f ∈ arrivals := by
  match arrivals with
  | [] =>
      simp [firstTwo] at h
  | .error g :: rest =>
      rcases h with h | h
      · cases h
        exact List.mem_cons_self
      · exact List.mem_cons_of_mem _ h
  | .ok [b] :: rest =>
      exact List.mem_cons_of_mem _ (mem_of_second h)
  | .ok [] :: rest | .ok [b, c] :: rest =>
      rcases h with h | h
      · cases h
      · exact List.mem_cons_of_mem _ h
  | .ok (b :: c :: d :: ds) :: rest =>
      rcases h with h | h
      · cases h
      · simpa [firstTwo] using h

/-! ### The bytes that are left -/

/-- The bytes that are to arrive. -/
def content (arrivals : List Arrival) : Bytes :=
  bytes (items arrivals)

@[simp] theorem content_nil : content [] = [] := rfl

@[simp] theorem content_error_cons (f : Fault) (rest : List Arrival) :
    content (.error f :: rest) = content rest := rfl

@[simp] theorem content_ok_cons (bs : Bytes) (rest : List Arrival) :
    content (.ok bs :: rest) = bs ++ content rest := by
  cases bs with
  | nil =>
      rfl
  | cons b bs =>
      rw [content, items, bytes_append, bytes_map_ok]
      rfl

/-- A read takes away from the front the bytes that it brings. -/
theorem content_receive (n : Nat) (arrivals : List Arrival) :
    content arrivals =
      bytes (used ((receive n arrivals).1.bind piece)) ++ content (receive n arrivals).2 := by
  match arrivals with
  | [] =>
      rfl
  | .error f :: rest =>
      by_cases hn : n = 0
      · simp [receive, hn, Except.bind, piece, used]
      · simp [receive, hn, Except.bind, used]
  | .ok bs :: rest =>
      by_cases hn : n = 0
      · simp [receive, hn, Except.bind, piece, used]
      · by_cases hle : bs.length ≤ n
        · simp [receive, hn, hle, Except.bind, bytes_used_piece]
        · simp only [receive, hn, hle, if_false, Except.bind, bytes_used_piece, content_ok_cons]
          rw [← List.append_assoc, List.take_append_drop]

/-- A read to the end brings what comes first, or nothing, in which case some bytes may be lost. -/
theorem content_receiveAll (got : Bytes) (arrivals : List Arrival) :
    ∃ taken, content arrivals = taken ++ content (receiveAll got arrivals).2 ∧
      ∀ bs, (receiveAll got arrivals).1 = .ok bs → bs = got ++ taken := by
  induction arrivals generalizing got with
  | nil =>
      refine ⟨[], rfl, ?_⟩
      intro bs h
      cases h
      exact (List.append_nil got).symm
  | cons arrival rest ih =>
      match arrival with
      | .error f =>
          exact ⟨[], rfl, nofun⟩
      | .ok [] =>
          refine ⟨[], rfl, ?_⟩
          intro bs h
          cases h
          exact (List.append_nil got).symm
      | .ok (b :: bs) =>
          obtain ⟨taken, hcontent, hgot⟩ := ih (got ++ b :: bs)
          refine ⟨b :: bs ++ taken, ?_, ?_⟩
          · rw [content_ok_cons, hcontent, List.append_assoc]
            rfl
          · intro all h
            rw [hgot all h, List.append_assoc]

/-- Bytes of a content, in order. If nothing is lost, they are those that come first. -/
structure Drawn (lossless : Prop) (bs content : Bytes) : Prop where
  sublist : bs.Sublist content
  front : lossless → bs <+: content

theorem drawn_nil (lossless : Prop) (content : Bytes) : Drawn lossless [] content :=
  ⟨List.nil_sublist _, fun _ => List.nil_prefix⟩

theorem Drawn.append {lossless : Prop} {bs bs' content content' : Bytes} (h : bs.Sublist content)
    (hall : lossless → bs = content) (h' : Drawn lossless bs' content') :
    Drawn lossless (bs ++ bs') (content ++ content') := by
  refine ⟨h.append h'.sublist, ?_⟩
  intro hlossless
  rw [hall hlossless]
  exact (List.prefix_append_right_inj content).2 (h'.front hlossless)

/-- What a read takes away from the front are the bytes that it brings. Only a read to the end can
take away more. -/
theorem content_receiveSized (mode : Mode) (size : Int) (arrivals : List Arrival) :
    ∃ taken, content arrivals = taken ++ content (receiveSized mode size arrivals).2 ∧
      (bytes (used (receivePiece mode size arrivals))).Sublist taken ∧
      (0 ≤ size → bytes (used (receivePiece mode size arrivals)) = taken) := by
  unfold receivePiece
  rcases Int.lt_or_le size 0 with hsize | hsize
  · cases mode with
    | sync =>
        rw [receiveSized_sync_of_neg hsize]
        exact ⟨[], rfl, List.Sublist.refl [], fun _ => rfl⟩
    | async =>
        obtain ⟨taken, hcontent, htaken⟩ := content_receiveAll [] arrivals
        rw [receiveSized_async_of_neg hsize]
        refine ⟨taken, hcontent, ?_, fun h => absurd h (Int.not_le.2 hsize)⟩
        cases hreceived : (receiveAll [] arrivals).1 with
        | error f =>
            exact List.nil_sublist taken
        | ok bs =>
            rw [htaken bs hreceived]
            exact (bytes_used_piece _).symm ▸ List.Sublist.refl _
  · rw [receiveSized_of_nonneg hsize]
    exact ⟨_, content_receive size.toNat arrivals, List.Sublist.refl _, fun _ => rfl⟩

theorem content_second (high : UInt8) (arrivals : List Arrival) :
    ∃ taken, taken.length ≤ 1 ∧ content arrivals = taken ++ content (second high arrivals).2 ∧
      ∀ high' low, (second high arrivals).1 = .bytes high' low → high' = high ∧ taken = [low] := by
  match arrivals with
  | [] | .error f :: rest | .ok [] :: rest =>
      exact ⟨[], Nat.zero_le 1, rfl, nofun⟩
  | .ok [b] :: rest | .ok (b :: c :: cs) :: rest =>
      refine ⟨[b], Nat.le_refl 1, by simp [second], ?_⟩
      intro high' low h
      cases h
      exact ⟨rfl, rfl⟩

/-- The reading of two bytes takes away at most two bytes from the front, and these two if it
succeeds. -/
theorem content_firstTwo (arrivals : List Arrival) :
    ∃ taken, taken.length ≤ 2 ∧ content arrivals = taken ++ content (firstTwo arrivals).2 ∧
      ∀ high low, (firstTwo arrivals).1 = .bytes high low → taken = [high, low] := by
  match arrivals with
  | [] | .error f :: rest | .ok [] :: rest =>
      exact ⟨[], Nat.zero_le 2, rfl, nofun⟩
  | .ok [b] :: rest =>
      obtain ⟨taken, hlength, hcontent, htaken⟩ := content_second b rest
      refine ⟨b :: taken, Nat.succ_le_succ hlength, ?_, ?_⟩
      · rw [content_ok_cons, hcontent]
        rfl
      · intro high low h
        obtain ⟨rfl, rfl⟩ := htaken high low h
        rfl
  | .ok [b, c] :: rest | .ok (b :: c :: d :: ds) :: rest =>
      refine ⟨[b, c], Nat.le_refl 2, by simp [firstTwo], ?_⟩
      intro high low h
      cases h
      rfl

/-! ### The number of bytes -/

/-- The number of bytes that are to arrive. -/
def volume (arrivals : List Arrival) : Nat :=
  (bytes (items arrivals)).length

theorem volume_eq_length (arrivals : List Arrival) :
    volume arrivals = (content arrivals).length := rfl

@[simp] theorem volume_ok_cons (bs : Bytes) (rest : List Arrival) :
    volume (.ok bs :: rest) = bs.length + volume rest := by
  rw [volume_eq_length, content_ok_cons, List.length_append, volume_eq_length]

/-- A read takes away the bytes that it brings. -/
theorem volume_receive {size : Int} (hsize : 0 ≤ size) (mode : Mode) (arrivals : List Arrival) :
    volume arrivals = (bytes (used (receivePiece mode size arrivals))).length +
      volume (receiveSized mode size arrivals).2 := by
  obtain ⟨taken, hcontent, -, htaken⟩ := content_receiveSized mode size arrivals
  rw [volume_eq_length, hcontent, List.length_append, htaken hsize, volume_eq_length]

end Arrivals
end ReplicaRead
