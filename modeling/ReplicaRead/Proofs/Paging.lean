import ReplicaRead.Proofs.Slices

/-!
# Reading a block page by page

A read from a faithful node returns the slice of the content that its range has. So the ranges of a
block can be read one after the other, by pages or otherwise, and their data put together gives the
data of the whole.

Results: `Streamer.pageCalls`, the reads of the pages; `Streamer.Tiled` and `Streamer.stream_tiles`,
what they return.
-/

namespace ReplicaRead

open Act Arrivals

namespace Streamer

/-! ### Pages -/

/-- The task for another range. -/
def Task.withRange (task : Task) (offset length : Nat) : Task :=
  { task with range := ⟨offset, length⟩ }

/-- A read, with the network on which it was begun. -/
structure Call where
  net : Network
  run : Run Network Bytes

/-- The reads of a block by pages from an offset on, each on the network that the one before has
left. -/
def pageCalls (mode : Mode) (streamer : Streamer) (task : Task) (size offset : Nat)
    (net : Network) : List Call :=
  if 0 < size ∧ offset < task.block.length then
    let run := stream (nodeSessions mode) streamer (task.withRange offset size) net
    ⟨net, run⟩ :: pageCalls mode streamer task size (offset + size) run.state
  else []
termination_by task.block.length - offset

section Calls

variable {mode : Mode} {streamer : Streamer} {task : Task} {size offset : Nat} {net : Network}

theorem pageCalls_of_lt (hsize : 0 < size) (hoffset : offset < task.block.length) :
    pageCalls mode streamer task size offset net =
      ⟨net, stream (nodeSessions mode) streamer (task.withRange offset size) net⟩ ::
        pageCalls mode streamer task size (offset + size)
          (stream (nodeSessions mode) streamer (task.withRange offset size) net).state := by
  rw [pageCalls, if_pos ⟨hsize, hoffset⟩]

theorem pageCalls_of_le (hoffset : task.block.length ≤ offset) :
    pageCalls mode streamer task size offset net = [] := by
  rw [pageCalls, if_neg fun h => Nat.not_lt.2 hoffset h.2]

end Calls

/-- The pages of a content have been read, on one connection each. -/
structure Tiled (content : Bytes) (size : Nat) (calls : List Call) : Prop where
  data : ∃ pages : List Bytes, calls.map (fun c => c.run.outcome) = pages.map .ok ∧
    pages.flatten = content
  attempts : (calls.flatMap fun c => connects c.run.notes).length =
    (content.length + size - 1) / size
  connections : (calls.flatMap fun c => Network.made c.net.scripts c.run.notes).length =
    (content.length + size - 1) / size

theorem Tiled.nil {size : Nat} (hsize : 1 ≤ size) : Tiled [] size [] := by
  have hnone : ([] : Bytes).length + size - 1 < size := by
    rw [List.length_nil]
    omega
  exact ⟨⟨[], rfl, rfl⟩, (Nat.div_eq_of_lt hnone).symm, (Nat.div_eq_of_lt hnone).symm⟩

/-- Where a page has failed, the content has not been read. -/
theorem not_tiled_of_fault {content : Bytes} {size : Nat} {call : Call} {calls : List Call}
    {f : Fault} (hcall : call ∈ calls) (hf : call.run.outcome = .fault f) :
    ¬ Tiled content size calls := by
  intro h
  obtain ⟨pages, hpages, -⟩ := h.data
  have hmem : call.run.outcome ∈ pages.map .ok := by
    rw [← hpages]
    exact List.mem_map_of_mem hcall
  obtain ⟨page, -, hpage⟩ := List.mem_map.1 hmem
  rw [hf] at hpage
  cases hpage

/-- One page more takes one connection more. -/
theorem Tiled.cons {content : Bytes} {size : Nat} {call : Call} {calls : List Call}
    (hsize : 1 ≤ size) (hne : content ≠ []) (houtcome : call.run.outcome = .ok (content.take size))
    (hattempts : (connects call.run.notes).length = 1)
    (hconnections : (Network.made call.net.scripts call.run.notes).length = 1)
    (h : Tiled (content.drop size) size calls) : Tiled content size (call :: calls) := by
  obtain ⟨pages, hpages, hdata⟩ := h.data
  have hpos := List.length_pos_iff.2 hne
  have hcount : (content.length + size - 1) / size =
      1 + ((content.drop size).length + size - 1) / size := by
    rw [List.length_drop]
    rcases Nat.le_total content.length size with hle | hle
    · rw [Nat.sub_eq_zero_of_le hle, Nat.div_eq_of_lt (by omega : 0 + size - 1 < size)]
      exact Nat.div_eq_of_lt_le (by omega) (by omega)
    · rw [show content.length + size - 1 = content.length - size + size - 1 + size by omega,
        Nat.add_div_right _ (by omega), Nat.add_comm]
  refine ⟨⟨content.take size :: pages, ?_, ?_⟩, ?_, ?_⟩
  · rw [List.map_cons, List.map_cons, houtcome, hpages]
  · rw [List.flatten_cons, hdata, List.take_append_drop]
  · rw [List.flatMap_cons, List.length_append, hattempts, h.attempts, hcount]
  · rw [List.flatMap_cons, List.length_append, hconnections, h.connections, hcount]

section Pages

variable {mode : Mode} {streamer : Streamer} {task : Task} {content : Bytes}

theorem Sendable.withRange (h : Sendable streamer task) (offset length : Nat) :
    Sendable streamer (task.withRange offset length) :=
  ⟨h.blockId, h.stamp, h.length, h.clientName, h.token, h.buffer⟩

/-- From a faithful node the pages from an offset on give the content from there on. -/
theorem pageCalls_tiled (h : Sendable streamer task)
    (hblock : task.block.length = content.length)
    (hbegins : Network.begins mode streamer.sessionTimeout = true) {size : Nat} (hsize : 1 ≤ size)
    (hmemory : min size content.length ≤ streamer.memory.size) (offset : Nat) (net : Network)
    (hfaithful : ∀ call ∈ pageCalls mode streamer task size offset net,
      Faithful task.block content streamer.maxRetries call.net call.run.notes) :
    Tiled (content.drop offset) size (pageCalls mode streamer task size offset net) := by
  fun_induction pageCalls mode streamer task size offset net with
  | case1 offset net hmore run ih =>
      have hhead := hfaithful _ List.mem_cons_self
      have htail := ih fun call hcall => hfaithful call (List.mem_cons_of_mem _ hcall)
      rw [← List.drop_drop] at htail
      have hpage := h.withRange offset size
      have hoffset : offset ≤ content.length := by omega
      have houtcome : run.outcome = .ok ((content.drop offset).take size) :=
        stream_slice hpage hblock hbegins hoffset
          (show min size (content.length - offset) ≤ _ by omega) hhead
      have hlength : (task.withRange offset size).range.effectiveLength task.block = _ :=
        ReadRange.effectiveLength_eq_ok_iff.2 ⟨Nat.le_of_lt hmore.2, rfl⟩
      obtain ⟨hattempts, hmade⟩ := stream_connects hpage hlength
        (show 1 ≤ min size (task.block.length - offset) by omega)
        (show min size (task.block.length - offset) ≤ _ by omega) hbegins hhead
      refine .cons hsize ?_ houtcome (congrArg List.length hattempts)
        (congrArg List.length hmade) htail
      rw [ne_eq, List.drop_eq_nil_iff]
      omega
  | case2 offset net hdone =>
      have hend : content.drop offset = [] := by
        rw [List.drop_eq_nil_iff]
        omega
      rw [hend]
      exact .nil hsize

/-- From faithful nodes the pages of a block, on one connection each, give its content, and a range
gives what two ranges give that follow on one another. At the end of the block there is an empty page,
for which nothing is done, and past the end there is none. -/
theorem stream_tiles (h : Sendable streamer task) (hblock : task.block.length = content.length)
    (hbegins : Network.begins mode streamer.sessionTimeout = true) :
    (∀ size net, 1 ≤ size → min size content.length ≤ streamer.memory.size →
      (∀ call ∈ pageCalls mode streamer task size 0 net,
        Faithful task.block content streamer.maxRetries call.net call.run.notes) →
      Tiled content size (pageCalls mode streamer task size 0 net)) ∧
    (∀ size net, stream (nodeSessions mode) streamer (task.withRange content.length size) net =
      ⟨.ok [], [], net⟩) ∧
    (∀ offset size net, content.length < offset → ∃ f, f.kind = .invalidValue ∧
      stream (nodeSessions mode) streamer (task.withRange offset size) net =
        ⟨.fault f, [], net⟩) ∧
    ∀ offset p q, offset ≤ content.length →
      min (p + q) (content.length - offset) ≤ streamer.memory.size →
      ∀ net, Served mode streamer content (task.withRange offset p) net →
      ∃ first, (stream (nodeSessions mode) streamer (task.withRange offset p) net).outcome =
          .ok first ∧
        ∀ net' net'', Served mode streamer content (task.withRange (offset + first.length) q) net' →
        Served mode streamer content (task.withRange offset (p + q)) net'' →
        ∃ rest, (stream (nodeSessions mode) streamer
            (task.withRange (offset + first.length) q) net').outcome = .ok rest ∧
          (stream (nodeSessions mode) streamer (task.withRange offset (p + q)) net'').outcome =
            .ok (first ++ rest) := by
  refine ⟨?pages, ?last, ?past, ?split⟩
  case pages =>
      intro size net hsize hmemory hfaithful
      exact pageCalls_tiled h hblock hbegins hsize hmemory 0 net hfaithful
  case last =>
      intro size net
      refine stream_of_empty _ (ReadRange.effectiveLength_eq_ok_iff.2 ⟨?_, ?_⟩) net
      · exact Nat.le_of_eq hblock.symm
      · show 0 = min size (task.block.length - content.length)
        omega
  case past =>
      intro offset size net hpast
      refine ⟨.offsetPastEnd offset task.block.id task.block.length, rfl, ?_⟩
      exact stream_of_past _ (if_pos (hblock ▸ hpast)) net
  case split =>
      intro offset p q hoffset hmemory net hfirst
      have hlength := length_slice content offset p
      refine ⟨slice content offset p, ?first, ?both⟩
      case first =>
          exact stream_slice (h.withRange offset p) hblock hbegins hoffset
            (show min p (content.length - offset) ≤ _ by omega) hfirst
      case both =>
          intro net' net'' hrest hwhole
          refine ⟨slice content (offset + (slice content offset p).length) q, ?rest, ?whole⟩
          case rest =>
              exact stream_slice (h.withRange _ q) hblock hbegins
                (show offset + (slice content offset p).length ≤ content.length by omega)
                (show min q (content.length - (offset + (slice content offset p).length)) ≤ _ by
                  omega) hrest
          case whole =>
              rw [← slice_add]
              exact stream_slice (h.withRange offset (p + q)) hblock hbegins hoffset hmemory hwhole

end Pages

/-! ### Two pages -/

/-- Two bytes, with a failure between them. -/
def firstPage : Script where
  arrivals := [.ok [0], .ok [0, 97], .error .connectionRefused, .ok [98]]

/-- One byte, in one piece with the status. -/
def secondPage : Script where
  arrivals := [.ok [0, 0, 99]]

/-- A node that serves two pages of three bytes, one after the other. -/
def twoPages : Network where
  scripts _ := [firstPage, secondPage]

theorem accepts_firstPage : firstPage.Accepts := by
  refine ⟨rfl, rfl, ?_, nofun⟩
  intro f hf
  simp only [firstPage, List.mem_cons] at hf
  rcases hf with hf | hf | hf | hf | hf <;> cases hf
  rfl

theorem accepts_secondPage : secondPage.Accepts := by
  refine ⟨rfl, rfl, ?_, nofun⟩
  intro f hf
  simp [secondPage] at hf

theorem sendable_modest : Sendable modest (wholeBlock 3) :=
  sendable_wholeBlock modest.sessionTimeout (by decide)

theorem begins_modest : Network.begins .async modest.sessionTimeout = true := by
  decide +kernel

/-- The first page is served. -/
theorem served_firstPage :
    Served .async modest [97, 98, 99] ((wholeBlock 3).withRange 0 2) twoPages := by
  refine served_of_head (sendable_modest.withRange 0 2) rfl accepts_firstPage ?_ .async
  intro amount hamount
  cases hamount
  exact ⟨[.ok 97, .error .connectionRefused, .ok 98], [], rfl, rfl, by decide⟩

/-- The second page is served, on the network that the first has left. -/
theorem served_secondPage : Served .async modest [97, 98, 99] ((wholeBlock 3).withRange 2 2)
    (twoPages.afterAttempt (wholeBlock 3).endpoint) := by
  refine served_of_head (sendable_modest.withRange 2 2) rfl accepts_secondPage ?_ .async
  intro amount hamount
  cases hamount
  exact ⟨[.ok 99], [], rfl, rfl, by decide⟩

/-- Both pages are served, one after the other. -/
theorem served_twoPages : ∀ call ∈ pageCalls .async modest (wholeBlock 3) 2 0 twoPages,
    Faithful (wholeBlock 3).block [97, 98, 99] modest.maxRetries call.net call.run.notes := by
  have hlength : ((wholeBlock 3).withRange 0 2).range.effectiveLength (wholeBlock 3).block =
      .ok 2 := rfl
  obtain ⟨o, timeout, talk, hrun, -⟩ := stream_attempts (sendable_modest.withRange 0 2) hlength
    (by decide) (by decide) begins_modest twoPages
  intro call hcall
  rw [pageCalls_of_lt (by decide) (by decide), pageCalls_of_lt (by decide) (by decide),
    pageCalls_of_le (by decide), List.mem_cons, List.mem_singleton, hrun] at hcall
  rcases hcall with rfl | rfl
  · rw [← hrun]
    exact served_firstPage
  · exact served_secondPage

/-- A node that serves the whole of a content in one piece. -/
def serving (content : Bytes) : Network where
  scripts _ := [{ arrivals := [.ok [0, 0], .ok content] }]

theorem accepts_serving (content : Bytes) :
    Script.Accepts { arrivals := [.ok [0, 0], .ok content] } := by
  refine ⟨rfl, rfl, ?_, nofun⟩
  intro f hf
  simp at hf

/-- A range that holds both pages is served by a node that has only their bytes. -/
theorem served_bothPages :
    Served .async modest [97, 98, 99] ((wholeBlock 3).withRange 0 4) (serving [97, 98, 99]) := by
  refine served_of_head (sendable_modest.withRange 0 4) rfl (accepts_serving _) ?_ .async
  intro amount hamount
  cases hamount
  exact ⟨[.ok 97, .ok 98, .ok 99], [], rfl, rfl, by decide⟩

/-- The two pages are read on two connections, and the failure is not seen. The bytes of both are
those of the range that holds both. -/
theorem stream_tiles_twoPages :
    Tiled [97, 98, 99] 2 (pageCalls .async modest (wholeBlock 3) 2 0 twoPages) ∧
      ∃ first rest,
        (stream (nodeSessions .async) modest ((wholeBlock 3).withRange 0 2) twoPages).outcome =
            .ok first ∧
          (stream (nodeSessions .async) modest ((wholeBlock 3).withRange 2 2)
            (twoPages.afterAttempt (wholeBlock 3).endpoint)).outcome = .ok rest ∧
          (stream (nodeSessions .async) modest ((wholeBlock 3).withRange 0 4)
            (serving [97, 98, 99])).outcome = .ok (first ++ rest) := by
  have hlength : (wholeBlock 3).block.length = ([97, 98, 99] : Bytes).length := rfl
  obtain ⟨hpages, -, -, hsplit⟩ := stream_tiles sendable_modest hlength begins_modest
  refine ⟨hpages 2 twoPages (by decide) (by decide) served_twoPages, ?_⟩
  obtain ⟨first, hfirst, hboth⟩ := hsplit 0 2 2 (by decide) (by decide) twoPages served_firstPage
  have hslice : first = [97, 98] := Outcome.ok.inj (hfirst.symm.trans
    (stream_slice (sendable_modest.withRange 0 2) rfl begins_modest (by decide) (by decide)
      served_firstPage))
  subst hslice
  obtain ⟨rest, hrest, hwhole⟩ := hboth _ _ served_secondPage served_bothPages
  exact ⟨_, rest, hfirst, hrest, hwhole⟩

/-- A page of the whole block that fails without an attempt: the nodes are faithful, but the content
is not read. -/
theorem not_tiled_of_silent {mode : Mode} {streamer : Streamer} {length : Nat} {content : Bytes}
    {net : Network} {f : Fault} (hpos : 0 < length)
    (hrun : stream (nodeSessions mode) streamer ((wholeBlock length).withRange 0 length) net =
      ⟨.fault f, [], net⟩) :
    (∀ call ∈ pageCalls mode streamer (wholeBlock length) length 0 net,
      Faithful (wholeBlock length).block content streamer.maxRetries call.net call.run.notes) ∧
    ¬ Tiled content length (pageCalls mode streamer (wholeBlock length) length 0 net) := by
  have hlast : pageCalls mode streamer (wholeBlock length) length (0 + length) net = [] :=
    pageCalls_of_le (Nat.le_of_eq (Nat.zero_add length).symm)
  rw [pageCalls_of_lt hpos hpos, hrun, hlast]
  refine ⟨?_, not_tiled_of_fault List.mem_cons_self rfl⟩
  intro call hcall
  rw [List.mem_singleton.1 hcall]
  exact .of_silent rfl

/-- From a node that serves it, a page too long for memory cannot be read, nor a page of one byte if
an awaited connect is given no time. -/
theorem not_tiled_of_large :
    (Sendable modest (wholeBlock 4611686018427387904) ∧
      (∀ call ∈ pageCalls .sync modest (wholeBlock 4611686018427387904) 4611686018427387904 0
          (serving (List.replicate 4611686018427387904 97)),
        Faithful (wholeBlock 4611686018427387904).block (List.replicate 4611686018427387904 97)
          modest.maxRetries call.net call.run.notes) ∧
      ¬ Tiled (List.replicate 4611686018427387904 97) 4611686018427387904
        (pageCalls .sync modest (wholeBlock 4611686018427387904) 4611686018427387904 0
          (serving (List.replicate 4611686018427387904 97)))) ∧
    Sendable { modest with sessionTimeout := .ofInt 0 } (wholeBlock 1) ∧
      (∀ call ∈ pageCalls .async { modest with sessionTimeout := .ofInt 0 } (wholeBlock 1) 1 0
          (serving [97]),
        Faithful (wholeBlock 1).block [97] modest.maxRetries call.net call.run.notes) ∧
      ¬ Tiled [97] 1 (pageCalls .async { modest with sessionTimeout := .ofInt 0 } (wholeBlock 1) 1 0
        (serving [97])) := by
  refine ⟨⟨sendable_wholeBlock modest.sessionTimeout (by decide), ?large⟩,
    sendable_wholeBlock (.ofInt 0) (by decide), ?untimely⟩
  case large =>
      have hlength : ((wholeBlock 4611686018427387904).withRange 0
          4611686018427387904).range.effectiveLength (wholeBlock 4611686018427387904).block =
          .ok 4611686018427387904 := rfl
      exact not_tiled_of_silent (by decide)
        (stream_of_large _ hlength (by decide) (by decide) _)
  case untimely =>
      have hlength : ((wholeBlock 1).withRange 0 1).range.effectiveLength (wholeBlock 1).block =
          .ok 1 := rfl
      have hbegins : Network.begins .async (.ofInt 0) = false := by decide +kernel
      have hfails : stream (nodeSessions .async) { modest with sessionTimeout := .ofInt 0 }
          ((wholeBlock 1).withRange 0 1) (serving [97]) =
          ⟨.fault (.connectFailed .async (wholeBlock 1).endpoint .noTime), [], serving [97]⟩ := by
        rw [stream_of_length _ hlength (by decide)]
        exact fetch_of_untimely (loop_of_fits (by decide)) hbegins
      exact not_tiled_of_silent (by decide) hfails

end Streamer
end ReplicaRead
