import Mathlib.Data.Finset.Card
import ReplicaRead.Proofs.Selection.Runs
import ReplicaRead.Proofs.Session.Traffic

/-!
# The connections of a call

To view a block is to probe candidates one by one and then to read from the last of them. So the
attempts to connect follow one discipline in every run, in both modes and whatever faults are met:
different candidates are probed until one is reached, its connection is closed at once, and at most
one attempt follows, to the same endpoint.

Results: `Calling`, the events of a call; `Disciplined`, what they have in common; and
`readBlock_disciplined`.
-/

namespace ReplicaRead

open Act Arrivals

/-! ### The events of a call -/

/-- The events of reading a range from an endpoint, from the attempt of the number `id` on. -/
inductive Reading (view : View) (endpoint : Endpoint) (id : Nat) : List Note → Prop where
  | nothing : Reading view endpoint id []
  /-- One attempt is made, and if there is a connection, all that follows is done on it. -/
  | attempted {amount : Nat} {timeout : Option Binary64} {talk : List Note}
      (hlength : view.range.effectiveLength view.block = .ok amount) (hpos : 1 ≤ amount)
      (htalk : ∀ n ∈ talk, n.link? = some id ∧ n.attempt? = none)
      (hsends : (sends talk).length ≤ 1) :
      Reading view endpoint id (.connect id endpoint timeout :: talk)

/-- The events of a call from the attempt of the number `next` on, when the endpoints `dead` are not
to be probed any more. -/
inductive Calling (view : View) : (dead : List Endpoint) → (scripts : Endpoint → List Script) →
    (next : Nat) → List Note → Prop where
  | ended {dead : List Endpoint} {scripts : Endpoint → List Script} {next : Nat} :
      Calling view dead scripts next []
  /-- An endpoint is given up without an attempt. -/
  | skipped {dead : List Endpoint} {scripts : Endpoint → List Script} {next : Nat} {e : Endpoint}
      {trace : List Note} (hrest : Calling view (e :: dead) scripts next trace) :
      Calling view dead scripts next trace
  /-- A probe makes no connection. -/
  | failed {dead : List Endpoint} {scripts : Endpoint → List Script} {next : Nat} {e : Endpoint}
      {timeout : Option Binary64} {trace : List Note} (he : e ∈ view.candidates)
      (hnew : e ∉ dead) (hmade : Network.made scripts [.connect next e timeout] = [])
      (hrest : Calling view (e :: dead) (Network.dropScript scripts e) (next + 1) trace) :
      Calling view dead scripts next (.connect next e timeout :: trace)
  /-- A probe makes a connection and closes it, and the range may be read. -/
  | reached {dead : List Endpoint} {scripts : Endpoint → List Script} {next : Nat} {e : Endpoint}
      {timeout : Option Binary64} {trace : List Note} (he : e ∈ view.candidates)
      (hnew : e ∉ dead) (hmade : Network.made scripts [.connect next e timeout] = [next])
      (hrest : Reading view e (next + 1) trace) :
      Calling view dead scripts next (.connect next e timeout :: .close next :: trace)

/-! ### The discipline -/

/-- The attempts of a call are probes and at most one further attempt, which reads. -/
structure Disciplined (view : View) (scripts : Endpoint → List Script) (next : Nat)
    (trace : List Note) (probes further : List (Nat × Endpoint)) : Prop where
  parts : connects trace = probes ++ further
  /-- The attempts are numbered in their order. -/
  numbers : (probes ++ further).map Prod.fst = List.range' next (probes ++ further).length
  candidates : ∀ p ∈ probes, p.2 ∈ view.candidates
  distinct : (probes.map Prod.snd).Nodup
  /-- Only the last probe may make a connection. -/
  failed : ∀ p ∈ probes.dropLast, p.1 ∉ Network.made scripts trace
  /-- A connection of a probe is closed at once, and nothing else is done on it. -/
  hungUp : ∀ p ∈ probes, p.1 ∈ Network.made scripts trace → ∃ before after timeout,
    trace = before ++ .connect p.1 p.2 timeout :: .close p.1 :: after ∧
      ∀ n ∈ before ++ after, n.link? ≠ some p.1
  single : further.length ≤ 1
  /-- The further attempt goes to the endpoint that was reached, and only for a range that is not
  empty within its block. -/
  reached : ∀ q ∈ further,
    (∃ p, probes.getLast? = some p ∧ p.1 ∈ Network.made scripts trace ∧ p.2 = q.2) ∧
      ∃ amount, view.range.effectiveLength view.block = .ok amount ∧ 1 ≤ amount
  /-- After the further attempt all is done on its connection. -/
  final : ∀ q ∈ further, ∃ before after timeout,
    trace = before ++ .connect q.1 q.2 timeout :: after ∧
      ∀ n ∈ after, n.link? = some q.1 ∧ n.attempt? = none
  /-- At most one request is sent, on the connection of the further attempt. -/
  request : (sends trace).length ≤ 1
  sender : ∀ s ∈ sends trace, s.1 ∈ further.map Prod.fst

/-- No more attempts are made than there are different candidates, and one. -/
theorem Disciplined.length_le {view : View} {scripts : Endpoint → List Script} {next : Nat}
    {trace : List Note} {probes further : List (Nat × Endpoint)}
    (h : Disciplined view scripts next trace probes further) :
    (connects trace).length ≤ view.candidates.toFinset.card + 1 := by
  have hsubset : (probes.map Prod.snd).toFinset ⊆ view.candidates.toFinset := by
    intro e he
    obtain ⟨p, hp, rfl⟩ := List.mem_map.1 (List.mem_toFinset.1 he)
    exact List.mem_toFinset.2 (h.candidates p hp)
  have hprobes := Finset.card_le_card hsubset
  rw [List.toFinset_card_of_nodup h.distinct, List.length_map] at hprobes
  have hfurther := h.single
  rw [h.parts, List.length_append]
  omega

/-- Connections are made by attempts. -/
theorem Network.exists_attempt_of_made {scripts : Endpoint → List Script} {notes : List Note}
    {id : Nat} (h : id ∈ made scripts notes) : ∃ e, (id, e) ∈ connects notes := by
  induction notes generalizing scripts with
  | nil =>
      cases h
  | cons n notes ih =>
      cases n with
      | connect i e timeout =>
          rw [made_cons] at h
          rcases List.mem_append.1 h with h | h
          · simp only [made, List.append_nil, List.mem_map] at h
            obtain ⟨script, -, rfl⟩ := h
            exact ⟨e, List.mem_cons_self⟩
          · obtain ⟨e', he'⟩ := ih h
            exact ⟨e', List.mem_cons_of_mem _ he'⟩
      | _ =>
          exact ih h

namespace Disciplined

variable {view : View} {scripts : Endpoint → List Script} {next : Nat} {trace : List Note}
variable {probes further : List (Nat × Endpoint)}

theorem le_of_mem (h : Disciplined view scripts next trace probes further) {p : Nat × Endpoint}
    (hp : p ∈ probes ++ further) : next ≤ p.1 := by
  have hmem : p.1 ∈ List.range' next (probes ++ further).length := by
    rw [← h.numbers]
    exact List.mem_map_of_mem hp
  exact (List.mem_range'_1.1 hmem).1

theorem le_of_made (h : Disciplined view scripts next trace probes further) {id : Nat}
    (hid : id ∈ Network.made scripts trace) : next ≤ id := by
  obtain ⟨e, he⟩ := Network.exists_attempt_of_made hid
  rw [h.parts] at he
  exact h.le_of_mem he

theorem of_nothing : Disciplined view scripts next [] [] [] :=
  ⟨rfl, rfl, nofun, List.nodup_nil, nofun, nofun, Nat.zero_le _, nofun, nofun, Nat.zero_le _,
    nofun⟩

/-- A probe that makes no connection comes before. -/
theorem of_failed {e : Endpoint} {timeout : Option Binary64} (he : e ∈ view.candidates)
    (hnew : ∀ p ∈ probes, p.2 ≠ e)
    (hmade : Network.made scripts [.connect next e timeout] = [])
    (h : Disciplined view (Network.dropScript scripts e) (next + 1) trace probes further) :
    Disciplined view scripts next (.connect next e timeout :: trace) ((next, e) :: probes)
      further := by
  have hsame : Network.made scripts (.connect next e timeout :: trace) =
      Network.made (Network.dropScript scripts e) trace := by
    rw [Network.made_cons, hmade, List.nil_append]
  have hfresh : next ∉ Network.made (Network.dropScript scripts e) trace := by
    intro hnext
    exact Nat.not_succ_le_self next (h.le_of_made hnext)
  refine ⟨?parts, ?numbers, ?candidates, ?distinct, ?failed, ?hungUp, h.single, ?reached, ?final,
    h.request, h.sender⟩
  case parts =>
      exact congrArg ((next, e) :: ·) h.parts
  case numbers =>
      rw [List.cons_append, List.map_cons, h.numbers, List.length_cons, List.range'_succ]
  case candidates =>
      intro p hp
      rcases List.mem_cons.1 hp with rfl | hp
      · exact he
      · exact h.candidates p hp
  case distinct =>
      refine List.nodup_cons.2 ⟨?_, h.distinct⟩
      intro hmem
      obtain ⟨p, hp, hpe⟩ := List.mem_map.1 hmem
      exact hnew p hp hpe
  case failed =>
      rw [hsame]
      intro p hp
      cases probes with
      | nil =>
          cases hp
      | cons p' probes =>
          rcases List.mem_cons.1 hp with rfl | hp
          · exact hfresh
          · exact h.failed p hp
  case hungUp =>
      rw [hsame]
      intro p hp hpmade
      rcases List.mem_cons.1 hp with rfl | hp
      · exact absurd hpmade hfresh
      · obtain ⟨before, after, timeout', rfl, hlinks⟩ := h.hungUp p hp hpmade
        refine ⟨.connect next e timeout :: before, after, timeout', rfl, ?_⟩
        intro n hn
        rcases List.mem_cons.1 hn with rfl | hn
        · intro heq
          have hnext : next = p.1 := Option.some.inj heq
          have hle := h.le_of_made hpmade
          omega
        · exact hlinks n hn
  case reached =>
      rw [hsame]
      intro q hq
      obtain ⟨⟨p, hlast, hpmade, hpq⟩, hlength⟩ := h.reached q hq
      refine ⟨⟨p, ?_, hpmade, hpq⟩, hlength⟩
      rw [List.getLast?_cons, hlast]
      rfl
  case final =>
      intro q hq
      obtain ⟨before, after, timeout', rfl, hafter⟩ := h.final q hq
      exact ⟨.connect next e timeout :: before, after, timeout', rfl, hafter⟩

/-- The probe that makes a connection is the last, and the range is read after it. -/
theorem of_reached {e : Endpoint} {timeout : Option Binary64} (he : e ∈ view.candidates)
    (hmade : Network.made scripts [.connect next e timeout] = [next])
    (h : Reading view e (next + 1) trace) :
    ∃ further, Disciplined view scripts next (.connect next e timeout :: .close next :: trace)
      [(next, e)] further := by
  have hprobe : next ∈ Network.made scripts (.connect next e timeout :: .close next :: trace) := by
    rw [Network.made_cons, hmade]
    exact List.mem_append_left _ List.mem_cons_self
  have hcandidate : ∀ p ∈ [(next, e)], p.2 ∈ view.candidates := by
    intro p hp
    rw [List.mem_singleton.1 hp]
    exact he
  -- Nothing more is done on the connection of the probe.
  have hclosed : (∀ n ∈ trace, n.link? = some (next + 1)) → ∀ p ∈ [(next, e)],
      ∃ before after timeout', .connect next e timeout :: .close next :: trace =
        before ++ .connect p.1 p.2 timeout' :: .close p.1 :: after ∧
        ∀ n ∈ before ++ after, n.link? ≠ some p.1 := by
    intro hlinks p hp
    rw [List.mem_singleton.1 hp]
    refine ⟨[], trace, timeout, rfl, ?_⟩
    intro n hn heq
    rw [hlinks n hn] at heq
    exact absurd (Option.some.inj heq) (Nat.succ_ne_self next)
  cases h with
  | nothing =>
      exact ⟨[], rfl, rfl, hcandidate, List.nodup_singleton _, nofun,
        fun p hp _ => hclosed nofun p hp, Nat.zero_le _, nofun, nofun, Nat.zero_le _, nofun⟩
  | @attempted amount timeout' talk hlength hpos htalk hsends =>
      have hconnects : connects talk = [] :=
        List.filterMap_eq_nil_iff.2 fun n hn => (htalk n hn).2
      have hlinks : ∀ n ∈ Note.connect (next + 1) e timeout' :: talk,
          n.link? = some (next + 1) := by
        intro n hn
        rcases List.mem_cons.1 hn with rfl | hn
        · rfl
        · exact (htalk n hn).1
      refine ⟨[(next + 1, e)], ?_, rfl, hcandidate, List.nodup_singleton _, nofun,
        fun p hp _ => hclosed hlinks p hp, Nat.le_refl 1, ?_, ?_, hsends, ?_⟩
      · show (next, e) :: (next + 1, e) :: connects talk = _
        rw [hconnects]
        rfl
      · intro q hq
        rw [List.mem_singleton.1 hq]
        exact ⟨⟨(next, e), rfl, hprobe, rfl⟩, amount, hlength, hpos⟩
      · intro q hq
        rw [List.mem_singleton.1 hq]
        exact ⟨[.connect next e timeout, .close next], talk, timeout', rfl, htalk⟩
      · intro s hs
        obtain ⟨n, hn, hsent⟩ := List.mem_filterMap.1 (show s ∈ sends talk from hs)
        have hlink := (htalk n hn).1
        cases n with
        | send id payload =>
            cases hsent
            rw [List.map_singleton, List.mem_singleton]
            exact Option.some.inj hlink
        | _ =>
            cases hsent

end Disciplined

/-- The events of a call are disciplined, and the endpoints given up are not probed. -/
theorem Calling.disciplined {view : View} {dead : List Endpoint}
    {scripts : Endpoint → List Script} {next : Nat} {trace : List Note}
    (h : Calling view dead scripts next trace) :
    ∃ probes further, Disciplined view scripts next trace probes further ∧
      ∀ p ∈ probes, p.2 ∉ dead := by
  induction h with
  | ended =>
      exact ⟨[], [], .of_nothing, nofun⟩
  | skipped hrest ih =>
      obtain ⟨probes, further, hprobes, hnew⟩ := ih
      exact ⟨probes, further, hprobes, fun p hp hdead => hnew p hp (List.mem_cons_of_mem _ hdead)⟩
  | @failed dead scripts next e timeout trace he hnew hmade hrest ih =>
      obtain ⟨probes, further, hprobes, hothers⟩ := ih
      have hne : ∀ p ∈ probes, p.2 ≠ e := by
        rintro p hp rfl
        exact hothers p hp List.mem_cons_self
      refine ⟨(next, e) :: probes, further, .of_failed he hne hmade hprobes, ?_⟩
      intro p hp hdead
      rcases List.mem_cons.1 hp with rfl | hp
      · exact hnew hdead
      · exact hothers p hp (List.mem_cons_of_mem _ hdead)
  | @reached dead scripts next e timeout trace he hnew hmade hrest =>
      obtain ⟨further, hprobe⟩ := Disciplined.of_reached he hmade hrest
      refine ⟨[(next, e)], further, hprobe, ?_⟩
      intro p hp
      rw [List.mem_singleton.1 hp]
      exact hnew

/-! ### The runs -/

theorem events_append (notes notes' : List Note) :
    events (notes ++ notes') = events notes ++ events notes' :=
  List.filter_append notes notes'

theorem events_eq_nil {notes : List Note} (h : ∀ n ∈ notes, n.isEvent = false) :
    events notes = [] := by
  refine List.filter_eq_nil_iff.2 ?_
  intro n hn
  rw [h n hn]
  exact Bool.false_ne_true

/-- A probe that makes a connection closes it, and then nothing is done until the range is read. -/
theorem Calling.of_probe {view : View} {dead : List Endpoint} {scripts : Endpoint → List Script}
    {next size : Nat} {e : Endpoint} {timeout : Option Binary64} {log tail : List Note}
    (he : e ∈ view.candidates) (hnew : e ∉ dead)
    (hmade : Network.made scripts [.connect next e timeout] = [next])
    (hlog : ∀ n ∈ log, n.isEvent = false) (hrest : Reading view e (next + 1) (events tail)) :
    Calling view dead scripts next
      (events (.draw size :: .connect next e timeout :: .close next :: (log ++ tail))) := by
  have htrace : events (log ++ tail) = events tail := by
    rw [events_append, events_eq_nil hlog, List.nil_append]
  show Calling view dead scripts next
    (.connect next e timeout :: .close next :: events (log ++ tail))
  rw [htrace]
  exact .reached he hnew hmade hrest

/-- The events of a conversation are all on its connection. -/
theorem Conversation.link_of_event {mode : Mode} {request : Request} {link : Link} {buffer : Int}
    {amount : Nat} {talk : List Note} (h : Conversation mode request link buffer amount talk) :
    ∀ n ∈ events talk, n.link? = some link.id ∧ n.attempt? = none := by
  intro n hn
  obtain ⟨hn, hevent⟩ := List.mem_filter.1 hn
  rcases h.mem hn with ⟨payload, rfl⟩ | ⟨size, rfl⟩ | rfl | hidle
  · exact ⟨rfl, rfl⟩
  · exact ⟨rfl, rfl⟩
  · exact ⟨rfl, rfl⟩
  · rcases hidle.eq with rfl | ⟨r, rfl⟩
    · exact ⟨rfl, rfl⟩
    · cases hevent

theorem Conversation.sends_length_le {mode : Mode} {request : Request} {link : Link} {buffer : Int}
    {amount : Nat} {talk : List Note} (h : Conversation mode request link buffer amount talk) :
    (sends (events talk)).length ≤ 1 := by
  have hevents : (sends (events talk)).length ≤ (sends talk).length :=
    (List.filter_sublist.filterMap Note.sent?).length_le
  refine Nat.le_trans hevents ?_
  rw [h.sends_eq]
  cases request.encode with
  | error f =>
      exact Nat.zero_le 1
  | ok payload =>
      exact Nat.le_refl 1

/-- Reading a range makes one attempt at most. -/
theorem Streamer.stream_reading (mode : Mode) (streamer : Streamer) (view : View)
    (endpoint : Endpoint) (net : Network) :
    Reading view endpoint net.attempts (events (stream (nodeSessions mode) streamer
      ⟨endpoint, view.block, view.credential, view.range⟩ net).notes) := by
  let task : Task := ⟨endpoint, view.block, view.credential, view.range⟩
  rcases stream_cases streamer task with ⟨o, -, hrun⟩ | ⟨amount, hlength, hpos, hrun⟩
  · rw [hrun]
    exact .nothing
  rw [hrun]
  rcases loop_cases streamer task amount with ⟨f, hloop⟩ | hloop
  · unfold fetch
    rw [hloop, ofExcept_error_bind]
    exact .nothing
  cases hbegins : Network.begins mode streamer.sessionTimeout with
  | false =>
      rw [fetch_of_untimely hloop hbegins]
      exact .nothing
  | true =>
      cases hanswer : net.answer task.endpoint with
      | error f =>
          rw [fetch_of_unanswered hloop hbegins hanswer]
          exact .attempted hlength hpos nofun (Nat.zero_le 1)
      | ok link =>
          obtain ⟨o, talk, hfetch, htalk⟩ := fetch_converses hloop hbegins hanswer
          obtain ⟨script, -, -, -, rfl⟩ := Network.exists_script_of_answer hanswer
          rw [hfetch]
          exact .attempted hlength hpos htalk.link_of_event htalk.sends_length_le

namespace Selection

section Round

variable {β : Type} {mode : Mode} {view : View} {timeout : Binary64} {net : Network}
variable {found : Findings} {e : Endpoint} {others : List Endpoint}
variable {k : Endpoint → Act Network β} {next : Findings → Act Network β}

/-- The endpoint that the next draw picks. -/
def chosen (net : Network) (e : Endpoint) (others : List Endpoint) : Endpoint :=
  (e :: others).get (Network.drawn net.draws others.length)

theorem round_of_untimely (total : Nat) (hbegins : Network.begins mode timeout = false)
    (hnext : ∀ found net, Calling view found.dead net.scripts net.attempts
      (events (next found net).notes)) :
    Calling view found.dead net.scripts net.attempts
      (events (round (networkProber mode) total timeout found e others k next net).notes) := by
  have hdraw : (networkProber mode).draw others.length net = _ :=
    Network.draw_apply others.length net
  have hprobe : (networkProber mode).probe (chosen net e others) timeout _ = _ :=
    probe_of_untimely hbegins (chosen net e others) { net with draws := net.draws.tail }
  rw [round_of_inl _ _ (attempt_of_buried hdraw hprobe rfl)]
  exact .skipped (hnext (found.bury (chosen net e others)) { net with draws := net.draws.tail })

variable (hbegins : Network.begins mode timeout = true)
variable (halive : found.alive view.candidates = e :: others)
include hbegins halive

theorem round_of_unanswered {f : Fault} (total : Nat)
    (hanswer : net.answer (chosen net e others) = .error f)
    (hnext : ∀ found net, Calling view found.dead net.scripts net.attempts
      (events (next found net).notes)) :
    Calling view found.dead net.scripts net.attempts
      (events (round (networkProber mode) total timeout found e others k next net).notes) := by
  obtain ⟨hcandidate, hnew⟩ := Findings.get_alive halive (Network.drawn net.draws others.length)
  let drawn : Network := { net with draws := net.draws.tail }
  have hdraw : (networkProber mode).draw others.length net = _ :=
    Network.draw_apply others.length net
  have hprobe : (networkProber mode).probe (chosen net e others) timeout drawn = _ :=
    probe_of_unanswered hbegins hanswer
  have hmade : Network.made net.scripts [.connect net.attempts (chosen net e others)
      (Network.shownTimeout mode timeout)] = [] :=
    Network.made_of_unanswered hanswer (List.forall_mem_nil _) _ _
  by_cases hsystem : (wrapInvalidHost (chosen net e others).host f).isSystem = true
  · rw [round_of_inl _ _ (attempt_of_buried hdraw hprobe hsystem)]
    exact .failed hcandidate hnew hmade
      (hnext (found.bury (chosen net e others)) (drawn.afterAttempt (chosen net e others)))
  · rw [round_of_fault _ _ (attempt_of_escaped hdraw hprobe (Bool.eq_false_iff.2 hsystem))]
    exact .failed hcandidate hnew hmade .ended

theorem round_of_answered {link : Link} (total : Nat)
    (hanswer : net.answer (chosen net e others) = .ok link)
    (hk : ∀ e net, Reading view e net.attempts (events (k e net).notes)) :
    Calling view found.dead net.scripts net.attempts
      (events (round (networkProber mode) total timeout found e others k next net).notes) := by
  obtain ⟨hcandidate, hnew⟩ := Findings.get_alive halive (Network.drawn net.draws others.length)
  let drawn : Network := { net with draws := net.draws.tail }
  have hdraw : (networkProber mode).draw others.length net = _ :=
    Network.draw_apply others.length net
  have hprobe : (networkProber mode).probe (chosen net e others) timeout drawn = _ :=
    probe_of_answered hbegins hanswer
  have hmade : Network.made net.scripts [.connect net.attempts (chosen net e others)
      (Network.shownTimeout mode timeout)] = [net.attempts] :=
    Network.made_of_answered hanswer (List.forall_mem_nil _) _ _
  have hlog : ∀ n ∈ hangUpLog mode (chosen net e others) link, n.isEvent = false := by
    intro n hn
    obtain ⟨m, rfl⟩ := mem_hangUpLog hn
    rfl
  obtain ⟨script, -, -, -, rfl⟩ := Network.exists_script_of_answer hanswer
  cases hfault : (script.link net.attempts).closingFault mode with
  | none =>
      rw [hfault] at hprobe
      rw [round_of_inr _ _ (attempt_of_reached hdraw hprobe)]
      refine .of_probe hcandidate hnew hmade ?_
        (hk (chosen net e others) (drawn.afterAttempt (chosen net e others)))
      intro n hn
      rcases List.mem_append.1 hn with hn | hn
      · exact hlog n hn
      · rw [List.mem_singleton.1 hn]
        rfl
  | some f =>
      -- The fault of closing ends the call.
      rw [hfault, ← List.append_nil (hangUpLog mode _ _)] at hprobe
      rw [round_of_fault _ _
        (attempt_of_escaped hdraw hprobe (Link.isSystem_of_closingFault hfault))]
      exact .of_probe hcandidate hnew hmade hlog .nothing

end Round

/-- A search calls in order, if what follows it reads in order. -/
theorem search_calling {β : Type} (mode : Mode) {view : View} (timeout : Binary64)
    {k : Endpoint → Act Network β}
    (hk : ∀ e net, Reading view e net.attempts (events (k e net).notes))
    (rounds : Nat) (found : Findings) (net : Network) :
    Calling view found.dead net.scripts net.attempts
      (events ((search (networkProber mode) view.candidates timeout rounds found >>= k)
        net).notes) := by
  induction rounds generalizing found net with
  | zero =>
      exact .ended
  | succ rounds ih =>
      cases halive : found.alive view.candidates with
      | nil =>
          rw [search, halive]
          exact .ended
      | cons e others =>
          rw [search_succ_bind halive]
          cases hbegins : Network.begins mode timeout with
          | false =>
              exact round_of_untimely _ hbegins ih
          | true =>
              cases hanswer : net.answer (chosen net e others) with
              | error f =>
                  exact round_of_unanswered hbegins halive _ hanswer ih
              | ok link =>
                  exact round_of_answered hbegins halive _ hanswer hk

end Selection

/-- The connections of every call are disciplined, in both modes and on every network. -/
theorem readBlock_disciplined (mode : Mode) (viewer : Viewer) (view : View) (net : Network) :
    ∃ probes further,
      Disciplined view net.scripts net.attempts (events (readBlock mode viewer view net).notes)
        probes further ∧
      (connects (events (readBlock mode viewer view net).notes)).length ≤
        view.candidates.toFinset.card + 1 := by
  have hcalling : Calling view [] net.scripts net.attempts
      (events (readBlock mode viewer view net).notes) := by
    unfold readBlock Selection.select
    split
    · exact .ended
    · refine Selection.search_calling mode _ ?_ _ {} net
      intro endpoint net
      rw [bind_pure_apply]
      exact Streamer.stream_reading mode viewer.streamer view endpoint net
  obtain ⟨probes, further, hdisciplined, -⟩ := hcalling.disciplined
  exact ⟨probes, further, hdisciplined, hdisciplined.length_le⟩

end ReplicaRead
