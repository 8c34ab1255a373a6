import ReplicaRead.Proofs.Evaluation

/-!
# Agreement of runs

Two runs agree if a caller and a node can tell them apart only by what is allowed to differ: the
wording of a failed opening, the causes of faults, the reads by which a status comes, the timeouts
that attempts are given, and the log.

Results: `Outcome.Agrees` and `Run.Agrees`, with the views `Note.wire?` and `dataReads` of what is
done on the network.
-/

namespace ReplicaRead

/-- The faults are of one kind, with one status, and have one message, unless the opening of a
session failed without a status. -/
structure Fault.Agrees (f g : Fault) : Prop where
  kind : f.kind = g.kind
  status : f.status? = g.status?
  message : (f.kind = .sessionOpen ∧ f.status? = none) ∨ f.message = g.message

/-- The values are equal, or the faults agree. -/
inductive Outcome.Agrees {α : Type} : Outcome α → Outcome α → Prop where
  | ok (a : α) : Agrees (.ok a) (.ok a)
  | fault {f g : Fault} (h : f.Agrees g) : Agrees (.fault f) (.fault g)

theorem Fault.Agrees.refl (f : Fault) : f.Agrees f :=
  ⟨rfl, rfl, Or.inr rfl⟩

theorem Outcome.Agrees.map {α β : Type} {o o' : Outcome α} (h : o.Agrees o') (f : α → β) :
    (o.map f).Agrees (o'.map f) := by
  cases h with
  | ok a =>
      exact .ok (f a)
  | fault h =>
      exact .fault h

theorem Outcome.Agrees.ne_unfinished {α : Type} {o o' : Outcome α} (h : o.Agrees o') :
    o ≠ .unfinished ∧ o' ≠ .unfinished := by
  cases h with
  | ok a =>
      exact ⟨nofun, nofun⟩
  | fault h =>
      exact ⟨nofun, nofun⟩

/-! ### What is done on the network -/

/-- The connects, the requests that are sent, and the closings. -/
def Note.wire? : Note → Option Note
  | connect id endpoint _ => some (connect id endpoint none)
  | send id payload => some (send id payload)
  | close id => some (close id)
  | _ => none

/-- The reads of at most a number of bytes, with the connection. -/
def Note.read? : Note → Option (Nat × Int)
  | receive id size => some (id, size)
  | _ => none

/-- Whether a session logs something. A session that has been opened does so first. -/
def Note.isSession : Note → Bool
  | record r =>
    match r.channel with
    | .session _ => true
    | _ => false
  | _ => false

/-- What is done on the wire, in order. -/
def wire (notes : List Note) : List Note :=
  notes.filterMap Note.wire?

/-- The reads of data: those after the record of the session that has been opened. -/
def dataReads (notes : List Note) : List (Nat × Int) :=
  (notes.dropWhile fun n => !n.isSession).filterMap Note.read?

/-- No session logs anything. -/
def Quiet (notes : List Note) : Prop :=
  ∀ n ∈ notes, n.isSession = false

@[simp] theorem wire_append (notes notes' : List Note) :
    wire (notes ++ notes') = wire notes ++ wire notes' :=
  List.filterMap_append

theorem dataReads_append {notes : List Note} (h : Quiet notes) (notes' : List Note) :
    dataReads (notes ++ notes') = dataReads notes' := by
  have hdrop : (notes ++ notes').dropWhile (fun n => !n.isSession) =
      notes'.dropWhile fun n => !n.isSession := by
    refine List.dropWhile_append_of_pos ?_
    intro n hn
    rw [h n hn]
    rfl
  unfold dataReads
  rw [hdrop]

theorem dataReads_of_quiet {notes : List Note} (h : Quiet notes) : dataReads notes = [] := by
  have happend := dataReads_append h []
  rw [List.append_nil] at happend
  exact happend

theorem dataReads_of_unread {notes : List Note} (h : ∀ n ∈ notes, n.read? = none) :
    dataReads notes = [] := by
  refine List.filterMap_eq_nil_iff.2 ?_
  intro n hn
  exact h n ((List.dropWhile_sublist _).subset hn)

/-- After the record of an opened session all reads are of data. -/
theorem dataReads_cons {n : Note} (h : n.isSession = true) (notes : List Note) :
    dataReads (n :: notes) = (n :: notes).filterMap Note.read? := by
  unfold dataReads
  rw [List.dropWhile_cons_of_neg]
  rw [h]
  exact Bool.false_ne_true

/-- Runs that agree, from one state to one state. -/
structure Run.Agrees {σ α : Type} (r r' : Run σ α) : Prop where
  outcome : r.outcome.Agrees r'.outcome
  wire : wire r.notes = wire r'.notes
  reads : dataReads r.notes = dataReads r'.notes
  state : r.state = r'.state

theorem Run.Agrees.refl {σ α : Type} {r : Run σ α} (h : r.outcome ≠ .unfinished) : r.Agrees r := by
  refine ⟨?_, rfl, rfl, rfl⟩
  cases ho : r.outcome with
  | ok a =>
      exact .ok a
  | fault f =>
      exact .fault (.refl f)
  | unfinished =>
      exact absurd ho h

theorem Act.raise_agrees {σ α : Type} (f : Fault) (s : σ) :
    (raise f s : Run σ α).Agrees (raise f s) :=
  ⟨.fault (.refl f), rfl, rfl, rfl⟩

theorem Act.pure_agrees {σ α : Type} (a : α) (s : σ) :
    ((pure a : Act σ α) s).Agrees ((pure a : Act σ α) s) :=
  ⟨.ok a, rfl, rfl, rfl⟩

/-- Where no session logs anything, no data is read. -/
theorem Run.Agrees.of_quiet {σ α : Type} {r r' : Run σ α} (houtcome : r.outcome.Agrees r'.outcome)
    (hwire : ReplicaRead.wire r.notes = ReplicaRead.wire r'.notes) (hstate : r.state = r'.state)
    (hquiet : Quiet r.notes) (hquiet' : Quiet r'.notes) : r.Agrees r' :=
  ⟨houtcome, hwire, (dataReads_of_quiet hquiet).trans (dataReads_of_quiet hquiet').symm, hstate⟩

/-- Agreeing runs still agree after notes in which no session logs anything. -/
theorem Run.Agrees.prepend {σ α : Type} {r r' : Run σ α} {notes notes' : List Note}
    (h : r.Agrees r') (hwire : ReplicaRead.wire notes = ReplicaRead.wire notes')
    (hquiet : Quiet notes) (hquiet' : Quiet notes') :
    (r.prepend notes).Agrees (r'.prepend notes') := by
  refine ⟨h.outcome, ?_, ?_, h.state⟩
  · rw [prepend_notes, prepend_notes, wire_append, wire_append, hwire, h.wire]
  · rw [prepend_notes, prepend_notes, dataReads_append hquiet, dataReads_append hquiet', h.reads]

/-- After parts that agree, in which no session logs anything, parts that agree still do. -/
theorem Act.bind_agrees {σ α β : Type} {p q : Act σ α} {f g : α → Act σ β} {s : σ}
    (h : (p s).Agrees (q s)) (hquiet : Quiet (p s).notes) (hquiet' : Quiet (q s).notes)
    (hnext : ∀ a, (f a (p s).state).Agrees (g a (p s).state)) :
    ((p >>= f) s).Agrees ((q >>= g) s) := by
  obtain ⟨houtcome, hwire, hreads, hstate⟩ := h
  cases hp : p s with
  | mk o notes t =>
      cases hq : q s with
      | mk o' notes' t' =>
          rw [hp] at houtcome hwire hreads hstate hquiet hnext
          rw [hq] at houtcome hwire hreads hstate hquiet'
          cases hstate
          cases houtcome with
          | ok a =>
              rw [bind_of_ok hp, bind_of_ok hq]
              exact (hnext a).prepend hwire hquiet hquiet'
          | fault hf =>
              rw [bind_of_fault hp, bind_of_fault hq]
              exact ⟨.fault hf, hwire, hreads, rfl⟩

theorem Act.bind_pure_agrees {σ α β : Type} {p q : Act σ α} {s : σ} (h : (p s).Agrees (q s))
    (f : α → β) :
    ((do
      let a ← p
      return f a) s).Agrees ((do
      let a ← q
      return f a) s) := by
  rw [bind_pure_apply, bind_pure_apply]
  exact ⟨h.outcome.map f, h.wire, h.reads, h.state⟩

end ReplicaRead
