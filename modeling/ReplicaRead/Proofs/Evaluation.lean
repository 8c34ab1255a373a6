import ReplicaRead.Act

/-!
# Evaluating actions

The run of a composed action is computed from the runs of its parts, in the order in which they
are performed.

Results: one equation for each way in which an action is made of others, for each way in which the
part that comes first ends.
-/

namespace ReplicaRead

section Evaluation

variable {σ τ α β : Type}

/-- How a computation without effects ends. -/
def Outcome.ofExcept : Except Fault α → Outcome α
  | .ok a => .ok a
  | .error f => .fault f

/-- How an action without a value ends that meets a fault or none. -/
def Outcome.ofFault : Option Fault → Outcome Unit
  | none => .ok ()
  | some f => .fault f

/-- The outcome with another value. -/
def Outcome.map (f : α → β) : Outcome α → Outcome β
  | .ok a => .ok (f a)
  | .fault e => .fault e
  | .unfinished => .unfinished

theorem Outcome.map_eq_ok_iff {f : α → β} {o : Outcome α} {b : β} :
    o.map f = .ok b ↔ ∃ a, o = .ok a ∧ f a = b := by
  cases o <;> simp [Outcome.map]

namespace Run

/-- The run, with notes that come before its own. -/
def prepend (notes : List Note) (r : Run σ α) : Run σ α :=
  ⟨r.outcome, notes ++ r.notes, r.state⟩

@[simp] theorem prepend_notes (notes : List Note) (r : Run σ α) :
    (r.prepend notes).notes = notes ++ r.notes := rfl

@[simp] theorem prepend_mk (before notes : List Note) (o : Outcome α) (s : σ) :
    (⟨o, notes, s⟩ : Run σ α).prepend before = ⟨o, before ++ notes, s⟩ := rfl

@[simp] theorem prepend_prepend (before notes : List Note) (r : Run σ α) :
    (r.prepend notes).prepend before = r.prepend (before ++ notes) := by
  simp [prepend, List.append_assoc]

end Run

namespace Act

/-! ### Single steps -/

@[simp] theorem pure_apply (a : α) (s : σ) :
    (Pure.pure a : Act σ α) s = ⟨.ok a, [], s⟩ := rfl

@[simp] theorem raise_apply (f : Fault) (s : σ) :
    (raise f : Act σ α) s = ⟨.fault f, [], s⟩ := rfl

@[simp] theorem note_apply (n : Note) (s : σ) :
    note n s = ⟨.ok (), [n], s⟩ := rfl

@[simp] theorem log_apply (level : Level) (channel : Channel) (message : String) (s : σ) :
    log level channel message s = ⟨.ok (), [.record ⟨level, channel, message⟩], s⟩ := rfl

@[simp] theorem ofExcept_apply (x : Except Fault α) (s : σ) :
    ofExcept x s = ⟨.ofExcept x, [], s⟩ := by
  cases x <;> rfl

/-! ### One action after another -/

theorem bind_of_ok {p : Act σ α} {f : α → Act σ β} {s s' : σ} {a : α} {notes : List Note}
    (h : p s = ⟨.ok a, notes, s'⟩) :
    (p >>= f) s = (f a s').prepend notes := by
  show bind p f s = _
  simp [bind, h, Run.prepend]

theorem bind_of_fault {p : Act σ α} {f : α → Act σ β} {s s' : σ} {e : Fault}
    {notes : List Note} (h : p s = ⟨.fault e, notes, s'⟩) :
    (p >>= f) s = ⟨.fault e, notes, s'⟩ := by
  show bind p f s = _
  simp [bind, h]

theorem bind_of_unfinished {p : Act σ α} {f : α → Act σ β} {s s' : σ} {notes : List Note}
    (h : p s = ⟨.unfinished, notes, s'⟩) :
    (p >>= f) s = ⟨.unfinished, notes, s'⟩ := by
  show bind p f s = _
  simp [bind, h]

theorem bind_pure_apply (p : Act σ α) (f : α → β) (s : σ) :
    (do
      let a ← p
      return f a) s = ⟨(p s).outcome.map f, (p s).notes, (p s).state⟩ := by
  cases hrun : p s with
  | mk outcome notes s' =>
      cases outcome with
      | ok a =>
          rw [bind_of_ok hrun]
          simp [Outcome.map]
      | fault e =>
          rw [bind_of_fault hrun]
          rfl
      | unfinished =>
          rw [bind_of_unfinished hrun]
          rfl

@[simp] theorem get_bind (f : σ → Act σ β) (s : σ) :
    (get >>= f) s = f s s := rfl

@[simp] theorem set_bind (f : Unit → Act σ β) (s s' : σ) :
    (set s' >>= f) s = f () s' := rfl

@[simp] theorem modify_bind (g : σ → σ) (f : Unit → Act σ β) (s : σ) :
    (modify g >>= f) s = f () (g s) := rfl

@[simp] theorem note_bind (n : Note) (f : Unit → Act σ β) (s : σ) :
    (note n >>= f) s = (f () s).prepend [n] := rfl

@[simp] theorem ofExcept_ok_bind (a : α) (f : α → Act σ β) (s : σ) :
    (ofExcept (.ok a) >>= f) s = f a s := rfl

@[simp] theorem ofExcept_error_bind (e : Fault) (f : α → Act σ β) (s : σ) :
    (ofExcept (.error e) >>= f) s = ⟨.fault e, [], s⟩ := rfl

/-! ### Faults and endings -/

theorem recover_of_ok {p : Act σ α} {handled : Fault → Bool} {handler : Fault → Act σ α}
    {s s' : σ} {a : α} {notes : List Note} (h : p s = ⟨.ok a, notes, s'⟩) :
    p.recover handled handler s = ⟨.ok a, notes, s'⟩ := by
  simp [recover, h]

theorem recover_of_handled {p : Act σ α} {handled : Fault → Bool} {handler : Fault → Act σ α}
    {s s' : σ} {e : Fault} {notes : List Note} (h : p s = ⟨.fault e, notes, s'⟩)
    (he : handled e = true) :
    p.recover handled handler s = (handler e s').prepend notes := by
  simp [recover, h, he, Run.prepend]

theorem recover_of_unhandled {p : Act σ α} {handled : Fault → Bool}
    {handler : Fault → Act σ α} {s s' : σ} {e : Fault} {notes : List Note}
    (h : p s = ⟨.fault e, notes, s'⟩) (he : handled e = false) :
    p.recover handled handler s = ⟨.fault e, notes, s'⟩ := by
  simp [recover, h, he]

theorem recover_of_unfinished {p : Act σ α} {handled : Fault → Bool}
    {handler : Fault → Act σ α} {s s' : σ} {notes : List Note}
    (h : p s = ⟨.unfinished, notes, s'⟩) :
    p.recover handled handler s = ⟨.unfinished, notes, s'⟩ := by
  simp [recover, h]

/-- An ending without a fault of its own leaves the outcome as it is. -/
theorem andFinally_of_ok {p : Act σ α} {last : Act σ Unit} {s s' s'' : σ} {o : Outcome α}
    {notes notes' : List Note} (h : p s = ⟨o, notes, s'⟩) (ho : o ≠ .unfinished)
    (hlast : last s' = ⟨.ok (), notes', s''⟩) :
    p.andFinally last s = ⟨o, notes ++ notes', s''⟩ := by
  cases o with
  | ok a => simp [andFinally, h, hlast]
  | fault e => simp [andFinally, h, hlast]
  | unfinished => exact absurd rfl ho

/-- A fault of the ending takes the place of the outcome. -/
theorem andFinally_of_fault {p : Act σ α} {last : Act σ Unit} {s s' s'' : σ} {o : Outcome α}
    {e : Fault} {notes notes' : List Note} (h : p s = ⟨o, notes, s'⟩) (ho : o ≠ .unfinished)
    (hlast : last s' = ⟨.fault e, notes', s''⟩) :
    p.andFinally last s = ⟨.fault e, notes ++ notes', s''⟩ := by
  cases o with
  | ok a | fault f => simp [andFinally, h, hlast]
  | unfinished => exact absurd rfl ho

/-- The ending leaves its notes behind those of the first part, or is not begun. -/
theorem andFinally_notes (p : Act σ α) (last : Act σ Unit) (s : σ) :
    (p.andFinally last s).notes = (p s).notes ∨
      (p.andFinally last s).notes = (p s).notes ++ (last (p s).state).notes := by
  cases hrun : p s with
  | mk o notes s' =>
      cases hlast : last s' with
      | mk o' notes' s'' =>
          cases o with
          | unfinished =>
              simp [andFinally, hrun]
          | ok a | fault e =>
              cases o' <;> simp [andFinally, hrun, hlast]

/-- The ending comes after the first part, if that ends at all. The value is that of the first part,
and there is one only if the ending has no fault. -/
theorem andFinally_of_ends {p : Act σ α} {s : σ} (h : (p s).outcome ≠ .unfinished)
    (last : Act σ Unit) :
    (p.andFinally last s).notes = (p s).notes ++ (last (p s).state).notes ∧
      (p.andFinally last s).state = (last (p s).state).state ∧
      ∀ a, (p.andFinally last s).outcome = .ok a →
        (p s).outcome = .ok a ∧ (last (p s).state).outcome = .ok () := by
  cases hrun : p s with
  | mk o notes s' =>
      rw [hrun] at h
      cases hlast : last s' with
      | mk o' notes' s'' =>
          cases o with
          | unfinished =>
              exact absurd rfl h
          | ok a | fault e =>
              cases o' <;> simp [andFinally, hrun, hlast]

/-! ### States with two parts -/

theorem onSnd_apply (p : Act τ α) (s : σ) (t : τ) :
    onSnd p (s, t) = ⟨(p t).outcome, (p t).notes, (s, (p t).state)⟩ := rfl

theorem onSnd_bind (p : Act τ α) (f : α → Act τ β) :
    (onSnd (p >>= f) : Act (σ × τ) β) = (onSnd p >>= fun a => onSnd (f a)) := by
  funext ⟨s, t⟩
  rw [onSnd_apply]
  cases hrun : p t with
  | mk o notes t' =>
      have hp : (onSnd p : Act (σ × τ) α) (s, t) = ⟨o, notes, (s, t')⟩ := by
        rw [onSnd_apply, hrun]
      cases o with
      | ok a =>
          rw [bind_of_ok hrun, bind_of_ok hp]
          rfl
      | fault e =>
          rw [bind_of_fault hrun, bind_of_fault hp]
      | unfinished =>
          rw [bind_of_unfinished hrun, bind_of_unfinished hp]

theorem onSnd_andFinally (p : Act τ α) (last : Act τ Unit) :
    (onSnd (p.andFinally last) : Act (σ × τ) α) = (onSnd p).andFinally (onSnd last) := by
  funext ⟨s, t⟩
  cases hrun : p t with
  | mk o notes t' =>
      cases hlast : last t' with
      | mk o' notes' t'' =>
          cases o with
          | unfinished =>
              simp [onSnd, andFinally, hrun]
          | ok a | fault e =>
              cases o' <;> simp [onSnd, andFinally, hrun, hlast]

theorem making_of_ok {t t' : τ} {p : Act (σ × τ) Unit} {s s' : σ} {notes : List Note}
    (h : p (s, t) = ⟨.ok (), notes, (s', t')⟩) :
    making t p s = ⟨.ok t', notes, s'⟩ := by
  simp [making, h]

theorem making_of_fault {t t' : τ} {p : Act (σ × τ) Unit} {s s' : σ} {e : Fault}
    {notes : List Note} (h : p (s, t) = ⟨.fault e, notes, (s', t')⟩) :
    making t p s = ⟨.fault e, notes, s'⟩ := by
  simp [making, h]

end Act

end Evaluation

end ReplicaRead
