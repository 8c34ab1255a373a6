import ReplicaRead.Note

/-!
# Actions

An action works on a state, leaves notes, and ends with a value or a fault. State and notes are
kept when it ends with a fault. An action that reads without end has an outcome of its own.

Results: actions form a lawful monad; `recover` handles faults, `andFinally` runs an action after
another whatever its outcome, and an action on a part of a state is an action on the whole.
-/

namespace ReplicaRead

/-- How an action ends. -/
inductive Outcome (α : Type) where
  | ok (a : α)
  | fault (f : Fault)
  /-- Not at all: it goes on reading from a stream that has ended. -/
  | unfinished
deriving DecidableEq

/-- What a run of an action yields. -/
structure Run (σ α : Type) where
  outcome : Outcome α
  notes : List Note
  state : σ

/-- An action on a state. -/
def Act (σ α : Type) : Type :=
  σ → Run σ α

namespace Act

section Actions

variable {σ τ α β : Type}

def pure (a : α) : Act σ α :=
  fun s => ⟨.ok a, [], s⟩

/-- Goes on with a second action if the first ends with a value. -/
def bind (p : Act σ α) (f : α → Act σ β) : Act σ β := fun s =>
  let r := p s
  match r.outcome with
  | .ok a =>
    let r' := f a r.state
    ⟨r'.outcome, r.notes ++ r'.notes, r'.state⟩
  | .fault e => ⟨.fault e, r.notes, r.state⟩
  | .unfinished => ⟨.unfinished, r.notes, r.state⟩

instance : Monad (Act σ) where
  pure := pure
  bind := bind

def raise (e : Fault) : Act σ α :=
  fun s => ⟨.fault e, [], s⟩

def unfinished : Act σ α :=
  fun s => ⟨.unfinished, [], s⟩

/-- Ends as a computation does. -/
def ofExcept : Except Fault α → Act σ α
  | .ok a => pure a
  | .error e => raise e

def note (n : Note) : Act σ Unit :=
  fun s => ⟨.ok (), [n], s⟩

def log (level : Level) (channel : Channel) (message : String) : Act σ Unit :=
  note (.record ⟨level, channel, message⟩)

def get : Act σ σ :=
  fun s => ⟨.ok s, [], s⟩

def set (s : σ) : Act σ Unit :=
  fun _ => ⟨.ok (), [], s⟩

def modify (f : σ → σ) : Act σ Unit :=
  fun s => ⟨.ok (), [], f s⟩

/-- Goes on with `handler` after a fault that satisfies `handled`. -/
def recover (p : Act σ α) (handled : Fault → Bool) (handler : Fault → Act σ α) : Act σ α := fun s =>
  let r := p s
  match r.outcome with
  | .fault e =>
    if handled e then
      let r' := handler e r.state
      ⟨r'.outcome, r.notes ++ r'.notes, r'.state⟩
    else r
  | _ => r

/-- Runs `last` after `p`, whether or not `p` ends with a fault. A fault of `last` takes the place
of the outcome of `p`. -/
def andFinally (p : Act σ α) (last : Act σ Unit) : Act σ α := fun s =>
  let r := p s
  match r.outcome with
  | .unfinished => r
  | outcome =>
    let r' := last r.state
    match r'.outcome with
    | .ok () => ⟨outcome, r.notes ++ r'.notes, r'.state⟩
    | .fault e => ⟨.fault e, r.notes ++ r'.notes, r'.state⟩
    | .unfinished => ⟨.unfinished, r.notes ++ r'.notes, r'.state⟩

/-- An action on the first part of a state. -/
def onFst (p : Act σ α) : Act (σ × τ) α := fun (s, t) =>
  let r := p s
  ⟨r.outcome, r.notes, (r.state, t)⟩

/-- An action on the second part of a state. -/
def onSnd (p : Act τ α) : Act (σ × τ) α := fun (s, t) =>
  let r := p t
  ⟨r.outcome, r.notes, (s, r.state)⟩

/-- An action on a state of its own, which is dropped in the end. -/
def inside (t : τ) (p : Act τ α) : Act σ α := fun s =>
  let r := p t
  ⟨r.outcome, r.notes, s⟩

/-- An action on the state together with a new part, which is the value in the end. -/
def making (t : τ) (p : Act (σ × τ) Unit) : Act σ τ := fun s =>
  let r := p (s, t)
  match r.outcome with
  | .ok () => ⟨.ok r.state.2, r.notes, r.state.1⟩
  | .fault e => ⟨.fault e, r.notes, r.state.1⟩
  | .unfinished => ⟨.unfinished, r.notes, r.state.1⟩

end Actions

/-! ### Laws -/

section Laws

variable {σ α β : Type}

instance : LawfulMonad (Act σ) := LawfulMonad.mk' (Act σ)
  (by
    intro α p
    funext s
    simp only [Functor.map, bind, Function.comp, pure]
    cases h : p s with
    | mk outcome notes state => cases outcome <;> simp)
  (by
    intro α β a f
    funext s
    simp [Bind.bind, Pure.pure, bind, pure])
  (by
    intro α β γ p f g
    funext s
    simp only [Bind.bind, bind]
    cases h : p s with
    | mk outcome notes state =>
      cases outcome with
      | ok a =>
        cases h' : f a state with
        | mk outcome notes state => cases outcome <;> simp [h']
      | fault _ => rfl
      | unfinished => rfl)

end Laws

end Act
end ReplicaRead
