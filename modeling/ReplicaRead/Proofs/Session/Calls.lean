import Mathlib.Data.List.Induction
import ReplicaRead.Proofs.Session.Opening
import ReplicaRead.Session.Operation

/-!
# Calls on a reader

An operation on a reader is made of single calls: it opens, reads or closes, or it reads pieces one
after another and closes in the end. So what holds after every run of calls holds at every point of
every run of operations.

Algorithm: calls are made one after another, each in the state that the one before it left. Pieces
are read until a read ends with a fault.

Results: `Call.Does`, all that a call can do; `holds_of_entries`, by which a property of runs that
every call keeps holds after all of them; and `performAll_composed`, by which the runs of operations
are composed of calls.
-/

namespace ReplicaRead
namespace Reader

open Act Arrivals

/-- A single call on a reader. -/
inductive Call where
  | start (request : Request)
  | read (length : Int)
  | close
deriving DecidableEq

namespace Call

/-- Makes a call. Only reads bring bytes. -/
def perform (mode : Mode) : Call → Act (Network × Reader) Bytes
  | start request => do
    Reader.start mode request
    return []
  | read length => Act.onSnd (Reader.read mode length)
  | close => do
    Act.onSnd (Reader.close mode)
    return []

def isStart : Call → Bool
  | start _ => true
  | _ => false

def isRead : Call → Bool
  | read _ => true
  | _ => false

/-! ### What a call does -/

/-- The ways in which a call goes, by the state that it meets. -/
inductive Does (mode : Mode) : Call → Network × Reader → Run (Network × Reader) Bytes → Prop where
  /-- A connect that is given no time is not begun. -/
  | untimely {request : Request} {net : Network} {reader : Reader}
      (hbegins : Network.begins mode reader.timeout = false) :
      Does mode (.start request) (net, reader)
        ⟨.fault (.connectFailed mode reader.endpoint .noTime), [], (net, reader)⟩
  /-- No connection is made, and one that is held stays as it is. -/
  | unanswered {request : Request} {net : Network} {reader : Reader} {f : Fault}
      (hanswer : net.answer reader.endpoint = .error f) :
      Does mode (.start request) (net, reader)
        ⟨.fault (connectReport mode reader.endpoint f),
          [.connect net.attempts reader.endpoint (Network.shownTimeout mode reader.timeout)],
          (net.afterAttempt reader.endpoint, reader)⟩
  /-- A connection is made, takes the place of one that is held, and the handshake follows. -/
  | answered {request : Request} {net : Network} {reader : Reader} {link : Link}
      {r : Run Reader Unit} (hbegins : Network.begins mode reader.timeout = true)
      (hanswer : net.answer reader.endpoint = .ok link)
      (hends : HandshakeEnds mode request { reader with link := some link } link r) :
      Does mode (.start request) (net, reader)
        ⟨r.outcome.map fun _ => [],
          .connect net.attempts reader.endpoint (Network.shownTimeout mode reader.timeout) ::
            r.notes,
          (net.afterAttempt reader.endpoint, r.state)⟩
  | readUnheld {length : Int} {net : Network} {reader : Reader} (hlink : reader.link = none) :
      Does mode (.read length) (net, reader) ⟨.fault .notOpen, [], (net, reader)⟩
  | readHeld {length : Int} {net : Network} {reader : Reader} {link : Link}
      (hlink : reader.link = some link) :
      Does mode (.read length) (net, reader)
        ⟨.ofExcept ((receivePiece mode (min length reader.bufferSize) link.arrivals).mapError
            (report mode reader.endpoint reader.timeout)),
          [.receive link.id (min length reader.bufferSize)],
          (net, reader.advanced mode link (min length reader.bufferSize))⟩
  | closeUnheld {net : Network} {reader : Reader} (hlink : reader.link = none) :
      Does mode .close (net, reader) ⟨.ok [], [], (net, reader)⟩
  | closeHeld {net : Network} {reader : Reader} {link : Link} (hlink : reader.link = some link) :
      Does mode .close (net, reader)
        ⟨(Outcome.ofFault (link.closingFault mode)).map fun _ => [],
          .close link.id :: closingLog mode reader.endpoint link,
          (net, { reader with link := none })⟩

/-- Every call goes in one of these ways. -/
theorem perform_does (mode : Mode) (call : Call) (s : Network × Reader) :
    Does mode call s (call.perform mode s) := by
  obtain ⟨net, reader⟩ := s
  cases call with
  | start request =>
      have hrun : perform mode (.start request) (net, reader) = _ :=
        bind_pure_apply (Reader.start mode request) (fun _ => []) (net, reader)
      cases hbegins : Network.begins mode reader.timeout with
      | false =>
          rw [hrun, start_of_untimely request hbegins]
          exact .untimely hbegins
      | true =>
          cases hanswer : net.answer reader.endpoint with
          | error f =>
              rw [hrun, start_of_unanswered request hbegins hanswer]
              exact .unanswered hanswer
          | ok link =>
              rw [hrun, start_of_answered request hbegins hanswer]
              exact .answered hbegins hanswer (handshake_ends mode request rfl)
  | read length =>
      show Does mode _ _ (onSnd (Reader.read mode length) (net, reader))
      rw [onSnd_apply]
      cases hlink : reader.link with
      | none =>
          rw [read_of_unheld hlink]
          exact .readUnheld hlink
      | some link =>
          rw [read_of_held hlink]
          exact .readHeld hlink
  | close =>
      have hrun : perform mode .close (net, reader) = _ :=
        bind_pure_apply (onSnd (Reader.close mode)) (fun _ => []) (net, reader)
      rw [hrun, onSnd_apply]
      cases hlink : reader.link with
      | none =>
          rw [close_of_unheld hlink]
          exact .closeUnheld hlink
      | some link =>
          rw [close_of_held hlink]
          exact .closeHeld hlink

/-- A call does not go on without end. -/
theorem perform_ends (mode : Mode) (call : Call) (s : Network × Reader) :
    (call.perform mode s).outcome ≠ .unfinished := by
  have hdoes := perform_does mode call s
  generalize call.perform mode s = r at hdoes
  cases hdoes with
  | answered hbegins hanswer hends =>
      cases hends with
      | granted hreply | closed | escaped houtcome hf =>
          exact nofun
  | @readHeld length net reader link hlink =>
      cases receivePiece mode (min length reader.bufferSize) link.arrivals with
      | ok bs | error f =>
          exact nofun
  | @closeHeld net reader link hlink =>
      cases link.closingFault mode with
      | none | some f =>
          exact nofun
  | untimely | unanswered | readUnheld | closeUnheld =>
      exact nofun

end Call

/-- The number of the connection that is held. -/
def heldId (reader : Reader) : Option Nat :=
  reader.link.map Link.id

theorem heldId_eq_some_iff {reader : Reader} {id : Nat} :
    reader.heldId = some id ↔ ∃ link, reader.link = some link ∧ link.id = id :=
  Option.map_eq_some_iff

/-! ### Runs of calls -/

/-- The bytes that a call returns. -/
def brought (r : Run (Network × Reader) Bytes) : Bytes :=
  match r.outcome with
  | .ok bs => bs
  | _ => []

/-- A call in the state that it meets. -/
structure Entry where
  call : Call
  before : Network × Reader

namespace Entry

def run (mode : Mode) (e : Entry) : Run (Network × Reader) Bytes :=
  e.call.perform mode e.before

def after (mode : Mode) (e : Entry) : Network × Reader :=
  (e.run mode).state

def data (mode : Mode) (e : Entry) : Bytes :=
  brought (e.run mode)

end Entry

/-- Calls made one after another, each with the state that it meets. -/
def entries (mode : Mode) : List Call → Network × Reader → List Entry
  | [], _ => []
  | call :: calls, s => ⟨call, s⟩ :: entries mode calls (call.perform mode s).state

/-- The state after some calls. -/
def reached (mode : Mode) (s : Network × Reader) : List Entry → Network × Reader
  | [] => s
  | e :: h => reached mode (e.after mode) h

section Runs

variable {mode : Mode} {s : Network × Reader}

theorem reached_append (h h' : List Entry) :
    reached mode s (h ++ h') = reached mode (reached mode s h) h' := by
  induction h generalizing s with
  | nil =>
      rfl
  | cons e h ih =>
      exact ih

theorem entries_append (calls calls' : List Call) :
    entries mode (calls ++ calls') s =
      entries mode calls s ++ entries mode calls' (reached mode s (entries mode calls s)) := by
  induction calls generalizing s with
  | nil =>
      rfl
  | cons call calls ih =>
      exact congrArg (⟨call, s⟩ :: ·) ih

/-- The first of some calls are calls of their own, and the others follow in the state after
them. -/
theorem exists_calls_of_split {calls : List Call} {done rest : List Entry}
    (h : entries mode calls s = done ++ rest) : ∃ first others,
      done = entries mode first s ∧ rest = entries mode others (reached mode s done) := by
  induction done generalizing calls s with
  | nil =>
      exact ⟨[], calls, rfl, h.symm⟩
  | cons e done ih =>
      cases calls with
      | nil =>
          cases h
      | cons call calls =>
          obtain ⟨rfl, hrest⟩ := List.cons.inj h
          obtain ⟨first, others, hdone, hothers⟩ := ih hrest
          exact ⟨call :: first, others, congrArg _ hdone, hothers⟩

/-- The first of some calls meets the state that they begin with. -/
theorem before_of_cons {calls : List Call} {e : Entry} {rest : List Entry}
    (h : e :: rest = entries mode calls s) : e.before = s := by
  cases calls with
  | nil =>
      cases h
  | cons call calls =>
      exact congrArg Entry.before (List.cons.inj h).1

/-- A property of a run of calls and the state after it holds of all of them, if each call keeps
it. -/
theorem holds_of_entries {P : List Entry → Network × Reader → Prop} (hnil : P [] s)
    (hconcat : ∀ h s' call, P h s' → P (h ++ [⟨call, s'⟩]) (call.perform mode s').state)
    (calls : List Call) :
    P (entries mode calls s) (reached mode s (entries mode calls s)) := by
  induction calls using List.reverseRecOn with
  | nil =>
      exact hnil
  | append_singleton calls call ih =>
      rw [entries_append, entries, entries, reached_append]
      exact hconcat _ _ call ih

end Runs

/-! ### Operations -/

/-- The reads of pieces of the given lengths, up to the first that ends with a fault. -/
def pieceCalls (mode : Mode) : List Int → Network × Reader → List Call
  | [], _ => []
  | length :: lengths, s =>
    let r := (Call.read length).perform mode s
    .read length :: match r.outcome with
      | .ok _ => pieceCalls mode lengths r.state
      | _ => []

namespace Operation

/-- The calls that an operation makes. None is made for a block that cannot be. -/
def calls (mode : Mode) : Operation → Network × Reader → List Call
  | start blockId stamp blockLength credential offset length clientName, _ =>
    match Block.make blockId stamp blockLength with
    | .ok block => [.start (Reader.request block credential offset length clientName)]
    | .error _ => []
  | read length, _ => [.read length]
  | close, _ => [.close]
  | readAll lengths, s => pieceCalls mode lengths s ++ [.close]

end Operation

/-- The bytes of an answer. -/
def Answer.bytes : Answer → Bytes
  | .data bs => bs
  | .pieces bss => bss.flatten
  | _ => []

/-- A run does what calls do, ends in the state after them, and hands over the bytes that they
return. -/
structure MadeOf {α : Type} (mode : Mode) (bytes : α → Bytes) (s : Network × Reader)
    (h : List Entry) (r : Run (Network × Reader) α) : Prop where
  notes : r.notes = h.flatMap fun e => (e.run mode).notes
  state : r.state = reached mode s h
  data : ∀ a, r.outcome = .ok a → bytes a = h.flatMap (Entry.data mode)

/-- The runs of operations are made of the calls of a history, one after another. -/
inductive Composed (mode : Mode) : Network × Reader → List (Run (Network × Reader) Answer) →
    List Entry → Prop where
  | nil {s : Network × Reader} : Composed mode s [] []
  | cons {s : Network × Reader} {h h' : List Entry} {r : Run (Network × Reader) Answer}
      {rs : List (Run (Network × Reader) Answer)} (hmade : MadeOf mode Answer.bytes s h r)
      (hrest : Composed mode r.state rs h') : Composed mode s (r :: rs) (h ++ h')

section Composition

variable {α β γ : Type} {mode : Mode} {s : Network × Reader}

/-- A run that only hands over otherwise what a single call returns. -/
theorem MadeOf.of_call (bytes : α → Bytes) (call : Call) {o : Outcome α}
    (h : ∀ a, o = .ok a → (call.perform mode s).outcome = .ok (bytes a)) :
    MadeOf mode bytes s (entries mode [call] s)
      ⟨o, (call.perform mode s).notes, (call.perform mode s).state⟩ := by
  refine ⟨(List.append_nil _).symm, rfl, ?_⟩
  intro a ha
  have hdata : Entry.data mode ⟨call, s⟩ = bytes a := by
    unfold Entry.data Entry.run brought
    rw [h a ha]
  rw [entries, entries, List.flatMap_singleton, hdata]

/-- A run made of two others, one after the other. -/
theorem MadeOf.append {bytes : α → Bytes} {bytes' : β → Bytes} {bytes'' : γ → Bytes}
    {h h' : List Entry} {r : Run (Network × Reader) α} {r' : Run (Network × Reader) β}
    {o : Outcome γ} (hr : MadeOf mode bytes s h r) (hr' : MadeOf mode bytes' r.state h' r')
    (ho : ∀ c, o = .ok c → ∃ a b, r.outcome = .ok a ∧ r'.outcome = .ok b ∧
      bytes'' c = bytes a ++ bytes' b) :
    MadeOf mode bytes'' s (h ++ h') ⟨o, r.notes ++ r'.notes, r'.state⟩ := by
  refine ⟨?_, ?_, ?_⟩
  · rw [List.flatMap_append, hr.notes, hr'.notes]
  · rw [reached_append, ← hr.state, hr'.state]
  · intro c hc
    obtain ⟨a, b, ha, hb, hbytes⟩ := ho c hc
    rw [List.flatMap_append, hbytes, hr.data a ha, hr'.data b hb]

/-- A run whose value is handed over in another form. -/
theorem MadeOf.map {bytes : α → Bytes} {bytes' : β → Bytes} {h : List Entry}
    {p : Act (Network × Reader) α} (g : α → β) (hmade : MadeOf mode bytes s h (p s))
    (hg : ∀ a, bytes' (g a) = bytes a) :
    MadeOf mode bytes' s h ((do return g (← p) : Act (Network × Reader) β) s) := by
  rw [bind_pure_apply]
  refine ⟨hmade.notes, hmade.state, ?_⟩
  intro b hb
  obtain ⟨a, ha, rfl⟩ := Outcome.map_eq_ok_iff.1 hb
  rw [hg, hmade.data a ha]

/-- What a call does that brings no bytes. -/
theorem MadeOf.of_silent {p : Act (Network × Reader) Unit} (call : Call)
    (hcall : call.perform mode = do p; return []) :
    MadeOf mode (fun _ => []) s (entries mode [call] s) (p s) := by
  have hrun : call.perform mode s = _ := (congrFun hcall s).trans (bind_pure_apply p _ s)
  have hvalue : ∀ a, (p s).outcome = .ok a → (call.perform mode s).outcome = .ok [] := by
    intro a ha
    rw [hrun]
    exact Outcome.map_eq_ok_iff.2 ⟨a, ha, rfl⟩
  have hmade := MadeOf.of_call (fun _ => []) call hvalue
  rw [hrun] at hmade
  exact hmade

/-- Reading pieces is reading them one by one. -/
theorem readPieces_made (mode : Mode) (lengths : List Int) (s : Network × Reader) :
    MadeOf mode List.flatten s (entries mode (pieceCalls mode lengths s) s)
        (onSnd (readPieces mode lengths) s) ∧
      (onSnd (readPieces mode lengths) s).outcome ≠ .unfinished := by
  induction lengths generalizing s with
  | nil =>
      exact ⟨⟨rfl, rfl, fun bss hbss => by cases hbss; rfl⟩, nofun⟩
  | cons length lengths ih =>
      have hrun : onSnd (readPieces mode (length :: lengths)) s =
          ((Call.read length).perform mode >>= fun data =>
            onSnd (readPieces mode lengths) >>= fun rest => Pure.pure (data :: rest)) s := by
        rw [readPieces, onSnd_bind]
        simp only [onSnd_bind]
        rfl
      -- The first read brings a piece, and the others follow, or it ends the reading.
      cases hread : (Call.read length).perform mode s with
      | mk o notes s' =>
          have hfirst : MadeOf mode id s (entries mode [.read length] s) ⟨o, notes, s'⟩ := by
            rw [← hread]
            exact .of_call id _ fun a ha => ha
          cases o with
          | ok data =>
              obtain ⟨hrest, hends⟩ := ih s'
              have hcalls : entries mode (pieceCalls mode (length :: lengths) s) s =
                  entries mode [.read length] s ++
                    entries mode (pieceCalls mode lengths s') s' := by
                simp only [pieceCalls, entries, hread, List.cons_append, List.nil_append]
              rw [hrun, hcalls, bind_of_ok hread, bind_pure_apply, Run.prepend_mk]
              refine ⟨hfirst.append hrest ?_, ?_⟩
              · intro bss hbss
                obtain ⟨rest, hok, rfl⟩ := Outcome.map_eq_ok_iff.1 hbss
                exact ⟨data, rest, rfl, hok, rfl⟩
              · cases ho : (onSnd (readPieces mode lengths) s').outcome with
                | ok rest | fault e =>
                    exact nofun
                | unfinished =>
                    exact absurd ho hends
          | fault e =>
              have hcalls : pieceCalls mode (length :: lengths) s = [.read length] := by
                simp only [pieceCalls, hread]
              rw [hrun, hcalls, bind_of_fault hread]
              exact ⟨⟨hfirst.notes, hfirst.state, nofun⟩, nofun⟩
          | unfinished =>
              have hends := (Call.read length).perform_ends mode s
              rw [hread] at hends
              exact absurd rfl hends

/-- Reading all pieces is reading them one by one and closing. -/
theorem readAll_made (mode : Mode) (lengths : List Int) (s : Network × Reader) :
    MadeOf mode List.flatten s (entries mode (pieceCalls mode lengths s ++ [.close]) s)
      (onSnd (readAll mode lengths) s) := by
  obtain ⟨hpieces, hends⟩ := readPieces_made mode lengths s
  obtain ⟨hnotes, hstate, houtcome⟩ := andFinally_of_ends hends (onSnd (close mode))
  have hrun : onSnd (readAll mode lengths) s =
      ((onSnd (readPieces mode lengths)).andFinally (onSnd (close mode))) s := by
    unfold readAll
    rw [onSnd_andFinally]
  have hvalue : ∀ bss, (onSnd (readAll mode lengths) s).outcome = .ok bss → ∃ bss' u,
      (onSnd (readPieces mode lengths) s).outcome = .ok bss' ∧
        (onSnd (close mode) (onSnd (readPieces mode lengths) s).state).outcome = .ok u ∧
        bss.flatten = bss'.flatten ++ [] := by
    intro bss hbss
    rw [hrun] at hbss
    obtain ⟨hok, hclosed⟩ := houtcome bss hbss
    exact ⟨bss, (), hok, hclosed, (List.append_nil _).symm⟩
  have hmade := hpieces.append (MadeOf.of_silent .close rfl) hvalue
  rw [entries_append, ← hpieces.state]
  rw [← hnotes, ← hstate, hrun] at hmade
  rw [hrun]
  exact hmade

/-- An operation does what its calls do. -/
theorem Operation.perform_made (mode : Mode) (op : Operation) (s : Network × Reader) :
    MadeOf mode Answer.bytes s (entries mode (op.calls mode s) s) (op.perform mode s) := by
  cases op with
  | start blockId stamp blockLength credential offset length clientName =>
      cases hblock : Block.make blockId stamp blockLength with
      | error f =>
          simp only [perform, calls, hblock, entries, ofExcept_error_bind]
          exact ⟨rfl, rfl, nofun⟩
      | ok block =>
          simp only [perform, calls, hblock, ofExcept_ok_bind]
          exact (MadeOf.of_silent (.start _) rfl).map (fun _ => Answer.opened) fun _ => rfl
  | read length =>
      have hmade : MadeOf mode id s (entries mode [.read length] s)
          ((Call.read length).perform mode s) :=
        .of_call id _ fun a ha => ha
      exact hmade.map Answer.data fun _ => rfl
  | close =>
      exact (MadeOf.of_silent .close rfl).map (fun _ => Answer.closed) fun _ => rfl
  | readAll lengths =>
      exact (readAll_made mode lengths s).map Answer.pieces fun _ => rfl

/-- The calls that operations make. -/
def Operation.callsOf (mode : Mode) : List Operation → Network × Reader → List Call
  | [], _ => []
  | op :: ops, s => op.calls mode s ++ callsOf mode ops (op.perform mode s).state

/-- The calls that operations make, each with the state that it meets. -/
def history (mode : Mode) (ops : List Operation) (s : Network × Reader) : List Entry :=
  entries mode (Operation.callsOf mode ops s) s

/-- The runs of operations are composed of the calls that they make. -/
theorem performAll_composed (mode : Mode) (ops : List Operation) (s : Network × Reader) :
    Composed mode s (Operation.performAll mode ops s) (history mode ops s) := by
  induction ops generalizing s with
  | nil =>
      exact .nil
  | cons op ops ih =>
      have hmade := op.perform_made mode s
      have hcalls : history mode (op :: ops) s =
          entries mode (op.calls mode s) s ++ history mode ops (op.perform mode s).state := by
        rw [history, Operation.callsOf, entries_append, ← hmade.state]
        rfl
      rw [hcalls]
      exact .cons hmade (ih _)

end Composition

end Reader
end ReplicaRead
