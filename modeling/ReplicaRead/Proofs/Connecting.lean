import ReplicaRead.Proofs.Evaluation
import ReplicaRead.Network

/-!
# Attempts to connect, and draws

An attempt uses up one script of its endpoint and is answered by that script: with a connection, or
with the fault of connecting. Whether a connection was made can be told afterwards from the notes
of the attempts and the scripts that there were before them.

Results: `Network.attempt_apply` and `Network.draw_apply`, one equation for all attempts and one for
all draws, and `Network.made`, the connections that the attempts among notes made.
-/

namespace ReplicaRead

/-- The endpoint of a host at its first port. -/
def Endpoint.atFirstPort (host : String) : Endpoint where
  host := host
  port := 1

/-- The connection that a script describes, under the number of the attempt. -/
def Script.link (script : Script) (id : Nat) : Link :=
  ⟨id, script.arrivals, script.sendFault, script.closeFault⟩

/-- The fault with which the closing of a connection ends, if it does. -/
def Link.closingFault (mode : Mode) (link : Link) : Option Fault :=
  match mode with
  | .sync => none
  | .async => link.closeFault.filter fun f => !f.isSystem

/-- The log of a closing: the entry for the failure of the system that it swallows, if it does. -/
def Link.swallowed (mode : Mode) (entry : Fault → Record) (link : Link) : List Note :=
  match mode with
  | .sync => []
  | .async => ((link.closeFault.filter Fault.isSystem).map fun f => .record (entry f)).toList

theorem Link.mem_swallowed {mode : Mode} {entry : Fault → Record} {link : Link} {n : Note}
    (hn : n ∈ swallowed mode entry link) : ∃ f, n = .record (entry f) := by
  cases mode with
  | sync =>
      cases hn
  | async =>
      simp only [swallowed, Option.mem_toList, Option.map_eq_some_iff] at hn
      obtain ⟨f, -, rfl⟩ := hn
      exact ⟨f, rfl⟩

/-- Closing ends without a fault if only failures of the system can come of it. -/
theorem Link.closingFault_eq_none {link : Link}
    (h : ∀ f, link.closeFault = some f → f.isSystem = true) (mode : Mode) :
    closingFault mode link = none := by
  cases mode with
  | sync =>
      rfl
  | async =>
      cases hf : link.closeFault with
      | none =>
          simp [closingFault, hf]
      | some f =>
          simp [closingFault, hf, Option.filter, h f hf]

/-- Only faults that are not of the system come of closing. -/
theorem Link.isSystem_of_closingFault {mode : Mode} {link : Link} {f : Fault}
    (h : closingFault mode link = some f) : f.isSystem = false := by
  cases mode with
  | sync =>
      cases h
  | async =>
      have hescapes := (Option.filter_eq_some_iff.1 h).2
      simpa using hescapes

namespace Network

open Act

/-- The answer to an attempt to connect. -/
def answer (net : Network) (endpoint : Endpoint) : Except Fault Link :=
  match net.scripts endpoint with
  | [] => .error .connectionRefused
  | script :: _ =>
    match script.connectFault with
    | some f => .error f
    | none => .ok (script.link net.attempts)

/-- Scripts without the first of an endpoint. -/
def dropScript (scripts : Endpoint → List Script) (endpoint : Endpoint) : Endpoint → List Script :=
  fun e => if e = endpoint then (scripts endpoint).tail else scripts e

/-- The network after an attempt to connect. -/
def afterAttempt (net : Network) (endpoint : Endpoint) : Network :=
  { net with scripts := dropScript net.scripts endpoint, attempts := net.attempts + 1 }

/-- The timeout that an attempt is given. -/
def shownTimeout (mode : Mode) (timeout : Binary64) : Option Binary64 :=
  match mode with
  | .sync => some timeout
  | .async => none

theorem attempt_apply (mode : Mode) (endpoint : Endpoint) (timeout : Binary64) (net : Network) :
    attempt mode endpoint timeout net =
      ⟨.ofExcept (net.answer endpoint),
        [.connect net.attempts endpoint (shownTimeout mode timeout)],
        net.afterAttempt endpoint⟩ := by
  unfold attempt
  simp only [get_bind, note_bind]
  cases hs : net.scripts endpoint with
  | nil =>
      have hsame : dropScript net.scripts endpoint = net.scripts := by
        funext e
        by_cases he : e = endpoint
        · simp [dropScript, he, hs]
        · simp [dropScript, he]
      cases mode <;> simp [answer, afterAttempt, hs, hsame, Outcome.ofExcept, shownTimeout]
  | cons script rest =>
      have hdrop : dropScript net.scripts endpoint =
          fun e => if e = endpoint then rest else net.scripts e := by
        unfold dropScript
        rw [hs]
        rfl
      cases hf : script.connectFault with
      | none =>
          cases mode <;>
            simp [answer, afterAttempt, hs, hf, hdrop, Outcome.ofExcept, Script.link, shownTimeout]
      | some f =>
          cases mode <;> simp [answer, afterAttempt, hs, hf, hdrop, Outcome.ofExcept, shownTimeout]

/-- The numbers of the connections that the attempts among notes made, given the scripts that
there were before them. -/
def made (scripts : Endpoint → List Script) : List Note → List Nat
  | [] => []
  | .connect id endpoint _ :: notes =>
    ((scripts endpoint).head?.filter fun s => s.connectFault.isNone).toList.map (fun _ => id) ++
      made (dropScript scripts endpoint) notes
  | _ :: notes => made scripts notes

theorem made_cons (scripts : Endpoint → List Script) (id : Nat) (endpoint : Endpoint)
    (timeout : Option Binary64) (notes : List Note) :
    made scripts (.connect id endpoint timeout :: notes) =
      made scripts [.connect id endpoint timeout] ++
        made (dropScript scripts endpoint) notes := by
  simp [made]

/-- Every script that is still to come has a property. -/
def AllScripts (p : Script → Prop) (net : Network) : Prop :=
  ∀ endpoint, ∀ script ∈ net.scripts endpoint, p script

theorem AllScripts.afterAttempt {p : Script → Prop} {net : Network} (h : AllScripts p net)
    (endpoint : Endpoint) :
    AllScripts p (net.afterAttempt endpoint) := by
  intro e script hscript
  by_cases he : e = endpoint
  · subst he
    have hmem : script ∈ (net.scripts e).tail := by
      simpa [Network.afterAttempt, dropScript] using hscript
    exact h e script (List.mem_of_mem_tail hmem)
  · have hmem : script ∈ net.scripts e := by
      simpa [Network.afterAttempt, dropScript, he] using hscript
    exact h e script hmem

/-- An attempt is answered by the next script. -/
theorem answer_of_head {net : Network} {endpoint : Endpoint} {script : Script}
    (hscript : (net.scripts endpoint).head? = some script) (hfault : script.connectFault = none) :
    net.answer endpoint = .ok (script.link net.attempts) := by
  obtain ⟨rest, hscripts⟩ := List.head?_eq_some_iff.1 hscript
  unfold answer
  rw [hscripts]
  simp [hfault]

/-- A connection that is made is that of a script without a fault of connecting. -/
theorem exists_script_of_answer {net : Network} {endpoint : Endpoint} {link : Link}
    (h : net.answer endpoint = .ok link) :
    ∃ script ∈ net.scripts endpoint, (net.scripts endpoint).head? = some script ∧
      script.connectFault = none ∧ link = script.link net.attempts := by
  unfold answer at h
  cases hs : net.scripts endpoint with
  | nil =>
      rw [hs] at h
      cases h
  | cons script rest =>
      rw [hs] at h
      cases hf : script.connectFault with
      | some f =>
          simp [hf] at h
      | none =>
          simp only [hf, Except.ok.injEq] at h
          exact ⟨script, List.mem_cons_self, rfl, hf, h.symm⟩

/-- A connection that is not made is refused, or it is that of a script with a fault of connecting. -/
theorem fault_of_answer {net : Network} {endpoint : Endpoint} {f : Fault}
    (h : net.answer endpoint = .error f) :
    f = .connectionRefused ∨ ∃ script ∈ net.scripts endpoint, script.connectFault = some f := by
  unfold answer at h
  cases hs : net.scripts endpoint with
  | nil =>
      rw [hs] at h
      cases h
      exact Or.inl rfl
  | cons script rest =>
      rw [hs] at h
      cases hf : script.connectFault with
      | none =>
          simp [hf] at h
      | some g =>
          simp only [hf, Except.error.injEq] at h
          subst h
          exact Or.inr ⟨script, List.mem_cons_self, hf⟩

/-- A connection has the number of the attempt that made it. -/
theorem id_of_answer {net : Network} {endpoint : Endpoint} {link : Link}
    (h : net.answer endpoint = .ok link) : link.id = net.attempts := by
  obtain ⟨script, -, -, -, rfl⟩ := exists_script_of_answer h
  rfl

/-! ### Connections made -/

section Made

variable {net : Network} {endpoint : Endpoint} {notes : List Note}

theorem made_of_silent (scripts : Endpoint → List Script)
    (h : ∀ m ∈ notes, m.connect? = none) : made scripts notes = [] := by
  induction notes generalizing scripts with
  | nil =>
      rfl
  | cons m notes ih =>
      have hm := h m List.mem_cons_self
      have hrest := ih scripts fun k hk => h k (List.mem_cons_of_mem _ hk)
      cases m with
      | connect id endpoint timeout =>
          cases hm
      | _ =>
          exact hrest

theorem made_of_answered {link : Link} (hanswer : net.answer endpoint = .ok link)
    (hnotes : ∀ m ∈ notes, m.connect? = none) (id : Nat) (timeout : Option Binary64) :
    made net.scripts (.connect id endpoint timeout :: notes) = [id] := by
  obtain ⟨script, -, hhead, hfault, -⟩ := exists_script_of_answer hanswer
  rw [made, made_of_silent _ hnotes, hhead]
  simp [Option.filter, hfault]

theorem made_of_unanswered {f : Fault} (hanswer : net.answer endpoint = .error f)
    (hnotes : ∀ m ∈ notes, m.connect? = none) (id : Nat) (timeout : Option Binary64) :
    made net.scripts (.connect id endpoint timeout :: notes) = [] := by
  rw [made, made_of_silent _ hnotes]
  unfold answer at hanswer
  cases hs : net.scripts endpoint with
  | nil =>
      rfl
  | cons script rest =>
      rw [hs] at hanswer
      cases hf : script.connectFault with
      | none =>
          simp [hf] at hanswer
      | some g =>
          simp [Option.filter, hf]

end Made

/-! ### Draws -/

/-- What the first of the draws comes to. -/
def drawn (draws : List Int) (n : Nat) : Fin (n + 1) :=
  match draws with
  | [] => ⟨0, Nat.succ_pos n⟩
  | d :: _ => reduceDraw d n

theorem draw_apply (n : Nat) (net : Network) :
    draw n net =
      ⟨.ok (drawn net.draws n), [.draw (n + 1)], { net with draws := net.draws.tail }⟩ := by
  obtain ⟨scripts, attempts, draws⟩ := net
  cases draws with
  | nil =>
      rfl
  | cons d draws =>
      rfl

end Network
end ReplicaRead
