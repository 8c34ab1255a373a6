import ReplicaRead.Selection
import ReplicaRead.Stream

/-!
# Rehearsals

The choice of a replica and the read loop also run on probes and sessions that follow a script in
place of a network.

Algorithm: each probe of an endpoint takes the next of its outcomes, and the last one repeats. Each
read of a rehearsed session takes the next step of its script and brings it whole, however much was
asked for.

Results: `rehearsedProber` and `rehearsedSessions`.
-/

namespace ReplicaRead

/-- Outcomes of probes, and draws. -/
structure ProbePlan where
  /-- The outcomes of the probes of each endpoint, in order; `none` stands for a node that is
  reached. -/
  outcomes : Endpoint → List (Option Fault)
  draws : List Int := []

namespace ProbePlan

/-- Takes a draw. Beyond the draws to come, it is the first candidate. -/
def draw (n : Nat) : Act ProbePlan (Fin (n + 1)) := do
  let plan ← Act.get
  Act.note (.draw (n + 1))
  match plan.draws with
  | [] => return ⟨0, Nat.succ_pos n⟩
  | d :: draws =>
    Act.set { plan with draws }
    return Network.reduceDraw d n

/-- Takes an outcome of an endpoint. An endpoint without outcomes is reached. -/
def probe (endpoint : Endpoint) (timeout : Binary64) : Act ProbePlan Unit := do
  let plan ← Act.get
  Act.note (.probed endpoint timeout)
  match plan.outcomes endpoint with
  | [] => return
  | outcome :: rest =>
    if !rest.isEmpty then
      let outcomes := fun e => if e = endpoint then rest else plan.outcomes e
      Act.set { plan with outcomes }
    match outcome with
    | none => return
    | some f => Act.raise f

end ProbePlan

/-- Draws and probes by a plan. -/
def rehearsedProber : Prober ProbePlan where
  draw := ProbePlan.draw
  probe := ProbePlan.probe

/-- The script of rehearsed sessions. -/
structure SessionScript where
  openFault : Option Fault := none
  steps : List Arrival := []

namespace SessionScript

/-- Opens a session, whose state is the steps still to come. -/
def start (o : Opening) : Act SessionScript (List Arrival) := do
  Act.note (.opened o)
  let script ← Act.get
  match script.openFault with
  | some f => Act.raise f
  | none => return script.steps

/-- Takes the next step. -/
def read (size : Nat) : Act (List Arrival) Bytes := do
  Act.note (.requested size)
  match ← Act.get with
  | [] => Act.raise .scriptExhausted
  | step :: rest =>
    Act.set rest
    Act.ofExcept step

end SessionScript

/-- Sessions by a script. -/
def rehearsedSessions : SessionKind SessionScript (List Arrival) where
  start := SessionScript.start
  read := SessionScript.read
  close := Act.note .released
  supply := List.length

end ReplicaRead
