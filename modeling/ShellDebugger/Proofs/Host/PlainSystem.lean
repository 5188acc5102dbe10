import ShellDebugger.Proofs.Host.PlanRuns

/-!
# Plain systems

Systems on which everything goes well: named pipes can be made and removed, a shell reads its script
at once and exits with success when it is waited for, and a feeder takes every line. What files hold
and whether a process can be started is left open. A plain system gives every plan a run, which
shows that statements about runs are about something.
-/

namespace ShellDebugger

open Plan

/-- What is answered to a call of a run was answered by the system as it was at some time. -/
theorem Plan.exists_answer_of_mem_traceWith {α σ : Type} {respond : (c : Call) → σ → σ × c.Answer}
    {plan : Plan α} {system : σ} {c : Call} {answer : c.Answer}
    (hevent : ⟨c, answer⟩ ∈ plan.traceWith respond system) :
    ∃ system', answer = (respond c system').2 := by
  induction plan generalizing system with
  | done value => cases hevent
  | ask c' next ih =>
    rcases List.mem_cons.mp hevent with heq | hrest
    · cases heq
      exact ⟨system, rfl⟩
    · exact ih _ hrest

/-- A system that does not change answers equal calls alike. -/
theorem Plan.answer_of_mem_traceWith {α : Type} {respond : (c : Call) → c.Answer} {plan : Plan α}
    {c : Call} {answer : c.Answer}
    (hevent : ⟨c, answer⟩ ∈ plan.traceWith (fun c _ ↦ ((), respond c)) ()) :
    answer = respond c :=
  (exists_answer_of_mem_traceWith hevent).choose_spec

structure PlainSystem where
  /-- What every file holds. -/
  content : Bytes
  /-- What comes of starting a process. -/
  started : Except IoError ChildId

namespace PlainSystem

def answer (system : PlainSystem) (c : Call) : c.Answer :=
  match c with
  | .inspect _ => (.ok false : Except IoError Bool)
  | .read _ => (.ok system.content : Except IoError Bytes)
  | .drawNumber => (0 : UInt64)
  | .makePipe _ | .unlink _ => (.ok () : Except IoError Unit)
  | .spawn .. => system.started
  | .watch .. => ([⟨.ok true, none, ⟨0⟩⟩] : List Poll)
  | .exitOf _ => (none : Option Exit)
  | .awaitExit _ => Exit.code 0
  | .awaitExitFor .. => some (Exit.code 0)
  | .send .. | .joinFeederFor .. | .joinRelay .. => true
  | .startRelay .. | .startFeeder .. | .dropSender _ | .joinFeeder _ | .closeInput _ | .kill _ => ()

/-- A system on which every file holds one line, and on which shells can be started or not. -/
def ofShell (present : Bool) : PlainSystem where
  content := [0x3A, 0x0A]
  started := if present then .ok 0 else .error (.refused .noEntry)

variable {α : Type} (system : PlainSystem)

def result (plan : Plan α) : α :=
  (plan.runWith (fun c _ ↦ ((), system.answer c)) ()).1

/-- The calls of a plan on the system, with their answers. -/
def trace (plan : Plan α) : List Event :=
  plan.traceWith (fun c _ ↦ ((), system.answer c)) ()

theorem runs (plan : Plan α) : Runs plan (system.trace plan) (system.result plan) :=
  runs_runWith _ plan ()

theorem answer_of_mem_trace {plan : Plan α} {c : Call} {answer : c.Answer}
    (hevent : ⟨c, answer⟩ ∈ system.trace plan) : answer = system.answer c :=
  answer_of_mem_traceWith hevent

end PlainSystem
end ShellDebugger
