import ShellDebugger.Script.World

/-!
# Processes at work

The processes of a script take turns. In a turn a process makes requests until one keeps it
waiting, until it ends, or until it has made enough of them. What is done takes no time: the clock
moves when all processes wait, to the first time for which one of them sleeps. A process that is
busy for very long lets time pass as well.
-/

namespace ShellDebugger.Script

structure System where
  world : World
  /-- What each process that has not ended still does, in the order of their turns. -/
  running : List (Nat × Activity)

structure Turn where
  world : World
  /-- What the process, unless it has ended, and those that it has started still do. -/
  left : List (Nat × Activity)
  /-- Whether anything was done. -/
  moved : Bool

namespace System

def turnLength : Nat := 500

/-- The turns without a move of the clock after which a process counts as busy for long. -/
def patience : Nat := 400

def turns : Nat := 20000

/-- The time in milliseconds for which processes that go on are looked at once the first one has
ended. -/
def grace : Nat := 5000

def firstTask (s : System) : Nat :=
  (s.world.tasks.head?.map (·.id)).getD 0

def ended (s : System) : Option (Nat × Outcome) :=
  s.world.tasks.head?.bind (·.ended)

/-- A process with its input and outputs, before it has done anything. -/
def start (world : World) (id parent : Nat) (activity : Activity) : System :=
  let first : Task :=
    { id
      parent
      descriptors := [(0, .input), (1, .output .stdout), (2, .output .stderr)]
      handled := []
      arrived := []
      doom := none
      stopped := false
      ended := none
      reaped := false }
  ⟨{ world with tasks := [first], nextTask := id + 1 }, [(id, activity)]⟩

def turn (w : World) (id : Nat) (started : List (Nat × Activity)) (moved : Bool) :
    Activity → Nat → Turn
  | a, 0 => ⟨w, (id, a) :: started.reverse, moved⟩
  | a, length + 1 =>
    let task := w.task? id
    match task.bind (·.doom) with
    | some signal => ⟨w.finish id (.killed signal), started.reverse, true⟩
    | none =>
      if task.any (·.stopped) then ⟨w, (id, a) :: started.reverse, moved⟩
      else
        match a with
        | .exit status => ⟨w.finish id (.exited (status % 256)), started.reverse, true⟩
        | .fork child next =>
          let (w, number) := w.fork id
          turn w id ((number, child) :: started) true (next number) length
        | .ask request next =>
          match w.answer id request with
          | none => ⟨w, (id, .ask request next) :: started.reverse, moved⟩
          | some (w, answer) => turn w id started true (next answer) length

def wakeTime? : Activity → Option Nat
  | .ask (.sleepUntil time) _ => some time
  | _ => none

/-- The time up to which the processes are looked at. -/
def horizon (s : System) (deadline : Option Nat) : Option Nat :=
  match s.ended with
  | some (time, _) => some (time + grace)
  | none => deadline

/-- The first time after now for which a process sleeps, unless it is past the horizon. -/
def nextTime? (s : System) (deadline : Option Nat) : Option Nat :=
  let times := (s.running.filterMap fun (_, a) ↦ wakeTime? a).filter (s.world.clock < ·)
  match times.min? with
  | none => none
  | some time => if (s.horizon deadline).any (· < time) then none else some time

/-- Lets the processes take turns up to a deadline, or as long as they can. In the last `waiting`
turns nothing was done, and in the last `still` the clock did not move. -/
def takeTurns (s : System) (deadline : Option Nat) (waiting still : Nat) : Nat → System
  | 0 => s
  | fuel + 1 =>
    match s.running with
    | [] => s
    | (id, a) :: rest =>
      let next := s.nextTime? deadline
      let isLong := patience < still && (next.isSome || (s.horizon deadline).isSome)
      if isLong ∨ rest.length < waiting then
        match next with
        | none => s
        | some time =>
          takeTurns { s with world := { s.world with clock := time } } deadline 0 0 fuel
      else
        let t := turn s.world id [] false a turnLength
        takeTurns ⟨t.world, rest ++ t.left⟩ deadline (if t.moved then 0 else waiting + 1)
          (still + 1) fuel

/-- Lets the processes run up to a deadline, or as long as they can. -/
def run (s : System) (deadline : Option Nat) : System :=
  s.takeTurns deadline 0 0 turns

/-- Kills the first process at a time, and lets the others run. -/
def kill (s : System) (time : Nat) : System :=
  let world := { s.world with clock := max s.world.clock time }
  let s : System := ⟨(world.send s.firstTask 9).1, s.running⟩
  s.run (some time)

end System
end ShellDebugger.Script
