import ShellDebugger.Session.Driver

/-!
# Operations of a session driver

What can be asked of a driver, as data, so that a history of a driver is a list: each operation with
what it answered. And what the calls that it makes have acquired and not given back: the named pipes
that were made and not removed, and the children that were spawned and not seen to exit.
-/

namespace ShellDebugger

inductive Operation where
  | load (path : Path)
  | start
  | reload
  | submit (words : List String)
  | submitLine (line : String)
  | status
  | close
  deriving DecidableEq, Repr

inductive Operation.Answer where
  | done
  | failed (error : SessionError)
  /-- What the driver is. -/
  | state (state : DriverState)
  deriving DecidableEq, Repr

def Operation.Answer.ofResult : Except SessionError Unit → Operation.Answer
  | .ok _ => .done
  | .error e => .failed e

namespace Driver

def perform (d : Driver) (operation : Operation) : Plan (Operation.Answer × Driver) := do
  let answered (outcome : Except SessionError Unit × Driver) : Operation.Answer × Driver :=
    (.ofResult outcome.1, outcome.2)
  match operation with
  | .load path => return answered (← d.load path)
  | .start => return answered (← d.start)
  | .reload => return answered (← d.reload)
  | .submit words => return answered (← d.submit words)
  | .submitLine line => return answered (← d.submitLine line)
  | .status =>
    let (state, d) ← d.status
    return (.state state, d)
  | .close => return (.done, ← d.close)

def performAll (d : Driver) : List Operation → Plan (List Operation.Answer × Driver)
  | [] => return ([], d)
  | operation :: rest => do
    let (answer, d) ← d.perform operation
    let (answers, d) ← d.performAll rest
    return (answer :: answers, d)

end Driver

structure Resources where
  pipes : List Path
  children : List ChildId
  deriving DecidableEq, Repr

namespace Resources

def none : Resources := ⟨[], []⟩

def reap (r : Resources) (child : ChildId) : Resources :=
  { r with children := r.children.filter (· != child) }

/-- What is held after a call that was answered. -/
def after (r : Resources) (event : Plan.Event) : Resources :=
  match event with
  | ⟨.makePipe path, .ok _⟩ => { r with pipes := r.pipes ++ [path] }
  | ⟨.unlink path, .ok _⟩ => { r with pipes := r.pipes.filter (· != path) }
  | ⟨.spawn .., .ok child⟩ => { r with children := r.children ++ [child] }
  | ⟨.exitOf child, some _⟩ => r.reap child
  | ⟨.watch child _ _, polls⟩ =>
    let polls : List Poll := polls
    if polls.any (·.exit.isSome) then r.reap child else r
  | ⟨.awaitExit child, _⟩ => r.reap child
  | ⟨.awaitExitFor child _, some _⟩ => r.reap child
  | _ => r

def afterAll (r : Resources) (trace : List Plan.Event) : Resources :=
  trace.foldl after r

end Resources
end ShellDebugger
