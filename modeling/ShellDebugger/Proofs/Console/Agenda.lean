import ShellDebugger.Console.Loop
import ShellDebugger.Proofs.Debugger.Printing
import ShellDebugger.Proofs.Debugger.Reachable

/-!
# The agenda of the command loop

Of what is read only two things matter: the commands of the lines before the first reading that ends
the loop, and that reading. The loop executes these commands in order and each once, reports those
that fail, and ends as the last reading says. So blank lines, interrupts and whatever comes after
the end make no difference to what is executed, to what is printed and to the result.
-/

namespace ShellDebugger.Console

open Plan

/-! ## What readings ask for -/

inductive Terminator where
  /-- A command to leave. -/
  | leave
  /-- There are no more lines. -/
  | ended
  | failed (reason : String)
  deriving DecidableEq, Repr

/-- The command that is read, if any: there is none on a blank line. -/
def Reading.command? : Reading → Option Command
  | .line text => Command.parse text
  | _ => none

/-- What ends the loop when it is read, if it does. -/
def Reading.terminator? : Reading → Option Terminator
  | .line text => if Command.parse text = some .exit then some .leave else none
  | .interrupted => none
  | .ended => some .ended
  | .failed reason => some (.failed reason)

/-- A blank line or an interrupt: nothing is asked for, and the loop does not end. -/
def Reading.IsIdle (reading : Reading) : Prop :=
  reading.command? = none ∧ reading.terminator? = none

/-- The commands of the lines before the loop ends. -/
def commandsOf (readings : List Reading) : List Command :=
  (readings.takeWhile (·.terminator?.isNone)).filterMap Reading.command?

/-- What ends the loop: the first reading that does so, or else the end of the lines. -/
def terminatorOf (readings : List Reading) : Terminator :=
  (readings.findSome? Reading.terminator?).getD .ended

/-- The effect of a loop: its result, and the debugger and what was printed when it ended. -/
abbrev Effect := Except Failure Unit × Debugger × Debugger.Output

def Outcome.effect (outcome : Outcome) : Effect :=
  (outcome.result, outcome.debugger, outcome.output)

/-- Executes a command. If it fails, its diagnostics are the line that says why, after what the log
says. -/
def attempt (logged : CommandError → String) (d : Debugger) (output : Debugger.Output)
    (command : Command) : Plan (Debugger × Debugger.Output) := do
  match ← d.execute command output with
  | (.ok _, d, output) => return (d, output)
  | (.error e, d, output') =>
    let complaint := Utf8.encode (logged e ++ e.message ++ "\n")
    return (d, { output' with diag := output.diag.taking complaint })

/-- Executes commands in order, each once, whether or not those before it failed. -/
def attemptAll (logged : CommandError → String) (d : Debugger) (output : Debugger.Output) :
    List Command → Plan (Debugger × Debugger.Output)
  | [] => return (d, output)
  | command :: rest => do
    let (d, output) ← attempt logged d output command
    attemptAll logged d output rest

/-- What the loop does at its end: it fails if reading has failed, and it says farewell if there are
no more lines. -/
def Terminator.conclude (d : Debugger) (output : Debugger.Output) : Terminator → Effect
  | .leave => (.ok (), d, output)
  | .ended => (.ok (), d, { output with out := output.out.taking (Utf8.encode farewell) })
  | .failed reason => (.error (.reading reason), d, output)

/-! ## Laws of the agenda -/

section Laws

variable {reading : Reading} {command : Command} {terminator : Terminator} {rest : List Reading}

theorem commandsOf_cons_of_isIdle (h : reading.IsIdle) :
    commandsOf (reading :: rest) = commandsOf rest := by
  rw [commandsOf, List.takeWhile_cons_of_pos (by rw [h.2]; rfl), List.filterMap_cons_none h.1,
    commandsOf]

theorem commandsOf_cons_of_command (hcommand : reading.command? = some command)
    (hgoesOn : reading.terminator? = none) :
    commandsOf (reading :: rest) = command :: commandsOf rest := by
  rw [commandsOf, List.takeWhile_cons_of_pos (by rw [hgoesOn]; rfl),
    List.filterMap_cons_some hcommand, commandsOf]

theorem commandsOf_cons_of_terminator (h : reading.terminator? = some terminator) :
    commandsOf (reading :: rest) = [] := by
  rw [commandsOf, List.takeWhile_cons_of_neg (by rw [h]; exact Bool.false_ne_true)]
  rfl

theorem terminatorOf_cons_of_none (h : reading.terminator? = none) :
    terminatorOf (reading :: rest) = terminatorOf rest := by
  rw [terminatorOf, List.findSome?_cons, h, terminatorOf]

theorem terminatorOf_cons_of_terminator (h : reading.terminator? = some terminator) :
    terminatorOf (reading :: rest) = terminator := by
  rw [terminatorOf, List.findSome?_cons, h, Option.getD_some]

theorem commandsOf_append (before after : List Reading) :
    commandsOf (before ++ after) =
      if (before.takeWhile (·.terminator?.isNone)).length = before.length then
        before.filterMap Reading.command? ++ commandsOf after
      else commandsOf before := by
  rw [commandsOf, List.takeWhile_append]
  split
  · rw [List.filterMap_append, commandsOf]
  · rw [commandsOf]

theorem terminatorOf_append (before after : List Reading) :
    terminatorOf (before ++ after) =
      ((before.findSome? Reading.terminator?).or (after.findSome? Reading.terminator?)).getD
        .ended := by
  rw [terminatorOf, List.findSome?_append]

/-- Blank lines and interrupts are not on the agenda. -/
theorem agenda_of_isIdle (h : reading.IsIdle) (before after : List Reading) :
    commandsOf (before ++ reading :: after) = commandsOf (before ++ after) ∧
      terminatorOf (before ++ reading :: after) = terminatorOf (before ++ after) := by
  constructor
  · rw [commandsOf_append, commandsOf_append, commandsOf_cons_of_isIdle h]
  · rw [terminatorOf_append, terminatorOf_append, List.findSome?_cons, h.2]

/-- Nothing that comes after the end is on the agenda. -/
theorem agenda_of_terminator (h : reading.terminator? = some terminator)
    (before after after' : List Reading) :
    commandsOf (before ++ reading :: after) = commandsOf (before ++ reading :: after') ∧
      terminatorOf (before ++ reading :: after) = terminatorOf (before ++ reading :: after') := by
  constructor
  · rw [commandsOf_append, commandsOf_append, commandsOf_cons_of_terminator h,
      commandsOf_cons_of_terminator h]
  · rw [terminatorOf_append, terminatorOf_append, List.findSome?_cons, List.findSome?_cons, h]

/-- The end fails if reading has failed, and adds nothing but the farewell to what was printed. -/
theorem Terminator.conclude_cases {d d' : Debugger} {output output' : Debugger.Output}
    {result : Except Failure Unit} (h : terminator.conclude d output = (result, d', output')) :
    ((∃ failure, result = .error failure) ↔ ∃ reason, terminator = .failed reason) ∧
      d' = d ∧ output'.diag = output.diag ∧
        output'.out.taken =
          output.out.taken ++ if terminator = .ended then Utf8.encode farewell else [] := by
  cases terminator with
  | leave =>
    cases h
    exact ⟨⟨nofun, nofun⟩, rfl, rfl, (List.append_nil _).symm⟩
  | ended =>
    cases h
    exact ⟨⟨nofun, nofun⟩, rfl, rfl, rfl⟩
  | failed reason =>
    cases h
    exact ⟨⟨fun _ ↦ ⟨reason, rfl⟩, fun _ ↦ ⟨.reading reason, rfl⟩⟩, rfl, rfl,
      (List.append_nil _).symm⟩

end Laws

/-! ## The loop and its agenda -/

section Loop

variable {logged : CommandError → String} {d : Debugger} {output : Debugger.Output}

def effectOf (logged : CommandError → String) (d : Debugger) (output : Debugger.Output)
    (readings : List Reading) : Plan Effect := do
  return (← run logged d output readings).effect

/-- The loop answers one reading after another until it has ended. -/
theorem effectOf_cons (reading : Reading) (rest : List Reading) :
    effectOf logged d output (reading :: rest) = do
      match ← respond logged d output reading with
      | (.goesOn, d, output) => effectOf logged d output rest
      | (.ended result, d, output) => return (result, d, output) := by
  unfold effectOf
  rw [run, bind_assoc]
  congr 1
  funext answered
  obtain ⟨progress, d, output⟩ := answered
  cases progress <;> rfl

/-- The commands of the agenda are attempted, and then the loop ends. -/
def agendaOf (logged : CommandError → String) (d : Debugger) (output : Debugger.Output)
    (commands : List Command) (terminator : Terminator) : Plan Effect := do
  let (d, output) ← attemptAll logged d output commands
  return terminator.conclude d output

theorem agendaOf_cons (command : Command) (commands : List Command) (terminator : Terminator) :
    agendaOf logged d output (command :: commands) terminator =
      attempt logged d output command >>= fun (d, output) ↦
        agendaOf logged d output commands terminator := by
  unfold agendaOf
  rw [attemptAll, bind_assoc]

/-- To answer a line with a command that does not leave is to attempt the command, and afterwards
the places of printing still take everything. -/
theorem respond_line_bind {text : String} {command : Command} {β : Type}
    {next next' : Debugger → Debugger.Output → Plan β}
    {last : Except Failure Unit → Debugger → Debugger.Output → Plan β} (houtput : output.IsWilling)
    (hparse : Command.parse text = some command) (hgoesOn : command ≠ .exit)
    (hnext : ∀ d output, output.IsWilling → next d output = next' d output) :
    (respond logged d output (.line text) >>= fun
      | (.goesOn, d, output) => next d output
      | (.ended result, d, output) => last result d output) =
    attempt logged d output command >>= fun (d, output) ↦ next' d output := by
  simp only [respond, hparse, attempt, bind_assoc]
  refine (Debugger.ensures_execute_output d command houtput).bind_congr fun result hresult ↦ ?_
  obtain ⟨result, d', output'⟩ := result
  match result with
  | .ok .goOn =>
    simp only [pure_bind]
    exact hnext d' output' hresult.willing
  | .ok .leave => exact absurd (hresult.leaves rfl) hgoesOn
  | .error e =>
    have hdiag : output'.diag = output.diag := hresult.quiet e rfl
    simp only [hdiag, houtput.diag.writeAll_eq, pure_bind]
    exact hnext d' _ ⟨hresult.willing.out, houtput.diag.taking _⟩

/-- Whatever is read, the loop does what the agenda says and nothing else. -/
theorem effectOf_eq (houtput : output.IsWilling) (readings : List Reading) :
    effectOf logged d output readings =
      agendaOf logged d output (commandsOf readings) (terminatorOf readings) := by
  induction readings generalizing d output with
  | nil =>
    simp only [effectOf, run, respond, houtput.out.writeAll_eq, pure_bind]
    rfl
  | cons reading rest ih =>
    rw [effectOf_cons]
    cases reading with
    | interrupted =>
      rw [commandsOf_cons_of_isIdle ⟨rfl, rfl⟩, terminatorOf_cons_of_none rfl, ← ih houtput]
      rfl
    | ended =>
      rw [commandsOf_cons_of_terminator rfl, terminatorOf_cons_of_terminator rfl]
      simp only [respond, houtput.out.writeAll_eq, pure_bind]
      rfl
    | failed reason =>
      rw [commandsOf_cons_of_terminator rfl, terminatorOf_cons_of_terminator rfl]
      rfl
    | line text =>
      cases hparse : Command.parse text with
      | none =>
        have hidle : (Reading.line text).IsIdle := ⟨hparse, by simp [Reading.terminator?, hparse]⟩
        rw [commandsOf_cons_of_isIdle hidle, terminatorOf_cons_of_none hidle.2, ← ih houtput]
        simp only [respond, hparse, pure_bind]
      | some command =>
        by_cases hexit : command = .exit
        · have hleave : (Reading.line text).terminator? = some .leave := by
            simp [Reading.terminator?, hparse, hexit]
          rw [commandsOf_cons_of_terminator hleave, terminatorOf_cons_of_terminator hleave]
          have hexecute : d.execute .exit output = pure (.ok .leave, d, output) := rfl
          simp only [respond, hparse, hexit, hexecute, pure_bind]
          rfl
        · have hgoesOn : (Reading.line text).terminator? = none := by
            simp [Reading.terminator?, hparse, hexit]
          have hcommand : (Reading.line text).command? = some command := hparse
          rw [commandsOf_cons_of_command hcommand hgoesOn, terminatorOf_cons_of_none hgoesOn,
            agendaOf_cons]
          exact respond_line_bind houtput hparse hexit fun d output houtput ↦ ih houtput

/-- Readings with the same agenda have the same effect. -/
theorem effectOf_congr (houtput : output.IsWilling) {readings readings' : List Reading}
    (hcommands : commandsOf readings = commandsOf readings')
    (hterminator : terminatorOf readings = terminatorOf readings') :
    effectOf logged d output readings = effectOf logged d output readings' := by
  rw [effectOf_eq houtput, effectOf_eq houtput, hcommands, hterminator]

end Loop

/-- Where nothing stops what is printed, the loop has the effect of attempting the commands of the
lines before the first reading that ends it, in order and each once. A command that fails adds to
the diagnostics the line that says why, and the loop goes on. Neither blank lines and interrupts nor
what comes after the end make a difference to what is executed, to what is printed and to the
result. The loop fails exactly if reading has failed, and says farewell exactly if there are no more
lines. -/
theorem run_executes_agenda (logged : CommandError → String) (d : Debugger)
    {output : Debugger.Output} (houtput : output.IsWilling) (readings : List Reading) :
    effectOf logged d output readings =
        agendaOf logged d output (commandsOf readings) (terminatorOf readings) ∧
      (∀ before reading after, readings = before ++ reading :: after → reading.IsIdle →
        commandsOf readings = commandsOf (before ++ after) ∧
          effectOf logged d output readings = effectOf logged d output (before ++ after)) ∧
      (∀ before reading after after', readings = before ++ reading :: after →
        reading.terminator? ≠ none →
        commandsOf readings = commandsOf (before ++ reading :: after') ∧
          effectOf logged d output readings =
            effectOf logged d output (before ++ reading :: after')) ∧
      ∀ trace outcome, Runs (run logged d output readings) trace outcome →
        ((∃ failure, outcome.result = .error failure) ↔
          ∃ reason, terminatorOf readings = .failed reason) ∧
        ∃ executed, Runs (attemptAll logged d output (commandsOf readings)) trace
            (outcome.debugger, executed) ∧
          outcome.output.diag = executed.diag ∧
          outcome.output.out.taken = executed.out.taken ++
            if terminatorOf readings = .ended then Utf8.encode farewell else [] := by
  refine ⟨effectOf_eq houtput readings, ?_, ?_, fun trace outcome hrun ↦ ?_⟩
  · rintro before reading after rfl hidle
    obtain ⟨hcommands, hterminator⟩ := agenda_of_isIdle hidle before after
    exact ⟨hcommands, effectOf_congr houtput hcommands hterminator⟩
  · rintro before reading after after' rfl hends
    obtain ⟨terminator, hends⟩ := Option.ne_none_iff_exists'.mp hends
    obtain ⟨hcommands, hterminator⟩ := agenda_of_terminator hends before after after'
    exact ⟨hcommands, effectOf_congr houtput hcommands hterminator⟩
  · have heffect : Runs (effectOf logged d output readings) trace outcome.effect :=
      runs_bind_pure_iff.mpr ⟨outcome, hrun, rfl⟩
    rw [effectOf_eq houtput] at heffect
    obtain ⟨⟨d', executed⟩, hexecuted, heq⟩ := runs_bind_pure_iff.mp heffect
    obtain ⟨hfailed, hdebugger, hdiag, hout⟩ := Terminator.conclude_cases heq.symm
    rw [hdebugger]
    exact ⟨hfailed, executed, hexecuted, hdiag, hout⟩

/-- An interrupt, a blank line, a command that fails and the end of the lines: the failure is
reported in one line and farewell is said, and the command behind the end is not executed. -/
theorem run_executes_agenda_one_failure :
    let output : Debugger.Output := ⟨.unlimited, .unlimited⟩
    let readings : List Reading := [.interrupted, .line " ", .line "step", .ended, .line "run"]
    output.IsWilling ∧ commandsOf readings = [.notImplemented "step"] ∧
      effectOf (fun _ ↦ "") .fresh output readings =
        pure (.ok (), .fresh,
          ⟨Writer.unlimited.taking (Utf8.encode "exit\n"),
            Writer.unlimited.taking (Utf8.encode "command not implemented: step\n")⟩) := by
  intro output readings
  have hunlimited : Writer.unlimited.IsWilling := ⟨nofun, rfl, rfl⟩
  have houtput : output.IsWilling := ⟨hunlimited, hunlimited⟩
  have hcommands : commandsOf readings = [.notImplemented "step"] := by decide
  have hterminator : terminatorOf readings = .ended := by decide
  obtain ⟨heffect, -⟩ := run_executes_agenda (fun _ ↦ "") .fresh houtput readings
  rw [hcommands, hterminator] at heffect
  exact ⟨houtput, hcommands, heffect⟩

end ShellDebugger.Console
