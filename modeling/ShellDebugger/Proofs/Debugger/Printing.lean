import ShellDebugger.Debugger.Basic
import ShellDebugger.Proofs.Host.PlanRuns
import ShellDebugger.Proofs.Source.InPlace

/-!
# What commands print

Where nothing stops what is printed, no command leaves it otherwise. A command that fails has added
nothing to the diagnostics by itself, and only the command to leave is followed by leaving. A
listing prints what the navigator prints, and keeps the debugger as it was if that fails.
-/

namespace ShellDebugger

open Plan

/-- A listing takes nothing from the writer but the room for its rows. -/
theorem Navigator.isWilling_list (nav : Navigator) (content : Except IoError Bytes)
    (request : Request) {out : Writer} (h : out.IsWilling) :
    (nav.list content request out).2.IsWilling := by
  unfold list
  split
  · exact h
  · split
    · exact h
    · rw [printPage, writeRows_eq h]
      exact h.taking _

namespace Debugger

/-- Nothing stops what is printed, on either way. -/
structure Output.IsWilling (output : Output) : Prop where
  out : output.out.IsWilling
  diag : output.diag.IsWilling

/-- What a command leaves of the places where it prints: they still take everything, and if the
command failed, its diagnostics are those from before. -/
structure LeavesOutput (command : Command) (output : Output)
    (result : Except CommandError Flow × Debugger × Output) : Prop where
  willing : result.2.2.IsWilling
  quiet : ∀ e, result.1 = .error e → result.2.2.diag = output.diag
  leaves : result.1 = .ok .leave → command = .exit

variable {past : List Event} {output : Output}

/-- A command that prints nothing leaves everything as it was. -/
theorem leavesOutput_goOn {command : Command} (h : output.IsWilling)
    (result : Except CommandError Unit × Debugger) :
    LeavesOutput command output (result.1.map fun _ ↦ .goOn, result.2, output) where
  willing := h
  quiet _ _ := rfl
  leaves hleave := by cases hresult : result.1 <;> rw [hresult] at hleave <;> cases hleave

theorem leavesOutput_error {command : Command} (h : output.IsWilling) (e : CommandError)
    (d : Debugger) : LeavesOutput command output (.error e, d, output) :=
  leavesOutput_goOn h (.error e, d)

theorem ensures_list_output (d : Debugger) (arguments : List String) (h : output.IsWilling) :
    Ensures .any (d.list arguments output) past fun result _ ↦
      result.2.2.IsWilling ∧ result.2.2.diag = output.diag := by
  unfold list
  refine ensures_any_bind fun content past ↦ ?_
  have hlist := d.navigator.isWilling_list content (.ofArguments arguments) h.out
  split
  · next hfailed =>
    rw [hfailed] at hlist
    exact ⟨⟨hlist, h.diag⟩, rfl⟩
  · next hlisted =>
    rw [hlisted] at hlist
    rw [hlist.flush_eq]
    exact ⟨⟨hlist, h.diag⟩, rfl⟩

/-- If the event reads a file, it finds what the files give. -/
def ReadsFrom (files : Navigator.Files) (event : Event) : Prop :=
  match event with
  | ⟨.read path, answer⟩ => (answer : Except IoError Bytes) = files path
  | _ => True

theorem ensures_content_contentIn (navigator : Navigator) (files : Navigator.Files) :
    Ensures ⟨ReadsFrom files, fun _ ↦ True⟩ (content navigator) past fun answer _ ↦
      answer = navigator.contentIn files := by
  unfold content Navigator.contentIn
  cases navigator.path with
  | none => rfl
  | some path => exact fun _ hreads ↦ ⟨trivial, hreads⟩

/-- A listing does what the navigator does with the source. Where that fails, the debugger is as it
was; otherwise nothing is left to fail but the flush, and by then the navigator has moved. -/
theorem ensures_list_perform (d : Debugger) (arguments : List String) (files : Navigator.Files) :
    let listed := d.navigator.perform files (.list (.ofArguments arguments)) output.out
    Ensures ⟨ReadsFrom files, fun _ ↦ True⟩ (d.list arguments output) past fun result _ ↦
      (∀ cause, listed.result = .error cause →
        result = (.error (.source cause), d, { output with out := listed.writer })) ∧
      (listed.result = .ok () →
        result = (listed.writer.flush.1.mapError .io, { d with navigator := listed.navigator },
          { output with out := listed.writer.flush.2 })) := by
  intro listed
  unfold list
  refine (ensures_content_contentIn d.navigator files).bind ?_
  rintro answer past rfl
  simp only [listed, Navigator.perform_list_eq]
  split
  · next cause out hfailed => simp [hfailed]
  · next moved out hlisted => simp [hlisted]

theorem ensures_execute_output (d : Debugger) (command : Command) (h : output.IsWilling) :
    Ensures .any (d.execute command output) past fun result _ ↦
      LeavesOutput command output result := by
  unfold execute
  cases command with
  | help =>
    rw [h.diag.writeAll_eq]
    exact ⟨⟨h.out, h.diag.taking _⟩, nofun, nofun⟩
  | exit => exact ⟨h, nofun, fun _ ↦ rfl⟩
  | notImplemented name | unknown name => exact leavesOutput_error h _ _
  | load path =>
    cases path with
    | none => exact leavesOutput_error h _ _
    | some path =>
      refine ensures_any_bind fun result past ↦ ?_
      split
      · exact leavesOutput_error h _ _
      · exact ensures_any_bind fun result past ↦ leavesOutput_goOn h _
  | list arguments =>
    refine (ensures_list_output d arguments h).bind fun result past ⟨hwilling, hdiag⟩ ↦ ?_
    refine ⟨hwilling, fun _ _ ↦ hdiag, fun hleave ↦ ?_⟩
    exact (leavesOutput_goOn h (result.1, result.2.1)).leaves hleave
  | run | send words => exact ensures_any_bind fun result past ↦ leavesOutput_goOn h _

end Debugger
end ShellDebugger
