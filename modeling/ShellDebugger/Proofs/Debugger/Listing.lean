import ShellDebugger.Proofs.Debugger.Reachable
import ShellDebugger.Proofs.Source.Lines
import ShellDebugger.Proofs.Source.Paging

/-!
# What is listed is what is run

A listing and a run read the source on ways of their own: a listing cuts it into pages of numbered
rows, and a run hands its lines to the feeder of the shell. As the driver and the navigator are
pointed at one source, both come to the same lines, as long as the file is left as it is.
-/

namespace ShellDebugger.Debugger

open Plan

variable {past : List Event} {d d' : Debugger} {output output' : Output} {path : Path}
  {content : Bytes}

/-- If the event reads the file at a path, it finds a content. -/
def Finds (path : Path) (content : Bytes) (event : Event) : Prop :=
  match event with
  | ⟨.read path', answer⟩ => path' = path → (answer : Except IoError Bytes) = .ok content
  | _ => True

/-- If the event asks for the exit of a child, there is none, and if it sends the child a line, that
is accepted. -/
def Takes (child : ChildId) (event : Event) : Prop :=
  match event with
  | ⟨.exitOf child', answer⟩ => child' = child → (answer : Option Exit) = none
  | ⟨.send child' _, answer⟩ => child' = child → (answer : Bool) = true
  | _ => True

/-! ## Listings -/

/-- The output when a listing has been written to it. -/
def Output.listing (output : Output) (octets : Bytes) : Output :=
  { output with out := output.out.taking octets }

/-- The debugger after a page of a source that holds a content. -/
def turned (d : Debugger) (content : Bytes) : Debugger :=
  { d with navigator := d.navigator.turned (Lines.ofContent content).length }

theorem Output.listing_listing (output : Output) (first rest : Bytes) :
    (output.listing first).listing rest = output.listing (first ++ rest) := by
  simp only [Output.listing, Writer.taking_taking]

theorem ensures_content {navigator : Navigator} (hpath : navigator.path = some path) :
    Ensures ⟨Finds path content, fun _ ↦ True⟩ (Debugger.content navigator) past fun answer _ ↦
      answer = .ok content := by
  unfold Debugger.content
  rw [hpath]
  exact fun _ hfinds ↦ ⟨trivial, hfinds rfl⟩

/-- Listing the next page of a source writes the rows at the cursor and turns the page. -/
theorem ensures_list_next (hpath : d.navigator.path = some path) (hout : output.out.IsWilling) :
    Ensures ⟨Finds path content, fun _ ↦ True⟩ (d.execute (.list []) output) past fun result _ ↦
      result = (.ok .goOn, d.turned content,
        output.listing (d.navigator.pageRows (Lines.ofContent content)).flatten) := by
  have hwilling := hout.taking (d.navigator.pageRows (Lines.ofContent content)).flatten
  have hlist : Ensures ⟨Finds path content, fun _ ↦ True⟩ (d.list [] output) past fun result _ ↦
      result = (.ok (), d.turned content,
        output.listing (d.navigator.pageRows (Lines.ofContent content)).flatten) := by
    unfold Debugger.list
    refine (ensures_content hpath).bind fun answer past hanswer ↦ ?_
    simp only [hanswer, Navigator.Request.ofArguments, Navigator.list_next_eq hpath content hout,
      hwilling.flush_eq]
    rfl
  unfold execute
  refine hlist.bind ?_
  rintro result past rfl
  rfl

/-- A cycle of listings of a source that holds the content: pages are listed one after another,
whether or not that succeeds, until the cursor is at the first line. -/
inductive ListCycle (path : Path) (content : Bytes) :
    Debugger → Output → Debugger → Output → Prop
  | last {d d' : Debugger} {output output' : Output} {result : Except CommandError Flow}
      {trace : List Event} :
      Runs (d.execute (.list []) output) trace (result, d', output') →
      (∀ event ∈ trace, Finds path content event) → d'.navigator.cursor = 0 →
      ListCycle path content d output d' output'
  | page {d d' d'' : Debugger} {output output' output'' : Output}
      {result : Except CommandError Flow} {trace : List Event} :
      Runs (d.execute (.list []) output) trace (result, d', output') →
      (∀ event ∈ trace, Finds path content event) → d'.navigator.cursor ≠ 0 →
      ListCycle path content d' output' d'' output'' →
      ListCycle path content d output d'' output''

/-- The rows that a debugger lists of a content, from the first to the last. -/
def rows (d : Debugger) (content : Bytes) : List Bytes :=
  Navigator.rows d.navigator.width (Lines.ofContent content)

/-- A cycle writes the rows from the cursor on, and leaves the debugger as it was but for the
cursor. -/
theorem ListCycle.eq_rows (hcycle : ListCycle path content d output d' output')
    (hpath : d.navigator.path = some path) (hcount : 1 ≤ d.navigator.count)
    (hcursor : d.navigator.cursor ≤ (Lines.ofContent content).length)
    (hfits : (Lines.ofContent content).length < Numeral.bound) (hout : output.out.IsWilling) :
    d' = { d with navigator := { d.navigator with cursor := 0 } } ∧
      output' = output.listing ((d.rows content).drop d.navigator.cursor).flatten := by
  induction hcycle with
  | @last d d' output output' result trace hrun hfinds hlast =>
    cases (ensures_list_next hpath hout).of_runs_nil hrun hfinds
    constructor
    · simp only [turned] at hlast ⊢
      rw [← hlast]
      rfl
    · rw [Navigator.pageRows_of_last hcount hcursor hfits hlast]
      rfl
  | @page d d' d'' output output' output'' result trace hrun hfinds hnext _ ih =>
    cases (ensures_list_next hpath hout).of_runs_nil hrun hfinds
    obtain ⟨hd, houtput⟩ := ih hpath hcount (Nat.le_of_lt (Navigator.cursor_turned_lt hnext))
      (hout.taking _)
    refine ⟨hd, ?_⟩
    have hrows := Navigator.pageRows_append hcursor hfits hnext
    calc
      output'' = (output.listing (d.navigator.pageRows (Lines.ofContent content)).flatten).listing
          ((d.rows content).drop (d.turned content).navigator.cursor).flatten := houtput
      _ = output.listing (d.navigator.pageRows (Lines.ofContent content) ++
          (d.rows content).drop (d.turned content).navigator.cursor).flatten := by
        rw [Output.listing_listing, List.flatten_append]
      _ = output.listing ((d.rows content).drop d.navigator.cursor).flatten :=
        congrArg (output.listing ·.flatten) hrows

/-- On a plain system every read finds the content that every file holds. -/
theorem finds_of_mem_trace {α : Type} {plan : Plan α} (system : PlainSystem) :
    ∀ event ∈ system.trace plan, Finds path system.content event := by
  rintro ⟨call, answer⟩ hevent
  cases call with
  | read path' => exact fun _ ↦ PlainSystem.answer_of_mem_trace _ hevent
  | _ => trivial

/-- On a plain system shells do not exit on their own and take every line. -/
theorem takes_of_mem_trace {α : Type} {plan : Plan α} (system : PlainSystem) {child : ChildId} :
    ∀ event ∈ system.trace plan, Takes child event := by
  rintro ⟨call, answer⟩ hevent
  cases call with
  | exitOf child' => exact fun _ ↦ PlainSystem.answer_of_mem_trace _ hevent
  | send child' line => exact fun _ ↦ PlainSystem.answer_of_mem_trace _ hevent
  | _ => trivial

/-- Each page of a cycle that does not end it moves the cursor on, so every cycle comes to its
end. -/
theorem exists_listCycle (hpath : d.navigator.path = some path) (hcount : 1 ≤ d.navigator.count)
    (hcursor : d.navigator.cursor ≤ (Lines.ofContent content).length)
    (hfits : (Lines.ofContent content).length < Numeral.bound) (hout : output.out.IsWilling) :
    ∃ d' output', ListCycle path content d output d' output' := by
  -- The lines after the cursor get fewer with every page that does not end the cycle.
  induction hleft : (Lines.ofContent content).length - d.navigator.cursor using Nat.strongRecOn
    generalizing d output with
  | ind left ih =>
    have hrun := (PlainSystem.mk content (.ok 0)).runs (d.execute (.list []) output)
    have hfinds : ∀ event ∈ (PlainSystem.mk content (.ok 0)).trace (d.execute (.list []) output),
        Finds path content event := finds_of_mem_trace _
    rw [(ensures_list_next hpath hout).of_runs_nil hrun hfinds] at hrun
    by_cases hlast : (d.turned content).navigator.cursor = 0
    · exact ⟨_, _, .last hrun hfinds hlast⟩
    · let rows := (d.navigator.pageRows (Lines.ofContent content)).flatten
      have hpath' : (d.turned content).navigator.path = some path := hpath
      have hout' : (output.listing rows).out.IsWilling := hout.taking rows
      have hlt := Navigator.lt_cursor_turned hcount hcursor hfits hlast
      have hbound := Navigator.cursor_turned_lt hlast
      have hless :
          (Lines.ofContent content).length - (d.turned content).navigator.cursor < left := by
        rw [← hleft]
        exact Nat.sub_lt_sub_left (Nat.lt_trans hlt hbound) hlt
      obtain ⟨d', output', hcycle⟩ :=
        ih _ hless hpath' hcount (Nat.le_of_lt hbound) hout' rfl
      exact ⟨d', output', .page hrun hfinds hlast hcycle⟩

/-! ## Runs -/

/-- The line that an event hands to the feeder of a child, if any, and if it is accepted. -/
def handedBy : Event → Option (ChildId × String)
  | ⟨.send child line, true⟩ => some (child, line)
  | _ => none

/-- The lines that a trace hands to feeders, each with the child that it is for. -/
def handed (trace : List Event) : List (ChildId × String) :=
  trace.filterMap handedBy

theorem handed_append (first rest : List Event) :
    handed (first ++ rest) = handed first ++ handed rest :=
  List.filterMap_append

theorem handed_append_one (past : List Event) (event : Event) :
    handed (past ++ [event]) = handed past ++ (handedBy event).toList := by
  rw [handed, List.filterMap_append]
  cases hevent : handedBy event <;> simp [handed, hevent]

variable {driver : Driver} {session : Session}

/-- The terms on which a run goes well: the source holds a content, and a child takes every line. -/
def serving (path : Path) (content : Bytes) (child : ChildId) : Terms where
  expects event := Finds path content event ∧ Takes child event
  safe _ := True

/-- Of a shell that has not exited there is nothing new to know. -/
theorem ensures_observe_live (hsession : driver.session = some session)
    (hlive : session.child.exit = none) :
    Ensures (serving path content session.child.id) driver.observe past fun driver' past' ↦
      driver' = driver ∧ handed past' = handed past := by
  obtain ⟨pipe, id, executable, streams, exit⟩ := session
  obtain rfl : exit = none := hlive
  unfold Driver.observe
  rw [hsession]
  refine ensures_bind_iff.mpr fun answer hexpected ↦ ⟨trivial, ?_⟩
  obtain rfl : answer = none := hexpected.2 rfl
  refine And.intro ?_ ?_
  · rw [← hsession]
  · rw [handed_append_one]
    exact List.append_nil _

/-- A line that is submitted to a live shell that takes it is handed to its feeder. -/
theorem ensures_enqueue_live (hsession : driver.session = some session)
    (hlive : session.child.exit = none) (line : String) :
    Ensures (serving path content session.child.id) (driver.enqueue line) past fun result past' ↦
      result = (.ok (), driver) ∧ handed past' = handed past ++ [(session.child.id, line)] := by
  unfold Driver.enqueue
  refine (ensures_observe_live hsession hlive).bind fun driver' past' ⟨hdriver, hpast⟩ ↦ ?_
  subst hdriver
  have hrecipient : driver'.recipient = .ok session.child.id := by
    simp only [Driver.recipient, hsession, hlive]
  rw [hrecipient]
  refine ensures_bind_iff.mpr fun accepted hexpected ↦ ⟨trivial, ?_⟩
  obtain rfl : accepted = true := hexpected.2 rfl
  refine And.intro rfl ?_
  rw [handed_append_one, hpast]
  rfl

theorem ensures_submitLines (hsession : driver.session = some session)
    (hlive : session.child.exit = none) (lines : List String) :
    Ensures (serving path content session.child.id) (submitLines driver lines) past
      fun result past' ↦ result = (.ok (), driver) ∧
        handed past' = handed past ++
          lines.map fun line ↦ (session.child.id, Driver.terminated line) := by
  induction lines generalizing past with
  | nil => exact And.intro rfl (List.append_nil _).symm
  | cons line rest ih =>
    refine (ensures_enqueue_live hsession hlive _).bind fun result past' ⟨hresult, hpast⟩ ↦ ?_
    subst hresult
    refine ih.mono fun result past'' ⟨hresult, hrest⟩ ↦ ⟨hresult, ?_⟩
    rw [hrest, hpast, List.append_assoc]
    rfl

/-- A run hands all lines of the source to the feeder, in order, and leaves the debugger. -/
theorem ensures_run (hsource : d.driver.source = some path)
    (hsession : d.driver.session = some session) (hlive : session.child.exit = none) :
    Ensures (serving path content session.child.id) (d.execute .run output) past
      fun result past' ↦ result = (.ok .goOn, d, output) ∧
        handed past' = handed past ++
          (Lines.ofContent content).map fun line ↦ (session.child.id, line ++ "\n") := by
  have hlines : (Lines.ofContent content).map
      (fun line ↦ (session.child.id, Driver.terminated line)) =
        (Lines.ofContent content).map fun line ↦ (session.child.id, line ++ "\n") := by
    apply List.map_congr_left
    intro line hline
    rw [Driver.terminated_eq (Lines.newline_notMem_ofContent hline)]
  have hrun : Ensures (serving path content session.child.id) d.runSource past
      fun result past' ↦ result = (.ok (), d) ∧
        handed past' = handed past ++
          (Lines.ofContent content).map fun line ↦ (session.child.id, line ++ "\n") := by
    unfold runSource
    rw [hsource]
    refine ensures_bind_iff.mpr fun answer hexpected ↦ ⟨trivial, ?_⟩
    obtain rfl : answer = .ok content := hexpected.1 rfl
    refine (ensures_submitLines hsession hlive _).bind fun result past' ⟨hresult, hpast⟩ ↦ ?_
    subst hresult
    refine And.intro rfl ?_
    rw [hpast, handed_append_one, hlines]
    exact congrArg (· ++ _) (List.append_nil _)
  unfold execute
  refine hrun.bind fun result past' ⟨hresult, hpast⟩ ↦ ?_
  subst hresult
  exact And.intro rfl hpast

/-- In every reachable debugger the driver and the navigator are pointed at the same source. While
its file holds one content, of no more lines than 64 bits can count, a cycle of listings from the
first line on comes to its end, writes the rows of the lines in order and leaves the debugger as it
was; and a run hands the same lines in the same order to the live shell, each with the line feed
that it lacks. -/
theorem Reachable.lists_what_it_runs (h : d.Reachable) :
    d.driver.source = d.navigator.path ∧
      ∀ (path : Path) (content : Bytes) (session : Session) (output : Output),
        d.driver.source = some path → d.driver.session = some session →
        session.child.exit = none → 1 ≤ d.navigator.count → d.navigator.cursor = 0 →
        (Lines.ofContent content).length < Numeral.bound → output.out.IsWilling →
        (∃ d' output', ListCycle path content d output d' output') ∧
        (∀ d' output', ListCycle path content d output d' output' →
          d' = d ∧ output' = output.listing
            (Navigator.rows d.navigator.width (Lines.ofContent content)).flatten) ∧
        (∀ result d' output' trace, Runs (d.execute .run output) trace (result, d', output') →
          (∀ event ∈ trace, Finds path content event ∧ Takes session.child.id event) →
          result = .ok .goOn ∧ d' = d ∧ handed trace =
            (Lines.ofContent content).map fun line ↦ (session.child.id, line ++ "\n")) ∧
        ∀ line ∈ Lines.ofContent content, '\n' ∉ line.toList := by
  refine ⟨h.agrees, fun path content session output hsource hsession hlive hcount hcursor hfits
    hout ↦ ?_⟩
  have hpath : d.navigator.path = some path := by rw [← h.agrees, hsource]
  have hbound : d.navigator.cursor ≤ (Lines.ofContent content).length := by
    rw [hcursor]
    exact Nat.zero_le _
  refine ⟨exists_listCycle hpath hcount hbound hfits hout, ?_, ?_, ?_⟩
  · intro d' output' hcycle
    obtain ⟨hd, houtput⟩ := hcycle.eq_rows hpath hcount hbound hfits hout
    constructor
    · rw [hd, ← hcursor]
    · rw [houtput, hcursor]
      rfl
  · intro result d' output' trace hrun hexpects
    obtain ⟨hresult, hhanded⟩ :=
      (ensures_run hsource hsession hlive).of_runs_nil hrun hexpects
    cases hresult
    exact ⟨rfl, rfl, hhanded⟩
  · intro line hline
    exact Lines.newline_notMem_ofContent hline

/-- A source of two lines, which are listed with their numbers and run without. -/
theorem lists_what_it_runs_two_lines :
    let d := startedOn ⟨[0x63]⟩
    let content : Bytes := [0x61, 0x0A, 0x62]
    let output : Output := ⟨.unlimited, .unlimited⟩
    (∃ d' output', ListCycle ⟨[0x63]⟩ content d output d' output' ∧
      output'.out.taken = [0x31, 0x20, 0x61, 0x0A, 0x32, 0x20, 0x62, 0x0A]) ∧
    handed ((PlainSystem.mk content (.ok 0)).trace (d.execute .run output)) =
      [(0, "a\n"), (0, "b\n")] := by
  intro d content output
  have hwilling : output.out.IsWilling := ⟨nofun, rfl, rfl⟩
  obtain ⟨⟨d', output', hcycle⟩, hrows, hhanded, -⟩ :=
    (reachable_startedOn ⟨[0x63]⟩).lists_what_it_runs.2 ⟨[0x63]⟩ content _ output rfl rfl rfl
      (by decide) rfl (by decide) hwilling
  constructor
  · refine ⟨d', output', hcycle, ?_⟩
    rw [(hrows d' output' hcycle).2]
    decide
  · have hrun := (PlainSystem.mk content (.ok 0)).runs (d.execute .run output)
    have hexpects : ∀ event ∈ (PlainSystem.mk content (.ok 0)).trace (d.execute .run output),
        Finds ⟨[0x63]⟩ content event ∧ Takes 0 event := by
      intro event hevent
      exact ⟨finds_of_mem_trace _ event hevent, takes_of_mem_trace _ event hevent⟩
    rw [(hhanded _ _ _ _ hrun hexpects).2.2]
    decide

end ShellDebugger.Debugger
