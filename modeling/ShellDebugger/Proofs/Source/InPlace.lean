import ShellDebugger.Proofs.Source.Paging
import ShellDebugger.Proofs.Stream.Capacity
import ShellDebugger.Source.Operation

/-!
# Operations in place

An operation assigns to the navigator and writes to the writer step by step, and a row is written
piece by piece. All writes of a page come to one write of the page, which is done or not before the
cursor is assigned. So what is left in the end is what a load or a listing gives as a whole.
-/

namespace ShellDebugger.Navigator

/-! ## Pages -/

/-- Rows are written one after another as far as the writer takes them. -/
theorem writeRows_eq_offered (out : Writer) (rows : List Bytes) :
    writeRows out rows =
      (if out.HasRoomFor rows.flatten.length then .ok () else .error .shortWrite,
        out.offered rows.flatten) := by
  induction rows generalizing out with
  | nil => simp [writeRows, out.hasRoomFor_zero]
  | cons row rest ih =>
    simp only [writeRows, out.writeAll_eq, List.flatten_cons, List.length_append,
      out.hasRoomFor_add]
    by_cases hrow : out.HasRoomFor row.length
    · simp only [hrow, if_true, ih, true_and, out.offered_append]
    · simp only [hrow, if_false, false_and, Writer.offered_append_of_full hrow]

/-- The navigator when the page that starts at `start` has been printed, of a source with `total`
lines. -/
def afterPage (nav : Navigator) (total start : Nat) : Navigator :=
  let stop := nav.pageEnd total start
  { nav with cursor := if total ≤ stop then 0 else stop }

theorem printPage_eq (nav : Navigator) (lines : List String) (start : Nat) (out : Writer) :
    nav.printPage lines start out =
      (if out.HasRoomFor (nav.page lines start).flatten.length then
          .ok (nav.afterPage lines.length start)
        else .error (.io .shortWrite),
        out.offered (nav.page lines start).flatten) := by
  unfold printPage
  rw [writeRows_eq_offered]
  by_cases hroom : out.HasRoomFor (nav.page lines start).flatten.length
  · simp only [if_pos hroom]
    rfl
  · simp only [if_neg hroom]

namespace InPlace

variable {nav : Navigator} {files : Files} {out : Writer} {path : Path} {content : Bytes}

/-! ## Writing -/

/-- What a write leaves is what its writer is then, whether or not that takes everything. -/
theorem write_apply (octets : Bytes) (nav : Navigator) (out : Writer) :
    write octets (nav, out) =
      (ofExcept ((out.writeAll octets).1.mapError SourceError.io) : InPlace Unit)
        (nav, (out.writeAll octets).2) := rfl

theorem write_of_room {octets : Bytes} (hroom : out.HasRoomFor octets.length) :
    write octets (nav, out) = .ok () (nav, out.offered octets) := by
  rw [write_apply, out.writeAll_eq, if_pos hroom]
  rfl

theorem write_of_full {octets : Bytes} (hfull : ¬ out.HasRoomFor octets.length) :
    write octets (nav, out) = .error (.io .shortWrite) (nav, out.offered octets) := by
  rw [write_apply, out.writeAll_eq, if_neg hfull]
  rfl

/-- Two writes, the second only after the first has succeeded, come to one. -/
theorem write_append (first rest : Bytes) :
    (do write first; write rest) = write (first ++ rest) := by
  funext ⟨nav, out⟩
  have hroom : out.HasRoomFor (first ++ rest).length ↔
      out.HasRoomFor first.length ∧ (out.offered first).HasRoomFor rest.length := by
    rw [List.length_append, out.hasRoomFor_add]
  change EStateM.bind (write first) (fun _ ↦ write rest) (nav, out) = _
  by_cases hfirst : out.HasRoomFor first.length
  · rw [EStateM.bind, write_of_room hfirst]
    by_cases hrest : (out.offered first).HasRoomFor rest.length
    · simp only [write_of_room hrest, write_of_room (hroom.mpr ⟨hfirst, hrest⟩), out.offered_append]
    · simp only [write_of_full hrest, write_of_full (mt hroom.mp fun h ↦ hrest h.2),
        out.offered_append]
  · rw [EStateM.bind, write_of_full hfirst, write_of_full (mt hroom.mp fun h ↦ hfirst h.1),
      Writer.offered_append_of_full hfirst]

theorem write_nil : write [] = pure () := by
  funext ⟨nav, out⟩
  rw [write_of_room out.hasRoomFor_zero, out.offered_nil]
  rfl

theorem writeRow_eq (width number : Nat) (line : String) :
    writeRow width number line = write (row width number line) := by
  simp only [writeRow, write_append, row, List.append_assoc, List.cons_append, List.nil_append]

theorem forM_write (pieces : List Bytes) : pieces.forM write = write pieces.flatten := by
  induction pieces with
  | nil => exact write_nil.symm
  | cons piece rest ih =>
    calc (piece :: rest).forM write
      _ = (do write piece; rest.forM write) := rfl
      _ = write (piece ++ rest.flatten) := by rw [ih, write_append]
      _ = write (piece :: rest).flatten := by rw [List.flatten_cons]

theorem forM_writeRow (nav : Navigator) (lines : List String) (start : Nat) :
    (((lines.take (nav.pageEnd lines.length start)).drop start).zipIdx.forM fun (line, i) ↦
      writeRow nav.width (start + i + 1) line) = write (nav.page lines start).flatten := by
  rw [← forM_write, page]
  simp only [writeRow_eq]
  exact (List.forM_map ..).symm

/-- Printing a page comes to one write of all of it, after which the cursor moves. -/
theorem print_apply (lines : List String) (start : Nat) (nav : Navigator) (out : Writer) :
    print lines start (nav, out) =
      if out.HasRoomFor (nav.page lines start).flatten.length then
        .ok () (nav.afterPage lines.length start, out.offered (nav.page lines start).flatten)
      else
        .error (.io .shortWrite) (nav, out.offered (nav.page lines start).flatten) := by
  let turn : InPlace Unit := assign ({ · with cursor := (nav.afterPage lines.length start).cursor })
  have hprint : print lines start (nav, out) =
      EStateM.bind (write (nav.page lines start).flatten) (fun _ ↦ turn) (nav, out) := by
    rw [← forM_writeRow]
    rfl
  rw [hprint, EStateM.bind]
  by_cases hroom : out.HasRoomFor (nav.page lines start).flatten.length
  · rw [write_of_room hroom, if_pos hroom]
    rfl
  · rw [write_of_full hroom, if_neg hroom]

theorem load_apply (hcontent : files path = .ok content) (nav : Navigator) (out : Writer) :
    load files path (nav, out) =
      .ok () (⟨some path, Numeral.digitCount (Lines.count content), 0, nav.count⟩, out) := by
  have hcount : countLines (files path) = .ok (Lines.count content) := by rw [hcontent]; rfl
  rw [load, hcount]
  rfl

theorem load_of_error {cause : IoError} (hcause : files path = .error cause) (nav : Navigator)
    (out : Writer) :
    load files path (nav, out) = .error (.io cause) (nav, out) := by
  have hcount : countLines (files path) = .error (.io cause) := by rw [hcause]; rfl
  rw [load, hcount]
  rfl

/-- Reading the source and finding the page change nothing. -/
theorem list_apply (files : Files) (request : Request) (nav : Navigator) (out : Writer) :
    list files request (nav, out) =
      match nav.source (nav.contentIn files) with
      | .error cause => .error cause (nav, out)
      | .ok lines =>
        match nav.start lines request with
        | .error cause => .error cause (nav, out)
        | .ok start => print lines start (nav, out) := by
  change EStateM.bind (ofExcept (nav.source (nav.contentIn files)))
    (fun lines ↦ EStateM.bind (ofExcept (nav.start lines request)) (print lines)) (nav, out) = _
  cases nav.source (nav.contentIn files) with
  | error cause => rfl
  | ok lines =>
    change EStateM.bind (ofExcept (nav.start lines request)) (print lines) (nav, out) = _
    cases hstart : nav.start lines request <;> simp only [hstart] <;> rfl

end InPlace

/-! ## Loads and listings -/

/-- A load in place leaves what a load gives, or the navigator as it was. -/
theorem perform_load_eq (nav : Navigator) (files : Files) (path : Path) (out : Writer) :
    nav.perform files (.load path) out =
      match nav.load path (files path) with
      | .ok moved => ⟨.ok (), moved, out⟩
      | .error cause => ⟨.error cause, nav, out⟩ := by
  simp only [perform, Operation.inPlace, EStateM.run]
  cases hcontent : files path with
  | error cause =>
    rw [InPlace.load_of_error hcontent]
    rfl
  | ok content =>
    rw [InPlace.load_apply hcontent]
    rfl

/-- A listing in place leaves what a listing gives, or the navigator as it was. -/
theorem perform_list_eq (nav : Navigator) (files : Files) (request : Request) (out : Writer) :
    nav.perform files (.list request) out =
      match nav.list (nav.contentIn files) request out with
      | (.ok moved, out) => ⟨.ok (), moved, out⟩
      | (.error cause, out) => ⟨.error cause, nav, out⟩ := by
  simp only [perform, Operation.inPlace, EStateM.run, InPlace.list_apply, list]
  cases nav.source (nav.contentIn files) with
  | error cause => rfl
  | ok lines =>
    cases hstart : nav.start lines request with
    | error cause => simp only [hstart]
    | ok start =>
      simp only [hstart, InPlace.print_apply, printPage_eq]
      by_cases hroom : out.HasRoomFor (nav.page lines start).flatten.length
      · simp only [if_pos hroom]
      · simp only [if_neg hroom]

end ShellDebugger.Navigator
