import ShellDebugger.Proofs.Stream.Writer
import ShellDebugger.Source.Navigator

/-!
# Pages of a listing

A page is a stretch of the rows of a source, from the cursor to the end of the page, and the next
page starts where it ends. So pages that follow one another show the rows one after another, and the
page that reaches the last row puts the cursor back to the first.
-/

namespace ShellDebugger.Navigator

def rows (width : Nat) (lines : List String) : List Bytes :=
  lines.zipIdx.map fun (line, i) ↦ row width (i + 1) line

@[simp] theorem length_rows (width : Nat) (lines : List String) :
    (rows width lines).length = lines.length := by
  rw [rows, List.length_map, List.length_zipIdx]

/-- A page is a stretch of the rows. -/
theorem page_eq (nav : Navigator) (lines : List String) (start : Nat) :
    nav.page lines start =
      ((rows nav.width lines).take (nav.pageEnd lines.length start)).drop start := by
  apply List.ext_getElem
  · simp [page]
  · intro i hleft hright
    simp [page, rows]

variable {nav : Navigator} {total start : Nat}

theorem pageEnd_le (nav : Navigator) (total start : Nat) : nav.pageEnd total start ≤ total :=
  Nat.min_le_right _ _

theorem le_pageEnd (hstart : start ≤ total) (hfits : total < Numeral.bound) :
    start ≤ nav.pageEnd total start := by
  unfold pageEnd
  omega

theorem lt_pageEnd (hcount : 1 ≤ nav.count) (hstart : start < total)
    (hfits : total < Numeral.bound) : start < nav.pageEnd total start := by
  unfold pageEnd
  omega

/-- What a willing writer has taken after rows. -/
theorem writeRows_eq {out : Writer} (h : out.IsWilling) (rows : List Bytes) :
    writeRows out rows = (.ok (), out.taking rows.flatten) := by
  induction rows generalizing out with
  | nil => rw [List.flatten_nil, Writer.taking_nil, writeRows]
  | cons row rest ih =>
    simp only [writeRows, h.writeAll_eq, ih (h.taking row), Writer.taking_taking,
      List.flatten_cons]

def pageRows (nav : Navigator) (lines : List String) : List Bytes :=
  ((rows nav.width lines).take (nav.pageEnd lines.length nav.cursor)).drop nav.cursor

/-- The navigator after the page at the cursor, of a source with `total` lines. -/
def turned (nav : Navigator) (total : Nat) : Navigator :=
  let stop := nav.pageEnd total nav.cursor
  { nav with cursor := if total ≤ stop then 0 else stop }

/-- Listing the next page shows the rows at the cursor and turns the page. -/
theorem list_next_eq {path : Path} (hpath : nav.path = some path) (content : Bytes) {out : Writer}
    (h : out.IsWilling) :
    nav.list (.ok content) .next out =
      (.ok (nav.turned (Lines.ofContent content).length),
        out.taking (nav.pageRows (Lines.ofContent content)).flatten) := by
  have hlines : readLines (.ok content) = .ok (Lines.ofContent content) := rfl
  simp only [list, source, hpath, hlines, Navigator.start, printPage, writeRows_eq h, page_eq,
    turned, pageRows]

/-- A page that is not the last leaves the cursor at its end. -/
theorem cursor_turned_eq (hnext : (nav.turned total).cursor ≠ 0) :
    (nav.turned total).cursor = nav.pageEnd total nav.cursor ∧
      nav.pageEnd total nav.cursor < total := by
  simp only [turned] at hnext ⊢
  split at hnext
  · exact absurd rfl hnext
  · next hshort => exact ⟨if_neg hshort, Nat.lt_of_not_le hshort⟩

theorem cursor_turned_lt (hnext : (nav.turned total).cursor ≠ 0) :
    (nav.turned total).cursor < total := by
  obtain ⟨hcursor, hlt⟩ := cursor_turned_eq hnext
  rwa [hcursor]

/-- A page that is not the last moves the cursor on. -/
theorem lt_cursor_turned (hcount : 1 ≤ nav.count) (hcursor : nav.cursor ≤ total)
    (hfits : total < Numeral.bound) (hnext : (nav.turned total).cursor ≠ 0) :
    nav.cursor < (nav.turned total).cursor := by
  obtain ⟨hturned, hlt⟩ := cursor_turned_eq hnext
  have hle : nav.cursor ≤ nav.pageEnd total nav.cursor := le_pageEnd hcursor hfits
  rw [hturned]
  exact lt_pageEnd hcount (Nat.lt_of_le_of_lt hle hlt) hfits

/-- Only a page that ends with the last row puts the cursor back. -/
theorem pageEnd_of_last (hcount : 1 ≤ nav.count) (hcursor : nav.cursor ≤ total)
    (hfits : total < Numeral.bound) (hlast : (nav.turned total).cursor = 0) :
    nav.pageEnd total nav.cursor = total := by
  rcases Nat.lt_or_ge (nav.pageEnd total nav.cursor) total with hshort | hfull
  · have hle : nav.cursor ≤ nav.pageEnd total nav.cursor := le_pageEnd hcursor hfits
    have hlt : nav.cursor < nav.pageEnd total nav.cursor :=
      lt_pageEnd hcount (Nat.lt_of_le_of_lt hle hshort) hfits
    simp only [turned, if_neg (Nat.not_le.mpr hshort)] at hlast
    omega
  · exact Nat.le_antisymm (nav.pageEnd_le total nav.cursor) hfull

variable {lines : List String}

/-- The last page shows the rows from the cursor on. -/
theorem pageRows_of_last (hcount : 1 ≤ nav.count) (hcursor : nav.cursor ≤ lines.length)
    (hfits : lines.length < Numeral.bound) (hlast : (nav.turned lines.length).cursor = 0) :
    nav.pageRows lines = (rows nav.width lines).drop nav.cursor := by
  rw [pageRows, pageEnd_of_last hcount hcursor hfits hlast]
  rw [List.take_of_length_le (Nat.le_of_eq (length_rows _ _))]

/-- Any other page shows the rows from the cursor up to the next page. -/
theorem pageRows_append (hcursor : nav.cursor ≤ lines.length) (hfits : lines.length < Numeral.bound)
    (hnext : (nav.turned lines.length).cursor ≠ 0) :
    nav.pageRows lines ++ (rows nav.width lines).drop (nav.turned lines.length).cursor =
      (rows nav.width lines).drop nav.cursor := by
  obtain ⟨hturned, hlt⟩ := cursor_turned_eq hnext
  have hle : nav.cursor ≤ nav.pageEnd lines.length nav.cursor := le_pageEnd hcursor hfits
  have hstart : nav.cursor ≤
      ((rows nav.width lines).take (nav.pageEnd lines.length nav.cursor)).length := by
    rw [List.length_take, length_rows]
    omega
  rw [pageRows, hturned, ← List.drop_append_of_le_length hstart, List.take_append_drop]

end ShellDebugger.Navigator
