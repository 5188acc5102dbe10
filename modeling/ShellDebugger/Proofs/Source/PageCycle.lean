import Mathlib.Algebra.Order.Floor.Div
import ShellDebugger.Proofs.Source.Paging

/-!
# A cycle of pages

Listing the next page again and again. From the cursor on, the pages are stretches of the rows of
equal length, and only the last one may be shorter; together they are the rows that are left, each
once and in order. The number of pages is the number of rows that are left by the length of a page,
rounded up, except that there is a page even if no row is left. Only the last page puts the cursor
back to the first line.
-/

namespace ShellDebugger.Navigator

/-- Lists the next page a number of times, as long as that succeeds. -/
def listNext (content : Except IoError Bytes) :
    Nat → Navigator → Writer → Except SourceError Navigator × Writer
  | 0, nav, out => (.ok nav, out)
  | pages + 1, nav, out =>
    match listNext content pages nav out with
    | (.ok nav, out) => nav.list content .next out
    | (.error cause, out) => (.error cause, out)

/-- The number of pages from the cursor to the end of a source of `total` lines. -/
def pagesLeft (nav : Navigator) (total : Nat) : Nat :=
  max 1 ((total - nav.cursor) ⌈/⌉ nav.count)

/-- The cursor is at the first line or at another line of a source of `total` lines. -/
def IsWithin (nav : Navigator) (total : Nat) : Prop :=
  nav.cursor = 0 ∨ nav.cursor < total

variable {nav nav' : Navigator} {total start : Nat} {lines : List String} {content : Bytes}
  {out out' : Writer}

/-! ## One page -/

/-- In a source whose lines 64 bits can count, the end of a page saturates only at the end of the
source. -/
theorem pageEnd_eq_min (hfits : total < Numeral.bound) :
    nav.pageEnd total start = min (start + nav.count) total := by
  unfold pageEnd
  omega

/-- A page that ends before the source leaves the cursor at its end. -/
theorem turned_of_lt (hfits : total < Numeral.bound) (hlt : nav.cursor + nav.count < total) :
    nav.turned total = { nav with cursor := nav.cursor + nav.count } := by
  simp only [turned, pageEnd_eq_min hfits]
  rw [Nat.min_eq_left (Nat.le_of_lt hlt), if_neg (Nat.not_le.mpr hlt)]

/-- A page that comes to the end of the source puts the cursor back. -/
theorem turned_of_le (hfits : total < Numeral.bound) (hle : total ≤ nav.cursor + nav.count) :
    nav.turned total = { nav with cursor := 0 } := by
  simp only [turned, pageEnd_eq_min hfits]
  rw [if_pos (Nat.le_min.mpr ⟨hle, Nat.le_refl total⟩)]

/-- A page shows as many of the rows from the cursor on as a page has, or all of them. -/
theorem pageRows_eq_take (hfits : lines.length < Numeral.bound) :
    nav.pageRows lines = ((rows nav.width lines).drop nav.cursor).take nav.count := by
  have htake : (rows nav.width lines).take (min (nav.cursor + nav.count) lines.length) =
      (rows nav.width lines).take (nav.cursor + nav.count) := by
    rw [List.take_eq_take_iff, length_rows]
    omega
  rw [pageRows, pageEnd_eq_min hfits, htake, List.drop_take, Nat.add_sub_cancel_left]

/-! ## What loads and listings leave -/

theorem isWithin_of_load {path : Path} (h : nav.load path (.ok content) = .ok nav') :
    nav'.path = some path ∧ nav'.IsWithin total := by
  cases h
  exact ⟨rfl, .inl rfl⟩

theorem isWithin_of_printPage
    (h : nav.printPage lines start out = (.ok nav', out')) :
    nav'.path = nav.path ∧ nav'.IsWithin lines.length := by
  unfold printPage at h
  split at h
  · cases h
  · cases h
    refine ⟨rfl, ?_⟩
    unfold IsWithin
    split
    · exact .inl rfl
    · next hshort => exact .inr (Nat.lt_of_not_le hshort)

/-- A listing that succeeds, whatever it asks for, leaves the cursor within the source. -/
theorem isWithin_of_list {request : Request}
    (h : nav.list (.ok content) request out = (.ok nav', out')) :
    nav'.path = nav.path ∧ nav'.IsWithin (Lines.ofContent content).length := by
  unfold list at h
  split at h
  · cases h
  · next lines hlines =>
    have hcontent : lines = Lines.ofContent content := by
      unfold source at hlines
      split at hlines
      · cases hlines
        rfl
      · cases hlines
    subst hcontent
    split at h
    · cases h
    · exact isWithin_of_printPage h

/-! ## Several pages -/

/-- The navigator a number of full pages further on. -/
def advanced (nav : Navigator) (pages : Nat) : Navigator :=
  { nav with cursor := nav.cursor + pages * nav.count }

/-- The rows of a number of pages from the cursor on. -/
def rowsAhead (nav : Navigator) (lines : List String) (pages : Nat) : List Bytes :=
  ((rows nav.width lines).drop nav.cursor).take (pages * nav.count)

theorem rowsAhead_zero (nav : Navigator) (lines : List String) : nav.rowsAhead lines 0 = [] := by
  rw [rowsAhead, Nat.zero_mul, List.take_zero]

/-- The next page continues the rows of the pages before it. -/
theorem rowsAhead_append (hfits : lines.length < Numeral.bound) (pages : Nat) :
    nav.rowsAhead lines pages ++ (nav.advanced pages).pageRows lines =
      nav.rowsAhead lines (pages + 1) := by
  rw [pageRows_eq_take hfits]
  simp only [rowsAhead, advanced]
  rw [Nat.succ_mul, List.take_add, List.drop_drop]

/-- One more page, if so far all pages were full. -/
theorem listNext_succ (hpath : nav.path.isSome)
    (hfits : (Lines.ofContent content).length < Numeral.bound) (hout : out.IsWilling) {pages : Nat}
    (hbefore : listNext (.ok content) pages nav out =
      (.ok (nav.advanced pages),
        out.taking (nav.rowsAhead (Lines.ofContent content) pages).flatten)) :
    listNext (.ok content) (pages + 1) nav out =
      (.ok ((nav.advanced pages).turned (Lines.ofContent content).length),
        out.taking (nav.rowsAhead (Lines.ofContent content) (pages + 1)).flatten) := by
  obtain ⟨path, hpath⟩ := Option.isSome_iff_exists.mp hpath
  have hadvanced : (nav.advanced pages).path = some path := hpath
  simp only [listNext, hbefore]
  rw [list_next_eq hadvanced content (hout.taking _), Writer.taking_taking, ← List.flatten_append,
    rowsAhead_append hfits]

/-- Pages that do not come to the end of the source are full. -/
theorem listNext_of_lt (hpath : nav.path.isSome)
    (hfits : (Lines.ofContent content).length < Numeral.bound) (hout : out.IsWilling) {pages : Nat}
    (hpages : pages = 0 ∨ nav.cursor + pages * nav.count < (Lines.ofContent content).length) :
    listNext (.ok content) pages nav out =
      (.ok (nav.advanced pages),
        out.taking (nav.rowsAhead (Lines.ofContent content) pages).flatten) := by
  induction pages with
  | zero => simp [listNext, advanced, rowsAhead_zero, Writer.taking_nil]
  | succ pages ih =>
    have hlt : nav.cursor + (pages + 1) * nav.count < (Lines.ofContent content).length :=
      hpages.resolve_left (Nat.succ_ne_zero pages)
    rw [Nat.succ_mul, ← Nat.add_assoc] at hlt
    have hbefore : nav.cursor + pages * nav.count < (Lines.ofContent content).length :=
      Nat.lt_of_le_of_lt (Nat.le_add_right ..) hlt
    have hturned : (nav.advanced pages).turned (Lines.ofContent content).length =
        nav.advanced (pages + 1) := by
      rw [turned_of_lt hfits hlt]
      simp only [advanced]
      rw [Nat.succ_mul, Nat.add_assoc]
    rw [listNext_succ hpath hfits hout (ih (.inr hbefore)), hturned]

/-- Fewer pages than there are do not come to the end of the source. -/
theorem lt_of_lt_pagesLeft (hcount : 1 ≤ nav.count) {pages : Nat}
    (hpages : pages < nav.pagesLeft total) :
    pages = 0 ∨ nav.cursor + pages * nav.count < total := by
  rcases Nat.eq_zero_or_pos pages with hzero | hpos
  · exact .inl hzero
  · right
    have hceil : pages < (total - nav.cursor) ⌈/⌉ nav.count :=
      (lt_max_iff.mp hpages).resolve_left (Nat.not_lt.mpr hpos)
    have hleft : nav.count * pages < total - nav.cursor := by
      rw [← Nat.not_le, ceilDiv_le_iff_le_mul hcount, Nat.not_le] at hceil
      exact hceil
    rw [Nat.mul_comm] at hleft
    omega

/-- As many pages as there are come to the end of the source. -/
theorem le_pagesLeft_mul (hcount : 1 ≤ nav.count) :
    total - nav.cursor ≤ nav.pagesLeft total * nav.count := by
  rw [Nat.mul_comm, ← ceilDiv_le_iff_le_mul hcount]
  exact Nat.le_max_right ..

/-- The last page shows what is left, and the cursor is at the first line again. -/
theorem listNext_pagesLeft (hpath : nav.path.isSome) (hcount : 1 ≤ nav.count)
    (hfits : (Lines.ofContent content).length < Numeral.bound) (hout : out.IsWilling) :
    listNext (.ok content) (nav.pagesLeft (Lines.ofContent content).length) nav out =
      (.ok { nav with cursor := 0 },
        out.taking ((rows nav.width (Lines.ofContent content)).drop nav.cursor).flatten) := by
  have hpos : 0 < nav.pagesLeft (Lines.ofContent content).length :=
    Nat.lt_of_lt_of_le Nat.zero_lt_one (Nat.le_max_left ..)
  obtain ⟨pages, hpages⟩ := Nat.exists_eq_add_one.mpr hpos
  have hend : (Lines.ofContent content).length - nav.cursor ≤ (pages + 1) * nav.count := by
    rw [← hpages]
    exact le_pagesLeft_mul hcount
  have hlt : pages < nav.pagesLeft (Lines.ofContent content).length := by
    rw [hpages]
    exact Nat.lt_succ_self pages
  have hbefore := listNext_of_lt hpath hfits hout (lt_of_lt_pagesLeft hcount hlt)
  have hle : (Lines.ofContent content).length ≤
      (nav.advanced pages).cursor + (nav.advanced pages).count := by
    rw [Nat.succ_mul] at hend
    simp only [advanced]
    omega
  have hturned : (nav.advanced pages).turned (Lines.ofContent content).length =
      { nav with cursor := 0 } := by
    rw [turned_of_le hfits hle]
    rfl
  have hrows : nav.rowsAhead (Lines.ofContent content) (pages + 1) =
      (rows nav.width (Lines.ofContent content)).drop nav.cursor := by
    rw [rowsAhead, List.take_of_length_le]
    rwa [List.length_drop, length_rows]
  rw [hpages, listNext_succ hpath hfits hout hbefore, hturned, hrows]

/-- What a load or a successful listing leaves is a cursor within the source. From there on, as long
as the file holds the same content, listing the next page again and again writes the rows that are
left, each once and in order, a full page at a time. It takes as many pages as there are rows left
by the length of a page, rounded up, and one if none is left. The cursor is at the first line after
the last of these pages and after no other one, and the page after them shows the first rows. -/
theorem listNext_partitions_rows (path : Path) (content : Bytes)
    (hfits : (Lines.ofContent content).length < Numeral.bound) :
    let lines := Lines.ofContent content
    (∀ nav nav' : Navigator, nav.load path (.ok content) = .ok nav' →
      nav'.path = some path ∧ nav'.IsWithin lines.length) ∧
    (∀ (nav nav' : Navigator) (request : Request) (out out' : Writer),
      nav.list (.ok content) request out = (.ok nav', out') →
        nav'.path = nav.path ∧ nav'.IsWithin lines.length) ∧
    ∀ (nav : Navigator) (out : Writer), nav.path = some path → nav.IsWithin lines.length →
      1 ≤ nav.count → out.IsWilling →
      let all := rows nav.width lines
      let left := all.drop nav.cursor
      let last := nav.pagesLeft lines.length
      (∀ pages < last, listNext (.ok content) pages nav out =
        (.ok { nav with cursor := nav.cursor + pages * nav.count },
          out.taking (left.take (pages * nav.count)).flatten)) ∧
      (∀ pages < last, 0 < pages → nav.cursor + pages * nav.count ≠ 0) ∧
      listNext (.ok content) last nav out =
        (.ok { nav with cursor := 0 }, out.taking left.flatten) ∧
      (listNext (.ok content) (last + 1) nav out).2 =
        out.taking (left ++ all.take nav.count).flatten := by
  intro lines
  refine ⟨fun _ _ hload ↦ isWithin_of_load hload, fun _ _ _ _ _ hlist ↦ isWithin_of_list hlist, ?_⟩
  intro nav out hpath _ hcount hout all left last
  have hsome : nav.path.isSome := Option.isSome_of_eq_some hpath
  have hlast := listNext_pagesLeft hsome hcount hfits hout
  refine ⟨fun pages hpages ↦ ?_, fun pages _ hpos ↦ ?_, hlast, ?_⟩
  · exact listNext_of_lt hsome hfits hout (lt_of_lt_pagesLeft hcount hpages)
  · have hmul : 0 < pages * nav.count := Nat.mul_pos hpos hcount
    omega
  · have hback : ({ nav with cursor := 0 } : Navigator).path = some path := hpath
    rw [listNext, hlast]
    simp only [list_next_eq hback content (hout.taking _), Writer.taking_taking,
      ← List.flatten_append, pageRows_eq_take hfits, List.drop_zero]
    rfl

/-- Three lines in pages of two: the second page shows the one line that is left. -/
theorem listNext_partitions_rows_three_lines :
    let nav : Navigator := ⟨some ⟨[0x61]⟩, 1, 0, 2⟩
    let content : Bytes := [0x78, 0x0A, 0x79, 0x0A, 0x7A]
    let first : Bytes := [0x31, 0x20, 0x78, 0x0A, 0x32, 0x20, 0x79, 0x0A]
    let second : Bytes := [0x33, 0x20, 0x7A, 0x0A]
    nav.IsWithin (Lines.ofContent content).length ∧
      nav.pagesLeft (Lines.ofContent content).length = 2 ∧
      listNext (.ok content) 1 nav .unlimited =
        (.ok { nav with cursor := 2 }, Writer.unlimited.taking first) ∧
      listNext (.ok content) 2 nav .unlimited =
        (.ok nav, Writer.unlimited.taking (first ++ second)) := by
  intro nav content first second
  have hwithin : nav.IsWithin (Lines.ofContent content).length := .inl rfl
  have hwilling : Writer.unlimited.IsWilling := ⟨nofun, rfl, rfl⟩
  obtain ⟨hpages, -, hlast, -⟩ := (listNext_partitions_rows ⟨[0x61]⟩ content (by decide)).2.2 nav
    .unlimited rfl hwithin (by decide) hwilling
  have hcount : nav.pagesLeft (Lines.ofContent content).length = 2 := by decide
  refine ⟨hwithin, hcount, ?_, ?_⟩
  · rw [hpages 1 (by rw [hcount]; decide)]
    decide
  · rw [hcount] at hlast
    rw [hlast]
    decide

end ShellDebugger.Navigator
