import ShellDebugger.Proofs.Source.Lines
import ShellDebugger.Proofs.Source.TextLines
import ShellDebugger.Proofs.Text.Utf8RoundTrip

/-!
# Lines that were written

Lines are written one after another, each with a terminator behind it. Reading takes away CR LF
whole, so that what was written with it is read as it was; with a bare LF a line that ends in CR
loses that. The last LF of a file may be left out behind any line but an empty one, which without it
is no line.
-/

namespace ShellDebugger.Lines

open Utf8

/-- The content of a file to which lines are written, each followed by a terminator. -/
def written (terminator : Bytes) (lines : List String) : Bytes :=
  lines.flatMap fun line ↦ encode line ++ terminator

/-! ## Cutting what was joined -/

section Cuts

variable {pieces : List (List Char)} {last : List Char}

/-- Pieces that a mark was put behind are cut out again, with what follows the last mark. -/
theorem splitOn_flatMap {mark : Char} (hpieces : ∀ piece ∈ pieces, mark ∉ piece)
    (hlast : mark ∉ last) :
    (pieces.flatMap (· ++ [mark]) ++ last).splitOn mark = pieces ++ [last] := by
  induction pieces with
  | nil => exact List.splitOn_eq_singleton hlast
  | cons piece rest ih =>
    obtain ⟨hpiece, hrest⟩ := List.forall_mem_cons.mp hpieces
    calc ((piece :: rest).flatMap (· ++ [mark]) ++ last).splitOn mark
      _ = (piece ++ mark :: (rest.flatMap (· ++ [mark]) ++ last)).splitOn mark := by simp
      _ = piece :: (rest.flatMap (· ++ [mark]) ++ last).splitOn mark :=
        List.splitOn_append_cons_self_of_not_mem hpiece _
      _ = piece :: rest ++ [last] := by rw [ih hrest, List.cons_append]

theorem withoutEmptyEnd_concat (pieces : List (List Char)) (last : List Char) :
    withoutEmptyEnd (pieces ++ [last]) = if last = [] then pieces else pieces ++ [last] := by
  simp [withoutEmptyEnd]

/-- The lines of pieces with an LF behind each of them and of what follows, which is no line if it
is empty. -/
theorem ofText_flatMap_append (hpieces : ∀ piece ∈ pieces, '\n' ∉ piece) (hlast : '\n' ∉ last) :
    ofText (pieces.flatMap (· ++ ['\n']) ++ last) =
      (if last = [] then pieces else pieces ++ [last]).map withoutReturn := by
  rw [ofText, splitOn_flatMap hpieces hlast, withoutEmptyEnd_concat]

@[simp] theorem withoutReturn_concat (piece : List Char) :
    withoutReturn (piece ++ ['\r']) = piece := by
  simp [withoutReturn]

end Cuts

/-! ## Reading what was written -/

variable {lines : List String} {last : String} {ending : List Char}

/-- Written lines are a text: they are decoded to what was encoded. -/
theorem decodeLossyChars_written_append (mark : List Char) (lines : List String) (last : String) :
    decodeLossyChars (written (encodeChars mark) lines ++ encode last) =
      lines.flatMap (·.toList ++ mark) ++ last.toList := by
  have hwritten : written (encodeChars mark) lines ++ encode last =
      encodeChars (lines.flatMap (·.toList ++ mark) ++ last.toList) := by
    simp [written, encode, encodeChars, List.flatMap_assoc]
  rw [hwritten, decodeLossyChars_encodeChars]

/-- Lines that are written with a terminator that LF ends, and a last one without any. -/
theorem ofContent_written_append (hlines : ∀ line ∈ lines, '\n' ∉ line.toList)
    (hending : '\n' ∉ ending) (hlast : '\n' ∉ last.toList) :
    ofContent (written (encodeChars (ending ++ ['\n'])) lines ++ encode last) =
      ((if last = "" then lines.map (·.toList ++ ending)
        else lines.map (·.toList ++ ending) ++ [last.toList]).map withoutReturn).map
          String.ofList := by
  have hpieces : ∀ piece ∈ lines.map (·.toList ++ ending), '\n' ∉ piece := by
    simpa [hending] using hlines
  have htext : lines.flatMap (·.toList ++ (ending ++ ['\n'])) =
      (lines.map (·.toList ++ ending)).flatMap (· ++ ['\n']) := by
    simp [List.flatMap_map]
  have hempty : last.toList = [] ↔ last = "" := String.toList_eq_nil_iff
  rw [ofContent_eq, decodeLossyChars_written_append, htext, ofText_flatMap_append hpieces hlast]
  simp only [hempty]

def lineWithoutReturn (line : String) : String :=
  String.ofList (withoutReturn line.toList)

theorem ofContent_written_carriage (hlines : ∀ line ∈ lines, '\n' ∉ line.toList) :
    ofContent (written [carriage, feed] lines) = lines := by
  have hmark : encodeChars (['\r'] ++ ['\n']) = [carriage, feed] := by decide
  have h := ofContent_written_append hlines (show '\n' ∉ ['\r'] by decide)
    (show '\n' ∉ "".toList by decide)
  rw [hmark, encode_empty, List.append_nil, if_pos rfl] at h
  simpa [Function.comp_def] using h

theorem ofContent_written_feed_append (hlines : ∀ line ∈ lines, '\n' ∉ line.toList)
    (hlast : '\n' ∉ last.toList) :
    ofContent (written [feed] lines ++ encode last) =
      (if last = "" then lines else lines ++ [last]).map lineWithoutReturn := by
  have hmark : encodeChars ([] ++ ['\n']) = [feed] := by decide
  rw [← hmark, ofContent_written_append hlines List.not_mem_nil hlast]
  split <;> simp [lineWithoutReturn]

theorem ofContent_written_feed (hlines : ∀ line ∈ lines, '\n' ∉ line.toList) :
    ofContent (written [feed] lines) = lines.map lineWithoutReturn := by
  have h := ofContent_written_feed_append hlines (show '\n' ∉ "".toList by decide)
  rwa [if_pos rfl, encode_empty, List.append_nil] at h

/-- Behind a line that is not empty, and behind no line at all, the last LF may be left out. -/
theorem ofContent_dropLast_eq_iff (hlines : ∀ line ∈ lines, '\n' ∉ line.toList) :
    ofContent (written [feed] lines).dropLast = ofContent (written [feed] lines) ↔
      lines.getLast? ≠ some "" := by
  rcases List.eq_nil_or_concat' lines with rfl | ⟨before, last, rfl⟩
  · simp [written]
  · obtain ⟨hbefore, hlast⟩ := List.forall_mem_append.mp hlines
    have hopen : (written [feed] (before ++ [last])).dropLast =
        written [feed] before ++ encode last := by
      simp [written, ← List.append_assoc]
    rw [hopen, ofContent_written_feed hlines,
      ofContent_written_feed_append hbefore (hlast last List.mem_cons_self)]
    by_cases hempty : last = ""
    · simp [hempty]
    · simp [hempty]

/-- Lines that are written with CR LF are read as they were, whatever they are. Written with LF they
are read without a CR at the end of each, and the last LF may be left out if and only if the last
line is not empty or there is none. So what is read of any content at all may be written with CR LF
and read again. -/
theorem readLines_written :
    (∀ lines : List String, (∀ line ∈ lines, '\n' ∉ line.toList) →
      Navigator.readLines (.ok (written [carriage, feed] lines)) = .ok lines ∧
      Navigator.readLines (.ok (written [feed] lines)) = .ok (lines.map lineWithoutReturn) ∧
      (Navigator.readLines (.ok (written [feed] lines).dropLast) =
          Navigator.readLines (.ok (written [feed] lines)) ↔
        lines.getLast? ≠ some "")) ∧
    ∀ content : Bytes, ∃ lines, Navigator.readLines (.ok content) = .ok lines ∧
      Navigator.readLines (.ok (written [carriage, feed] lines)) = .ok lines := by
  have hread (content : Bytes) : Navigator.readLines (.ok content) = .ok (ofContent content) := rfl
  refine ⟨fun lines hlines ↦ ⟨?_, ?_, ?_⟩, fun content ↦ ⟨ofContent content, rfl, ?_⟩⟩
  · rw [hread, ofContent_written_carriage hlines]
  · rw [hread, ofContent_written_feed hlines]
  · rw [hread, hread, Except.ok.injEq, ofContent_dropLast_eq_iff hlines]
  · rw [hread, ofContent_written_carriage fun _ hline ↦ newline_notMem_ofContent hline]

/-- A line that ends in CR, and an empty line at the end. -/
theorem readLines_written_return_empty :
    let lines : List String := ["a\r", "é", ""]
    (∀ line ∈ lines, '\n' ∉ line.toList) ∧
      Navigator.readLines (.ok (written [carriage, feed] lines)) = .ok lines ∧
      Navigator.readLines (.ok (written [feed] lines)) = .ok ["a", "é", ""] ∧
      Navigator.readLines (.ok (written [feed] lines).dropLast) ≠ .ok ["a", "é", ""] := by
  intro lines
  have hlines : ∀ line ∈ lines, '\n' ∉ line.toList := by decide
  obtain ⟨hcarriage, hfeed, hopen⟩ := readLines_written.1 lines hlines
  have hlinefeed : Navigator.readLines (.ok (written [feed] lines)) = .ok ["a", "é", ""] := by
    rw [hfeed]
    decide
  refine ⟨hlines, hcarriage, hlinefeed, fun h ↦ ?_⟩
  exact hopen.mp (h.trans hlinefeed.symm) rfl

end ShellDebugger.Lines
