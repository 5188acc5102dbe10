import ShellDebugger.Proofs.Text.AsciiCuts
import ShellDebugger.Source.Navigator

/-!
# Lines of a text

The lines of a file are cut out of its octets and decoded one by one. They are the lines of the
whole content once it is decoded: LF and CR are ASCII, so whatever cannot be decoded neither takes
in a terminator nor makes one, and the text may be cut before it is decoded or after it.
-/

namespace ShellDebugger.Lines

open Utf8

/-! ## Lines of characters -/

/-- Pieces without the last one if that is empty. -/
def withoutEmptyEnd {α : Type} [DecidableEq α] (pieces : List (List α)) : List (List α) :=
  if pieces.getLast? = some [] then pieces.dropLast else pieces

def withoutReturn (piece : List Char) : List Char :=
  if piece.getLast? = some '\r' then piece.dropLast else piece

/-- The lines of a text: what stands between the LFs, except an empty piece after the last one,
each less one CR at its end. -/
def ofText (text : List Char) : List (List Char) :=
  (withoutEmptyEnd (text.splitOn '\n')).map withoutReturn

/-! ## Pieces -/

theorem withoutEmptyEnd_cons {α : Type} [DecidableEq α] (piece : List α) {rest : List (List α)}
    (hrest : rest ≠ []) : withoutEmptyEnd (piece :: rest) = piece :: withoutEmptyEnd rest := by
  unfold withoutEmptyEnd
  rw [List.getLast?_cons_of_ne_nil hrest]
  split
  · exact List.dropLast_cons_of_ne_nil hrest
  · rfl

/-- Reading a content octet by octet cuts it at each LF. -/
theorem piecesAfter_eq (done : List Bytes) (current content : Bytes) :
    piecesAfter done current content =
      done.reverse ++
        withoutEmptyEnd ((content.splitOn feed).modifyHead (current.reverse ++ ·)) := by
  induction content generalizing done current with
  | nil =>
    rw [piecesAfter, List.splitOn_nil, List.modifyHead_cons, List.append_nil, withoutEmptyEnd]
    cases current with
    | nil => simp
    | cons octet current => simp
  | cons octet rest ih =>
    have hpieces : rest.splitOn feed ≠ [] := List.splitOn_ne_nil feed rest
    rw [piecesAfter, List.splitOn_cons_eq_if_modifyHead]
    by_cases hfeed : octet = feed
    · have hnone : (rest.splitOn feed).modifyHead ([].reverse ++ ·) = rest.splitOn feed :=
        congrFun List.modifyHead_id _
      rw [if_pos hfeed, if_pos (beq_iff_eq.mpr hfeed), ih, hnone, List.modifyHead_cons,
        withoutEmptyEnd_cons _ hpieces, List.append_nil, List.reverse_cons, List.append_assoc]
      rfl
    · rw [if_neg hfeed, if_neg (mt beq_iff_eq.mp hfeed), ih, List.modifyHead_modifyHead]
      congr 3
      funext piece
      rw [List.reverse_cons, List.append_assoc]
      rfl

theorem pieces_eq (content : Bytes) : pieces content = withoutEmptyEnd (content.splitOn feed) := by
  calc pieces content
    _ = withoutEmptyEnd ((content.splitOn feed).modifyHead ([] ++ ·)) :=
      piecesAfter_eq [] [] content
    _ = withoutEmptyEnd (content.splitOn feed) := congrArg _ (congrFun List.modifyHead_id _)

/-! ## Decoding -/

theorem isPlainAscii_feed : IsPlainAscii feed := ⟨by decide, by decide⟩

theorem isPlainAscii_carriage : IsPlainAscii carriage := ⟨by decide, by decide⟩

/-- A piece is empty after decoding only if it was before. -/
theorem map_withoutEmptyEnd (pieces : List Bytes) :
    (withoutEmptyEnd pieces).map decodeLossyChars =
      withoutEmptyEnd (pieces.map decodeLossyChars) := by
  unfold withoutEmptyEnd
  have hempty : (pieces.map decodeLossyChars).getLast? = some [] ↔ pieces.getLast? = some [] := by
    rw [List.getLast?_map, Option.map_eq_some_iff]
    constructor
    · rintro ⟨piece, hlast, hnil⟩
      rw [hlast, decodeLossyChars_eq_nil_iff.mp hnil]
    · exact fun hlast ↦ ⟨[], hlast, rfl⟩
  by_cases hlast : pieces.getLast? = some []
  · rw [if_pos hlast, if_pos (hempty.mpr hlast), List.map_dropLast]
  · rw [if_neg hlast, if_neg (mt hempty.mp hlast)]

/-- The CR at the end of a piece may be taken before decoding or after it. -/
theorem decodeLossyChars_withoutCarriage (piece : Bytes) :
    decodeLossyChars (withoutCarriage piece) = withoutReturn (decodeLossyChars piece) := by
  have hcarriage : (decodeLossyChars piece).getLast? = some '\r' ↔
      piece.getLast? = some carriage := isPlainAscii_carriage.getLast?_decodeLossyChars_eq_iff
  unfold withoutCarriage withoutReturn
  by_cases hlast : piece.getLast? = some carriage
  · rw [if_pos hlast, if_pos (hcarriage.mpr hlast)]
    obtain ⟨before, rfl⟩ := List.getLast?_eq_some_iff.mp hlast
    rw [decodeLossyChars_append_ascii isPlainAscii_carriage.ascii,
      decodeLossyChars_eq_nil_iff.mpr rfl, List.dropLast_concat, List.dropLast_concat]
  · rw [if_neg hlast, if_neg (mt hcarriage.mp hlast)]

theorem ofContent_eq (content : Bytes) :
    ofContent content = (ofText (decodeLossyChars content)).map String.ofList := by
  have hpieces : (decodeLossyChars content).splitOn '\n' =
      (content.splitOn feed).map decodeLossyChars :=
    isPlainAscii_feed.splitOn_decodeLossyChars content
  have hline (piece : Bytes) : decodeLossy (withoutCarriage piece) =
      String.ofList (withoutReturn (decodeLossyChars piece)) :=
    congrArg String.ofList (decodeLossyChars_withoutCarriage piece)
  calc ofContent content
    _ = (withoutEmptyEnd (content.splitOn feed)).map
          fun piece ↦ decodeLossy (withoutCarriage piece) := by rw [ofContent, pieces_eq]
    _ = (((withoutEmptyEnd (content.splitOn feed)).map decodeLossyChars).map withoutReturn).map
          String.ofList := by
        rw [List.map_map, List.map_map]
        exact List.map_congr_left fun piece _ ↦ hline piece
    _ = (ofText (decodeLossyChars content)).map String.ofList := by
        rw [map_withoutEmptyEnd, ← hpieces, ofText]

/-- Reading the lines of a file commutes with decoding it: the lines are those of the decoded text.
Each terminator of the content is one of the text, and what stands before it and after it is decoded
as if it stood alone; the text has no others. -/
theorem readLines_decodes_whole (content : Bytes) :
    Navigator.readLines (.ok content) =
        .ok ((ofText (decodeLossyChars content)).map String.ofList) ∧
      ∀ terminator ∈ [feed, carriage],
        (decodeLossyChars content).count (Char.ofNat terminator.toNat) =
            content.count terminator ∧
          ∀ before after, content = before ++ terminator :: after →
            decodeLossyChars content =
              decodeLossyChars before ++
                Char.ofNat terminator.toNat :: decodeLossyChars after := by
  refine ⟨congrArg Except.ok (ofContent_eq content), fun terminator hterminator ↦ ?_⟩
  have hplain : IsPlainAscii terminator := by
    rcases List.mem_pair.mp hterminator with rfl | rfl
    · exact isPlainAscii_feed
    · exact isPlainAscii_carriage
  refine ⟨hplain.count_decodeLossyChars content, ?_⟩
  rintro before after rfl
  exact decodeLossyChars_append_ascii hplain.ascii before after

/-- Sequences cut short keep neither an LF nor a CR from ending a line. -/
example :
    ofContent [0xE2, 0x82, 0x0D, 0x0A, 0xF0, 0x9F, 0x0A, 0x61] = ["\uFFFD", "\uFFFD", "a"] := by
  decide

end ShellDebugger.Lines
