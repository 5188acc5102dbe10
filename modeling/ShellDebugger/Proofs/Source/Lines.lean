import ShellDebugger.Proofs.Text.Utf8
import ShellDebugger.Session.Driver
import ShellDebugger.Source.Navigator

/-!
# Lines have no line feeds

The pieces into which a content is cut have no LF, and neither have the lines that are decoded from
them. So a line becomes complete by exactly one LF at its end.
-/

namespace ShellDebugger

namespace Lines

theorem feed_notMem_piecesAfter {done : List Bytes} {current : Bytes}
    (hdone : ∀ piece ∈ done, feed ∉ piece) (hcurrent : feed ∉ current) (content : Bytes) :
    ∀ piece ∈ piecesAfter done current content, feed ∉ piece := by
  induction content generalizing done current with
  | nil =>
    intro piece hpiece
    rw [piecesAfter, List.mem_reverse] at hpiece
    split at hpiece
    · exact hdone piece hpiece
    · rcases List.mem_cons.mp hpiece with rfl | hpiece
      · rwa [List.mem_reverse]
      · exact hdone piece hpiece
  | cons octet rest ih =>
    rw [piecesAfter]
    split
    · have hreverse : feed ∉ current.reverse := by rwa [List.mem_reverse]
      exact ih (List.forall_mem_cons.mpr ⟨hreverse, hdone⟩) List.not_mem_nil
    · next hne => exact ih hdone (List.not_mem_cons_of_ne_of_not_mem (Ne.symm hne) hcurrent)

theorem feed_notMem_pieces {content piece : Bytes} (hpiece : piece ∈ pieces content) :
    feed ∉ piece :=
  feed_notMem_piecesAfter (List.forall_mem_nil _) List.not_mem_nil content piece hpiece

theorem withoutCarriage_subset (piece : Bytes) : withoutCarriage piece ⊆ piece := by
  unfold withoutCarriage
  split
  · exact List.dropLast_subset piece
  · exact List.Subset.refl piece

theorem newline_notMem_ofContent {content : Bytes} {line : String}
    (hline : line ∈ ofContent content) : '\n' ∉ line.toList := by
  obtain ⟨piece, hpiece, rfl⟩ := List.mem_map.mp hline
  apply Utf8.newline_notMem_decodeLossy
  intro hmem
  exact feed_notMem_pieces hpiece (withoutCarriage_subset piece hmem)

end Lines

/-- A text without a line feed gets one at its end. -/
theorem Driver.terminated_eq {line : String} (h : '\n' ∉ line.toList) :
    terminated line = line ++ "\n" := by
  unfold terminated
  rw [if_neg]
  intro hlast
  exact h (List.mem_of_getLast? hlast)

end ShellDebugger
