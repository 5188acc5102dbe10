import ShellDebugger.Proofs.Command.Parsing
import ShellDebugger.Proofs.Completion.Cursor

/-!
# Completing the name of a command

While the first word of a line is being written, the names of the commands that begin with it are
offered. Whichever of them is accepted, the line becomes one that is read as this command, with the
words behind the cursor as its arguments.
-/

namespace ShellDebugger.Completion

variable {line : String} {head tail lead word : List Char} {candidate : Candidate}

/-- The names that begin with a text, each with the blank that follows it in a line. -/
def namesWith (text : List Char) : List Candidate :=
  (Command.names.filter (text <+: ·.toList)).map fun name ↦ ⟨name, name ++ " "⟩

theorem ofName_ofList (start : Nat) (text : List Char) :
    ofName start (String.ofList text) = ⟨start, namesWith text⟩ := by
  have hstarts (name : String) :
      name.startsWith (String.ofList text) = decide (text <+: name.toList) := by
    rw [Bool.eq_iff_iff, String.startsWith_string_iff, String.toList_ofList, decide_eq_true_iff]
  simp only [ofName, commandNames, namesWith, hstarts]

/-- The names of the table are words. -/
theorem isUnspaced_of_mem_names {name : String} (hname : name ∈ Command.names) :
    IsUnspaced name.toList ∧ name.toList ≠ [] := by
  revert name
  decide

/-- A line that begins with a name and a blank has the name and the words of the rest. -/
theorem fields_name_append {name : String} (hname : name ∈ Command.names) (hlead : IsBlank lead)
    (rest : List Char) :
    fields (String.ofList (lead ++ (name ++ " ").toList ++ rest)) =
      name :: fields (String.ofList rest) := by
  obtain ⟨hword, hne⟩ := isUnspaced_of_mem_names hname
  have hblank : IsBlank [' '] := by decide
  have hline : lead ++ (name ++ " ").toList ++ rest = lead ++ (name.toList ++ ([' '] ++ rest)) := by
    simp
  rw [fields, String.toList_ofList, hline,
    Fields.ofChars_lead_append hlead hword hne hblank (List.cons_ne_nil _ _), List.map_cons,
    String.ofList_toList, fields, String.toList_ofList]

/-- When a name is accepted, the line is the command of this name. -/
theorem parse_acceptAt (hline : line.toList = head ++ tail) (h : IsFirstWord head lead word)
    (hcandidate : candidate ∈ namesWith word) :
    ∃ command,
      Command.parse ((⟨octetCount lead, namesWith word⟩ : Completion).acceptAt
        (octetCount head) line candidate) = some command ∧
      Command.Names candidate.display (fields (String.ofList tail)) command ∧
        ∀ other, command ≠ .unknown other := by
  obtain ⟨name, hname, rfl⟩ := List.mem_map.mp hcandidate
  obtain ⟨hname, -⟩ := List.mem_filter.mp hname
  have hbefore : before (octetCount lead) line.toList = lead := by
    rw [hline, h.split, List.append_assoc, before_append]
  have hbehind : behind (octetCount head) line.toList = tail := hline ▸ behind_append head tail
  have hnames := Command.names_ofName name (fields (String.ofList tail))
  refine ⟨_, ?_, hnames, hnames.ne_unknown hname⟩
  rw [Command.parse, acceptAt, hbefore, hbehind, fields_name_append hname h.lead]

/-- The first field of a text with more than a first word. -/
theorem head?_fields (h : IsAfterWord head lead word) :
    (fields (String.ofList head)).head? = some (String.ofList word) := by
  obtain ⟨c, rest, rfl, hc⟩ := h.split
  have hgap : IsBlank [c] := List.forall_mem_singleton.mpr hc
  have hchars : Fields.ofChars (lead ++ (word ++ c :: rest)) = word :: Fields.ofChars rest :=
    Fields.ofChars_lead_append h.lead h.word.2 h.word.1 hgap (List.cons_ne_nil _ _) rest
  rw [fields, String.toList_ofList, hchars]
  rfl

/-- The names that are offered are read as their commands. At a cursor with a first word before it
that nothing follows, the completion starts where this word does, and has the names of the table
that begin with it, in order; when one of them is accepted, the line is the command of this name,
which is a known one, with the words behind the cursor as its arguments. At any other cursor
nothing is offered, unless the first word of the line is `load`. -/
theorem name_completion_agrees_with_parse (files : FileTree) (home : Option Path)
    (hline : line.toList = head ++ tail) :
    (∀ lead word, IsFirstWord head lead word →
      ofLine files home line (octetCount head) = ⟨octetCount lead, namesWith word⟩ ∧
      ∀ candidate ∈ (ofLine files home line (octetCount head)).candidates,
        ∃ command,
          Command.parse ((ofLine files home line (octetCount head)).acceptAt (octetCount head) line
            candidate) = some command ∧
          Command.Names candidate.display (fields (String.ofList tail)) command ∧
            ∀ other, command ≠ .unknown other) ∧
    ((¬ ∃ lead word, IsFirstWord head lead word) →
      (fields (String.ofList head)).head? ≠ some "load" →
        ofLine files home line (octetCount head) = ⟨octetCount head, []⟩) := by
  constructor
  · intro lead word h
    have hoffered :
        ofLine files home line (octetCount head) = ⟨octetCount lead, namesWith word⟩ := by
      rw [ofLine_of_isFirstWord files home hline h, ofName_ofList]
    rw [hoffered]
    exact ⟨rfl, fun candidate hcandidate ↦ parse_acceptAt hline h hcandidate⟩
  · intro hmore hload
    obtain ⟨lead, word, h⟩ := (exists_isFirstWord_or_isAfterWord head).resolve_left hmore
    have hword : word ≠ "load".toList := by
      rintro rfl
      exact hload (head?_fields h)
    rw [ofLine_of_isAfterWord files home hline h, if_neg hword]

/-- Behind a wide space, the one name that begins with what is written is offered, and completes the
line to a listing; nothing is offered for the words that are sent to the shell. -/
theorem name_completion_agrees_with_parse_list :
    ofLine ⟨[], []⟩ none "\u2003li 5 9" (octetCount ['\u2003', 'l', 'i']) =
        ⟨3, [⟨"list", "list "⟩]⟩ ∧
      Command.parse "\u2003list  5 9" = some (.list ["5", "9"]) ∧
      ofLine ⟨[], []⟩ none "do ec" (octetCount "do ec".toList) = ⟨5, []⟩ := by
  have hline : "\u2003li 5 9".toList = ['\u2003', 'l', 'i'] ++ [' ', '5', ' ', '9'] := rfl
  have hword : IsFirstWord ['\u2003', 'l', 'i'] ['\u2003'] ['l', 'i'] := ⟨rfl, by decide, by decide⟩
  have hnames : namesWith ['l', 'i'] = [⟨"list", "list "⟩] := by decide
  have haccepted : (⟨3, [⟨"list", "list "⟩]⟩ : Completion).acceptAt
      (octetCount ['\u2003', 'l', 'i']) "\u2003li 5 9" ⟨"list", "list "⟩ = "\u2003list  5 9" := by
    decide
  have hend : "do ec".toList = "do ec".toList ++ [] := (List.append_nil _).symm
  obtain ⟨hoffered, hparse⟩ := (name_completion_agrees_with_parse ⟨[], []⟩ none hline).1 _ _ hword
  have hnothing := (name_completion_agrees_with_parse ⟨[], []⟩ none hend).2
  refine ⟨?_, ?_, hnothing ?_ (by decide)⟩
  · rw [hoffered, hnames]
    rfl
  · have hcandidate : (⟨"list", "list "⟩ : Candidate) ∈ namesWith ['l', 'i'] := by decide
    rw [hoffered] at hparse
    obtain ⟨command, hread, hcommand, -⟩ := hparse _ hcandidate
    have hlist : command = .list ["5", "9"] := (Command.names_iff.mp hcommand).symm
    rw [← haccepted, ← hlist, ← hread, hnames]
    rfl
  · rintro ⟨lead, word, h⟩
    have hblank : isWhiteSpace ' ' = false := h.word ' ' (h.dropWhile_eq ▸ by decide)
    exact absurd hblank (by decide)

end ShellDebugger.Completion
