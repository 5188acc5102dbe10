import ShellDebugger.Command.Basic
import ShellDebugger.Proofs.Text.WrittenWords

/-!
# How lines are read as commands

The first word of a line says which command it is, and the other words are its arguments, however
much white space stands between them.
-/

namespace ShellDebugger.Command

/-- The command that a name stands for when it has some arguments. -/
inductive Names : String → List String → Command → Prop
  | help (arguments : List String) : Names "help" arguments .help
  | exit (arguments : List String) : Names "exit" arguments .exit
  | quit (arguments : List String) : Names "quit" arguments .exit
  | loadNothing : Names "load" [] (.load none)
  | load (path : String) (rest : List String) :
      Names "load" (path :: rest) (.load (some (Path.ofString path)))
  | list (arguments : List String) : Names "list" arguments (.list arguments)
  | run (arguments : List String) : Names "run" arguments .run
  | send (words : List String) : Names "do" words (.send words)
  | reserved {name : String} (arguments : List String) :
      name ∈ ["step", "next", "breakpoint"] → Names name arguments (.notImplemented name)
  | unknown {name : String} (arguments : List String) :
      name ∉ names → name ≠ "quit" → Names name arguments (.unknown name)

variable {name : String} {arguments : List String} {command : Command}

theorem names_ofName (name : String) (arguments : List String) :
    Names name arguments (ofName name arguments) := by
  unfold ofName
  split
  · exact .help arguments
  · exact .exit arguments
  · exact .quit arguments
  · cases arguments with
    | nil => exact .loadNothing
    | cons path rest => exact .load path rest
  · exact .list arguments
  · exact .run arguments
  · exact .send arguments
  · exact .reserved arguments (by decide)
  · exact .reserved arguments (by decide)
  · exact .reserved arguments (by decide)
  · exact .unknown arguments (by simp_all [names]) (by assumption)

/-- A name stands for one command. -/
theorem names_iff : Names name arguments command ↔ ofName name arguments = command := by
  constructor
  · intro h
    cases h with
    | reserved _ hname =>
      simp only [List.mem_cons, List.not_mem_nil, or_false] at hname
      rcases hname with rfl | rfl | rfl <;> rfl
    | unknown _ hname hquit =>
      simp only [names, List.mem_cons, List.not_mem_nil, or_false, not_or] at hname
      simp [ofName, hname]
    | _ => rfl
  · rintro rfl
    exact names_ofName name arguments

/-- A name of the table stands for a command. -/
theorem Names.ne_unknown (h : Names name arguments command) (hname : name ∈ names)
    (other : String) : command ≠ .unknown other := by
  cases h with
  | unknown _ hunknown => exact absurd hname hunknown
  | _ => nofun

/-- A line is blank, or its first word is the name of a command that has the other words. -/
theorem parse_of_fields {line : String} {words : List String} (h : fields line = words) :
    (parse line = none ↔ words = []) ∧
      ∀ name arguments, words = name :: arguments →
        ∀ command, parse line = some command ↔ Names name arguments command := by
  rw [parse, h]
  cases words with
  | nil => exact ⟨iff_of_true rfl rfl, nofun⟩
  | cons name arguments =>
    refine ⟨iff_of_false nofun nofun, ?_⟩
    rintro _ _ ⟨⟩ command
    rw [Option.some_inj, names_iff]

/-- A line is read as a command if its first word names it, with the other words. -/
theorem parse_eq_some_iff {line : String} :
    parse line = some command ↔
      ∃ name arguments, fields line = name :: arguments ∧ Names name arguments command := by
  obtain ⟨hblank, hnamed⟩ := parse_of_fields (rfl : fields line = fields line)
  constructor
  · intro hparse
    cases hfields : fields line with
    | nil =>
      rw [hblank.mpr hfields] at hparse
      cases hparse
    | cons name arguments =>
      exact ⟨name, arguments, rfl, (hnamed name arguments hfields command).mp hparse⟩
  · rintro ⟨name, arguments, hfields, hnames⟩
    exact (hnamed name arguments hfields command).mpr hnames

/-- Parsing undoes the writing of a line from words, whatever white space stands around them. The
first word alone selects the command, and the others are its arguments, in order; only a line
without words is none. Since every line is written from its fields, and from no other words, lines
with the same fields are the same command, and it does not matter if single blanks stand between
the fields. -/
theorem parse_undoes_writing :
    (∀ words line, IsWrittenFrom words line →
      (parse line = none ↔ words = []) ∧
        ∀ name arguments, words = name :: arguments →
          ∀ command, parse line = some command ↔ Names name arguments command) ∧
    (∀ words line, fields line = words ↔ IsWrittenFrom words line) ∧
    (∀ line line', fields line = fields line' → parse line = parse line') ∧
    ∀ line, parse (" ".intercalate (fields line)) = parse line := by
  have hsame {line line' : String} (h : fields line = fields line') : parse line = parse line' := by
    rw [parse, parse, h]
  refine ⟨?_, fun words line ↦ fields_eq_iff, fun line line' ↦ hsame, ?_⟩
  · intro words line hline
    exact parse_of_fields (fields_eq_iff.mpr hline)
  · intro line
    exact hsame (fields_intercalate_fields line)

/-- The words of a line with white space of several kinds. -/
theorem isWrittenFrom_sample :
    IsWrittenFrom ["do", "echo", "hi"] "\u2003do\t echo\u00a0\u3000hi\n" :=
  ⟨['\u2003'],
    [⟨['d', 'o'], ['\t', ' ']⟩, ⟨['e', 'c', 'h', 'o'], ['\u00a0', '\u3000']⟩, ⟨['h', 'i'], ['\n']⟩],
    by decide, ⟨by decide, by decide, by decide⟩, rfl, rfl⟩

/-- The line sends the other words to the shell. -/
theorem parse_undoes_writing_do :
    IsWrittenFrom ["do", "echo", "hi"] "\u2003do\t echo\u00a0\u3000hi\n" ∧
      parse "\u2003do\t echo\u00a0\u3000hi\n" = some (.send ["echo", "hi"]) ∧
      parse "do echo hi" = parse "\u2003do\t echo\u00a0\u3000hi\n" := by
  obtain ⟨hread, hfields, hsame, -⟩ := parse_undoes_writing
  have hwritten := isWrittenFrom_sample
  refine ⟨hwritten, ?_, hsame _ _ ?_⟩
  · exact ((hread _ _ hwritten).2 "do" ["echo", "hi"] rfl _).mpr (.send _)
  · rw [(hfields _ _).mpr hwritten]
    decide

end ShellDebugger.Command
