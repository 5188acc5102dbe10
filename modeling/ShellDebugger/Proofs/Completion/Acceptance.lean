import Mathlib
import ShellDebugger.Proofs.Command.Parsing
import ShellDebugger.Proofs.Completion.Cursor
import ShellDebugger.Proofs.Completion.Writing
import ShellDebugger.Proofs.Host.Lookup
import ShellDebugger.Proofs.Session.PipeNames
import ShellDebugger.Proofs.Text.Fields
import ShellDebugger.Proofs.Text.Utf8RoundTrip

/-!
# Accepting a file name

What becomes of a line when the operator accepts the name of a file that is offered after `load`.
The name is put into the line the way names are written there, with backslashes and inside
quotations, and a command takes its words from a line as they stand. So the line loads the file if
and only if the name is the whole argument, outside of quotations, and has no character that would
be written otherwise.
-/

namespace ShellDebugger

open FileNames

/-! ## Candidates -/

namespace FileNames

/-- The directory that is written before the name at the end of a text. -/
def above (head : List Char) : List Char :=
  (splitPath ((written head).1.read (written head).2)).1

/-- The path that a candidate completes the name at the end of a text to. -/
def completed (head : List Char) (candidate : Candidate) : List Char :=
  above head ++ candidate.display.toList

def location (home : Option Path) (head : List Char) (candidate : Candidate) : Path :=
  directory home (above head) / Path.ofString candidate.display

/-- The path at the end of a text begins with the name of the home directory. -/
def IsHomeRelative (home : Option Path) (head : List Char) : Prop :=
  home ≠ none ∧ ['~', '/'] <+: above head

variable {files : FileTree} {home : Option Path} {head : List Char} {candidate : Candidate}

theorem start_complete (files : FileTree) (home : Option Path) (head : List Char) :
    (complete files home head).start = Completion.octetCount (kept head) := by
  have hcount := Completion.octetCount_append (kept head) (written head).2
  rw [kept_append_written] at hcount
  change Completion.octetCount head - Completion.octetCount (written head).2 = _
  omega

/-- Accepting a candidate replaces the name and nothing else. -/
theorem toList_accept (files : FileTree) (home : Option Path) (line : String)
    (candidate : Candidate) :
    ((complete files home line.toList).accept line candidate).toList =
      kept line.toList ++ candidate.replacement.toList := by
  have hbefore := Completion.before_append (kept line.toList) (written line.toList).2
  rw [kept_append_written] at hbefore
  rw [Completion.accept, String.toList_ofList, start_complete, hbefore]

/-- What is offered for a name are the files of a directory whose names continue it. -/
theorem mem_matching_iff {directory : Path} {start : List Char} {name : String}
    {isDirectory : Bool} :
    (name, isDirectory) ∈ matching files directory start ↔
      ∃ place octets found, files.find directory = .ok (place, .directory) ∧
        octets ∈ files.namesIn place ∧ Utf8.decode? octets = some name ∧ start <+: name.toList ∧
          files.find (directory / (⟨octets⟩ : Path)) = .ok found ∧
            isDirectory = found.2.isDirectory := by
  unfold matching
  constructor
  · intro hname
    split at hname
    · next place hdirectory =>
      rw [List.mem_mergeSort] at hname
      obtain ⟨octets, hoctets, hoffered⟩ := List.mem_filterMap.mp hname
      obtain ⟨name', hdecode, hoffered⟩ := Option.bind_eq_some_iff.mp hoffered
      split at hoffered
      · next hcontinues =>
        obtain ⟨found, hfind, hoffered⟩ := Option.bind_eq_some_iff.mp hoffered
        obtain ⟨rfl, rfl⟩ := Prod.mk.inj (Option.some.inj hoffered)
        refine ⟨place, octets, found, hdirectory, hoctets, hdecode, ?_, ?_, rfl⟩
        · exact List.isPrefixOf_iff_prefix.mp hcontinues
        · exact toOption_eq_some_iff.mp hfind
      · cases hoffered
    · cases hname
  · rintro ⟨place, octets, found, hdirectory, hoctets, hdecode, hcontinues, hfind, rfl⟩
    rw [hdirectory]
    dsimp only
    rw [List.mem_mergeSort]
    refine List.mem_filterMap.mpr ⟨octets, hoctets, ?_⟩
    simp [hdecode, hcontinues, toOption_eq_some_iff.mpr hfind]

/-- What a candidate is: a file whose name continues the one that is written. -/
theorem exists_of_mem_complete (hcandidate : candidate ∈ (complete files home head).candidates) :
    ∃ place found, Utf8.encode candidate.display ∈ files.namesIn place ∧
      files.find (location home head candidate) = .ok found ∧
        (splitPath ((written head).1.read (written head).2)).2 <+: candidate.display.toList ∧
          candidate.replacement = String.ofList (escape (written head).1
            (completed head candidate ++ if found.2.isDirectory then ['/'] else [])) := by
  obtain ⟨⟨name, isDirectory⟩, hname, rfl⟩ := List.mem_map.mp hcandidate
  obtain ⟨place, octets, found, -, hoctets, hdecode, hcontinues, hfind, rfl⟩ :=
    mem_matching_iff.mp hname
  obtain rfl := Utf8.encode_of_decode? hdecode
  exact ⟨place, found, hoctets, hfind, hcontinues, rfl⟩

end FileNames

/-! ## The argument of a load -/

namespace Completion

/-- A line with its cursor at the end is about to get the first argument of a load: the name that is
being written begins before any white space in the argument. -/
structure IsFirstArgument (line : String) (argument : List Char) : Prop where
  split : ∃ lead gap, line.toList = lead ++ ("load".toList ++ (gap ++ argument)) ∧
    IsBlank lead ∧ IsBlank gap ∧ gap ≠ []
  first : IsUnspaced (argument.take (argument.length - (written line.toList).2.length))

variable {files : FileTree} {home : Option Path} {line : String} {argument : List Char}

theorem isUnspaced_load : IsUnspaced "load".toList := by decide

/-- After `load`, file names are offered. -/
theorem ofLine_eq_complete (files : FileTree) (home : Option Path)
    (hargument : IsFirstArgument line argument) :
    ofLine files home line (octetCount line.toList) =
      FileNames.complete files home line.toList := by
  obtain ⟨lead, gap, hline, hlead, hgap, hne⟩ := hargument.split
  obtain ⟨c, gap, rfl⟩ := List.exists_cons_of_ne_nil hne
  have hafter : IsAfterWord line.toList lead "load".toList :=
    ⟨⟨c, gap ++ argument, hline, hgap c List.mem_cons_self⟩, hlead, by decide, isUnspaced_load⟩
  rw [ofLine_of_isAfterWord files home (List.append_nil _).symm hafter, if_pos rfl]

/-- Text that ends in white space ends in it however it is cut. -/
theorem isWhiteSpace_of_concat_eq {text gap more : List Char} {c : Char} (hgap : IsBlank gap)
    (hne : gap ≠ []) (hsame : more ++ [c] = text ++ gap) : isWhiteSpace c = true := by
  obtain ⟨gap, c', rfl⟩ := (List.eq_nil_or_concat' gap).resolve_left hne
  rw [← List.append_assoc] at hsame
  obtain rfl := List.singleton_inj.mp (List.append_inj' hsame rfl).2
  exact hgap c (by simp)

/-- Either the name is the end of the argument, with no white space before it in the argument, or
there is white space in the name itself. -/
theorem IsFirstArgument.cases (hargument : IsFirstArgument line argument) :
    (∃ lead gap pre, IsBlank lead ∧ IsBlank gap ∧ gap ≠ [] ∧ IsUnspaced pre ∧
        argument = pre ++ (written line.toList).2 ∧
          kept line.toList = lead ++ ("load".toList ++ (gap ++ pre))) ∨
      (written line.toList).2 ≠ argument ∧
        ∃ c ∈ (written line.toList).2, isWhiteSpace c = true := by
  obtain ⟨⟨lead, gap, hline, hlead, hgap, hne⟩, hfirst⟩ := hargument
  have hsplit : line.toList = (lead ++ ("load".toList ++ gap)) ++ argument := by simp [hline]
  have hkept := kept_append_written line.toList
  have hsuffix : argument <:+ line.toList := hsplit ▸ List.suffix_append _ _
  rcases List.suffix_or_suffix_of_suffix (written_suffix line.toList) hsuffix with
    ⟨pre, hpre⟩ | ⟨more, hmore⟩
  · refine .inl ⟨lead, gap, pre, hlead, hgap, hne, ?_, hpre.symm, ?_⟩
    · have htake : argument.take (argument.length - (written line.toList).2.length) = pre := by
        rw [← hpre, List.length_append, Nat.add_sub_cancel, List.take_left]
      rwa [htake] at hfirst
    · apply List.append_cancel_right (hkept.trans (hline.trans _))
      rw [← hpre]
      simp
  · have hsame : kept line.toList ++ more = (lead ++ "load".toList) ++ gap := by
      apply List.append_cancel_right
      rw [List.append_assoc, hmore, hkept, hsplit]
      simp
    rcases List.eq_nil_or_concat' more with rfl | ⟨more, c, rfl⟩
    · refine .inl ⟨lead, gap, [], hlead, hgap, hne, isUnspaced_nil, hmore, ?_⟩
      rw [List.append_nil, List.append_assoc] at hsame
      rw [List.append_nil, hsame]
    · -- The last white space before the argument is in the name.
      rw [← List.append_assoc] at hsame
      refine .inr ⟨fun heq ↦ ?_, c, ?_, isWhiteSpace_of_concat_eq hgap hne hsame⟩
      · have hlength := congrArg List.length hmore
        rw [heq] at hlength
        simp at hlength
        omega
      · rw [← hmore]
        simp

end Completion

/-- A line that is read as a load has the name of the command and the path as its first words. -/
theorem Command.parse_eq_load_iff {line : String} {path : List Char} :
    parse line = some (.load (some (Path.ofString (String.ofList path)))) ↔
      ∃ rest, Fields.ofChars line.toList = "load".toList :: path :: rest := by
  rw [parse_eq_some_iff]
  constructor
  · rintro ⟨name, arguments, hfields, hnames⟩
    generalize hload : Command.load _ = command at hnames
    cases hnames with
    | load word rest =>
      have hpath : Path.ofString (String.ofList path) = Path.ofString word :=
        Option.some.inj (Command.load.inj hload)
      have hword : String.ofList path = word := Utf8.encode_injective (congrArg Path.octets hpath)
      obtain ⟨name, arguments, hchars, hname, harguments⟩ := List.map_eq_cons_iff.mp hfields
      obtain ⟨path', rest, rfl, hword', -⟩ := List.map_eq_cons_iff.mp harguments
      have hname' : name = "load".toList := by rw [← hname, String.toList_ofList]
      have hpath' : path' = path := String.ofList_injective (hword'.trans hword.symm)
      exact ⟨rest, by rw [hchars, hname', hpath']⟩
    | _ => cases hload
  · rintro ⟨rest, hfields⟩
    refine ⟨"load", String.ofList path :: rest.map String.ofList, ?_, .load _ _⟩
    rw [fields, hfields, List.map_cons, List.map_cons, String.ofList_toList]

/-! ## Where a completed path leads -/

namespace FileNames

variable {files : FileTree} {home : Option Path} {head : List Char} {candidate : Candidate}
  {found : Place × Node}

theorem directory_eq (hhome : ¬ (home ≠ none ∧ ['~', '/'] <+: above head)) :
    directory home (above head) =
      if (above head).isEmpty then Path.ofString "."
      else Path.ofString (String.ofList (above head)) := by
  unfold directory
  split
  · next rest home habove =>
    refine absurd ⟨Option.some_ne_none home, ?_⟩ hhome
    rw [habove]
    exact ⟨rest, rfl⟩
  · rfl

theorem encode_ofList_append (text rest : List Char) :
    Utf8.encode (String.ofList (text ++ rest)) =
      Utf8.encode (String.ofList text) ++ Utf8.encode (String.ofList rest) := by
  simp [Utf8.encode, Utf8.encodeChars]

/-- A name in a directory that is written with a separator at its end. -/
theorem join_of_getLast? {directory : List Char} (hlast : directory.getLast? = some '/')
    {name : String} (hname : Path.separator ∉ Utf8.encode name) :
    Path.ofString (String.ofList directory) / Path.ofString name =
      Path.ofString (String.ofList (directory ++ name.toList)) := by
  obtain ⟨init, rfl⟩ := List.getLast?_eq_some_iff.mp hlast
  have hrelative : (Path.ofString name).isAbsolute = false := Path.isAbsolute_eq_false hname
  have hends : (Path.ofString (String.ofList (init ++ ['/']))).endsInSeparator = true := by
    have hencode : Utf8.encode (String.ofList (init ++ ['/'])) =
        Utf8.encode (String.ofList init) ++ [Path.separator] := encode_ofList_append init ['/']
    rw [Path.endsInSeparator, Path.ofString, hencode, List.getLast?_concat]
    rfl
  change Path.join _ _ = _
  rw [Path.join, hrelative, if_neg Bool.false_ne_true, hends, Bool.or_true, if_pos rfl]
  change (⟨_⟩ : Path) = ⟨_⟩
  rw [encode_ofList_append, String.ofList_toList]
  rfl

/-- Unless it begins with the name of the home directory, the completed path leads where the file of
the candidate was found. -/
theorem find_completed (hhome : ¬ IsHomeRelative home head)
    (hname : Utf8.encode candidate.display ≠ [] ∧ Path.separator ∉ Utf8.encode candidate.display)
    (hfind : files.find (location home head candidate) = .ok found) :
    files.find (Path.ofString (String.ofList (completed head candidate))) = .ok found := by
  rw [location, directory_eq hhome] at hfind
  rcases getLast?_splitPath ((written head).1.read (written head).2) with hnil | hlast
  · have habove : above head = [] := hnil
    rw [habove, List.isEmpty_nil, if_pos rfl] at hfind
    have hjoin : Path.ofString "." / Path.ofString candidate.display =
        ⟨Path.dot :: Path.separator :: Utf8.encode candidate.display⟩ := by
      have hrelative : (Path.ofString candidate.display).isAbsolute = false :=
        Path.isAbsolute_eq_false hname.2
      change Path.join _ _ = _
      rw [Path.join, hrelative, if_neg Bool.false_ne_true]
      rfl
    rw [hjoin] at hfind
    rw [completed, habove, List.nil_append, String.ofList_toList]
    exact FileTree.find_of_find_dot hname.1 hname.2 hfind
  · have habove : (above head).getLast? = some '/' := hlast
    have hne : (above head).isEmpty = false := by
      rw [List.isEmpty_eq_false_iff]
      intro hnil
      rw [hnil] at habove
      cases habove
    rw [hne, if_neg Bool.false_ne_true, join_of_getLast? habove hname.2] at hfind
    exact hfind

/-- A completed path that begins with the name of the home directory leads nowhere, if the working
directory has nothing of this name. -/
theorem find_completed_ne_ok (hhome : IsHomeRelative home head)
    (hmissing : files.node? (files.workingDirectory ++ [Utf8.encode "~"]) = none)
    (found : Place × Node) :
    files.find (Path.ofString (String.ofList (completed head candidate))) ≠ .ok found := by
  obtain ⟨-, rest, hrest⟩ := hhome
  have hoctets : Path.ofString (String.ofList (completed head candidate)) =
      ⟨Utf8.encode "~" ++ Path.separator ::
        Utf8.encode (String.ofList (rest ++ candidate.display.toList))⟩ := by
    rw [completed, ← hrest, List.append_assoc, Path.ofString, encode_ofList_append]
    rfl
  rw [hoctets]
  apply FileTree.find_ne_ok_of_missing (by decide) (by decide) (by decide) (by decide) hmissing

end FileNames

/-! ## Accepted lines -/

section Accepted

variable {files : FileTree} {home : Option Path} {line : String} {argument : List Char}
  {candidate : Candidate} {place : Place} {content : Bytes} {mode : Nat}

/-- The words of a load are the name of the command and those of what follows it. -/
theorem Fields.ofChars_load {lead gap : List Char} (hlead : IsBlank lead) (hgap : IsBlank gap)
    (hne : gap ≠ []) (rest : List Char) :
    ofChars (lead ++ ("load".toList ++ (gap ++ rest))) = "load".toList :: ofChars rest :=
  ofChars_lead_append hlead Completion.isUnspaced_load (by decide) hgap hne rest

/-- White space in the name that is written is in the path that it is completed to. -/
theorem FileNames.exists_blank_completed {head : List Char}
    (hcontinues : (splitPath ((written head).1.read (written head).2)).2 <+:
      candidate.display.toList)
    {c : Char} (hc : c ∈ (written head).2) (hblank : isWhiteSpace c = true) :
    c ∈ completed head candidate := by
  have hne : c ≠ '\\' := by
    rintro rfl
    exact absurd hblank (by decide)
  have hread : c ∈ (written head).1.read (written head).2 := by
    cases (written head).1 with
    | none => exact mem_unescape hc hne
    | single => exact hc
    | double => exact mem_unescape hc hne
  rw [← splitPath_append ((written head).1.read (written head).2)] at hread
  rcases List.mem_append.mp hread with habove | hstart
  · exact List.mem_append_left _ habove
  · exact List.mem_append_right _ (hcontinues.subset hstart)

/-- A name that makes up the whole of an argument follows white space, and no quotation is open. -/
theorem FileNames.written_eq_none {head lead gap : List Char} (hgap : IsBlank gap) (hne : gap ≠ [])
    (hkept : kept head = lead ++ ("load".toList ++ gap)) : (written head).1 = .none := by
  by_contra hquotation
  obtain ⟨above, mark, hmark, hhead⟩ := exists_mark rfl hquotation
  have hsame : above ++ [mark] = (lead ++ "load".toList) ++ gap := by
    rw [List.append_assoc, ← hkept]
    apply List.append_cancel_right
    rw [kept_append_written, List.append_assoc]
    exact hhead.symm
  have hblank := Completion.isWhiteSpace_of_concat_eq hgap hne hsame
  rcases hmark with rfl | rfl <;> exact absurd hblank (by decide)

/-- A path that is the first word read from where it was written has nothing written before it, and
is written without backslashes. -/
theorem FileNames.eq_nil_of_ofChars_escape {quotation : Quotation} {pre path : List Char}
    {rest : List (List Char)} (hpre : IsUnspaced pre) (hpath : path ≠ [])
    (hunspaced : IsUnspaced path)
    (hread : Fields.ofChars (pre ++ escape quotation path) = path :: rest) :
    pre = [] ∧ ∀ c ∈ path, c ∉ quotation.escapedChars := by
  have hlength := length_le_length_escape quotation path
  have hword : IsUnspaced (pre ++ escape quotation path) := by
    intro c hc
    rcases List.mem_append.mp hc with hc | hc
    · exact hpre c hc
    · rcases eq_backslash_or_mem_of_mem_escape hc with rfl | hc
      · decide
      · exact hunspaced c hc
  have hne : pre ++ escape quotation path ≠ [] := by
    intro hnil
    rw [(List.append_eq_nil_iff.mp hnil).2] at hlength
    exact hpath (List.length_eq_zero_iff.mp (Nat.le_zero.mp hlength))
  rw [Fields.ofChars_of_isUnspaced hword hne] at hread
  have heq : pre ++ escape quotation path = path := (List.cons.inj hread).1
  -- What was written is no shorter than the path, so there is no room for anything else.
  have hsum := congrArg List.length heq
  rw [List.length_append] at hsum
  refine ⟨List.length_eq_zero_iff.mp (by omega), notMem_escapedChars_of_length (by omega)⟩

/-- An accepted line is read as a load of the completed path if and only if the name is the whole
argument, outside of quotations, and the path is written without backslashes and has no white
space. -/
theorem FileNames.parse_accept_iff (hargument : Completion.IsFirstArgument line argument)
    (hdisplay : candidate.display ≠ "")
    (hcontinues : (splitPath ((written line.toList).1.read (written line.toList).2)).2 <+:
      candidate.display.toList)
    (hreplacement : candidate.replacement =
      String.ofList (escape (written line.toList).1 (completed line.toList candidate))) :
    Command.parse ((complete files home line.toList).accept line candidate) =
        some (.load (some (Path.ofString (String.ofList (completed line.toList candidate))))) ↔
      written line.toList = (.none, argument) ∧
        ∀ c ∈ completed line.toList candidate, isWhiteSpace c = false ∧ c ∉ breakChars := by
  have hpath : completed line.toList candidate ≠ [] := by
    intro hnil
    have hempty : candidate.display.toList = [] := (List.append_eq_nil_iff.mp hnil).2
    exact hdisplay (String.toList_eq_nil_iff.mp hempty)
  have hblank {c : Char} := exists_blank_completed (c := c) hcontinues
  rw [Command.parse_eq_load_iff, toList_accept, hreplacement, String.toList_ofList]
  generalize completed line.toList candidate = path at hpath hblank
  constructor
  · rintro ⟨rest, hfields⟩
    have hunspaced : IsUnspaced path := by
      apply Fields.isUnspaced_of_mem_ofChars
      rw [hfields]
      exact List.mem_cons_of_mem _ List.mem_cons_self
    rcases hargument.cases with
      ⟨lead, gap, pre, hlead, hgap, hne, hpre, hargument, hkept⟩ | ⟨-, c, hc, hspace⟩
    · -- The whole of what stands in the argument now is one word.
      rw [hkept, List.append_assoc, List.append_assoc, List.append_assoc,
        Fields.ofChars_load hlead hgap hne] at hfields
      obtain ⟨rfl, hplain⟩ :=
        eq_nil_of_ofChars_escape hpre hpath hunspaced (List.cons.inj hfields).2
      rw [List.append_nil] at hkept
      have hnone := written_eq_none hgap hne hkept
      rw [hnone] at hplain
      exact ⟨Prod.ext hnone hargument.symm, fun c hc ↦ ⟨hunspaced c hc, hplain c hc⟩⟩
    · rw [hunspaced c (hblank hc hspace)] at hspace
      cases hspace
  · rintro ⟨hwritten, hplain⟩
    rcases hargument.cases with
      ⟨lead, gap, pre, hlead, hgap, hne, -, hargument, hkept⟩ | ⟨hother, -⟩
    · have hpre : pre = [] := by
        rw [hwritten] at hargument
        exact List.append_left_eq_self.mp hargument.symm
      have hescape : escape (written line.toList).1 path = path := by
        rw [hwritten]
        exact escape_eq_self fun c hc ↦ (hplain c hc).2
      refine ⟨[], ?_⟩
      rw [hkept, hpre, List.append_nil, hescape, List.append_assoc, List.append_assoc,
        Fields.ofChars_load hlead hgap hne,
        Fields.ofChars_of_isUnspaced (fun c hc ↦ (hplain c hc).1) hpath]
    · exact absurd (congrArg Prod.snd hwritten) hother

/-- However a line with the first argument of a load goes on at its end, wherever the home directory
is and whatever the directories hold: when a candidate that stands for a file is accepted, the line
is read as a load of the path that the name is completed to if and only if the name is the whole
argument, outside of quotations, and the path has neither white space nor a character that is
written with a backslash. That path leads to the file, unless it begins with the name of the home
directory, which no load understands. -/
theorem Completion.accepted_file_loads (hnamed : files.IsNamed)
    (hargument : IsFirstArgument line argument)
    (hcandidate : candidate ∈ (ofLine files home line (octetCount line.toList)).candidates)
    (hfile : files.find (location home line.toList candidate) =
      .ok (place, .regular content mode)) :
    (Command.parse ((ofLine files home line (octetCount line.toList)).accept line candidate) =
        some (.load (some (Path.ofString (String.ofList (completed line.toList candidate))))) ↔
      written line.toList = (.none, argument) ∧
        ∀ c ∈ completed line.toList candidate, isWhiteSpace c = false ∧ c ∉ breakChars) ∧
    (¬ IsHomeRelative home line.toList →
      files.find (Path.ofString (String.ofList (completed line.toList candidate))) =
        .ok (place, .regular content mode)) ∧
    (IsHomeRelative home line.toList →
      files.node? (files.workingDirectory ++ [Utf8.encode "~"]) = none →
        ∀ found, files.find (Path.ofString (String.ofList (completed line.toList candidate))) ≠
          .ok found) := by
  rw [ofLine_eq_complete files home hargument] at hcandidate ⊢
  obtain ⟨place', found, hname, hfind, hcontinues, hreplacement⟩ :=
    exists_of_mem_complete hcandidate
  have hname := hnamed.of_mem_namesIn hname
  have hfound : found = (place, .regular content mode) := Except.ok.inj (hfind.symm.trans hfile)
  have hreplacement : candidate.replacement =
      String.ofList (escape (written line.toList).1 (completed line.toList candidate)) := by
    rw [hreplacement, hfound]
    simp [Node.isDirectory]
  have hdisplay : candidate.display ≠ "" := by
    intro hempty
    rw [hempty] at hname
    exact hname.1 rfl
  refine ⟨parse_accept_iff hargument hdisplay hcontinues hreplacement, ?_, ?_⟩
  · intro hhome
    exact find_completed hhome hname hfile
  · intro hhome hmissing
    exact find_completed_ne_ok hhome hmissing

end Accepted

/-! A directory with two files whose names begin alike; one of them has a dollar sign. -/

/-- The working directory is the root, and holds two files. -/
def sampleDirectory : FileTree where
  workingDirectory := []
  entries := [([Utf8.encode "ab"], .file [0x0A]), ([Utf8.encode "a$b"], .file [0x0A])]

theorem isNamed_sampleDirectory : sampleDirectory.IsNamed := by decide

theorem isFirstArgument_sample : Completion.IsFirstArgument "load a" ['a'] where
  split := ⟨[], [' '], rfl, by decide, by decide, by decide⟩
  first := by decide

theorem candidates_sampleDirectory :
    (Completion.ofLine sampleDirectory none "load a" (Completion.octetCount "load a".toList)) =
      ⟨5, [⟨"a$b", "a\\$b"⟩, ⟨"ab", "ab"⟩]⟩ := by
  cbv

/-- The file whose name is plain is loaded when its name is accepted. -/
theorem accepted_file_loads_plain_name :
    Command.parse ((Completion.ofLine sampleDirectory none "load a"
        (Completion.octetCount "load a".toList)).accept "load a" ⟨"ab", "ab"⟩) =
          some (.load (some (Path.ofString "ab"))) ∧
      sampleDirectory.find (Path.ofString "ab") =
        .ok ([Utf8.encode "ab"], .file [0x0A]) := by
  have hcandidate : (⟨"ab", "ab"⟩ : Candidate) ∈ (Completion.ofLine sampleDirectory none "load a"
      (Completion.octetCount "load a".toList)).candidates := by
    rw [candidates_sampleDirectory]
    decide
  have hfile : sampleDirectory.find (location none "load a".toList ⟨"ab", "ab"⟩) =
      .ok ([Utf8.encode "ab"], .file [0x0A]) := by cbv
  have hname : completed "load a".toList ⟨"ab", "ab"⟩ = ['a', 'b'] := by cbv
  have hpath : String.ofList (completed "load a".toList ⟨"ab", "ab"⟩) = "ab" := by cbv
  have hplain : ∀ c ∈ completed "load a".toList ⟨"ab", "ab"⟩,
      isWhiteSpace c = false ∧ c ∉ breakChars := by
    rw [hname]
    exact List.forall_mem_cons.mpr ⟨by decide, List.forall_mem_singleton.mpr (by decide)⟩
  obtain ⟨hiff, hfind, -⟩ := Completion.accepted_file_loads isNamed_sampleDirectory
    isFirstArgument_sample hcandidate hfile
  rw [hpath] at hiff hfind
  exact ⟨hiff.mpr ⟨by decide, hplain⟩, hfind fun hhome ↦ hhome.1 rfl⟩

/-- The other file is not loaded: the backslash that is put into the line before the dollar sign is
read as a part of the name, and there is no file of that name. -/
theorem not_accepted_file_loads :
    ¬ ∀ (files : FileTree) (home : Option Path) (line : String) (argument : List Char)
      (candidate : Candidate) (place : Place) (content : Bytes) (mode : Nat),
      files.IsNamed → Completion.IsFirstArgument line argument →
        candidate ∈ (Completion.ofLine files home line
          (Completion.octetCount line.toList)).candidates →
        files.find (location home line.toList candidate) = .ok (place, .regular content mode) →
          ∃ path, Command.parse ((Completion.ofLine files home line
              (Completion.octetCount line.toList)).accept line candidate) =
                some (.load (some path)) ∧
            files.find path = .ok (place, .regular content mode) := by
  intro hloads
  obtain ⟨path, hparse, hfind⟩ := hloads sampleDirectory none "load a" ['a'] ⟨"a$b", "a\\$b"⟩
    [Utf8.encode "a$b"] [0x0A] Node.usualMode isNamed_sampleDirectory isFirstArgument_sample
    (by rw [candidates_sampleDirectory]; decide) (by cbv)
  have hread : Command.parse ((Completion.ofLine sampleDirectory none "load a"
      (Completion.octetCount "load a".toList)).accept "load a" ⟨"a$b", "a\\$b"⟩) =
        some (.load (some (Path.ofString "a\\$b"))) := by
    rw [candidates_sampleDirectory]
    cbv
  have hmissing : sampleDirectory.find (Path.ofString "a\\$b") = .error (.refused .noEntry) := by
    cbv
  rw [hread] at hparse
  obtain rfl := Option.some.inj (Command.load.inj (Option.some.inj hparse))
  rw [hmissing] at hfind
  cases hfind

end ShellDebugger
