import Mathlib.Data.List.Basic
import ShellDebugger.Host.FileTree
import ShellDebugger.Proofs.Host.Results

/-!
# Paths in the working directory

A name leads where it leads in the working directory, and a path whose first name is not there leads
nowhere.
-/

namespace ShellDebugger

/-- Every name in a tree is one: it is not empty, and no separator is in it. -/
def FileTree.IsNamed (tree : FileTree) : Prop :=
  ∀ entry ∈ tree.entries, ∀ name ∈ entry.1, name ≠ [] ∧ Path.separator ∉ name

instance (tree : FileTree) : Decidable tree.IsNamed :=
  inferInstanceAs (Decidable
    (∀ entry ∈ tree.entries, ∀ name ∈ entry.1, name ≠ [] ∧ Path.separator ∉ name))

namespace Path

variable {name rest : Bytes}

theorem isAbsolute_eq_false (hname : separator ∉ name) : (⟨name⟩ : Path).isAbsolute = false := by
  rw [isAbsolute, beq_eq_false_iff_ne]
  intro hhead
  exact hname (List.mem_of_head? hhead)

/-- The first name of a path is what stands before its first separator. -/
theorem names_append_separator (hname : separator ∉ name) (rest : Bytes) :
    names ⟨name ++ separator :: rest⟩ = name :: names ⟨rest⟩ :=
  List.splitOn_append_cons_self_of_not_mem hname rest

theorem names_ne_nil (path : Path) : path.names ≠ [] :=
  List.splitOn_ne_nil _ _

end Path

namespace FileTree

variable {tree : FileTree} {place : Place} {node : Node} {name rest : Bytes}

/-- A name that a directory of the tree has is one. -/
theorem IsNamed.of_mem_namesIn (hnamed : tree.IsNamed) (hname : name ∈ tree.namesIn place) :
    name ≠ [] ∧ Path.separator ∉ name := by
  obtain ⟨⟨entry, node⟩, hentry, hlast⟩ := List.mem_filterMap.mp hname
  dsimp only at hlast
  split at hlast
  · next name' heq =>
    split at hlast
    · obtain rfl := Option.some.inj hlast
      exact hnamed _ hentry name' (List.mem_of_getLast? heq)
    · cases hlast
  · cases hlast

theorem find_eq_ok_iff {path : Path} :
    tree.find path = .ok (place, node) ↔
      tree.resolve true path = .ok place ∧ tree.node? place = some node := by
  rw [find, bind_eq_ok_iff]
  constructor
  · rintro ⟨place', hresolve, hnode⟩
    split at hnode
    · next heq =>
      cases hnode
      exact ⟨hresolve, heq⟩
    · cases hnode
  · rintro ⟨hresolve, hnode⟩
    exact ⟨place, hresolve, by rw [hnode]⟩

/-- What a path resolves to is where a walk along its names ends. -/
theorem resolve_eq_ok_iff {path : Path} {follow : Bool} :
    tree.resolve follow path = .ok place ↔
      0 ∉ path.octets ∧ path.octets ≠ [] ∧ path.octets.length ≤ pathLimit ∧
        tree.walk follow linkLimit (if path.isAbsolute then [] else tree.workingDirectory)
          path.names = .ok place := by
  unfold resolve
  by_cases hnul : 0 ∈ path.octets
  · simp [hnul]
  by_cases hempty : path.octets = []
  · simp [hempty]
  by_cases hlong : pathLimit < path.octets.length
  · simp [hnul, hempty, hlong, Nat.not_le.mpr hlong]
  · simp [hnul, hempty, hlong, mapError_eq_ok_iff, Nat.le_of_not_lt hlong]

/-- A name that leads somewhere from the working directory leads there by itself. -/
theorem find_of_find_dot (hname : name ≠ []) (hseparator : Path.separator ∉ name)
    (hfind : tree.find ⟨Path.dot :: Path.separator :: name⟩ = .ok (place, node)) :
    tree.find ⟨name⟩ = .ok (place, node) := by
  obtain ⟨hresolve, hnode⟩ := find_eq_ok_iff.mp hfind
  obtain ⟨hnul, -, hlength, hwalk⟩ := resolve_eq_ok_iff.mp hresolve
  have hnames : Path.names ⟨Path.dot :: Path.separator :: name⟩ =
      [Path.dot] :: Path.names ⟨name⟩ := by
    have hdot : Path.separator ∉ [Path.dot] := by decide
    exact Path.names_append_separator hdot name
  have hstart : (⟨Path.dot :: Path.separator :: name⟩ : Path).isAbsolute = false := rfl
  rw [hnames, hstart, walk] at hwalk
  refine find_eq_ok_iff.mpr ⟨resolve_eq_ok_iff.mpr ⟨?_, hname, ?_, ?_⟩, hnode⟩
  · exact fun hmem ↦ hnul (List.mem_cons_of_mem _ (List.mem_cons_of_mem _ hmem))
  · simp only [List.length_cons] at hlength ⊢
    omega
  · rw [Path.isAbsolute_eq_false hseparator]
    exact hwalk

/-- A path below a name that the working directory does not have leads nowhere. -/
theorem find_ne_ok_of_missing (hname : name ≠ []) (hseparator : Path.separator ∉ name)
    (hdot : name ≠ [Path.dot]) (hdots : name ≠ [Path.dot, Path.dot])
    (hmissing : tree.node? (tree.workingDirectory ++ [name]) = none) (found : Place × Node) :
    tree.find ⟨name ++ Path.separator :: rest⟩ ≠ .ok found := by
  intro hfind
  obtain ⟨hresolve, -⟩ := find_eq_ok_iff.mp hfind
  obtain ⟨-, -, -, hwalk⟩ := resolve_eq_ok_iff.mp hresolve
  have hstart : (⟨name ++ Path.separator :: rest⟩ : Path).isAbsolute = false := by
    obtain ⟨octet, name, rfl⟩ := List.exists_cons_of_ne_nil hname
    have hoctet : octet ≠ Path.separator := fun heq ↦ hseparator (heq ▸ List.mem_cons_self)
    simp [Path.isAbsolute, hoctet]
  rw [Path.names_append_separator hseparator, hstart, walk] at hwalk
  have hrest : (Path.names ⟨rest⟩).isEmpty = false := by
    simpa using Path.names_ne_nil ⟨rest⟩
  have hskip : (name.isEmpty || name == [Path.dot]) = false := by simp [hname, hdot]
  have hclimb : (name == [Path.dot, Path.dot]) = false := beq_eq_false_iff_ne.mpr hdots
  change (if (name.isEmpty || name == [Path.dot]) = true then _
    else if (name == [Path.dot, Path.dot]) = true then _ else _) = Except.ok _ at hwalk
  rw [hskip, hclimb, if_neg Bool.false_ne_true, if_neg Bool.false_ne_true] at hwalk
  split at hwalk
  · cases hwalk
  · simp [hmissing, hrest] at hwalk

end FileTree

end ShellDebugger
