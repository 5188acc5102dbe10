import Mathlib.Data.UInt
import ShellDebugger.Proofs.Text.Utf8
import ShellDebugger.Session.ScriptPipe

/-!
# The names of script pipes

The name of a script pipe has no separator in it, so it is what follows the last separator of the
path of the pipe, whatever the directory. The number that was drawn for the pipe can be read off the
name: paths of different numbers are different.
-/

namespace ShellDebugger

/-! ## The last name of a path -/

namespace Path

/-- What follows the last separator of a path. -/
def lastName (path : Path) : Bytes :=
  (path.octets.reverse.takeWhile (· != separator)).reverse

variable {child : Bytes}

theorem takeWhile_reverse_append (hchild : separator ∉ child) (above : Bytes) :
    (above ++ child).reverse.takeWhile (· != separator) =
      child.reverse ++ above.reverse.takeWhile (· != separator) := by
  rw [List.reverse_append, List.takeWhile_append_of_pos]
  intro octet hoctet
  rw [bne_iff_ne]
  rintro rfl
  exact hchild (List.mem_reverse.mp hoctet)

theorem lastName_eq (hchild : separator ∉ child) : lastName ⟨child⟩ = child := by
  have h := takeWhile_reverse_append hchild []
  rw [List.nil_append, List.reverse_nil, List.takeWhile_nil, List.append_nil] at h
  rw [lastName, h, List.reverse_reverse]

theorem lastName_concat_append (hchild : separator ∉ child) (above : Bytes) :
    lastName ⟨above ++ [separator] ++ child⟩ = child := by
  rw [lastName, takeWhile_reverse_append hchild, List.reverse_concat,
    List.takeWhile_cons_of_neg (by simp), List.append_nil, List.reverse_reverse]

/-- The last name of a path in a directory is the name that it has there. -/
theorem lastName_join (hchild : separator ∉ child) (directory : Path) :
    (directory / (⟨child⟩ : Path)).lastName = child := by
  change (join directory ⟨child⟩).lastName = child
  have hrelative : (⟨child⟩ : Path).isAbsolute = false := by
    rw [isAbsolute, beq_eq_false_iff_ne]
    intro hhead
    exact hchild (List.mem_of_head? hhead)
  rw [join, hrelative, if_neg Bool.false_ne_true]
  split
  · rename_i hbase
    rcases Bool.or_eq_true_iff.mp hbase with hempty | hends
    · rw [List.isEmpty_iff.mp hempty, List.nil_append]
      exact lastName_eq hchild
    · obtain ⟨above, habove⟩ := List.getLast?_eq_some_iff.mp (beq_iff_eq.mp hends)
      rw [habove]
      exact lastName_concat_append hchild above
  · rw [List.append_cons]
    exact lastName_concat_append hchild directory.octets

end Path

/-! ## Names -/

namespace ScriptPipe

variable (processId : Nat)

theorem toList_name (number : UInt64) :
    (name processId number).toList =
      "buggywhip-".toList ++
        (Nat.toDigits 10 processId ++ '-' :: Nat.toDigits 10 number.toNat) := by
  have htext : name processId number =
      "buggywhip-" ++ Nat.repr processId ++ "-" ++ Nat.repr number.toNat := rfl
  rw [htext]
  simp only [String.toList_append, Nat.repr_eq_ofList_toDigits, String.toList_ofList,
    List.append_assoc]
  rfl

theorem name_injective : Function.Injective (name processId) := by
  intro number number' h
  have hchars := congrArg String.toList h
  rw [toList_name, toList_name] at hchars
  have hdigits := (List.cons.inj (List.append_cancel_left (List.append_cancel_left hchars))).2
  apply UInt64.toNat_inj.mp
  calc
    number.toNat = Nat.ofDigitChars 10 (Nat.toDigits 10 number.toNat) 0 :=
      Nat.ofDigitChars_ten_toDigits.symm
    _ = Nat.ofDigitChars 10 (Nat.toDigits 10 number'.toNat) 0 := by rw [hdigits]
    _ = number'.toNat := Nat.ofDigitChars_ten_toDigits

theorem separator_notMem_name (number : UInt64) :
    Path.separator ∉ Utf8.encode (name processId number) := by
  intro hmem
  have hslash := Utf8.mem_of_mem_encodeChars (by decide) hmem
  rw [toList_name, List.mem_append, List.mem_append, List.mem_cons] at hslash
  have hdigit {n : Nat} : '/' ∉ Nat.toDigits 10 n := fun h ↦
    absurd (Nat.isDigit_of_mem_toDigits (by decide) (by decide) h) (by decide)
  rcases hslash with hprefix | hprocess | hdash | hnumber
  · exact absurd hprefix (by decide)
  · exact hdigit hprocess
  · exact absurd hdash (by decide)
  · exact hdigit hnumber

/-- Pipes of one process that have the same path have the same number. -/
theorem number_eq_of_pathOf_eq {directory directory' : Path} {number number' : UInt64}
    (h : pathOf directory processId number = pathOf directory' processId number') :
    number = number' := by
  have hlast (directory : Path) (number : UInt64) :
      (pathOf directory processId number).lastName = Utf8.encode (name processId number) :=
    Path.lastName_join (separator_notMem_name processId number) directory
  have hnames := congrArg Path.lastName h
  rw [hlast, hlast] at hnames
  exact name_injective processId (Utf8.encode_injective hnames)

end ScriptPipe
end ShellDebugger
