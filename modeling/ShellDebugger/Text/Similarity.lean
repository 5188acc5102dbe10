/-!
# Similar words

How alike two words are: the share of letters that the words have in common at nearly the same
place, less those that are out of order. A similarity is a number between 0 and 1, reckoned in
floating point, so that a similarity of exactly seven tenths comes out a little above that.
-/

namespace ShellDebugger.Similarity

/-- The place of the first letter at or after `low` and before `high` that is the letter wanted and
was not taken. -/
def findFree (letter : Char) (taken : List Nat) (low high : Nat) (word : List Char) : Option Nat :=
  (word.zipIdx.find? fun (c, i) ↦ low ≤ i && i < high && c == letter && !taken.contains i).map (·.2)

/-- The places of letters that two words have in common, pair by pair in the order of the first
word: each letter is paired with the first one like it that is free and less than `range + 1`
places off. -/
def pairs (range : Nat) (word : List Char) (taken : List Nat) :
    List (Char × Nat) → List (Nat × Nat)
  | [] => []
  | (c, i) :: rest =>
    match findFree c taken (i - range) (i + range + 1) word with
    | some j => (i, j) :: pairs range word (j :: taken) rest
    | none => pairs range word taken rest

def ratio (a b : Nat) : Float := Float.ofNat a / Float.ofNat b

/-- The similarity of two words: the mean of the shares of common letters in either word and of
the share of those that are in order. -/
def similarity (a b : String) : Float :=
  let a := a.toList
  let b := b.toList
  if a.isEmpty && b.isEmpty then 1
  else
    let range := max a.length b.length / 2 - 1
    let common := pairs range b [] a.zipIdx
    let m := common.length
    if m = 0 then 0
    else
      let inOrder := (common.map (·.2)).mergeSort.filterMap (b[·]?)
      let outOfOrder := ((common.filterMap (a[·.1]?)).zip inOrder).countP fun (x, y) ↦ x != y
      (ratio m a.length + ratio m b.length + ratio (m - outOfOrder / 2) m) / 3

/-- The similarity of words that may be mistaken for one another is above this. -/
def threshold : Float := 0.7

/-- The entry that is named by the word most like a word, if one is alike enough. Of several that
are equally alike the last counts. -/
def mostSimilar? {α : Type} (name : α → String) (word : String) (entries : List α) : Option α :=
  let better (best : Option (Float × α)) (entry : α) : Option (Float × α) :=
    let s := similarity word (name entry)
    if s ≤ threshold then best
    else
      match best with
      | some (t, _) => if s < t then best else some (s, entry)
      | none => some (s, entry)
  (entries.foldl better none).map (·.2)

end ShellDebugger.Similarity
