/-!
# Similar texts

How much two texts have in common: the characters of their longest common run, and of the texts before
and behind it. A word is similar to another if more than a given share is common to both.
-/

namespace Transplant.Text

/-- The number of characters at the start that two texts share. -/
def sharedStart : List Char → List Char → Nat
  | a :: as, b :: bs => if a = b then sharedStart as bs + 1 else 0
  | _, _ => 0

/-- The longest run that two texts share, the first one if there are several: its place in each of them
and its length. -/
def sharedRun (a b : List Char) : Nat × Nat × Nat :=
  let starts := (List.range a.length).flatMap fun i =>
    (List.range b.length).map fun j => (i, j, sharedStart (a.drop i) (b.drop j))
  starts.foldl (fun best run => if best.2.2 < run.2.2 then run else best) (0, 0, 0)

/-- The number of characters that two texts share; every run shortens the first text. -/
def sharedWithin : (fuel : Nat) → List Char → List Char → Nat
  | 0, _, _ => 0
  | fuel + 1, a, b =>
    let (i, j, n) := sharedRun a b
    if n = 0 then 0
    else sharedWithin fuel (a.take i) (b.take j) + n +
      sharedWithin fuel (a.drop (i + n)) (b.drop (j + n))

/-- The number of characters that two texts share. -/
def shared (a b : List Char) : Nat :=
  sharedWithin (a.length + 1) a b

/-- Whether at least three fifths of two texts are shared. -/
def isSimilar (a b : String) : Bool :=
  3 * (a.length + b.length) ≤ 10 * shared a.toList b.toList

/-- The texts that are similar to a word, at most the three closest of them, in their order. -/
def similarTo (word : String) (candidates : List String) : List String :=
  let close := candidates.filter fun c => isSimilar c word
  let closer (a b : String) : Bool :=
    shared b.toList word.toList * (a.length + word.length)
      ≤ shared a.toList word.toList * (b.length + word.length)
  let nearest := (close.mergeSort closer).take 3
  nearest.mergeSort fun a b => decide (a ≤ b)

end Transplant.Text
