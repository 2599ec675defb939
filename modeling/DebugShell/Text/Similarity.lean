/-!
# The Jaro similarity of two texts

Two characters of the texts match when they are equal and stand at most half the longer text, less
one, apart. The similarity is the mean of three shares: of the first text that matches, of the
second text that matches, and of the matches that come in the same order in both.
-/

namespace DebugShell.Text

/-- The index of the first unused `c` of `bs` from `lo` on and before `hi`, where `i` is the index
of the head of `bs`. -/
def matchIndex? (c : Char) (lo hi : Nat) (used : List Nat) : Nat → List Char → Option Nat
  | _, [] => none
  | i, b :: bs =>
    if hi ≤ i then none
    else if lo ≤ i ∧ b = c ∧ i ∉ used then some i
    else matchIndex? c lo hi used (i + 1) bs

/-- The matching pairs of `as` and `bs`: the matched characters of `as`, in order, and the indices
of their partners. -/
def matchesFrom (range : Nat) (bs : List Char) : Nat → List Nat → List Char → List (Char × Nat)
  | _, _, [] => []
  | i, used, a :: as =>
    match matchIndex? a (i - range) (i + range + 1) used 0 bs with
    | some j => (a, j) :: matchesFrom range bs (i + 1) (j :: used) as
    | none => matchesFrom range bs (i + 1) used as

/-- The Jaro similarity, between zero and one. -/
def similarity (as bs : List Char) : Float :=
  if as = [] ∧ bs = [] then 1.0
  else
    let range := max as.length bs.length / 2 - 1
    let pairs := matchesFrom range bs 0 [] as
    let partners := (List.range bs.length).filter fun j => pairs.any fun p => p.2 == j
    let inOrder := partners.filterMap fun j => bs[j]?
    let displaced := ((pairs.map (·.1)).zip inOrder).countP fun (a, b) => a != b
    let m := pairs.length
    if m = 0 then 0.0
    else
      (m.toFloat / as.length.toFloat + m.toFloat / bs.length.toFloat +
        (m - displaced / 2).toFloat / m.toFloat) / 3.0

/-- The candidate most similar to `given`, if one has a similarity above seven tenths; the last of
several that are equally similar. -/
def mostSimilar? (given : List Char) (candidates : List String) : Option String :=
  let better (best : Option (Float × String)) (candidate : String) : Option (Float × String) :=
    let score := similarity given candidate.toList
    if score > 0.7 then
      match best with
      | some (top, _) => if top > score then best else some (score, candidate)
      | none => some (score, candidate)
    else best
  (candidates.foldl better none).map (·.2)

end DebugShell.Text
