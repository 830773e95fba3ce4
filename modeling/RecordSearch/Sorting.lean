/-
  RecordSearch.Sorting
  ────────────────────
  **Sorting by a comparison that need not be an order.**

  The sort is stable: elements that tie stay as they were. Few elements are sorted by insertion.
  More of them are cut into runs, and runs are merged two by two. A run is what the list brings
  sorted already; where that is too short, the run is sorted when it is met (`nextRun`), or left
  as it is until it has to be merged, and then it is partitioned by a pivot (`sortParted`). Short
  pieces are sorted by insertion in two halves, which are merged from both ends at once.

      stableSort order xs   — by insertion
      mergeEnds order       — two halves, from both ends
      sortParted order      — by partition
      sortRuns order        — by runs
      trySort order xs      — the sorted list, unless the sort gives up

  A comparison that is no order can make `mergeEnds` take an element from both ends, or none; then
  the sort gives up. Which pivots are tried and which runs are merged first changes nothing for a
  comparison that is an order, and decides for another one what comes out.
-/
import RecordSearch.Number.Power

namespace RecordSearch

section Sorting

variable {β : Type} (order : β → β → Ordering)

/-! ## §1. Insertion. -/

/-- Inserts an element into a list that is sorted from its end: behind those that it comes before,
in front of those that it ties with or follows. -/
def insertLast (x : β) : List β → List β
  | [] => [x]
  | y :: ys => if order x y = .lt then y :: insertLast x ys else x :: y :: ys

/-- **A stable sort.** Each element moves left past those that it comes before. -/
def stableSort (xs : List β) : List β :=
  (xs.foldl (fun sorted x => insertLast order x sorted) []).reverse

/-! ## §2. Merging. -/

/-- Merges two lists from their fronts. Of elements that tie, those of the first list come
first. -/
def mergeFront (xs ys : List β) : List β := xs.merge ys fun x y => order y x ≠ .lt

/-- Merges two lists from their ends. -/
def mergeBack (xs ys : List β) : List β :=
  (mergeFront (flip order) ys.reverse xs.reverse).reverse

/-- Merges two lists, starting where the shorter one is. -/
def mergeSorted (xs ys : List β) : List β :=
  if xs.length ≤ ys.length then mergeFront order xs ys else mergeBack order xs ys

/-- Takes a number of elements from the fronts of two lists that are being merged: what is taken,
and what is left of each. -/
def takeFront : Nat → List β → List β → List β × List β × List β
  | n + 1, x :: xs, y :: ys =>
    if order y x = .lt then
      let (taken, left) := takeFront n (x :: xs) ys
      (y :: taken, left)
    else
      let (taken, left) := takeFront n xs (y :: ys)
      (x :: taken, left)
  | _, xs, ys => ([], xs, ys)

/-- **Merges two halves from both ends.** One half of all elements is taken from the front and one
from the end, which leaves at most one between them. Elements that are taken from both ends are
found by counting. -/
def mergeEnds (xs ys : List β) : Option (List β) :=
  let half := (xs.length + ys.length) / 2
  let (front, xs₁, ys₁) := takeFront order half xs ys
  let (back, ys₂, xs₂) := takeFront (flip order) half ys.reverse xs.reverse
  if xs.length ≤ xs₁.length + xs₂.length ∧ ys.length ≤ ys₁.length + ys₂.length then
    some (front ++ xs₁.take (xs₁.length + xs₂.length - xs.length) ++
      ys₁.take (ys₁.length + ys₂.length - ys.length) ++ back.reverse)
  else none

/-! ## §3. Short pieces. -/

/-- Two elements, in order. -/
def sortPair (a b : β) : β × β := if order b a = .lt then (b, a) else (a, b)

/-- Merges two pairs that are sorted: the smaller of the first elements is the first one, the larger
of the last ones the last one, and the two that are left stand between. -/
def mergePairs (p q : β × β) : List β :=
  let enclose := fun first (pair : β × β) last => [first, pair.1, pair.2, last]
  if order q.1 p.1 = .lt then
    if order q.2 p.2 = .lt then enclose q.1 (sortPair order p.1 q.2) p.2
    else enclose q.1 (sortPair order p.1 p.2) q.2
  else
    if order q.2 p.2 = .lt then enclose p.1 (sortPair order q.1 q.2) p.2
    else enclose p.1 (sortPair order p.2 q.1) q.2

/-- Four elements, by five comparisons. -/
def sortFour (a b c d : β) : List β := mergePairs order (sortPair order a b) (sortPair order c d)

/-- Sorts one half of a short piece by insertion. The first four elements are sorted beforehand
where the piece has eight of them. -/
def sortHalf (fourFirst : Bool) (xs : List β) : List β :=
  match fourFirst, xs with
  | true, a :: b :: c :: d :: xs =>
    (xs.foldl (fun sorted x => insertLast order x sorted) (sortFour order a b c d).reverse).reverse
  | _, xs => stableSort order xs

/-- How many elements a short piece has at most. -/
def shortLength : Nat := 32

/-- **Sorts a short piece**: each half, and then both. -/
def sortShort (xs : List β) : Option (List β) :=
  if xs.length < 2 then some xs
  else
    let half := xs.length / 2
    let fourFirst := 8 ≤ xs.length
    mergeEnds order (sortHalf order fourFirst (xs.take half))
      (sortHalf order fourFirst (xs.drop half))

/-! ## §4. Partition. -/

/-- Which of three places the median of three elements has. -/
def medianOf (before : Nat → Nat → Bool) (a b c : Nat) : Nat :=
  if before a b = before a c then
    if before b c = before a b then b else c
  else a

/-- The place of a median of medians: each of the three places is the front of so many elements,
among which a median is looked for first if there are eight of them. -/
def medianNear (before : Nat → Nat → Bool) (a b c count : Nat) : Nat :=
  if 8 ≤ count then
    let step := count / 8
    let near := fun place =>
      medianNear before place (place + 4 * step) (place + 7 * step) step
    medianOf before (near a) (near b) (near c)
  else medianOf before a b c
termination_by count

/-- Does the element at one place of a list come before that at another? -/
def beforeAt (xs : List β) (i j : Nat) : Bool :=
  match xs[i]?, xs[j]? with
  | some x, some y => order x y = .lt
  | _, _ => false

/-- The place of the pivot. -/
def pivotAt (xs : List β) : Nat :=
  let eighth := xs.length / 8
  medianNear (beforeAt order xs) 0 (4 * eighth) (7 * eighth) eighth

/-- The elements around a pivot that pass a test, and the others with the pivot. -/
def partAround (p : β → Bool) (before : List β) (pivot : β) (after : List β) :
    List β × List β :=
  ((before ++ after).filter p, before.filter (!p ·) ++ pivot :: after.filter (!p ·))

/-- **Sorts by partition**, so many times at most, and otherwise in another way. The elements that
come before the pivot are sorted, and so are the others. Where there are none, or where all are
known to be behind an element that the pivot ties with, those that tie with the pivot are put
aside instead. -/
def sortParted (otherwise : List β → Option (List β)) :
    (times : Nat) → (behind : Option β) → List β → Option (List β)
  | 0, _, xs => if xs.length ≤ shortLength then sortShort order xs else otherwise xs
  | times + 1, behind, xs =>
    if xs.length ≤ shortLength then sortShort order xs
    else
      let place := pivotAt order xs
      match xs.drop place with
      | [] => none
      | pivot :: after =>
        let (smaller, others) :=
          partAround (fun x => order x pivot = .lt) (xs.take place) pivot after
        if behind.any (fun x => order x pivot ≠ .lt) || smaller.isEmpty then
          let (larger, tied) :=
            partAround (fun x => order pivot x = .lt) (xs.take place) pivot after
          (sortParted otherwise times none larger).map (tied ++ ·)
        else do
          let others ← sortParted otherwise times (some pivot) others
          let smaller ← sortParted otherwise times behind smaller
          return smaller ++ others

/-! ## §5. Runs. -/

/-- A piece of the list. -/
structure Run (β : Type) where
  items : List β
  /-- Is it sorted already? -/
  isSorted : Bool

/-- Behind an element, those that go on as it says, each with the next one; and what follows. -/
def runFrom (goesOn : β → β → Bool) : β → List β → List β × List β
  | _, [] => ([], [])
  | x, y :: ys =>
    if goesOn x y then
      let (run, rest) := runFrom goesOn y ys
      (y :: run, rest)
    else ([], y :: ys)

/-- What the list brings sorted, upwards or strictly downwards, turned upwards; and what
follows. -/
def frontRun : List β → List β × List β
  | x :: y :: ys =>
    if order y x = .lt then
      let (run, rest) := runFrom (fun a b => order b a = .lt) x (y :: ys)
      ((x :: run).reverse, rest)
    else
      let (run, rest) := runFrom (fun a b => order b a ≠ .lt) x (y :: ys)
      (x :: run, rest)
  | xs => (xs, [])

/-- **The run at the front of the list**, and what follows it. A run that the list brings is taken
if it is long enough. -/
def nextRun (enough : Nat) (atOnce : Bool) (xs : List β) : Option (Run β × List β) :=
  let (run, rest) := frontRun order xs
  if enough ≤ run.length then some (⟨run, true⟩, rest)
  else if atOnce then do
    return (⟨← sortShort order (xs.take shortLength), true⟩, xs.drop shortLength)
  else some (⟨xs.take enough, false⟩, xs.drop enough)

/-- The elements of a run, sorted. -/
def Run.finish (sort : List β → Option (List β)) (r : Run β) : Option (List β) :=
  if r.isSorted then some r.items else sort r.items

/-- Merges two runs. Two that are not sorted are only put together, if there is room to sort them
later. -/
def joinRuns (sort : List β → Option (List β)) (room : Nat) (left right : Run β) :
    Option (Run β) :=
  if room < left.items.length + right.items.length || left.isSorted || right.isSorted then do
    let xs ← left.finish sort
    let ys ← right.finish sort
    return ⟨mergeSorted order xs ys, true⟩
  else some ⟨left.items ++ right.items, false⟩

/-- Merges a run with those in front of it, as far as these are not less deep than `depth`. The
last run stands first; with each stands the depth of the cut behind it. -/
def joinBack (sort : List β → Option (List β)) (room depth : Nat) :
    List (Run β × Nat) → Run β → Option (List (Run β × Nat) × Run β)
  | (left, d) :: stack, r =>
    if depth ≤ d then do joinBack sort room depth stack (← joinRuns order sort room left r)
    else some ((left, d) :: stack, r)
  | [], r => some ([], r)

/-- The depth of the cut between two pieces in a balanced tree of merges over a list: how many
binary digits the middles of the pieces, as parts of the list, have in common. -/
def cutDepth (length start cut stop : Nat) : Nat :=
  let scale := (twoTo 62 + length - 1) / length
  63 - Nat.log2 ((scale * (start + cut)) ^^^ (scale * (cut + stop)))

/-- Goes on from a run that ends at `cut`: finds the next run, merges back as deep as the cut
between them lies, and in the end merges what is left. Each run takes at least one element. -/
def gatherRuns (sort : List β → Option (List β)) (room enough : Nat) (atOnce : Bool)
    (length : Nat) :
    (steps : Nat) → List (Run β × Nat) → Run β → (cut : Nat) → List β → Option (List β)
  | _, stack, r, _, [] => do
    let (_, r) ← joinBack order sort room 0 stack r
    r.finish sort
  | 0, _, _, _, _ => none
  | steps + 1, stack, r, cut, xs => do
    let (next, rest) ← nextRun order enough atOnce xs
    let stop := cut + next.items.length
    let depth := cutDepth length (cut - r.items.length) cut stop
    let (stack, r) ← joinBack order sort room depth stack r
    gatherRuns sort room enough atOnce length steps ((r, depth) :: stack) next stop rest

/-- A number near the root of another one. -/
def rootNear (n : Nat) : Nat :=
  let shift := (1 + Nat.log2 n) / 2
  ((1 <<< shift) + (n >>> shift)) / 2

/-- How long a run has to be. -/
def enoughFor (length : Nat) : Nat :=
  if length ≤ 4096 then min (length - length / 2) 64 else rootNear length

/-- **Sorts by runs.** -/
def sortRuns (sort : List β → Option (List β)) (room : Nat) (atOnce : Bool) (xs : List β) :
    Option (List β) := do
  let enough := enoughFor xs.length
  let (first, rest) ← nextRun order enough atOnce xs
  gatherRuns order sort room enough atOnce xs.length xs.length [] first first.items.length rest

/-! ## §6. The sort. -/

/-- Sorts by partition, and by runs that are sorted at once where too many pivots were bad. -/
def sortByPivots (xs : List β) : Option (List β) :=
  let limit := 2 * Nat.log2 (xs.length ||| 1)
  sortParted order (sortRuns order (sortShort order) 0 true) limit none xs

/-- How many elements there is room for beside the list. -/
def roomFor (length : Nat) : Nat := max (length - length / 2) (min length 250000)

/-- Sorts a list that is not short. -/
def sortLong (xs : List β) : Option (List β) :=
  sortRuns order (sortByPivots order) (roomFor xs.length) (xs.length ≤ 2 * shortLength) xs

/-- The order of the elements at two places of a list. -/
def orderAt (xs : List β) (i j : Nat) : Ordering :=
  match xs[i]?, xs[j]? with
  | some x, some y => order x y
  | _, _ => .eq

/-- **The sorted list, unless the sort gives up.** Elements are told apart by their order alone, so
the places of a list are sorted in their stead. -/
def trySort (xs : List β) : Option (List β) :=
  if xs.length ≤ 20 then some (stableSort order xs)
  else (sortLong (orderAt order xs) (List.range xs.length)).map fun places =>
    places.filterMap (xs[·]?)

end Sorting

end RecordSearch
