import Exchange.Regex.WordTable

/-! # Classes without regard to case

A class that disregards case holds with a letter all its cases.
-/

namespace Exchange.Regex

open Exchange.Text (CodeRanges)

namespace FoldRun

/-- Does the run list the code point? -/
def holds (run : FoldRun) (n : Nat) : Bool :=
  run.first ≤ n && n ≤ run.last && (n - run.first) % run.step == 0

/-- The code points that the run lists. -/
def members (run : FoldRun) : List Nat :=
  (List.range ((run.last - run.first) / run.step + 1)).map fun i => run.first + i * run.step

/-- The code points of the run of which a set holds this or the other case. -/
def reached (run : FoldRun) (set : CodeRanges) : List Nat :=
  if set.within run.first run.last = [] ∧
      set.within (run.first + run.shift) (run.last + run.shift) = [] then []
  else run.members.filter fun n => set.contains n || set.contains (n + run.shift)

end FoldRun

/-- The first cases of the letters of which a set holds some case. -/
def firstCases (set : CodeRanges) : List Nat := foldRuns.flatMap (·.reached set)

/-- The set with all cases of its letters. -/
def fold (set : CodeRanges) : CodeRanges :=
  let firsts := firstCases set
  if firsts = [] then set
  else
    let others := foldRuns.flatMap fun run =>
      (firsts.filter run.holds).map fun n => (n + run.shift, n + run.shift)
    CodeRanges.ofList (set ++ firsts.map (fun n => (n, n)) ++ others)

/-- The set with both cases of its ASCII letters. -/
def foldAscii (set : CodeRanges) : CodeRanges :=
  let upper := set.within 0x41 0x5A
  let lower := set.within 0x61 0x7A
  CodeRanges.ofList (set ++ upper.map (fun (low, high) => (low + 32, high + 32)) ++
    lower.map fun (low, high) => (low - 32, high - 32))

end Exchange.Regex
