/-! # Suggestions for mistyped names

A known name is suggested when its Jaro similarity to the given one, `(m/|a| + m/|b| + (m - t)/m) / 3`
for `m` matches and `t` transpositions, exceeds `0.7`; suggestions go from least to most similar.
-/

namespace SwapDesk.Cli

/-- The matching of `a`'s characters into `b`: for each position of `a` in turn, the first
unused equal character of `b` within `range` positions. -/
def jaroMatches (a b : List Char) (range : Nat) : List Bool × List Bool :=
  let step (acc : List Bool × List Bool) (ci : Char × Nat) : List Bool × List Bool :=
    let (af, bf) := acc
    let (c, i) := ci
    let lo := i - range
    let hi := min b.length (i + range + 1)
    match (List.range' lo (hi - lo)).find? fun j => b.getD j ' ' == c && !bf.getD j true with
    | some j => (af.set i true, bf.set j true)
    | none => (af, bf)
  a.zipIdx.foldl step (List.replicate a.length false, List.replicate b.length false)

def jaro (s t : String) : Float :=
  let a := s.toList
  let b := t.toList
  if a.isEmpty && b.isEmpty then 1.0
  else if a.isEmpty || b.isEmpty then 0.0
  else
    let range := max a.length b.length / 2 - 1
    let (af, bf) := jaroMatches a b range
    let ma := (a.zip af).filterMap fun (c, f) => if f then some c else none
    let mb := (b.zip bf).filterMap fun (c, f) => if f then some c else none
    let m := ma.length
    if m == 0 then 0.0
    else
      let t := ((ma.zip mb).filter fun (x, y) => x != y).length / 2
      let mf := m.toFloat
      (mf / a.length.toFloat + mf / b.length.toFloat + (m - t).toFloat / mf) / 3.0

/-- The known names similar to a given one, least similar first, in their own order among
equals. -/
def similarNames (given : String) (known : List String) : List String :=
  let scored := known.filterMap fun k =>
    let c := jaro given k
    if c > 0.7 then some (c, k) else none
  (scored.mergeSort fun x y => x.1 <= y.1).map (·.2)

end SwapDesk.Cli
