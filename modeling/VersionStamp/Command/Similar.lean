/-! # Similar words: the known option or value that the command line suggests for an unknown one. -/

namespace VersionStamp.Command

/-- For each position of `a`, whether it matched, and the same for `b`, pairing each character
of `a` with the first free equal character of `b` within `range`. -/
def jaroFlags (a b : Array Char) (range : Nat) : Array Bool × Array Bool :=
  (List.range a.size).foldl (fun (af, bf) i =>
    let lo := i - range
    let hi := min b.size (i + range + 1)
    let c := a.getD i ' '
    match (List.range' lo (hi - lo)).find? (fun j => b.getD j ' ' == c && !bf.getD j true) with
    | some j => (af.setIfInBounds i true, bf.setIfInBounds j true)
    | none => (af, bf))
    (Array.replicate a.size false, Array.replicate b.size false)

/-- The characters at the flagged positions, in order. -/
def flagged (cs : Array Char) (flags : Array Bool) : List Char :=
  (cs.toList.zip flags.toList).filterMap fun (c, f) => if f then some c else none

/-- The Jaro similarity of two texts, in binary64 floating point: characters match when equal and
not farther apart than half the longer length less one, each at most once, and half the matched
characters out of order are transpositions. -/
def jaro (s t : String) : Float :=
  let a := s.toList.toArray
  let b := t.toList.toArray
  if a.size = 0 ∧ b.size = 0 then 1.0
  else if a.size = 0 ∨ b.size = 0 then 0.0
  else
    let range := max a.size b.size / 2 - 1
    let (af, bf) := jaroFlags a b range
    let am := flagged a af
    let bm := flagged b bf
    let m := am.length
    let halfSwaps := ((am.zip bm).filter fun (x, y) => x != y).length / 2
    if m = 0 then 0.0
    else
      let mf := m.toFloat
      (mf / a.size.toFloat + mf / b.size.toFloat + (m - halfSwaps).toFloat / mf) / 3.0

/-- The known word to suggest for `word`: one whose similarity is above `0.7`; of several, the
most similar, and of equally similar ones the last. -/
def suggest? (word : String) (known : List String) : Option String :=
  let best := known.foldl (fun (best : Option (Float × String)) k =>
    let score := jaro word k
    if score > 0.7 then
      match best with
      | some (top, _) => if score ≥ top then some (score, k) else best
      | none => some (score, k)
    else best) none
  best.map Prod.snd

end VersionStamp.Command
