import LocalServer.Text.Cut

/-!
# Similar texts

How similar two texts are is measured by what they have in common. The
longest block that stands in both is taken first; what stands before it in
the one text is then compared with what stands before it in the other, and
likewise what stands behind it. `common` counts the characters of all these
blocks. Two texts are **similar** if these make up at least three fifths of
both texts together.
-/

namespace LocalServer.Text

/-- The length of the longest common start. -/
def commonStart : List Char → List Char → Nat
  | c :: cs, d :: ds => if c = d then commonStart cs ds + 1 else 0
  | _, _ => 0

/-- **A block** that stands in two texts: where it starts in each, and its
length. -/
structure Block where
  /-- Where it starts in the left text. -/
  left : Nat
  /-- Where it starts in the right text. -/
  right : Nat
  /-- Its length. -/
  length : Nat

/-- The longest common block; of several the one that comes first in the
left text, and then in the right one. -/
def longestBlock (cs ds : List Char) : Block :=
  (List.range cs.length).foldl (fun best i =>
    (List.range ds.length).foldl (fun best j =>
      let n := commonStart (cs.drop i) (ds.drop j)
      if best.length < n then ⟨i, j, n⟩ else best) best) ⟨0, 0, 0⟩

/-- **The count of characters in common blocks.** -/
def common (cs ds : List Char) : Nat :=
  match longestBlock cs ds with
  | ⟨left, right, length⟩ =>
    if _h : 0 < length ∧ left < cs.length then
      length + common (cs.take left) (ds.take right)
        + common (cs.drop (left + length)) (ds.drop (right + length))
    else 0
termination_by cs.length
decreasing_by
  · simp only [List.length_take]; omega
  · simp only [List.length_drop]; omega

/-- A text has nothing in common with the empty text. -/
@[simp] theorem common_nil (ds : List Char) : common [] ds = 0 := by
  simp [common]

/-- **Whether two texts are similar.** Where even the whole of the shorter
text would be too little the blocks need not be looked for. -/
def isSimilar (cs ds : List Char) : Bool :=
  let enough := fun n => decide (3 * (cs.length + ds.length) ≤ 10 * n)
  enough (min cs.length ds.length) && enough (common cs ds)

/-- Whether `ds` comes before `es` when the texts that are most similar to
`cs` come first. Of two that are equally similar the later one in the
order of texts comes first. -/
def isCloser (cs ds es : List Char) : Bool :=
  let d := common ds cs * (es.length + cs.length)
  let e := common es cs * (ds.length + cs.length)
  e < d || (d == e && String.ofList es ≤ String.ofList ds)

/-- **The texts that are similar to a text**: at most `count` of the given
ones, the most similar ones, in the order of texts. -/
def similarTo (s : String) (count : Nat) (candidates : List String) : List String :=
  let close := candidates.filter fun d => isSimilar d.toList s.toList
  let best := (close.mergeSort fun d e => isCloser s.toList d.toList e.toList).take count
  best.mergeSort fun d e => d ≤ e

end LocalServer.Text
