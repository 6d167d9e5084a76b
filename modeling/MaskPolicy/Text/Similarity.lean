import MaskPolicy.Text.Basic

/-!
# Similar texts

Two texts are compared by the characters they have in common: those of their longest common run,
and, on the two sides of it, those that the rests have in common. Texts are similar when three
fifths of their characters, taken together, are common.
-/

namespace MaskPolicy.Text

/-- The length of the common start of two texts. -/
def commonStart : Text → Text → Nat
  | a :: as, b :: bs => if a = b then commonStart as bs + 1 else 0
  | _, _ => 0

/-- A run of characters that two texts share: its place in each of them and its length. -/
structure CommonRun where
  left : Nat
  right : Nat
  size : Nat
  deriving DecidableEq, Repr

/-- The longest common run of two texts, the leftmost one if there are several. -/
def longestRun (a b : Text) : CommonRun :=
  let places := (List.range a.length).flatMap fun i => (List.range b.length).map fun j => (i, j)
  places.foldl
    (fun best (i, j) =>
      let size := commonStart (a.drop i) (b.drop j)
      if best.size < size then ⟨i, j, size⟩ else best)
    ⟨0, 0, 0⟩

/-- The number of common characters of two texts, found in at most as many steps as given. -/
def commonWithin : Nat → Text → Text → Nat
  | 0, _, _ => 0
  | steps + 1, a, b =>
    let run := longestRun a b
    if run.size = 0 then 0
    else commonWithin steps (a.take run.left) (b.take run.right) + run.size +
      commonWithin steps (a.drop (run.left + run.size)) (b.drop (run.right + run.size))

/-- The number of common characters of two texts. Each step uses up a character of the first text.
-/
def common (a b : Text) : Nat := commonWithin a.length a b

/-- Are three fifths of the characters of two texts common? -/
def isSimilar (a b : Text) : Bool := 3 * (a.length + b.length) ≤ 10 * common a b

/-- Is the first of two pairs of candidates, each with its similarity to a word, to be preferred?
The similarity of a candidate is the share of common characters; of equally similar ones the later
in alphabetical order is preferred. -/
def isCloser (word a b : Text) : Bool :=
  let left := common a word * (b.length + word.length)
  let right := common b word * (a.length + word.length)
  right < left || (left = right && (String.ofList b < String.ofList a : Bool))

/-- The three candidates closest to a word among those similar to it, the closest first. -/
def similarTo (word : Text) (candidates : List Text) : List Text :=
  ((candidates.filter fun c => isSimilar c word).mergeSort fun a b => !isCloser word b a).take 3

end MaskPolicy.Text
