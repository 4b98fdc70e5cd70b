/-!
# Similarity of texts

Two characters are partners if they are equal and their places differ by less than half the length
of the longer text. Every character of the first text takes its first free partner in the second
one. The similarity of two texts is the mean of three shares: of the characters of either text that
have a partner, and of the partners that stand in the same order.

## Main definitions

* `Text.partners`: the characters of two texts that are partners, each in the order of its text
* `Text.similarity`: the similarity of two texts, between 0 and 1
-/

namespace ScriptSandbox.Text

/-- Marks the first free occurrence of a character between the places `low` and `high`. The first
character of the text stands at `place`. -/
def mark (c : Char) (low high : Nat) :
    (place : Nat) → List (Char × Bool) → Option (List (Char × Bool))
  | _, [] => none
  | place, (d, taken) :: t =>
    if low ≤ place ∧ place ≤ high ∧ d = c ∧ !taken then some ((d, true) :: t)
    else (mark c low high (place + 1) t).map ((d, taken) :: ·)

/-- The characters of a text, of which the first stands at `place`, that find a partner in another
one, and the other one with all partners marked. -/
def choosePartners (range : Nat) :
    (place : Nat) → List Char → List (Char × Bool) → List Char × List (Char × Bool)
  | _, [], t => ([], t)
  | place, c :: s, t =>
    match mark c (place - range) (place + range) 0 t with
    | some t =>
      let (found, t) := choosePartners range (place + 1) s t
      (c :: found, t)
    | none => choosePartners range (place + 1) s t

/-- The characters of two texts that are partners, each in the order of its text. -/
def partners (s t : List Char) : List Char × List Char :=
  let range := max s.length t.length / 2 - 1
  let (found, t) := choosePartners range 0 s (t.map (·, false))
  (found, (t.filter (·.2)).map (·.1))

/-- The similarity of two texts. -/
def similarity (s t : List Char) : Float :=
  let (inS, inT) := partners s t
  let common := inS.length
  let moved := ((inS.zip inT).filter fun (a, b) => a ≠ b).length / 2
  if s.isEmpty ∧ t.isEmpty then 1
  else if common = 0 then 0
  else
    let share (n total : Nat) : Float := n.toFloat / total.toFloat
    (share common s.length + share common t.length + share (common - moved) common) / 3

end ScriptSandbox.Text
