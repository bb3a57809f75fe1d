/-!
Punycode: a text in letters, digits and hyphens. The characters of ASCII come first, then a hyphen,
then the others from the lowest code to the highest. Each of those is written as a distance from the
one before it, counted over all codes and all places where it could stand, in digits of base 36
whose thresholds follow the distances written so far.
-/

namespace SchoolNotice.Text.Punycode

def isBasic (char : Char) : Bool := char.toNat < 128

/-- The letters `a` to `z` are the digits below 26, the numerals the ten above. -/
def digit (value : Nat) : Char := Char.ofNat (if value < 26 then 97 + value else 22 + value)

/-- A digit below the threshold of its place, counted from 1, is the last one. -/
def threshold (bias place : Nat) : Nat := min 26 (max 1 (36 * place - bias))

/-- The digits of a distance, the lowest first. -/
def digits (bias place distance : Nat) : List Char :=
  let threshold := threshold bias place
  if distance < threshold then [digit distance]
  else
    digit (threshold + (distance - threshold) % (36 - threshold)) ::
      digits bias (place + 1) ((distance - threshold) / (36 - threshold))
termination_by distance
decreasing_by
  have positive : 1 ≤ Punycode.threshold bias place := by
    unfold Punycode.threshold
    omega
  have smaller := Nat.div_le_self (distance - Punycode.threshold bias place)
    (36 - Punycode.threshold bias place)
  omega

/-- How many places a distance of this size is expected to take, in the unit of the bias. -/
def spread (distance : Nat) : Nat :=
  if 455 < distance then 36 + spread (distance / 35) else 36 * distance / (distance + 38)
termination_by distance

/-- The bias after a distance is written to the last of `count` characters; the first distance is
much larger than those that follow. -/
def nextBias (distance count : Nat) (first : Bool) : Nat :=
  let part := if first then distance / 700 else distance / 2
  spread (part + part / count)

/-- The text as far as it is written: the last code and the place behind it, how many characters are
done, and the bias for the next distance. -/
structure Progress where
  code : Nat
  place : Nat
  done : Nat
  bias : Nat
  written : List Char

def Progress.add (first : Bool) (progress : Progress) (code place : Nat) : Progress :=
  let count := progress.done + 1
  let distance := (code - progress.code) * count + place - progress.place
  { code, place := place + 1, done := count, bias := nextBias distance count first,
    written := progress.written ++ digits progress.bias 1 distance }

/-- The characters beyond ASCII with their places in the text, the lowest code first. -/
def extended (text : List Char) : List (Char × Nat) :=
  (text.zipIdx.filter fun (char, _) => !isBasic char).mergeSort fun left right => left.1 ≤ right.1

def encode (text : List Char) : List Char :=
  let basic := text.filter isBasic
  let start : Progress :=
    ⟨128, 0, basic.length, 72, if basic.isEmpty then [] else basic ++ ['-']⟩
  ((extended text).foldl (fun progress (char, index) =>
    progress.add (progress.done == basic.length) char.toNat
      ((text.take index).countP (· ≤ char))) start).written

end SchoolNotice.Text.Punycode
