import SchoolNotice.Template.Pairing
import SchoolNotice.Template.Render

/-!
What a filled template means, leaf by leaf. A leaf writes by itself; all that it sees of the others is
the window on the source of the leaves before it. `StaysAt` says by the places of the tokens which of
them become leaves that stay.
-/

namespace SchoolNotice.Template

def Holds (context : Context) (path : List Char) : Prop :=
  ∃ value, context.resolve? path = some value ∧ value.isTruthy = true

/-- The leaves that stay: all outside the blocks, and the bodies of the blocks whose paths hold. -/
inductive Keeps (context : Context) : List Node → List Leaf → Prop
  | nil : Keeps context [] []
  | leaf {leaf : Leaf} {nodes : List Node} {leaves : List Leaf}
      (others : Keeps context nodes leaves) : Keeps context (.leaf leaf :: nodes) (leaf :: leaves)
  | kept {path : List Char} {body leaves : List Leaf} {nodes : List Node}
      (holds : Holds context path) (others : Keeps context nodes leaves) :
      Keeps context (.block path body :: nodes) (body ++ leaves)
  | removed {path : List Char} {body leaves : List Leaf} {nodes : List Node}
      (fails : ¬ Holds context path) (others : Keeps context nodes leaves) :
      Keeps context (.block path body :: nodes) leaves

/-- The token at `place` becomes a leaf that stays. Outside the blocks every token does; of a block
only what stands between its two tags, and only if the block's path holds. -/
def StaysAt (context : Context) (tokens : List Token) (place : Nat) : Prop :=
  place < tokens.length ∧
    ∀ first last, BlockAt tokens first last → first ≤ place → place ≤ last →
      first < place ∧ place < last ∧
        ∃ source path, tokens[first]? = some (.blockOpen source path) ∧ Holds context path

def leafAt (tokens : List Token) (place : Nat) : Option Leaf := tokens[place]?.map Leaf.ofToken

def Placeholder.Gives (slot : Placeholder) (context : Context) (filling : Filling) : Prop :=
  ∃ before candidate after, slot.candidates = before ++ candidate :: after ∧
    candidate.fill? context = some filling ∧ ∀ earlier ∈ before, earlier.fill? context = none

def Placeholder.bare (slot : Placeholder) (context : Context) : List Char :=
  ((slot.fill? context).map Filling.text).getD []

/-- The last characters of the source of some leaves, or all of them if there are fewer. -/
def Window (leaves : List Leaf) (window : List Char) : Prop :=
  window <:+ leaves.flatMap Leaf.source ∧
    window.length = min lookBack (leaves.flatMap Leaf.source).length

/-- Behind these leaves a value is shown as an image. -/
def Shown (before : List Leaf) (value : List Char) : Prop :=
  isImageAddress value = true ∧
    ∀ window, Window before window → ∀ opener ∈ attributeOpeners, ¬ opener <:+: window

inductive Writes (context : Context) (before : List Leaf) : Leaf → List Char → Prop
  | text {source : List Char} : Writes context before (.text source) source
  | empty {slot : Placeholder}
      (nothing : ∀ candidate ∈ slot.candidates, candidate.fill? context = none) :
      Writes context before (.placeholder slot) []
  | image {slot : Placeholder} {value : List Char} (gives : slot.Gives context (.string value))
      (shown : Shown before value) : Writes context before (.placeholder slot) (imageTag value)
  | value {slot : Placeholder} {filling : Filling} (gives : slot.Gives context filling)
      (unshown : ∀ value, filling = .string value → ¬ Shown before value) :
      Writes context before (.placeholder slot) filling.text

end SchoolNotice.Template
