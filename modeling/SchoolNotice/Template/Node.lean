import SchoolNotice.Template.Token

/-!
Templates as nodes: leaves, and blocks of leaves under a condition. An opener pairs with the first
close behind it; whatever stands unpaired, and any opener inside a block, is text. Blocks do not
nest, so a block's body is a list of leaves.
-/

namespace SchoolNotice.Template

inductive Leaf where
  | text (source : List Char)
  | placeholder (slot : Placeholder)
deriving DecidableEq, Repr

namespace Leaf

def source : Leaf → List Char
  | .text source => source
  | .placeholder slot => slot.source

/-- A token outside any pair: a placeholder stays one, all else is text. -/
def ofToken : Token → Leaf
  | .placeholder slot => .placeholder slot
  | token => .text token.source

end Leaf

inductive Node where
  | leaf (leaf : Leaf)
  | block (path : List Char) (body : List Leaf)
deriving DecidableEq, Repr

def cutAtClose : List Token → Option (List Token × List Token)
  | [] => none
  | .blockClose _ :: rest => some ([], rest)
  | token :: rest => (cutAtClose rest).map fun (body, after) => (token :: body, after)

theorem length_of_cut_at_close {tokens body after : List Token}
    (cut : cutAtClose tokens = some (body, after)) : after.length < tokens.length := by
  fun_induction cutAtClose tokens generalizing body with
  | case1 => simp at cut
  | case2 => simp at cut; simp [cut]
  | case3 token rest _ induction =>
      simp only [Option.map_eq_some_iff, Prod.exists, Prod.mk.injEq] at cut
      obtain ⟨inner, outer, found, _, rfl⟩ := cut
      have shorter := induction found
      simp
      omega

/-- Pairs the openers and closes of a list of tokens. -/
def Node.ofTokens (tokens : List Token) : List Node :=
  match tokens with
  | [] => []
  | .blockOpen source path :: rest =>
      match _ : cutAtClose rest with
      | some (body, after) => .block path (body.map Leaf.ofToken) :: ofTokens after
      | none => .leaf (.text source) :: rest.map fun token => .leaf (Leaf.ofToken token)
  | token :: rest => .leaf (Leaf.ofToken token) :: ofTokens rest
termination_by tokens.length
decreasing_by
  · have shorter := length_of_cut_at_close (by assumption)
    simp
    omega
  · simp

def Node.ofText (template : List Char) : List Node := Node.ofTokens (tokens template)

end SchoolNotice.Template
