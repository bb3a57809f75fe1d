import SchoolNotice.Template.Pairing
import SchoolNotice.Proofs.Template.Lexing

/-!
# Blocks of a template

The parser cuts at the first close behind an opener and starts again after it, or finds no close and
has read to the end. Either way it follows the one pairing that the tokens have.
-/

namespace SchoolNotice.Template

section Groups

variable {tokens rest body after : List Token} {groups others : List Group}

theorem unclosed_nil : Unclosed [] := by
  intro source
  exact List.not_mem_nil

theorem unclosed_cons {token : Token} :
    Unclosed (token :: rest) ↔ (∀ source, token ≠ .blockClose source) ∧ Unclosed rest := by
  constructor
  · intro unclosed
    constructor
    · intro source same
      exact unclosed source (by rw [same]; exact List.mem_cons_self)
    · intro source member
      exact unclosed source (List.mem_cons_of_mem token member)
  · intro parts source member
    cases List.mem_cons.1 member with
    | inl same => exact parts.1 source same.symm
    | inr later => exact parts.2 source later

theorem cut_at_close_eq_none : cutAtClose tokens = none ↔ Unclosed tokens := by
  fun_induction cutAtClose tokens with
  | case1 => exact iff_of_true rfl unclosed_nil
  | case2 source rest =>
      apply iff_of_false (by simp)
      intro unclosed
      exact unclosed source List.mem_cons_self
  | case3 token rest other induction =>
      rw [Option.map_eq_none_iff, induction, unclosed_cons]
      exact ⟨fun unclosed => ⟨other, unclosed⟩, And.right⟩

theorem cut_at_close_eq_some :
    cutAtClose tokens = some (body, after) ↔
      ∃ close, tokens = body ++ .blockClose close :: after ∧ Unclosed body := by
  fun_induction cutAtClose tokens generalizing body with
  | case1 => simp
  | case2 source rest =>
      constructor
      · intro same
        obtain ⟨rfl, rfl⟩ := Prod.mk.inj (Option.some.inj same)
        exact ⟨source, rfl, unclosed_nil⟩
      · intro split
        obtain ⟨close, whole, unclosed⟩ := split
        cases body with
        | nil =>
            obtain ⟨-, rfl⟩ := List.cons.inj whole
            rfl
        | cons first body =>
            obtain ⟨rfl, -⟩ := List.cons.inj whole
            exact absurd List.mem_cons_self (unclosed source)
  | case3 token rest other induction =>
      simp only [Option.map_eq_some_iff, Prod.exists, Prod.mk.injEq]
      constructor
      · intro found
        obtain ⟨inner, outer, cut, rfl, rfl⟩ := found
        obtain ⟨close, rfl, unclosed⟩ := induction.1 cut
        exact ⟨close, rfl, unclosed_cons.2 ⟨other, unclosed⟩⟩
      · intro split
        obtain ⟨close, whole, unclosed⟩ := split
        cases body with
        | nil =>
            obtain ⟨rfl, -⟩ := List.cons.inj whole
            exact absurd rfl (other close)
        | cons first body =>
            obtain ⟨rfl, rfl⟩ := List.cons.inj whole
            have inside := (unclosed_cons.1 unclosed).2
            exact ⟨body, after, induction.2 ⟨close, rfl, inside⟩, rfl, rfl⟩

theorem first_close_unique {front back : List Token} {close other : List Char}
    (same : body ++ .blockClose close :: after = front ++ .blockClose other :: back)
    (inside : Unclosed body) (inner : Unclosed front) :
    body = front ∧ close = other ∧ after = back := by
  have here : cutAtClose (body ++ .blockClose close :: after) = some (body, after) :=
    cut_at_close_eq_some.2 ⟨close, rfl, inside⟩
  have there := cut_at_close_eq_some.2 ⟨other, same, inner⟩
  rw [here] at there
  obtain ⟨rfl, rfl⟩ := Prod.mk.inj (Option.some.inj there)
  have tags := (List.cons.inj (List.append_cancel_left same)).1
  exact ⟨rfl, Token.blockClose.inj tags, rfl⟩

theorem not_unclosed (body after : List Token) (close : List Char) :
    ¬ Unclosed (body ++ .blockClose close :: after) := by
  intro unclosed
  exact unclosed close (List.mem_append_right body List.mem_cons_self)

theorem paired_of_unclosed (unclosed : Unclosed tokens) :
    Paired tokens (tokens.map Group.single) := by
  induction tokens with
  | nil => exact .nil
  | cons token rest induction =>
      have inside := (unclosed_cons.1 unclosed).2
      exact .single (fun _ _ _ => inside) (induction inside)

/-- The induction is on the parser: an opener with a close goes on behind the block, and one without
leaves only tokens that stand alone. -/
theorem nodes_paired (tokens : List Token) :
    ∃ groups, Paired tokens groups ∧ Node.ofTokens tokens = groups.map Group.node := by
  fun_induction Node.ofTokens tokens with
  | case1 => exact ⟨[], .nil, rfl⟩
  | case2 source path rest body after cut induction =>
      obtain ⟨close, rfl, inside⟩ := cut_at_close_eq_some.1 cut
      obtain ⟨groups, paired, nodes⟩ := induction
      refine ⟨.block source path body close :: groups, .block inside paired, ?_⟩
      rw [nodes]
      rfl
  | case3 source path rest cut =>
      have unclosed := cut_at_close_eq_none.1 cut
      have others := paired_of_unclosed unclosed
      have paired : Paired (.blockOpen source path :: rest)
          (.single (.blockOpen source path) :: rest.map Group.single) :=
        .single (fun _ _ _ => unclosed) others
      refine ⟨_, paired, ?_⟩
      rw [List.map_cons, List.map_map]
      rfl
  | case4 token rest other induction =>
      obtain ⟨groups, paired, nodes⟩ := induction
      refine ⟨.single token :: groups, .single ?_ paired, ?_⟩
      · intro source path same
        exact absurd same (other source path)
      · rw [nodes]
        rfl

theorem paired_unique (paired : Paired tokens groups) (again : Paired tokens others) :
    others = groups := by
  induction paired generalizing others with
  | nil =>
      cases again
      rfl
  | single alone rest induction =>
      cases again with
      | single _ later => rw [induction later]
      | block inside later => exact absurd (alone _ _ rfl) (not_unclosed _ _ _)
  | @block source path close body after groups inside rest induction =>
      generalize whole : body ++ .blockClose close :: after = tokens at again
      cases again with
      | single alone later =>
          -- An opener with a close behind it cannot stand alone.
          rw [← whole] at alone
          exact absurd (alone _ _ rfl) (not_unclosed _ _ _)
      | block inner later =>
          obtain ⟨rfl, rfl, rfl⟩ := first_close_unique whole inside inner
          rw [induction later]

/-! ## The places of blocks -/

theorem closes_at_lt {first last : Nat} (closes : ClosesAt tokens first last) : first < last :=
  closes.1

theorem closes_at_unique {first last other : Nat} (closes : ClosesAt tokens first last)
    (again : ClosesAt tokens first other) : other = last := by
  obtain ⟨after, ⟨source, here⟩, before⟩ := closes
  obtain ⟨later, ⟨next, there⟩, earlier⟩ := again
  rcases Nat.lt_trichotomy other last with below | same | above
  · exact absurd there (before other next later below)
  · exact same
  · exact absurd here (earlier last source after above)

theorem not_closes_at_of_unclosed {token : Token} {last : Nat} (unclosed : Unclosed rest) :
    ¬ ClosesAt (token :: rest) 0 last := by
  intro closes
  obtain ⟨after, ⟨source, here⟩, -⟩ := closes
  obtain ⟨last, rfl⟩ := Nat.exists_eq_add_of_lt after
  exact unclosed source (List.mem_of_getElem? (by simpa using here))

theorem closes_at_first_close (inside : Unclosed body) (token : Token) (close : List Char)
    (after : List Token) :
    ClosesAt (token :: (body ++ .blockClose close :: after)) 0 (body.length + 1) := by
  refine ⟨Nat.succ_pos _, ⟨close, by simp⟩, ?_⟩
  intro place source later earlier here
  obtain ⟨place, rfl⟩ := Nat.exists_eq_add_of_lt later
  have within : place < body.length := by omega
  rw [Nat.zero_add, List.getElem?_cons_succ, List.getElem?_append_left within] at here
  exact inside source (List.mem_of_getElem? here)

section Append

variable {front back : List Token}

theorem token_behind (front back : List Token) (place : Nat) :
    (front ++ back)[front.length + place]? = back[place]? := by
  rw [List.getElem?_append_right (Nat.le_add_right _ _), Nat.add_sub_cancel_left]

theorem closes_at_append {first last : Nat} :
    ClosesAt (front ++ back) (front.length + first) (front.length + last) ↔
      ClosesAt back first last := by
  unfold ClosesAt
  rw [token_behind, Nat.add_lt_add_iff_left]
  apply and_congr_right
  intro _
  apply and_congr_right
  intro _
  constructor
  · intro before place source later earlier here
    rw [← token_behind front] at here
    exact before _ source (Nat.add_lt_add_left later _) (Nat.add_lt_add_left earlier _) here
  · intro before place source later earlier here
    obtain ⟨place, rfl⟩ := Nat.exists_eq_add_of_le (show front.length ≤ place by omega)
    rw [token_behind] at here
    exact before place source (by omega) (by omega) here

/-- Behind tokens out of which no block reaches, blocks are where they are without these tokens. -/
theorem block_at_append {first last : Nat}
    (inside : ∀ earlier close, earlier < front.length → BlockAt (front ++ back) earlier close →
      close < front.length) :
    BlockAt (front ++ back) (front.length + first) (front.length + last) ↔
      BlockAt back first last := by
  induction first using Nat.strong_induction_on generalizing last with
  | h first induction =>
      rw [BlockAt, BlockAt, token_behind, closes_at_append]
      apply and_congr_right
      intro _
      apply and_congr_right
      intro _
      constructor
      · intro outside earlier before close block
        have shifted := (induction earlier before).2 block
        have apart := outside _ (Nat.add_lt_add_left before _) _ shifted
        omega
      · intro outside earlier before close block
        -- A block in front ends in front; one behind stands there without the front, too.
        by_cases early : earlier < front.length
        · have apart := inside earlier close early block
          omega
        · have ordered : earlier < close := by
            rw [BlockAt] at block
            exact closes_at_lt block.2.1
          obtain ⟨earlier, rfl⟩ := Nat.exists_eq_add_of_le (Nat.le_of_not_lt early)
          obtain ⟨close, rfl⟩ := Nat.exists_eq_add_of_le (show front.length ≤ close by omega)
          have sooner : earlier < first := by omega
          have apart := outside earlier sooner close ((induction earlier sooner).1 block)
          omega

end Append

theorem spans_single {token : Token} {first last : Nat} :
    ¬ Group.Spans [.single token] first last := by
  intro spans
  obtain ⟨left, source, path, body, close, right, whole, -, -⟩ := spans
  cases left with
  | nil => simp at whole
  | cons group left => simp at whole

theorem spans_block {source path close : List Char} {first last : Nat} :
    Group.Spans [.block source path body close] first last ↔
      first = 0 ∧ last = body.length + 1 := by
  constructor
  · intro spans
    obtain ⟨left, _, _, inner, _, right, whole, begins, ends⟩ := spans
    cases left with
    | nil =>
        obtain ⟨same, -⟩ := List.cons.inj whole
        obtain ⟨-, -, rfl, -⟩ := Group.block.inj same
        have zero : first = 0 := begins.symm
        exact ⟨zero, by omega⟩
    | cons group left => simp at whole
  · intro parts
    obtain ⟨rfl, rfl⟩ := parts
    exact ⟨[], source, path, body, close, [], rfl, rfl, by omega⟩

theorem spans_cons {group : Group} {first last : Nat} :
    Group.Spans (group :: groups) first last ↔
      Group.Spans [group] first last ∨
        ∃ start stop, first = group.tokens.length + start ∧
          last = group.tokens.length + stop ∧ Group.Spans groups start stop := by
  constructor
  · intro spans
    obtain ⟨left, source, path, body, close, right, whole, begins, ends⟩ := spans
    cases left with
    | nil =>
        obtain ⟨rfl, -⟩ := List.cons.inj whole
        exact .inl ⟨[], source, path, body, close, [], rfl, begins, ends⟩
    | cons outer left =>
        obtain ⟨rfl, rfl⟩ := List.cons.inj whole
        rw [List.flatMap_cons, List.length_append] at begins
        refine .inr ⟨_, _, begins.symm, ?_, left, source, path, body, close, right, rfl, rfl, rfl⟩
        omega
  · intro either
    cases either with
    | inl here =>
        cases group with
        | single token => exact absurd here spans_single
        | block source path body close =>
            obtain ⟨rfl, rfl⟩ := spans_block.1 here
            exact ⟨[], source, path, body, close, groups, rfl, rfl, by omega⟩
    | inr later =>
        obtain ⟨start, stop, rfl, rfl, left, source, path, body, close, right, rfl, rfl, rfl⟩ := later
        refine ⟨group :: left, source, path, body, close, right, rfl, ?_, ?_⟩
        · rw [List.flatMap_cons, List.length_append]
        · omega

theorem no_block_at_single {token : Token} {first last : Nat}
    (alone : ∀ source path, token = .blockOpen source path → Unclosed rest)
    (within : first < [token].length) : ¬ BlockAt ([token] ++ rest) first last := by
  intro block
  have zero : first = 0 := Nat.lt_one_iff.1 within
  subst zero
  rw [BlockAt] at block
  obtain ⟨⟨source, path, opener⟩, closes, -⟩ := block
  have same : token = .blockOpen source path := by simpa using opener
  exact not_closes_at_of_unclosed (alone source path same) closes

theorem block_at_block {source path close : List Char} {first last : Nat}
    (inside : Unclosed body) (within : first < body.length + 2) :
    BlockAt (.blockOpen source path :: (body ++ .blockClose close :: after)) first last ↔
      first = 0 ∧ last = body.length + 1 := by
  have closes := closes_at_first_close inside (.blockOpen source path) close after
  have block : BlockAt (.blockOpen source path :: (body ++ .blockClose close :: after)) 0
      (body.length + 1) := by
    rw [BlockAt]
    exact ⟨⟨source, path, rfl⟩, closes, fun _ before => absurd before (Nat.not_lt_zero _)⟩
  constructor
  · intro other
    rw [BlockAt] at other
    obtain ⟨-, otherCloses, outside⟩ := other
    cases first with
    | zero => exact ⟨rfl, closes_at_unique closes otherCloses⟩
    | succ first =>
        have apart := outside 0 (Nat.succ_pos _) _ block
        omega
  · intro parts
    obtain ⟨rfl, rfl⟩ := parts
    exact block

/-- If the blocks that begin in the first group are known, and those behind it without it, then all
of them are. -/
theorem block_at_group (group : Group)
    (here : ∀ first last, first < group.tokens.length →
      (BlockAt (group.tokens ++ rest) first last ↔ Group.Spans [group] first last))
    (behind : ∀ first last, BlockAt rest first last ↔ Group.Spans groups first last)
    (first last : Nat) :
    BlockAt (group.tokens ++ rest) first last ↔ Group.Spans (group :: groups) first last := by
  have within : ∀ start stop, Group.Spans [group] start stop →
      start < stop ∧ stop < group.tokens.length := by
    intro start stop spans
    cases group with
    | single token => exact absurd spans spans_single
    | block source path body close =>
        obtain ⟨rfl, rfl⟩ := spans_block.1 spans
        simp [Group.tokens]
  have shifted : ∀ start stop, BlockAt (group.tokens ++ rest) (group.tokens.length + start)
      (group.tokens.length + stop) ↔ Group.Spans groups start stop := by
    intro start stop
    rw [block_at_append, behind]
    intro earlier close early block
    exact (within earlier close ((here earlier close early).1 block)).2
  rw [spans_cons]
  constructor
  · intro block
    by_cases early : first < group.tokens.length
    · exact .inl ((here first last early).1 block)
    · have ordered : first < last := by
        rw [BlockAt] at block
        exact closes_at_lt block.2.1
      obtain ⟨start, rfl⟩ := Nat.exists_eq_add_of_le (Nat.le_of_not_lt early)
      obtain ⟨stop, rfl⟩ := Nat.exists_eq_add_of_le (show group.tokens.length ≤ last by omega)
      exact .inr ⟨start, stop, rfl, rfl, (shifted start stop).1 block⟩
  · intro either
    cases either with
    | inl spans =>
        obtain ⟨ordered, inner⟩ := within first last spans
        exact (here first last (Nat.lt_trans ordered inner)).2 spans
    | inr later =>
        obtain ⟨start, stop, rfl, rfl, spans⟩ := later
        exact (shifted start stop).2 spans

/-- The groups of the tokens and the rule by places agree on where the blocks are. -/
theorem block_at_iff_spans (paired : Paired tokens groups) (first last : Nat) :
    BlockAt tokens first last ↔ Group.Spans groups first last := by
  induction paired generalizing first last with
  | nil =>
      apply iff_of_false
      · intro block
        rw [BlockAt] at block
        obtain ⟨⟨source, path, opener⟩, -⟩ := block
        simp at opener
      · intro spans
        obtain ⟨left, _, _, _, _, right, whole, -⟩ := spans
        simp at whole
  | @single token rest groups alone others induction =>
      refine block_at_group (.single token) ?_ induction first last
      intro start stop early
      exact iff_of_false (no_block_at_single alone early) spans_single
  | @block source path close body after groups inside others induction =>
      have whole : Token.blockOpen source path :: (body ++ .blockClose close :: after) =
          (Group.block source path body close).tokens ++ after := by
        simp [Group.tokens]
      rw [whole]
      refine block_at_group (.block source path body close) ?_ induction first last
      intro start stop early
      have length : (Group.block source path body close).tokens.length = body.length + 2 := by
        simp [Group.tokens]
      rw [length] at early
      rw [← whole, spans_block]
      exact block_at_block inside early

/-! ## Nothing is lost -/

theorem paired_tokens (paired : Paired tokens groups) :
    groups.flatMap Group.tokens = tokens := by
  induction paired with
  | nil => rfl
  | single alone rest induction => rw [List.flatMap_cons, induction]; rfl
  | block inside rest induction =>
      rw [List.flatMap_cons, induction]
      simp [Group.tokens]

end Groups

end SchoolNotice.Template
