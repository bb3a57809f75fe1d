import Mathlib.Data.List.Chain
import SchoolNotice.Proofs.Template.Tag

/-!
Cutting by jumps finds what a look at every place finds. The parts that the cursor jumps over hold no
beginning of a tag, so `tokens` and `scan` agree; the tokens of `scan` are read off one place at a
time, which gives what they keep of the template and where the tags stand.
-/

namespace SchoolNotice.Template

open SchoolNotice.Text

theorem cons_text_nil (tokens : List Token) : consText [] tokens = tokens := by
  simp [consText]

theorem cons_text_append (first second : List Char) (tokens : List Token) :
    consText (first ++ second) tokens = consText first (consText second tokens) := by
  cases first with
  | nil => rw [List.nil_append, cons_text_nil]
  | cons char first =>
      cases second with
      | nil => rw [List.append_nil, cons_text_nil]
      | cons next second =>
          match tokens with
          | [] => simp [consText]
          | .text source :: rest => simp [consText]
          | .placeholder slot :: rest => simp [consText]
          | .blockOpen source path :: rest => simp [consText]
          | .blockClose source :: rest => simp [consText]

/-- No tag begins in a part of the template that stands before `rest`. -/
def Untagged (part rest : List Char) : Prop :=
  ∀ left right, part = left ++ right → right ≠ [] → tagAt (right ++ rest) = none

theorem untagged_append {first second rest : List Char} (front : Untagged first (second ++ rest))
    (back : Untagged second rest) : Untagged (first ++ second) rest := by
  intro left right same filled
  rcases List.append_eq_append_iff.1 same with ⟨more, rfl, rfl⟩ | ⟨more, rfl, rfl⟩
  · exact back more right rfl filled
  · cases more with
    | nil => exact back [] second rfl (by simpa using filled)
    | cons char more =>
        rw [List.append_assoc]
        exact front left (char :: more) rfl (by simp)

/-- Only what stands before the doubled brace is searched, so no tag begins there. -/
theorem untagged_before {before : List Char} (first : Undoubled '{' (before ++ ['{']))
    (rest : List Char) : Untagged before ('{' :: rest) := by
  intro left right same filled
  subst same
  apply tag_at_of_not_opens
  have undoubled : Undoubled '{' (right ++ ['{']) := by
    apply undoubled_of_suffix _ first
    exact ⟨left, by simp⟩
  intro opens
  obtain ⟨inner, after, same, _⟩ := opens
  rw [enclose_append] at same
  match right, filled, undoubled, same with
  | [_], _, undoubled, same =>
      obtain ⟨rfl, _⟩ := List.cons.inj same
      exact undoubled ⟨[], [], rfl⟩
  | char :: next :: right, _, undoubled, same =>
      simp only [List.cons_append, List.cons.injEq] at same
      obtain ⟨rfl, rfl, _⟩ := same
      exact undoubled ⟨[], right ++ ['{'], rfl⟩

/-- Inside a pair of doubled braces without a brace between them no other pair begins. -/
theorem untagged_enclose {inner : List Char} (plain : Plain inner)
    (untagged : classify inner = none) (rest : List Char) : Untagged (enclose inner) rest := by
  intro left right same filled
  cases left with
  | nil =>
      rw [List.nil_append] at same
      rw [← same, tag_at_enclose plain, untagged]
      rfl
  | cons char left =>
      apply tag_at_of_not_opens
      intro opens
      obtain ⟨other, after, opened, _⟩ := opens
      have whole : enclose inner ++ rest = char :: left ++ (enclose other ++ after) := by
        rw [same, List.append_assoc, opened]
      obtain ⟨between, behind⟩ := apart_of_enclosed plain (by simp) whole
      rw [behind, List.append_assoc] at same
      have nothing := List.append_cancel_left ((List.append_nil _).trans same)
      exact filled (List.append_eq_nil_iff.1 nothing.symm).2

/-- With a brace between the first doubled braces, a tag that ends at this close can only begin
where the last brace there is the second of two that open. -/
theorem last_open_of_opens {left right before part rest : List Char} {brace : Char}
    (found : isBrace brace = true) (plain : Plain right)
    (first : Undoubled '}' (left ++ brace :: right ++ ['}']))
    (split : '{' :: '{' :: (left ++ brace :: right) = before ++ part)
    (opens : Opens (part ++ '}' :: '}' :: rest)) :
    brace = '{' ∧ '{' :: '{' :: left = before ++ ['{'] := by
  have whole : Undoubled '}' ('{' :: '{' :: (left ++ brace :: right ++ ['}'])) := by
    simp only [undoubled_cons]
    exact ⟨by simp, by simp, first⟩
  have closer : Undoubled '}' (part ++ ['}']) := by
    apply undoubled_of_suffix _ whole
    exact ⟨before, by rw [← List.append_assoc, ← split]; rfl⟩
  obtain ⟨inner, rfl, inside⟩ := plain_of_opens closer opens
  have places : ('{' :: '{' :: left) ++ brace :: right = (before ++ ['{']) ++ '{' :: inner := by
    simpa using split
  obtain ⟨same, open', _⟩ := last_place_unique places found plain rfl inside
  exact ⟨open', same⟩

/-- Where the last brace is the second of two that open, no tag begins before these two. -/
theorem untagged_to_last {left right kept rest : List Char} (plain : Plain right)
    (first : Undoubled '}' (left ++ '{' :: right ++ ['}']))
    (whole : '{' :: '{' :: left = kept ++ ['{']) :
    Untagged kept ('{' :: '{' :: (right ++ '}' :: '}' :: rest)) := by
  intro before part same filled
  subst same
  apply tag_at_of_not_opens
  intro opens
  have parts : '{' :: '{' :: (left ++ '{' :: right) = before ++ (part ++ '{' :: '{' :: right) := by
    rw [← List.cons_append, ← List.cons_append, whole]
    simp
  have reading : Opens ((part ++ '{' :: '{' :: right) ++ '}' :: '}' :: rest) := by
    simpa using opens
  obtain ⟨_, same⟩ := last_open_of_opens rfl plain first parts reading
  rw [whole] at same
  have here := List.append_cancel_right same
  exact filled (List.append_cancel_left ((List.append_nil before).trans here.symm)).symm

theorem last_of_opening (left : List Char) :
    ('{' :: '{' :: left).getLast? = some (left.getLast?.getD '{') := by
  simp [List.getLast?_cons]

/-- Where the last brace is not the second of two that open, no tag begins before the close. -/
theorem untagged_to_close {left right rest : List Char} {brace : Char}
    (found : isBrace brace = true) (plain : Plain right)
    (first : Undoubled '}' (left ++ brace :: right ++ ['}']))
    (single : ¬ (brace = '{' ∧ left.getLast?.getD '{' = '{')) :
    Untagged ('{' :: '{' :: (left ++ brace :: right)) ('}' :: '}' :: rest) := by
  intro before part split _
  apply tag_at_of_not_opens
  intro opens
  obtain ⟨rfl, same⟩ := last_open_of_opens found plain first split opens
  have last := last_of_opening left
  rw [same, List.getLast?_append] at last
  exact single ⟨rfl, by simpa using last.symm⟩

theorem untagged_of_undoubled {text : List Char} (undoubled : Undoubled '{' text) :
    Untagged text [] := by
  intro left right same _
  apply tag_at_of_not_opens
  rw [List.append_nil]
  exact not_opens_of_undoubled (undoubled_of_suffix ⟨left, same.symm⟩ undoubled)

theorem untagged_of_unclosed {text : List Char} (unclosed : Undoubled '}' text) :
    Untagged text [] := by
  intro left right same _
  apply tag_at_of_not_opens
  rw [List.append_nil]
  exact not_opens_of_unclosed (undoubled_of_suffix ⟨left, same.symm⟩ unclosed)

/-- The two braces that the search goes back to are those at which the text before them ends. -/
theorem back_to_last {left : List Char} (final : left.getLast?.getD '{' = '{')
    (behind : List Char) :
    '{' :: '{' :: left = ('{' :: '{' :: left).dropLast ++ ['{'] ∧
      '{' :: '{' :: (left ++ '{' :: behind) =
        ('{' :: '{' :: left).dropLast ++ '{' :: '{' :: behind := by
  have last := last_of_opening left
  rw [final] at last
  have whole := (List.dropLast_append_getLast? _ last).symm
  refine ⟨whole, ?_⟩
  calc
    '{' :: '{' :: (left ++ '{' :: behind) = ('{' :: '{' :: left) ++ '{' :: behind := rfl
    _ = (('{' :: '{' :: left).dropLast ++ ['{']) ++ '{' :: behind := by rw [← whole]
    _ = ('{' :: '{' :: left).dropLast ++ '{' :: '{' :: behind := by
      rw [List.append_assoc, List.singleton_append]

def Stop.Correct (input : List Char) : Stop → Prop
  | .finish => Untagged input []
  | .skip before rest => input = before ++ rest ∧ Untagged before rest
  | .tag before token rest =>
      ∃ source, input = before ++ (source ++ rest) ∧ IsTag source token ∧
        Untagged before (source ++ rest)

theorem next_stop_correct (input : List Char) : (nextStop input).Correct input := by
  unfold nextStop
  cases opened : cutDouble '{' input with
  | none => exact untagged_of_undoubled (cut_double_eq_none.1 opened)
  | some parts =>
      obtain ⟨before, after⟩ := parts
      obtain ⟨rfl, first⟩ := cut_double_eq_some.1 opened
      simp only
      cases closed : cutDouble '}' after with
      | none =>
          have unclosed : Undoubled '}' ('{' :: '{' :: after) := by
            simp only [undoubled_cons]
            exact ⟨by simp, by simp, cut_double_eq_none.1 closed⟩
          refine untagged_append ?_ (untagged_of_unclosed unclosed)
          rw [List.append_nil]
          exact untagged_before first _
      | some parts =>
          obtain ⟨inner, rest⟩ := parts
          obtain ⟨rfl, firstClose⟩ := cut_double_eq_some.1 closed
          simp only
          cases last : cutLast isBrace inner with
          | some parts =>
              obtain ⟨left, brace, right⟩ := parts
              obtain ⟨rfl, found, plain⟩ := cut_last_eq_some.1 last
              simp only
              split
              · rename_i double
                obtain ⟨rfl, final⟩ := double
                obtain ⟨whole, split⟩ := back_to_last final (right ++ '}' :: '}' :: rest)
                refine ⟨?_, untagged_append (untagged_before first _)
                  (untagged_to_last plain firstClose whole)⟩
                rw [List.append_assoc before, ← split, List.append_assoc left, List.cons_append]
              · rename_i single
                exact ⟨by simp, untagged_append (untagged_before first _)
                  (untagged_to_close found plain firstClose single)⟩
          | none =>
              have plain : Plain inner := cut_last_eq_none.1 last
              simp only
              cases classified : classify inner with
              | some token =>
                  refine ⟨enclose inner, by rw [enclose_append], ?_, ?_⟩
                  · exact is_tag_iff.2 ⟨inner, rfl, plain, classified⟩
                  · rw [enclose_append]
                    exact untagged_before first _
              | none =>
                  refine ⟨by rw [List.append_assoc, enclose_append], untagged_append ?_ ?_⟩
                  · rw [enclose_append]
                    exact untagged_before first _
                  · exact untagged_enclose plain classified rest

theorem scan_nil : scan [] = [] := by
  rw [scan]

theorem scan_tag {text after : List Char} {token : Token}
    (tag : tagAt text = some (token, after)) : scan text = token :: scan after := by
  cases text with
  | nil => simp [tagAt, dropStart] at tag
  | cons char rest =>
      rw [scan]
      split
      · rename_i found
        rw [tag] at found
        cases found
        rfl
      · rename_i found
        rw [tag] at found
        cases found

theorem scan_text {char : Char} {rest : List Char} (untagged : tagAt (char :: rest) = none) :
    scan (char :: rest) = consText [char] (scan rest) := by
  rw [scan]
  split
  · rename_i found
    rw [untagged] at found
    cases found
  · rfl

theorem scan_untagged {part rest : List Char} (untagged : Untagged part rest) :
    scan (part ++ rest) = consText part (scan rest) := by
  induction part with
  | nil => rw [List.nil_append, cons_text_nil]
  | cons char part induction =>
      have here : tagAt (char :: (part ++ rest)) = none := untagged [] (char :: part) rfl (by simp)
      have later : Untagged part rest := by
        intro left right same filled
        subst same
        exact untagged (char :: left) right rfl filled
      rw [List.cons_append, scan_text here, induction later, ← cons_text_append]
      rfl

/-- Jumping misses no tag and finds none that a look at every place does not find. -/
theorem tokens_scan (input : List Char) : tokens input = scan input := by
  fun_induction tokens input with
  | case1 input stopped =>
      have untagged := next_stop_correct input
      rw [stopped] at untagged
      have whole := scan_untagged untagged
      rwa [List.append_nil, scan_nil, eq_comm] at whole
  | case2 input before rest stopped induction =>
      have skipped := next_stop_correct input
      rw [stopped] at skipped
      obtain ⟨rfl, untagged⟩ := skipped
      rw [scan_untagged untagged, induction]
  | case3 input before token rest stopped induction =>
      have tagged := next_stop_correct input
      rw [stopped] at tagged
      obtain ⟨source, rfl, tag, untagged⟩ := tagged
      rw [scan_untagged untagged, scan_tag (tag_at_eq_some.2 ⟨source, rfl, tag⟩), induction]

/-! ## What the tokens keep of the template -/

def Token.isText : Token → Bool
  | .text _ => true
  | _ => false

theorem is_text_of_tag {source : List Char} {token : Token} (tag : IsTag source token) :
    token.isText = false := by
  cases tag <;> rfl

theorem cons_text_cases (char : Char) (source : List Char) (tokens : List Token) :
    (∃ next rest, tokens = .text next :: rest ∧
      consText (char :: source) tokens = .text (char :: source ++ next) :: rest) ∨
    ((∀ token ∈ tokens.head?, token.isText = false) ∧
      consText (char :: source) tokens = .text (char :: source) :: tokens) := by
  match tokens with
  | [] => exact .inr ⟨by simp, rfl⟩
  | .text next :: rest => exact .inl ⟨next, rest, rfl, rfl⟩
  | .placeholder slot :: rest => exact .inr ⟨by simp [Token.isText], rfl⟩
  | .blockOpen source path :: rest => exact .inr ⟨by simp [Token.isText], rfl⟩
  | .blockClose source :: rest => exact .inr ⟨by simp [Token.isText], rfl⟩

theorem sources_cons_text (source : List Char) (tokens : List Token) :
    (consText source tokens).flatMap Token.source = source ++ tokens.flatMap Token.source := by
  cases source with
  | nil => rw [cons_text_nil, List.nil_append]
  | cons char source =>
      rcases cons_text_cases char source tokens with ⟨next, rest, rfl, found⟩ | ⟨_, found⟩
      · simp [found, Token.source]
      · simp [found, Token.source]

theorem scan_sources (input : List Char) : (scan input).flatMap Token.source = input := by
  fun_induction scan input with
  | case1 => rfl
  | case2 char rest token after tag induction =>
      obtain ⟨source, whole, isTag⟩ := tag_at_eq_some.1 tag
      rw [List.flatMap_cons, induction, source_of_tag isTag, whole]
  | case3 char rest untagged induction =>
      rw [sources_cons_text, induction]
      rfl

/-- No text is empty, and no two texts stand side by side. -/
def Gathered (tokens : List Token) : Prop :=
  Token.text [] ∉ tokens ∧
    tokens.IsChain fun first second => ¬ (first.isText = true ∧ second.isText = true)

theorem gathered_cons {token : Token} {tokens : List Token} (tag : token.isText = false)
    (gathered : Gathered tokens) : Gathered (token :: tokens) := by
  constructor
  · intro member
    cases member with
    | head => simp [Token.isText] at tag
    | tail _ member => exact gathered.1 member
  · refine List.isChain_cons.2 ⟨?_, gathered.2⟩
    simp [tag]

theorem gathered_cons_text (source : List Char) {tokens : List Token}
    (gathered : Gathered tokens) : Gathered (consText source tokens) := by
  cases source with
  | nil => rwa [cons_text_nil]
  | cons char source =>
      rcases cons_text_cases char source tokens with ⟨next, rest, rfl, found⟩ | ⟨apart, found⟩
      · rw [found]
        obtain ⟨filled, chain⟩ := gathered
        have parts := List.isChain_cons.1 chain
        refine ⟨by simpa using fun member => filled (by simp [member]), ?_⟩
        exact List.isChain_cons.2 ⟨by simpa [Token.isText] using parts.1, parts.2⟩
      · rw [found]
        refine ⟨by simpa using gathered.1, List.isChain_cons.2 ⟨?_, gathered.2⟩⟩
        intro token head
        simp [apart token head]

theorem gathered_scan (input : List Char) : Gathered (scan input) := by
  fun_induction scan input with
  | case1 => exact ⟨List.not_mem_nil, .nil⟩
  | case2 char rest token after tag induction =>
      obtain ⟨source, _, isTag⟩ := tag_at_eq_some.1 tag
      exact gathered_cons (is_text_of_tag isTag) induction
  | case3 char rest _ induction => exact gathered_cons_text [char] induction

/-! ## Where the tags stand -/

theorem mem_of_mem_cons_text {source : List Char} {token : Token} {tokens : List Token}
    (member : token ∈ consText source tokens) (tag : token.isText = false) : token ∈ tokens := by
  cases source with
  | nil => rwa [cons_text_nil] at member
  | cons char source =>
      rcases cons_text_cases char source tokens with ⟨next, rest, rfl, found⟩ | ⟨_, found⟩
      · rw [found] at member
        rcases List.mem_cons.1 member with rfl | member
        · simp [Token.isText] at tag
        · exact List.mem_cons_of_mem _ member
      · rw [found] at member
        rcases List.mem_cons.1 member with rfl | member
        · simp [Token.isText] at tag
        · exact member

theorem tag_of_mem_scan {input : List Char} {token : Token} (member : token ∈ scan input)
    (tag : token.isText = false) : IsTag token.source token := by
  fun_induction scan input with
  | case1 => simp at member
  | case2 char rest found after here induction =>
      obtain ⟨source, _, isTag⟩ := tag_at_eq_some.1 here
      rcases List.mem_cons.1 member with rfl | member
      · rwa [source_of_tag isTag]
      · exact induction member
  | case3 char rest _ induction => exact induction (mem_of_mem_cons_text member tag)

theorem cons_text_split (source : List Char) {token : Token} (tag : token.isText = false)
    (left right : List Token) :
    consText source (left ++ token :: right) = consText source left ++ token :: right := by
  cases source with
  | nil => rw [cons_text_nil, cons_text_nil]
  | cons char source =>
      match left with
      | .text next :: left => rfl
      | .placeholder slot :: left => rfl
      | .blockOpen source path :: left => rfl
      | .blockClose source :: left => rfl
      | [] => cases token <;> simp_all [consText, Token.isText]

/-- Around a tag the template is cut as if the parts before and behind it stood alone. The induction is
on the scan before: a tag found there ends before this one begins. -/
theorem scan_around_tag {source : List Char} {token : Token} (tag : IsTag source token)
    (before after : List Char) :
    scan (before ++ (source ++ after)) = scan before ++ token :: scan after := by
  have here : tagAt (source ++ after) = some (token, after) := tag_at_eq_some.2 ⟨source, rfl, tag⟩
  obtain ⟨inner, rfl, -, -⟩ := is_tag_iff.1 tag
  fun_induction scan before with
  | case1 => exact scan_tag here
  | case2 char rest other behind found induction =>
      obtain ⟨otherSource, opened, otherTag⟩ := tag_at_eq_some.1 found
      have longer : tagAt (char :: rest ++ (enclose inner ++ after)) =
          some (other, behind ++ (enclose inner ++ after)) := by
        apply tag_at_eq_some.2
        exact ⟨otherSource, by rw [opened, List.append_assoc], otherTag⟩
      rw [scan_tag longer, induction, List.cons_append]
  | case3 char rest untagged induction =>
      have still : tagAt (char :: rest ++ (enclose inner ++ after)) = none := by
        rw [Option.eq_none_iff_forall_ne_some]
        intro found longer
        obtain ⟨other, behind⟩ := found
        obtain ⟨otherSource, whole, otherTag⟩ := tag_at_eq_some.1 longer
        obtain ⟨otherInner, rfl, plain, -⟩ := is_tag_iff.1 otherTag
        obtain ⟨between, apart⟩ := apart_of_enclosed plain (List.cons_ne_nil char rest) whole.symm
        have shorter : tagAt (char :: rest) = some (other, between) :=
          tag_at_eq_some.2 ⟨_, apart, otherTag⟩
        rw [untagged] at shorter
        cases shorter
      rw [List.cons_append] at still ⊢
      rw [scan_text still, induction, cons_text_split [char] (is_text_of_tag tag)]

/-- Every tag of a template is one of its tokens, at the place where it stands. -/
theorem scan_at_tag {source : List Char} {token : Token} (tag : IsTag source token)
    (before after : List Char) :
    ∃ left right, scan (before ++ (source ++ after)) = left ++ token :: right ∧
      left.flatMap Token.source = before :=
  ⟨scan before, scan after, scan_around_tag tag before after, scan_sources before⟩

/-- A tag by itself is one token, and a text that is one slot is a tag. -/
theorem alone_iff {tag : List Char} {slot : Placeholder} :
    tokens tag = [.placeholder slot] ↔ IsTag tag (.placeholder slot) := by
  rw [tokens_scan]
  constructor
  · intro alone
    have sources := scan_sources tag
    have member : Token.placeholder slot ∈ scan tag := by simp [alone]
    rw [alone, List.flatMap_singleton] at sources
    have found := tag_of_mem_scan member rfl
    rwa [sources] at found
  · intro found
    have whole := scan_around_tag found [] []
    rwa [List.nil_append, List.append_nil, scan_nil, List.nil_append] at whole

end SchoolNotice.Template
