import PasteRules.Proofs.Regex.Tiling
import PasteRules.Proofs.Regex.Walk
import PasteRules.Proofs.Template.Grammar
import PasteRules.Template.Parse

/-! Where the pattern of placeholders matches. It does at a dollar sign with a placeholder behind it
and nowhere else, and the group that took part tells what the placeholder stands for. -/
namespace PasteRules.Template

open Regex
open Regex.Matcher (orElse greedy)

/-- What a placeholder has behind its dollar sign: a group with what it took, and what stands around
the group. -/
structure Opening where
  number : Nat
  lead : List Char := []
  inside : List Char
  closing : List Char := []

def unmarked : List Mark := List.replicate 6 {}

namespace Opening

def taken (o : Opening) : List Char := o.lead ++ o.inside ++ o.closing

/-- The state behind an opening, where its group alone has taken part. -/
def state (o : Opening) (before rest : List Char) : State :=
  ⟨.between (before ++ o.taken) rest, unmarked.set (o.number - 1)
    (.around (before ++ o.lead) o.inside (o.closing ++ rest))⟩

def found (o : Opening) (before rest : List Char) : Regex.Match :=
  let s := o.state (before ++ ['$']) rest
  ⟨.between before ('$' :: (o.taken ++ rest)), s.cursor, s.marks⟩

/-- The openings are tried up to this one, and it is gone through. -/
def Runs (o : Opening) (rest : List Char) : Prop :=
  ∀ (before : List Char) (k : Continuation) (r : State), k (o.state before rest) = some r →
    openings.run ⟨.between before (o.taken ++ rest), unmarked⟩ k = some r

end Opening

section

variable {groups : Nat} {names : List String} {before text after rest : List Char}
  {marks : List Mark} {number : Nat} {c d : Char} {s : State} {k : Continuation} {o : Opening}

/-! ### The parts of the pattern -/

def digit : CharTest := .set false [.range '0'.toNat '9'.toNat] true .exact

theorem accepts_digit (c : Char) : digit.accepts c = c.isDigit := by
  simp [digit, CharTest.accepts, CharTest.inSet, CharItem.contains, Char.isDigit,
    UInt32.le_iff_toNat_le]

theorem greedy_one (body : Matcher) (s : State) (k : Continuation) :
    greedy body (some 1) s k = orElse (body s k) fun _ => k s := by
  have hlast : ∀ s' k, greedy body (some 0) s' k = k s' := fun s' k => by rw [greedy, if_pos rfl]
  rw [greedy, if_neg (by simp)]
  simp [hlast]

theorem symbol_run (number : Nat) (c : Char) (s : State) (k : Continuation) :
    (symbol number c).run s k =
      ((s.openGroup number).step? (.is c false)).bind fun s' => k (s'.closeGroup number) :=
  State.run_char (.is c false) (s.openGroup number) fun s' => k (s'.closeGroup number)

theorem symbol_run_self (number : Nat) (c : Char) (before after : List Char) (k : Continuation)
    (hnumber : number - 1 < marks.length) :
    (symbol number c).run ⟨.between before (c :: after), marks⟩ k =
      k ⟨.between (before ++ [c]) after, marks.set (number - 1) (.around before [c] after)⟩ := by
  have hc : (CharTest.is c false).accepts c = true := by simp [CharTest.accepts_is]
  have hclosed := State.closeGroup_between before [c] after hnumber
  have hstep := State.step?_between_cons before after
    (State.openGroup ⟨.between before (c :: after), marks⟩ number).marks hc
  rw [symbol_run, ← hclosed]
  exact congrArg (Option.bind · _) hstep

theorem symbol_run_of_head? (number : Nat) (before : List Char) (marks : List Mark)
    (k : Continuation) (h : ∀ d ∈ text.head?, d ≠ c) :
    (symbol number c).run ⟨.between before text, marks⟩ k = none := by
  have hreject : ∀ d ∈ text.head?, (CharTest.is c false).accepts d = false := fun d hd => by
    simpa [CharTest.accepts_is] using h d hd
  have hstep := State.step?_between_eq_none before
    (State.openGroup ⟨.between before text, marks⟩ number).marks hreject
  rw [symbol_run]
  exact congrArg (Option.bind · _) hstep

theorem digitsNode_run (s : State) (k : Continuation) :
    digitsNode.run s k =
      ((s.openGroup 5).step? digit).bind fun s' =>
        orElse ((s'.step? digit).bind fun s'' => k (s''.closeGroup 5))
          fun _ => k (s'.closeGroup 5) := by
  change (Node.char digit).run (s.openGroup 5)
    (fun s' => greedy (Node.char digit).run (some 1) s' fun s'' => k (s''.closeGroup 5)) = _
  simp only [State.run_char, greedy_one]

theorem nameNode_run (s : State) (k : Continuation) :
    nameNode.run s k =
      (s.step? (.is '<' false)).bind fun s' =>
        greedy (Node.char (.is '>' true)).run none (s'.openGroup 6) fun s'' =>
          ((s''.closeGroup 6).step? (.is '>' false)).bind k := by
  change (Node.char (.is '<' false)).run s (fun s' =>
    greedy (Node.char (.is '>' true)).run none (s'.openGroup 6) fun s'' =>
      (Node.char (.is '>' false)).run (s''.closeGroup 6) k) = _
  simp only [State.run_char]

theorem openings_run (s : State) (k : Continuation) :
    openings.run s k =
      orElse ((symbol 1 '$').run s k) fun _ => orElse ((symbol 2 '&').run s k) fun _ =>
        orElse ((symbol 3 '\x60').run s k) fun _ => orElse ((symbol 4 '\'').run s k) fun _ =>
          orElse (digitsNode.run s k) fun _ => nameNode.run s k :=
  rfl

/-- A text that begins with none of the symbols goes on to the digits and the names. -/
theorem openings_run_of_head? (before : List Char) (marks : List Mark) (k : Continuation)
    (h : ∀ d ∈ text.head?, d ∉ ['$', '&', '\x60', '\'']) :
    openings.run ⟨.between before text, marks⟩ k =
      orElse (digitsNode.run ⟨.between before text, marks⟩ k) fun _ =>
        nameNode.run ⟨.between before text, marks⟩ k := by
  have hsymbol : ∀ number, ∀ c ∈ ['$', '&', '\x60', '\''],
      (symbol number c).run ⟨.between before text, marks⟩ k = none := fun number c hc =>
    symbol_run_of_head? number before marks k fun d hd heq => h d hd (heq ▸ hc)
  rw [openings_run, hsymbol 1 '$' (by simp), hsymbol 2 '&' (by simp), hsymbol 3 '\x60' (by simp),
    hsymbol 4 '\'' (by simp)]
  rfl

/-! ### The openings that there are -/

/-- The state behind an opening that is all group. -/
theorem Opening.state_bare (number : Nat) (inside before rest : List Char) :
    (Opening.mk number [] inside []).state before rest =
      ⟨.between (before ++ inside) rest,
        unmarked.set (number - 1) (.around before inside rest)⟩ := by
  simp [state, taken]

theorem runs_symbol (h : (number, c) ∈ [(1, '$'), (2, '&'), (3, '\x60'), (4, '\'')])
    (rest : List Char) : (Opening.mk number [] [c] []).Runs rest := by
  intro before k r hk
  have hnumber : number - 1 < unmarked.length := by grind [unmarked]
  have hself : (symbol number c).run ⟨.between before (c :: rest), unmarked⟩ k = some r := by
    rw [symbol_run_self number c before rest k hnumber, ← Opening.state_bare, hk]
  have hother : ∀ n d, c ≠ d →
      (symbol n d).run ⟨.between before (c :: rest), unmarked⟩ k = none := fun n d hd =>
    symbol_run_of_head? n before _ k (by simpa using hd)
  -- Only the group of this symbol takes it; those tried before fail at once.
  change openings.run ⟨.between before (c :: rest), unmarked⟩ k = some r
  simp only [List.mem_cons, Prod.mk.injEq, List.not_mem_nil, or_false] at h
  rw [openings_run]
  obtain ⟨rfl, rfl⟩ | ⟨rfl, rfl⟩ | ⟨rfl, rfl⟩ | ⟨rfl, rfl⟩ := h <;> simp [hself, hother, orElse]

/-- One digit is taken, and the second if it is there. -/
theorem digitsNode_run_eq_some {more : Option Char} {r : State} (hc : c.isDigit = true)
    (hmore : ∀ d ∈ more, d.isDigit = true)
    (hrest : more = none → ∀ d ∈ rest.head?, d.isDigit = false) (hmarks : 4 < marks.length)
    (hk : k ⟨.between (before ++ c :: more.toList) rest,
      marks.set 4 (.around before (c :: more.toList) rest)⟩ = some r) :
    digitsNode.run ⟨.between before (c :: more.toList ++ rest), marks⟩ k = some r := by
  let opened := (State.openGroup ⟨.between before (c :: more.toList ++ rest), marks⟩ 5).marks
  have hone : State.step? digit ⟨.between before (c :: more.toList ++ rest), opened⟩ =
      some ⟨.between (before ++ [c]) (more.toList ++ rest), opened⟩ :=
    State.step?_between_cons _ _ _ ((accepts_digit c).trans hc)
  have hclosed : k (State.closeGroup ⟨.between (before ++ c :: more.toList) rest, opened⟩ 5) =
      some r := by
    rw [State.closeGroup_between before (c :: more.toList) rest hmarks]
    exact hk
  rw [digitsNode_run]
  change (State.step? digit ⟨.between before (c :: more.toList ++ rest), opened⟩).bind _ = some r
  rw [hone, Option.bind_some]
  cases more with
  | none =>
    have htwo : State.step? digit ⟨.between (before ++ [c]) rest, opened⟩ = none :=
      State.step?_between_eq_none _ _ fun d hd => (accepts_digit d).trans (hrest rfl d hd)
    change orElse ((State.step? digit ⟨.between (before ++ [c]) rest, opened⟩).bind _) _ = some r
    rw [htwo]
    exact hclosed
  | some d =>
    have htwo : State.step? digit ⟨.between (before ++ [c]) (d :: rest), opened⟩ = _ :=
      State.step?_between_cons _ _ _ ((accepts_digit d).trans (hmore d rfl))
    change orElse ((State.step? digit ⟨.between (before ++ [c]) (d :: rest), opened⟩).bind _) _ =
      some r
    rw [htwo, Option.bind_some, List.append_assoc]
    exact congrArg (orElse · _) hclosed

theorem digitsNode_run_eq_none (before : List Char) (marks : List Mark) (k : Continuation)
    (h : ∀ d ∈ text.head?, d.isDigit = false) :
    digitsNode.run ⟨.between before text, marks⟩ k = none := by
  let opened := (State.openGroup ⟨.between before text, marks⟩ 5).marks
  have hstep : State.step? digit ⟨.between before text, opened⟩ = none :=
    State.step?_between_eq_none before opened fun d hd => (accepts_digit d).trans (h d hd)
  rw [digitsNode_run]
  exact congrArg (Option.bind · _) hstep

theorem accepts_name {name : List Char} (h : '>' ∉ name) :
    ∀ c ∈ name, (CharTest.is '>' true).accepts c = true := by
  intro c hc
  have hne : c ≠ '>' := fun heq => h (heq ▸ hc)
  simpa [CharTest.accepts_is] using hne

/-- A name is taken up to the first closing bracket. -/
theorem nameNode_run_eq_some {name : List Char} {r : State} (hname : '>' ∉ name)
    (hmarks : 5 < marks.length)
    (hk : k ⟨.between (before ++ '<' :: name ++ ['>']) rest,
      marks.set 5 (.around (before ++ ['<']) name ('>' :: rest))⟩ = some r) :
    nameNode.run ⟨.between before ('<' :: name ++ '>' :: rest), marks⟩ k = some r := by
  let s : State := ⟨.between (before ++ ['<']) (name ++ '>' :: rest), marks⟩
  have hopen : State.step? (.is '<' false) ⟨.between before ('<' :: name ++ '>' :: rest), marks⟩ =
      some s :=
    State.step?_between_cons _ _ _ rfl
  have hskip : State.skip (.is '>' true) (s.openGroup 6) =
      ⟨.between (before ++ ['<'] ++ name) ('>' :: rest), (s.openGroup 6).marks⟩ :=
    State.skip_between (before ++ ['<']) _ (accepts_name hname) (by simp [CharTest.accepts_is])
  let mark := Mark.around (before ++ ['<']) name ('>' :: rest)
  have hclose : State.step? (.is '>' false)
      ⟨.between (before ++ ['<'] ++ name) ('>' :: rest), marks.set 5 mark⟩ = _ :=
    State.step?_between_cons _ _ _ rfl
  rw [nameNode_run, hopen, Option.bind_some]
  refine greedy_eq_some ?_
  rw [hskip, State.closeGroup_between (before ++ ['<']) name ('>' :: rest) hmarks, hclose]
  simpa using hk

/-- Nothing is taken for a name where no bracket opens or none closes. -/
theorem nameNode_run_eq_none (before : List Char) (marks : List Mark) (k : Continuation)
    (h : ∀ name rest, '>' ∉ name → text ≠ '<' :: name ++ '>' :: rest) :
    nameNode.run ⟨.between before text, marks⟩ k = none := by
  rw [nameNode_run]
  by_cases hhead : ∃ tail, text = '<' :: tail
  · obtain ⟨tail, rfl⟩ := hhead
    have hopen : State.step? (.is '<' false) ⟨.between before ('<' :: tail), marks⟩ = _ :=
      State.step?_between_cons _ _ _ rfl
    have hfree : '>' ∉ tail := by
      intro hmem
      obtain ⟨name, rest, rfl, hname⟩ := List.eq_append_cons_of_mem hmem
      exact h name rest hname rfl
    let s₁ : State := State.openGroup ⟨.between (before ++ ['<']) tail, marks⟩ 6
    have hskip : State.skip (.is '>' true) s₁ =
        ⟨.between (before ++ ['<'] ++ tail) [], s₁.marks⟩ := by
      have hall : State.skip (.is '>' true) ⟨.between (before ++ ['<']) (tail ++ []), s₁.marks⟩ =
          _ :=
        State.skip_between (before ++ ['<']) s₁.marks (accepts_name hfree) (by simp)
      rwa [List.append_nil] at hall
    rw [hopen, Option.bind_some]
    refine greedy_eq_none fun s hs => ?_
    cases hstep : (s.closeGroup 6).step? (.is '>' false) with
    | none => rfl
    | some t =>
      -- The run stops for good before a closing bracket, but it goes on to the end of the text.
      obtain ⟨c, d, hnext, hc, -⟩ := State.exists_accepted_of_step? hstep
      have hstop : s.step? (.is '>' true) = none := by
        rw [State.step?_eq, show s.cursor.next? = some (c, d) from hnext]
        simpa [CharTest.accepts_is] using hc
      rw [State.skip_of_step?_eq_none hstop] at hs
      rw [hs.trans hskip] at hnext
      cases hnext
  · have hother : ∀ c ∈ text.head?, (CharTest.is '<' false).accepts c = false := by
      intro c hc
      obtain ⟨tail, rfl⟩ := List.head?_eq_some_iff.mp hc
      simpa [CharTest.accepts_is] using fun heq : c = '<' => hhead ⟨tail, heq ▸ rfl⟩
    rw [State.step?_between_eq_none _ _ hother]
    rfl

theorem notMem_symbols_of_isDigit (hc : c.isDigit = true) : c ∉ ['$', '&', '\x60', '\''] := by
  intro hmem
  simp only [List.mem_cons, List.not_mem_nil, or_false] at hmem
  obtain rfl | rfl | rfl | rfl := hmem <;> cases hc

theorem runs_digits {more : Option Char} (hc : c.isDigit = true)
    (hmore : ∀ d ∈ more, d.isDigit = true)
    (hrest : more = none → ∀ d ∈ rest.head?, d.isDigit = false) :
    (Opening.mk 5 [] (c :: more.toList) []).Runs rest := by
  intro before k r hk
  have hhead : ∀ d ∈ (c :: more.toList ++ rest).head?, d ∉ ['$', '&', '\x60', '\''] := by
    simpa using notMem_symbols_of_isDigit hc
  rw [Opening.state_bare] at hk
  have hrun := digitsNode_run_eq_some hc hmore hrest (by simp [unmarked]) hk
  have htaken : (Opening.mk 5 [] (c :: more.toList) []).taken = c :: more.toList := by
    simp [Opening.taken]
  rw [htaken, openings_run_of_head? before _ k hhead, hrun]
  rfl

theorem runs_name {name : List Char} (h : '>' ∉ name) (rest : List Char) :
    (Opening.mk 6 ['<'] name ['>']).Runs rest := by
  intro before k r hk
  have htaken : (Opening.mk 6 ['<'] name ['>']).taken ++ rest = '<' :: name ++ '>' :: rest := by
    simp [Opening.taken]
  have hrun : nameNode.run ⟨.between before ('<' :: name ++ '>' :: rest), unmarked⟩ k = some r :=
    nameNode_run_eq_some h (by simp [unmarked]) (by simpa [Opening.state, Opening.taken] using hk)
  rw [htaken, openings_run_of_head? before _ k (by simp), digitsNode_run_eq_none _ _ _ (by simp),
    hrun]
  rfl

/-- Where no placeholder follows, no opening is gone through. -/
theorem openings_run_eq_none (h : ∀ parts rest, ¬Placeholder groups names text parts rest)
    (before : List Char) (marks : List Mark) (k : Continuation) :
    openings.run ⟨.between before text, marks⟩ k = none := by
  have hsymbol : ∀ c ∈ text.head?, c ∉ ['$', '&', '\x60', '\''] := by
    intro c hc hmem
    obtain ⟨rest, rfl⟩ := List.head?_eq_some_iff.mp hc
    simp only [List.mem_cons, List.not_mem_nil, or_false] at hmem
    obtain rfl | rfl | rfl | rfl := hmem
    · exact h _ _ (.dollar rest)
    · exact h _ _ (.whole rest)
    · exact h _ _ (.before rest)
    · exact h _ _ (.after rest)
  have hdigit : ∀ c ∈ text.head?, c.isDigit = false := by
    intro c hc
    obtain ⟨rest, rfl⟩ := List.head?_eq_some_iff.mp hc
    cases hc : c.isDigit with
    | false => rfl
    | true => exact absurd (.digits (by simp [leadingDigits, hc])) (h _ _)
  have hname : ∀ name rest, '>' ∉ name → text ≠ '<' :: name ++ '>' :: rest := by
    rintro name rest hfree rfl
    by_cases hknown : String.ofList name ∈ names
    · exact h _ _ (.known rest hfree hknown)
    · exact h _ _ (.unknown rest hfree hknown)
  rw [openings_run_of_head? before marks k hsymbol, digitsNode_run_eq_none before marks k hdigit,
    nameNode_run_eq_none before marks k hname]
  rfl

/-! ### The matches -/

theorem root_run (s : State) (k : Continuation) :
    placeholders.val.root.run s k =
      (s.step? (.is '$' false)).bind fun s' => openings.run s' k :=
  State.run_char (.is '$' false) s fun s' => openings.run s' k

theorem matchAt?_eq_none {c : Cursor} (mustMove : Bool)
    (h : ∀ k, placeholders.val.root.run ⟨c, unmarked⟩ k = none) :
    placeholders.val.matchAt? c mustMove = none := by
  rw [Regex.matchAt?]
  exact congrArg (Option.map _) (h _)

/-- No placeholder begins at another character. -/
theorem matchAt?_of_head? (before : List Char) (mustMove : Bool)
    (h : ∀ c ∈ text.head?, c ≠ '$') :
    placeholders.val.matchAt? (.between before text) mustMove = none := by
  have hstep : State.step? (.is '$' false) ⟨.between before text, unmarked⟩ = none :=
    State.step?_between_eq_none before unmarked fun c hc => by
      simpa [CharTest.accepts_is] using h c hc
  refine matchAt?_eq_none mustMove fun k => ?_
  rw [root_run, hstep]
  rfl

/-- None begins at a dollar sign that no placeholder follows. -/
theorem matchAt?_stray (before : List Char) (mustMove : Bool)
    (h : ∀ parts rest, ¬Placeholder groups names text parts rest) :
    placeholders.val.matchAt? (.between before ('$' :: text)) mustMove = none := by
  have hstep : State.step? (.is '$' false) ⟨.between before ('$' :: text), unmarked⟩ = _ :=
    State.step?_between_cons _ _ _ rfl
  refine matchAt?_eq_none mustMove fun k => ?_
  rw [root_run, hstep, Option.bind_some, openings_run_eq_none h]

/-- One begins at a dollar sign that an opening follows. -/
theorem Opening.Runs.matchAt?_eq (h : o.Runs rest) (before : List Char) (mustMove : Bool) :
    placeholders.val.matchAt? (.between before ('$' :: (o.taken ++ rest))) mustMove =
      some (o.found before rest) := by
  have hstep : State.step? (.is '$' false)
      ⟨.between before ('$' :: (o.taken ++ rest)), unmarked⟩ = _ :=
    State.step?_between_cons _ _ _ rfl
  have hrun : ∀ k : Continuation, k (o.state (before ++ ['$']) rest) =
      some (o.state (before ++ ['$']) rest) →
      placeholders.val.root.run ⟨.between before ('$' :: (o.taken ++ rest)), unmarked⟩ k =
        some (o.state (before ++ ['$']) rest) := by
    intro k hk
    rw [root_run, hstep]
    exact h _ k _ hk
  rw [Regex.matchAt?]
  refine Option.map_eq_some_iff.mpr ⟨o.state (before ++ ['$']) rest, hrun _ ?_, rfl⟩
  -- The match takes the dollar sign at least, so it counts even where a match has to move on.
  simp [Opening.state, Cursor.between]
  omega

theorem unmarked_getElem? (h : number < 6) : unmarked[number]? = some {} := by
  rw [unmarked, List.getElem?_replicate_of_lt h]

/-- The only group that is found is the one of the opening. -/
theorem Opening.found?_eq (o : Opening) (before rest : List Char) {name : String}
    (hname : placeholders.val.names.lookup name = some number)
    (hnumber : 1 ≤ number ∧ number ≤ 6) (ho : 1 ≤ o.number ∧ o.number ≤ 6) :
    found? (o.found before rest) name = if number = o.number then some o.inside else none := by
  have hgroup : found? (o.found before rest) name =
      ((o.found before rest).marks[number - 1]?.map Mark.text?).join := by
    rw [found?, hname, Option.bind_some, Match.group?, if_neg (by omega)]
  rw [hgroup, found, state, List.getElem?_set]
  split
  · have hsame : number = o.number := by omega
    have hlt : o.number - 1 < unmarked.length := by
      simp [unmarked]
      omega
    rw [if_pos hlt, if_pos hsame]
    exact Mark.text?_around _ _ _
  · have hother : number ≠ o.number := by omega
    rw [unmarked_getElem? (by omega), if_neg hother]
    rfl

/-- What the placeholder of an opening stands for. -/
theorem placeholderParts?_found (o : Opening) (before rest : List Char)
    (ho : 1 ≤ o.number ∧ o.number ≤ 6) :
    placeholderParts? groups names (o.found before rest) =
      match o.number, o.inside with
      | 1, _ => some [.literal ['$']]
      | 2, _ => some [.whole]
      | 3, _ => some [.before]
      | 4, _ => some [.after]
      | 5, first :: more => resolveDigits groups first more.head?
      | 6, name =>
        if names.contains (String.ofList name) then some [.named (String.ofList name)] else none
      | _, _ => none := by
  have hfound : ∀ name number, placeholders.val.names.lookup name = some number →
      1 ≤ number ∧ number ≤ 6 → found? (o.found before rest) name = _ :=
    fun name number hname hnumber => o.found?_eq before rest hname hnumber ho
  rw [placeholderParts?, hfound "dollar" 1 rfl (by omega), hfound "whole_match" 2 rfl (by omega),
    hfound "before_match" 3 rfl (by omega), hfound "after_match" 4 rfl (by omega),
    hfound "group_digits" 5 rfl (by omega), hfound "group_name" 6 rfl (by omega)]
  obtain ⟨number, lead, inside, closing⟩ := o
  dsimp only at ho ⊢
  obtain rfl | rfl | rfl | rfl | rfl | rfl : number = 1 ∨ number = 2 ∨ number = 3 ∨ number = 4 ∨
      number = 5 ∨ number = 6 := by omega
  case inr.inr.inr.inr.inl => cases inside <;> rfl
  all_goals rfl

/-- Each symbol is an opening, which stands for one part. -/
theorem exists_opening_symbol (number : Nat) {part : Part}
    (h : (number, c, part) ∈
      [(1, '$', .literal ['$']), (2, '&', .whole), (3, '\x60', .before), (4, '\'', .after)])
    (rest : List Char) :
    ∃ o : Opening, c :: rest = o.taken ++ rest ∧ o.Runs rest ∧ ∀ before,
      (placeholderParts? groups names (o.found before rest)).elim (letters ('$' :: o.taken))
        spelled = [part] := by
  refine ⟨⟨number, [], [c], []⟩, rfl, runs_symbol (by grind) rest, fun before => ?_⟩
  have hnumber : 1 ≤ number ∧ number ≤ 6 := by grind
  rw [placeholderParts?_found _ _ _ hnumber]
  simp only [List.mem_cons, Prod.mk.injEq, List.not_mem_nil, or_false] at h
  obtain ⟨rfl, rfl, rfl⟩ | ⟨rfl, rfl, rfl⟩ | ⟨rfl, rfl, rfl⟩ | ⟨rfl, rfl, rfl⟩ := h <;> rfl

/-- A placeholder has an opening, which tells what it stands for. -/
theorem Placeholder.exists_opening {parts : List Part}
    (h : Placeholder groups names text parts rest) :
    ∃ o : Opening, text = o.taken ++ rest ∧ o.Runs rest ∧ ∀ before,
      (placeholderParts? groups names (o.found before rest)).elim (letters ('$' :: o.taken))
        spelled = parts := by
  cases h with
  | dollar => exact exists_opening_symbol 1 (by simp) rest
  | whole => exact exists_opening_symbol 2 (by simp) rest
  | before => exact exists_opening_symbol 3 (by simp) rest
  | after => exact exists_opening_symbol 4 (by simp) rest
  | digits h =>
    obtain ⟨c, more, rest, rfl, hdigits, hc, hmore, hrest⟩ := exists_leadingDigits h
    have hdrop : (c :: more.toList ++ rest).drop (c :: more.toList).length = rest :=
      List.drop_left
    have hhead : more.toList.head? = more := by cases more <;> rfl
    rw [hdigits, hdrop]
    refine ⟨⟨5, [], c :: more.toList, []⟩, by simp [Opening.taken], runs_digits hc hmore hrest,
      fun before => ?_⟩
    rw [placeholderParts?_found _ _ _ (by simp), ← spelled_resolveDigits, ← hhead]
    simp [Opening.taken]
  | @known name rest hfree hknown =>
    refine ⟨⟨6, ['<'], name, ['>']⟩, by simp [Opening.taken], runs_name hfree rest,
      fun before => ?_⟩
    rw [placeholderParts?_found _ _ _ (by simp)]
    simp [hknown, Part.spell]
  | @unknown name rest hfree hunknown =>
    refine ⟨⟨6, ['<'], name, ['>']⟩, by simp [Opening.taken], runs_name hfree rest,
      fun before => ?_⟩
    rw [placeholderParts?_found _ _ _ (by simp)]
    simp [hunknown, Opening.taken]

end

end PasteRules.Template
