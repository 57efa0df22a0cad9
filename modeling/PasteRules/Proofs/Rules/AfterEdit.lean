import PasteRules.Proofs.Rules.AwayFrom
import PasteRules.Proofs.Rules.Diagnosis
import PasteRules.Proofs.Store.Outcome
import PasteRules.Proofs.Store.Revision

/-! The rules after an edit, from the rules before it. A link that goes takes its rule with it, a
new link brings at most one, and a new text changes the rules of the links that use it. All other
rules stay, in their order. -/
namespace PasteRules

theorem compile_pattern {text : String} {regex : Regex} (h : Regex.compile text = .ok regex) :
    regex.pattern = text := by
  unfold Regex.compile at h
  cases hsource : Regex.Source.ofPattern text.toList with
  | error failure => simp [hsource, bind, Except.bind] at h
  | ok source =>
    cases hread : Regex.Reader.pattern.run
        ⟨source, .none, .fresh {}, [], Unicode.asciiNamed?⟩ with
    | error failure => simp [hsource, hread, bind, Except.bind] at h
    | ok result =>
      simp only [hsource, hread, bind, Except.bind] at h
      split at h
      · cases h
      · cases h
        rfl

theorem compilePattern_pattern {text : String} {regex : Regex}
    (h : compilePattern text = .ok (.ok regex)) : regex.pattern = text :=
  compile_pattern (compile_of_compilePattern h)

namespace Rule

def isOf (links : List Link) (r : Rule) : Bool := decide (r.linkId ∈ links.map Link.id)

theorem isOf_eq {links part : List Link} (hn : (links.map Link.id).Nodup) (hpart : part ⊆ links)
    {l : Link} (hl : l ∈ links) {r : Rule} (hr : r.linkId = l.id) :
    r.isOf part = decide (l ∈ part) := by
  unfold isOf
  rw [hr, decide_eq_decide, List.mem_map]
  constructor
  · rintro ⟨l', hl', hid⟩
    exact List.inj_on_of_nodup_map hn (hpart hl') hl hid ▸ hl'
  · intro hmem
    exact ⟨l, hmem, rfl⟩

def retemplated (r : Rule) (template : String) : Rule := .make r.linkId r.regex template

end Rule

namespace Store

variable {σ : Type} {s s' : Store σ} {rules : List Rule}

structure Loses (s s' : Store σ) (rules : List Rule) (gone : List Link) : Prop where
  links : s'.links = s.links.filter (· ∉ gone)
  rules : s'.rules = .ok (rules.filter (!·.isOf gone))

/-- The rules after the links of a list have been given a pattern text of which `result` comes. -/
structure Repatterned (s : Store σ) (users : List Link) (text : String)
    (result : Except String Regex) (rules rules' : List Rule) : Prop where
  others : rules'.filter (!·.isOf users) = rules.filter (!·.isOf users)
  inLinkOrder : (rules'.map Rule.linkId).Sublist (s.links.map Link.id)
  compiled : ∀ regex, result = .ok regex → regex.pattern = text ∧
    List.Forall₂
      (fun l rule => rule = .make l.id regex rule.template ∧
        Fragment.textOf? s.replacers l.replacerId = some rule.template)
      (users.filter (·.enabled)) (rules'.filter (·.isOf users))
  rejected : ∀ message, result = .error message → rules'.filter (·.isOf users) = []

/-- What each edit makes of the rules of a store. A text whose compilation fails for a reason that
no message covers leaves no rules where a link that is on uses it. -/
structure RulesFollow [IdSupply σ] (s : Store σ) (rules : List Rule) : Prop where
  addPattern : ∀ text, (s.addPattern text).2.rules = .ok rules
  addReplacer : ∀ text, (s.addReplacer text).2.rules = .ok rules
  setLinkComment : ∀ l ∈ s.links, ∀ comment, ∃ s',
    s.setLinkComment l.id comment = .ok ({ l with comment }, s') ∧ s'.rules = .ok rules
  disable : ∀ l ∈ s.links, ∃ s',
    s.setLinkEnabled l.id false = .ok ({ l with enabled := false }, s') ∧
      s'.rules = .ok (rules.filter (!·.isOf [l]))
  removeLink : ∀ l ∈ s.links, ∃ s', s.removeLink l.id = .ok (l, s') ∧ s.Loses s' rules [l]
  removePattern : ∀ p ∈ s.patterns, ∃ gone s', s.removePattern p.id = .ok (gone, s') ∧
    gone = s.links.filter (·.patternId == p.id) ∧ s.Loses s' rules gone
  removeReplacer : ∀ r ∈ s.replacers, ∃ gone s', s.removeReplacer r.id = .ok (gone, s') ∧
    gone = s.links.filter (·.replacerId == r.id) ∧ s.Loses s' rules gone
  addLink : ∀ p ∈ s.patterns, ∀ r ∈ s.replacers, (p.id, r.id) ∉ s.links.map Link.pair →
    ∀ enabled comment, ∃ id s',
      s.addLink p.id r.id enabled comment = .ok (some ⟨id, p.id, r.id, enabled, comment⟩, s') ∧
        id ∉ s.links.map Link.id ∧
        match enabled, compilePattern p.text with
        | true, .ok (.ok regex) =>
          regex.pattern = p.text ∧ s'.rules = .ok (rules ++ [.make id regex r.text])
        | true, .error fault => s'.rules = .error fault
        | _, _ => s'.rules = .ok rules
  editReplacer : ∀ r ∈ s.replacers, ∀ text, ∃ s',
    s.editReplacer r.id text = .ok ({ r with text }, s') ∧
      s'.rules = .ok (rules.map fun rule =>
        if rule.isOf (s.links.filter (·.replacerId == r.id)) then rule.retemplated text else rule)
  editPattern : ∀ p ∈ s.patterns, ∀ text, ∃ s',
    s.editPattern p.id text = .ok ({ p with text }, s') ∧
      match compilePattern text with
      | .ok result => ∃ rules', s'.rules = .ok rules' ∧
          s.Repatterned (s.links.filter (·.patternId == p.id)) text result rules rules'
      | .error fault => s'.rules =
          if (s.links.filter (·.patternId == p.id)).any (·.enabled) then .error fault
          else .ok rules

theorem ruleOf_retemplated {l : Link} {template : String}
    (hp : Fragment.textOf? s'.patterns l.patternId = Fragment.textOf? s.patterns l.patternId)
    (hr : l.replacerId ∈ s.replacers.map Fragment.id)
    (hr' : Fragment.textOf? s'.replacers l.replacerId = some template) :
    s'.ruleOf l = (s.ruleOf l).map (Option.map (·.retemplated template)) := by
  obtain ⟨former, hformer⟩ := Fragment.exists_textOf?_iff.mpr hr
  cases on : l.enabled with
  | false =>
    rw [ruleOf_of_disabled on, ruleOf_of_disabled on]
    rfl
  | true =>
    cases hpattern : Fragment.textOf? s.patterns l.patternId with
    | none => simp [ruleOf, on, hp, hpattern, Except.map]
    | some pattern =>
      rw [ruleOf_of_texts on hpattern hformer, ruleOf_of_texts on (hp.trans hpattern) hr']
      cases compilePattern pattern with
      | error fault => rfl
      | ok result => cases result <;> rfl

section

variable (hn : (s.links.map Link.id).Nodup) (hrules : s.rules = .ok rules)

include hrules

theorem linkIds_sublist : (rules.map Rule.linkId).Sublist (s.links.map Link.id) := by
  rw [rules_eq_gather] at hrules
  generalize s.links = links at hrules
  induction links generalizing rules with
  | nil =>
    obtain rfl : [] = rules := Except.ok.inj hrules
    exact .slnil
  | cons l links ih =>
    obtain ⟨o, later, hl, hrest, rfl⟩ := gather_cons_eq_ok hrules
    cases o with
    | none => exact (ih hrest).cons _
    | some rule =>
      rw [Option.toList_some, List.singleton_append, List.map_cons, List.map_cons,
        ruleOf_linkId hl]
      exact (ih hrest).cons_cons _

include hn

/-- The rules of some of the links. -/
theorem gather_part (p : Link → Bool) :
    gather s.ruleOf (s.links.filter p) = .ok (rules.filter (·.isOf (s.links.filter p))) := by
  apply gather_filter _ hrules
  intro l hl rule hrule
  rw [Rule.isOf_eq hn (List.filter_subset_self _) hl (ruleOf_linkId hrule)]
  simp [hl]

/-- The rules of the links but for some. -/
theorem gather_rest {gone : List Link} (hgone : gone ⊆ s.links) :
    gather s.ruleOf (s.links.filter (· ∉ gone)) = .ok (rules.filter (!·.isOf gone)) := by
  apply gather_filter _ hrules
  intro l hl rule hrule
  rw [Rule.isOf_eq hn hgone hl (ruleOf_linkId hrule), decide_not]

/-- Links that go take their rules with them if what the others make does not change. -/
theorem loses_of_same {gone : List Link} (hgone : gone ⊆ s.links)
    (hlinks : s'.links = s.links.filter (· ∉ gone))
    (hsame : ∀ l ∈ s.links, l ∉ gone → s'.ruleOf l = s.ruleOf l) : s.Loses s' rules gone := by
  refine ⟨hlinks, ?_⟩
  rw [rules_eq_gather, hlinks, ← gather_rest hn hrules hgone]
  apply gather_congr
  intro l hl
  obtain ⟨hmem, hkept⟩ := List.mem_filter.mp hl
  exact hsame l hmem (of_decide_eq_true hkept)

theorem loses_filter {p : Link → Bool} (hlinks : s'.links = s.links.filter (!p ·))
    (hsame : ∀ l ∈ s.links, p l = false → s'.ruleOf l = s.ruleOf l) :
    s.Loses s' rules (s.links.filter p) := by
  apply loses_of_same hn hrules (List.filter_subset_self _)
  · rw [hlinks]
    apply List.filter_congr
    intro l hl
    simp [hl]
  · intro l hl hkept
    exact hsame l hl (by simpa [hl] using hkept)

/-- Where links make what they made, their rules are the same and follow each other as they did. -/
theorem filter_rest {rules' : List Rule} (hrules' : s'.rules = .ok rules')
    (hlinks : s'.links = s.links) {changed : List Link} (hchanged : changed ⊆ s.links)
    (hsame : ∀ l ∈ s.links, l ∉ changed → s'.ruleOf l = s.ruleOf l) :
    rules'.filter (!·.isOf changed) = rules.filter (!·.isOf changed) := by
  have hchanged' : changed ⊆ s'.links := hlinks ▸ hchanged
  have hrest' := gather_rest (hlinks ▸ hn) hrules' hchanged'
  rw [hlinks] at hrest'
  apply Except.ok.inj (ε := Fault)
  rw [← hrest', ← gather_rest hn hrules hchanged]
  apply gather_congr
  intro l hl
  obtain ⟨hmem, hkept⟩ := List.mem_filter.mp hl
  exact hsame l hmem (of_decide_eq_true hkept)

end

section

variable (hs : s.Sound) (hrules : s.rules = .ok rules)

include hs hrules

theorem rules_disable {l : Link} (hl : l ∈ s.links) :
    Store.rules (bump { s with
      links := updateFirst (·.id == l.id) (fun l => { l with enabled := false }) s.links }) =
      .ok (rules.filter (!·.isOf [l])) := by
  have hlinks := updateFirst_eq_map (k := Link.id) hs.linkIds l.id
    fun l => { l with enabled := false }
  have hgone : [l] ⊆ s.links := List.cons_subset.mpr ⟨hl, List.nil_subset _⟩
  rw [← gather_rest hs.linkIds hrules hgone]
  change gather s.ruleOf (updateFirst _ _ s.links) = _
  rw [hlinks, gather_map]
  -- A link that is off makes no rule, as if it had gone.
  apply gather_passing
  intro l' hl'
  by_cases hid : l'.id = l.id
  · obtain rfl : l' = l := List.inj_on_of_nodup_map hs.linkIds hl' hl hid
    simp [ruleOf_of_disabled]
  · have hne : l' ≠ l := fun h => hid (h ▸ rfl)
    simp [hid, hne]

theorem loses_removeLink {l : Link} (hl : l ∈ s.links) :
    s.Loses (bump { s with links := s.links.eraseP (·.id == l.id) }) rules [l] := by
  have hgone : [l] ⊆ s.links := List.cons_subset.mpr ⟨hl, List.nil_subset _⟩
  apply loses_of_same hs.linkIds hrules hgone
  · have herase := eraseP_eq_filter (k := Link.id) hs.linkIds l.id
    change s.links.eraseP _ = _
    rw [herase]
    apply List.filter_congr
    intro l' hl'
    have hsame : l'.id = l.id ↔ l' = l :=
      ⟨List.inj_on_of_nodup_map hs.linkIds hl' hl, congrArg Link.id⟩
    simp only [beq_eq_decide, hsame, List.mem_singleton, decide_not]
  · intro l' _ _
    rfl

theorem rules_editReplacer (id text : String) :
    Store.rules (bump { s with
      replacers := updateFirst (·.id == id) (fun r => { r with text }) s.replacers }) =
      .ok (rules.map fun rule =>
        if rule.isOf (s.links.filter (·.replacerId == id)) then rule.retemplated text
        else rule) := by
  have hmap (k : Rule → Rule) : Except.ok (rules.map k) =
      gather (fun l => (s.ruleOf l).map (Option.map k)) s.links := by
    rw [← map_gather, ← rules_eq_gather, hrules]
    rfl
  rw [hmap, rules_eq_gather]
  apply gather_congr
  intro l (hl : l ∈ s.links)
  have hchanged : (s.ruleOf l).map (Option.map fun rule =>
      if rule.isOf (s.links.filter (·.replacerId == id)) then rule.retemplated text else rule) =
      (s.ruleOf l).map (Option.map fun rule =>
        if l.replacerId = id then rule.retemplated text else rule) := by
    cases hrule : s.ruleOf l with
    | error fault => rfl
    | ok o =>
      cases o with
      | none => rfl
      | some rule =>
        have husers : s.links.filter (·.replacerId == id) ⊆ s.links := List.filter_subset_self _
        have hisOf := Rule.isOf_eq hs.linkIds husers hl (ruleOf_linkId hrule)
        simp [Except.map, hisOf, hl]
  rw [hchanged]
  by_cases huses : l.replacerId = id
  · have hr := (hs.ends l hl).2
    have htext := Fragment.textOf?_updateFirst hs.replacerIds text hr
    rw [huses] at htext
    simp only [huses, if_true]
    exact ruleOf_retemplated rfl hr (huses ▸ htext)
  · rw [ruleOf_editReplacer hs huses]
    simp only [huses, if_false]
    cases s.ruleOf l with
    | error fault => rfl
    | ok o => cases o <;> rfl

variable [IdSupply σ]

theorem rules_addPattern (text : String) : (s.addPattern text).2.rules = .ok rules := by
  rw [← hrules]
  apply gather_congr
  intro l hl
  exact ruleOf_addPattern hs (IdSupply.draw_not_mem _ _ s.ids) hl

theorem rules_addReplacer (text : String) : (s.addReplacer text).2.rules = .ok rules := by
  rw [← hrules]
  apply gather_congr
  intro l hl
  exact ruleOf_addReplacer hs (IdSupply.draw_not_mem _ _ s.ids) hl

theorem rules_addLink {p r : Fragment} (hp : p ∈ s.patterns) (hr : r ∈ s.replacers)
    (hnew : (p.id, r.id) ∉ s.links.map Link.pair) (enabled : Bool) (comment : String) :
    ∃ id s',
      s.addLink p.id r.id enabled comment = .ok (some ⟨id, p.id, r.id, enabled, comment⟩, s') ∧
        id ∉ s.links.map Link.id ∧
        match enabled, compilePattern p.text with
        | true, .ok (.ok regex) =>
          regex.pattern = p.text ∧ s'.rules = .ok (rules ++ [.make id regex r.text])
        | true, .error fault => s'.rules = .error fault
        | _, _ => s'.rules = .ok rules := by
  rcases s.addLink_cases p.id r.id enabled comment with
    ⟨hno, -⟩ | ⟨-, hno, -⟩ | ⟨-, -, hjoined, -⟩ | ⟨-, -, -, id, ids, hfresh, -, hadded⟩
  · exact absurd (List.mem_map_of_mem hp) hno
  · exact absurd (List.mem_map_of_mem hr) hno
  · exact absurd hjoined hnew
  have hadds : s.addLink p.id r.id enabled comment = .ok (some ⟨id, p.id, r.id, enabled, comment⟩,
      bump { s with links := s.links ++ [⟨id, p.id, r.id, enabled, comment⟩], ids }) := by
    rw [addLink, attempt, hadded]
  refine ⟨id, _, hadds, hfresh, ?_⟩
  have hpattern := Fragment.textOf?_of_mem hs.patternIds hp
  have htemplate := Fragment.textOf?_of_mem hs.replacerIds hr
  have hafter (l : Link) : Store.rules (bump { s with links := s.links ++ [l], ids }) =
      (s.ruleOf l).map fun o => rules ++ o.toList := by
    change gather s.ruleOf (s.links ++ [l]) = _
    rw [gather_append, ← rules_eq_gather, hrules, gather_cons]
    cases s.ruleOf l with
    | error fault => rfl
    | ok o => cases o <;> rfl
  rw [hafter]
  cases enabled with
  | false =>
    rw [ruleOf_of_disabled rfl]
    simp [Except.map]
  | true =>
    rw [ruleOf_of_texts rfl hpattern htemplate]
    cases hc : compilePattern p.text with
    | error fault => rfl
    | ok result =>
      cases result with
      | ok regex => exact ⟨compilePattern_pattern hc, rfl⟩
      | error message => simp [Except.map]

end

section

variable {id text : String} {result : Except String Regex} (hs : s.Sound)
  (hreplacers : s'.replacers = s.replacers)
  (htext : Fragment.textOf? s'.patterns id = some text) (hc : compilePattern text = .ok result)

include hs hreplacers htext hc

/-- The rule of a link that is on, after its pattern has become a text that compiles or is
rejected. -/
theorem ruleOf_repatterned {l : Link} (hl : l ∈ s.links) (huses : l.patternId = id)
    (on : l.enabled = true) :
    ∃ template, Fragment.textOf? s.replacers l.replacerId = some template ∧
      s'.ruleOf l = .ok (result.toOption.map (Rule.make l.id · template)) := by
  obtain ⟨template, htemplate⟩ := Fragment.exists_textOf?_iff.mpr (hs.ends l hl).2
  refine ⟨template, htemplate, ?_⟩
  rw [ruleOf_of_texts on (huses ▸ htext) (hreplacers ▸ htemplate), hc]
  cases result <;> rfl

/-- If the text compiles, the links that use it and are on have rules of it. -/
theorem forall₂_of_compiled {regex : Regex} (hresult : result = .ok regex) :
    ∃ made, gather s'.ruleOf (s.links.filter (·.patternId == id)) = .ok made ∧
      List.Forall₂
        (fun l rule => rule = .make l.id regex rule.template ∧
          Fragment.textOf? s.replacers l.replacerId = some rule.template)
        ((s.links.filter (·.patternId == id)).filter (·.enabled)) made := by
  have hon : gather s'.ruleOf (s.links.filter (·.patternId == id)) =
      gather s'.ruleOf ((s.links.filter (·.patternId == id)).filter (·.enabled)) := by
    apply gather_passing
    intro l _
    cases on : l.enabled with
    | false => exact ruleOf_of_disabled on
    | true => rfl
  rw [hon]
  apply gather_forall₂
  intro l hl
  obtain ⟨huses, on⟩ := List.mem_filter.mp hl
  obtain ⟨hmem, hid⟩ := List.mem_filter.mp huses
  obtain ⟨template, htemplate, hrule⟩ :=
    ruleOf_repatterned hs hreplacers htext hc hmem (by simpa using hid) on
  rw [hresult] at hrule
  exact ⟨_, hrule, rfl, htemplate⟩

/-- If the text is rejected, no link that uses it has a rule. -/
theorem nil_of_rejected {message : String} (hresult : result = .error message) :
    gather s'.ruleOf (s.links.filter (·.patternId == id)) = .ok [] := by
  apply gather_eq_nil
  intro l hl
  obtain ⟨hmem, hid⟩ := List.mem_filter.mp hl
  cases on : l.enabled with
  | false => exact ruleOf_of_disabled on
  | true =>
    obtain ⟨template, -, hrule⟩ :=
      ruleOf_repatterned hs hreplacers htext hc hmem (by simpa using hid) on
    rw [hresult] at hrule
    exact hrule

/-- The rules after a pattern has become a text that compiles or is rejected. -/
theorem exists_repatterned (hrules : s.rules = .ok rules) (hlinks : s'.links = s.links)
    (hothers : ∀ l ∈ s.links, l.patternId ≠ id → s'.ruleOf l = s.ruleOf l) :
    ∃ rules', s'.rules = .ok rules' ∧
      s.Repatterned (s.links.filter (·.patternId == id)) text result rules rules' := by
  have hcompiles : ∀ l ∈ s'.links, s'.Compiles l := by
    rw [hlinks]
    intro l hl
    by_cases huses : l.patternId = id
    · cases on : l.enabled with
      | false => exact ⟨none, ruleOf_of_disabled on⟩
      | true =>
        obtain ⟨template, -, hrule⟩ := ruleOf_repatterned hs hreplacers htext hc hl huses on
        exact ⟨_, hrule⟩
    · unfold Compiles
      rw [hothers l hl huses]
      exact rules_isOk_iff.mp ⟨rules, hrules⟩ l hl
  obtain ⟨rules', hrules'⟩ := rules_isOk_iff.mpr hcompiles
  have husers := gather_part (hlinks ▸ hs.linkIds) hrules' (·.patternId == id)
  rw [hlinks] at husers
  refine ⟨rules', hrules', ?_⟩
  constructor
  · apply filter_rest hs.linkIds hrules hrules' hlinks (List.filter_subset_self _)
    intro l hl hkept
    exact hothers l hl (by simpa [hl] using hkept)
  · rw [← hlinks]
    exact linkIds_sublist hrules'
  · intro regex hresult
    obtain ⟨made, hmade, hforall⟩ := forall₂_of_compiled hs hreplacers htext hc hresult
    rw [hmade] at husers
    rw [hresult] at hc
    exact ⟨compilePattern_pattern hc, Except.ok.inj husers ▸ hforall⟩
  · intro message hresult
    rw [nil_of_rejected hs hreplacers htext hc hresult] at husers
    exact (Except.ok.inj husers).symm

end

section

variable (hs : s.Sound) (hrules : s.rules = .ok rules) [IdSupply σ]

include hs hrules

theorem rules_editPattern {p : Fragment} (hp : p ∈ s.patterns) (text : String) :
    ∃ s', s.editPattern p.id text = .ok ({ p with text }, s') ∧
      match compilePattern text with
      | .ok result => ∃ rules', s'.rules = .ok rules' ∧
          s.Repatterned (s.links.filter (·.patternId == p.id)) text result rules rules'
      | .error fault => s'.rules =
          if (s.links.filter (·.patternId == p.id)).any (·.enabled) then .error fault
          else .ok rules := by
  refine ⟨_, editPattern_eq hs.patternIds hp text, ?_⟩
  have hid := List.mem_map_of_mem (f := Fragment.id) hp
  have hothers : ∀ l ∈ s.links, l.patternId ≠ p.id → ruleOf (bump { s with
      patterns := updateFirst (·.id == p.id) (fun p => { p with text }) s.patterns }) l =
      s.ruleOf l := fun l _ hne => ruleOf_editPattern hs hne
  cases hc : compilePattern text with
  | ok result =>
    exact exists_repatterned hs rfl (Fragment.textOf?_updateFirst hs.patternIds text hid) hc hrules
      rfl hothers
  | error fault =>
    cases hany : (s.links.filter (·.patternId == p.id)).any (·.enabled) with
    | true =>
      obtain ⟨l, hl, on⟩ := List.any_eq_true.mp hany
      obtain ⟨hmem, huses⟩ := List.mem_filter.mp hl
      have hcompiles := rules_isOk_iff.mp ⟨rules, hrules⟩
      have hfails := rules_eq_error hs hcompiles
        (.editPattern hmem on (by simpa using huses) hc)
      rwa [edit_editPattern hid] at hfails
    -- The text is used by links that are off alone, and they made no rule before.
    | false =>
      change _ = Except.ok rules
      rw [← hrules]
      apply gather_congr
      intro l hl
      by_cases huses : l.patternId = p.id
      · have off : l.enabled = false := by
          have hnone := List.any_eq_false.mp hany l
            (List.mem_filter.mpr ⟨hl, by simpa using huses⟩)
          simpa using hnone
        rw [ruleOf_of_disabled off, ruleOf_of_disabled off]
      · exact hothers l hl huses

/-- The rules follow every edit: they change as the edit says and are else as they were. -/
theorem rules_follow_edits : s.RulesFollow rules := by
  constructor
  · exact rules_addPattern hs hrules
  · exact rules_addReplacer hs hrules
  · intro l hl comment
    have hkept := (rules_setLinkComment s l.id comment).trans hrules
    exact ⟨_, setLinkComment_eq hs.linkIds hl comment, hkept⟩
  · intro l hl
    exact ⟨_, setLinkEnabled_eq hs.linkIds hl false, rules_disable hs hrules hl⟩
  · intro l hl
    exact ⟨_, removeLink_eq hs.linkIds hl, loses_removeLink hs hrules hl⟩
  · intro p hp
    have hremoved := s.removePattern_eq (List.mem_map_of_mem hp)
    refine ⟨_, _, hremoved, rfl, loses_filter hs.linkIds hrules rfl ?_⟩
    intro l _ hkept
    exact ruleOf_removePattern hs (by simpa using hkept)
  · intro r hr
    have hremoved := s.removeReplacer_eq (List.mem_map_of_mem hr)
    refine ⟨_, _, hremoved, rfl, loses_filter hs.linkIds hrules rfl ?_⟩
    intro l _ hkept
    exact ruleOf_removeReplacer hs (by simpa using hkept)
  · intro p hp r hr hnew
    exact rules_addLink hs hrules hp hr hnew
  · intro r hr text
    have hedited := editReplacer_eq hs.replacerIds hr text
    exact ⟨_, hedited, rules_editReplacer hs hrules r.id text⟩
  · intro p hp
    exact rules_editPattern hs hrules hp

end

/-- The rules of two joined pairs follow edits. Switching the first link off leaves the second. -/
theorem twoPairs_follow :
    ∃ rules, twoPairs.rules = .ok rules ∧ twoPairs.RulesFollow rules ∧
      ∃ s' rules', twoPairs.setLinkEnabled "l-1" false =
          .ok (⟨"l-1", "p-1", "r-1", false, ""⟩, s') ∧
        s'.rules = .ok rules' ∧ rules'.map Rule.linkId = ["l-2"] := by
  have hids : twoPairs.rules.map (List.map Rule.linkId) = .ok ["l-1", "l-2"] := by decide +kernel
  cases hrules : twoPairs.rules with
  | error fault =>
    rw [hrules] at hids
    cases hids
  | ok rules =>
    rw [hrules] at hids
    have hids : rules.map Rule.linkId = ["l-1", "l-2"] := Except.ok.inj hids
    have hfollow := rules_follow_edits twoPairs_sound hrules
    obtain ⟨s', hedited, hrules'⟩ :=
      hfollow.disable ⟨"l-1", "p-1", "r-1", true, ""⟩ List.mem_cons_self
    refine ⟨rules, rfl, hfollow, s', _, hedited, hrules', ?_⟩
    have hleft : (rules.filter (!·.isOf [⟨"l-1", "p-1", "r-1", true, ""⟩])).map Rule.linkId =
        (rules.map Rule.linkId).filter (· ∉ ["l-1"]) := by
      simp [List.filter_map, Rule.isOf, Function.comp_def]
    rw [hleft, hids]
    decide

/-- The second pattern becomes a text that asks for two alphabets at once, and yet the rule of the
first link is lost as well. -/
theorem twoPairs_rules_lost :
    twoPairs.Sound ∧ twoPairs.rules.map (List.map Rule.linkId) = .ok ["l-1", "l-2"] ∧
      ∃ s', twoPairs.editPattern "p-2" "(?a)(?u)b" = .ok (⟨"p-2", "(?a)(?u)b"⟩, s') ∧
        s'.links = twoPairs.links ∧ s'.rules = .error .alphabetsContradict := by
  refine ⟨twoPairs_sound, by decide +kernel, _, rfl, rfl, by decide +kernel⟩

end Store
end PasteRules
