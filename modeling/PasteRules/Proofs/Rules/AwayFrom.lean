import PasteRules.Proofs.Rules.Winner
import PasteRules.Proofs.Store.Lookup
import PasteRules.Proofs.Store.Move

/-! Edits away from the winner. They leave the link whose rule wins for a text to make it, and let
nothing before that link do more than it did, so they do not change what becomes of the text. -/
namespace PasteRules

namespace Edit

variable {σ : Type}

/-- Edits that only switch links off, remove, reorder, or change comments and templates. -/
inductive OnlyTakes : Edit → Prop
  | setLinkComment (id : String) (comment : Option String) : OnlyTakes (.setLinkComment id comment)
  | disable (id : String) : OnlyTakes (.setLinkEnabled id false)
  | removeLink (id : String) : OnlyTakes (.removeLink id)
  | moveLink (id : String) (i : Int) : OnlyTakes (.moveLink id (.int i))
  | editReplacer (id text : String) : OnlyTakes (.editReplacer id text)
  | removePattern (id : String) : OnlyTakes (.removePattern id)
  | removeReplacer (id : String) : OnlyTakes (.removeReplacer id)

/-- Edits away from a link `w`, where `s'` is the store after the edit of `s`. Another link may be
moved behind it, and it may be moved to the front. -/
inductive AwayFrom (s s' : Store σ) (w : Link) : Edit → Prop
  | setLinkComment (id : String) (comment : Option String) :
      AwayFrom s s' w (.setLinkComment id comment)
  | disable {id : String} (h : id ≠ w.id) : AwayFrom s s' w (.setLinkEnabled id false)
  | removeLink {id : String} (h : id ≠ w.id) : AwayFrom s s' w (.removeLink id)
  | addPattern (text : String) : AwayFrom s s' w (.addPattern text)
  | addReplacer (text : String) : AwayFrom s s' w (.addReplacer text)
  | addLink {p r : String} (enabled : Bool) (comment : Option String)
      (h : (p, r) ∉ s.links.map Link.pair) : AwayFrom s s' w (.addLink p r enabled comment)
  | moveOther {id : String} (i : Int) (h : id ≠ w.id)
      (behind : Link.place s'.links w.id < Link.place s'.links id) :
      AwayFrom s s' w (.moveLink id (.int i))
  | moveWinner (i : Int) (front : Link.place s'.links w.id ≤ Link.place s.links w.id) :
      AwayFrom s s' w (.moveLink w.id (.int i))
  | editReplacer {id : String} (text : String) (h : id ≠ w.replacerId) :
      AwayFrom s s' w (.editReplacer id text)
  | removePattern {id : String} (h : id ≠ w.patternId) : AwayFrom s s' w (.removePattern id)
  | removeReplacer {id : String} (h : id ≠ w.replacerId) : AwayFrom s s' w (.removeReplacer id)
  | editPattern {id : String} (text : String) (h : id ≠ w.patternId)
      (unused : ∀ l ∈ s.links, l.enabled = true → l.patternId = id →
        Link.place s.links w.id < Link.place s.links l.id) :
      AwayFrom s s' w (.editPattern id text)

/-- Edits that give a link that is on a pattern that does not compile for a reason that no message
covers. -/
inductive Brings (s : Store σ) (fault : Fault) : Edit → Prop
  | addLink {p r text : String} (comment : Option String)
      (hp : Fragment.textOf? s.patterns p = some text) (hr : r ∈ s.replacers.map Fragment.id)
      (new : (p, r) ∉ s.links.map Link.pair) (h : compilePattern text = .error fault) :
      Brings s fault (.addLink p r true comment)
  | editPattern {id text : String} {l : Link} (hl : l ∈ s.links) (on : l.enabled = true)
      (uses : l.patternId = id) (h : compilePattern text = .error fault) :
      Brings s fault (.editPattern id text)

end Edit

namespace Store

variable {σ : Type} {s s' : Store σ} {e : Edit} {text : String}

theorem noMore_disabled (s s' : Store σ) (l : Link) : s.NoMore s' l { l with enabled := false } :=
  .inl (ruleOf_of_disabled rfl)

/-- No edit that only takes lets a link do more than one did before. -/
theorem Effect.fewer (h : s.Effect e s') (hs : s.Sound) (he : e.OnlyTakes) :
    s.Fewer s' s.links s'.links := by
  cases h with
  | unchanged => exact .of_subset rfl fun _ h => h
  | setLinkComment =>
    change s.Fewer _ _ (updateFirst _ _ _)
    rw [updateFirst_eq_map (k := Link.id) hs.linkIds]
    exact .map fun l _ => .relabel rfl (fun l => .of_ruleOf (s.ruleOf_setComment l _)) l
  | setLinkEnabled =>
    cases he
    change s.Fewer _ _ (updateFirst _ _ _)
    rw [updateFirst_eq_map (k := Link.id) hs.linkIds]
    exact .map fun l _ => .relabel rfl (noMore_disabled s _) l
  | removeLink => exact .of_subset rfl List.eraseP_sublist.subset
  | moveLink found place => exact .of_subset rfl (perm_moved found place).subset
  | loseLink => exact .of_subset rfl List.eraseP_sublist.subset
  | editReplacer => exact fun l hl => ⟨l, hl, .inr (regexOf?_editReplacer l)⟩
  | removePattern =>
    exact .filter fun l _ hkeep => .of_ruleOf (ruleOf_removePattern hs (by simpa using hkeep))
  | removeReplacer =>
    exact .filter fun l _ hkeep => .of_ruleOf (ruleOf_removeReplacer hs (by simpa using hkeep))
  | _ => cases he

/-- The link `w` is still there and makes the rule it made, and the links before it do no more than
those that stood before it did. -/
def Stays (s s' : Store σ) (before : List Link) (w : Link) : Prop :=
  ∃ before' w' behind', s'.links = before' ++ w' :: behind' ∧ s.Fewer s' before before' ∧
    s'.ruleOf w' = s.ruleOf w

section

variable {before behind : List Link} {w : Link}

theorem Stays.map {f : Link → Link} (hlinks : s'.links = (before ++ w :: behind).map f)
    (hbefore : ∀ l ∈ before, s.NoMore s' l (f l)) (hw : s'.ruleOf (f w) = s.ruleOf w) :
    s.Stays s' before w :=
  ⟨before.map f, f w, behind.map f, by simpa using hlinks, .map hbefore, hw⟩

theorem Stays.filter {keep : Link → Bool} (hlinks : s'.links = (before ++ w :: behind).filter keep)
    (hkeep : keep w = true) (hbefore : ∀ l ∈ before, keep l = true → s.NoMore s' l l)
    (hw : s'.ruleOf w = s.ruleOf w) : s.Stays s' before w :=
  ⟨before.filter keep, w, behind.filter keep, by simpa [hkeep] using hlinks, .filter hbefore, hw⟩

theorem Stays.append {new : List Link} (hlinks : s'.links = before ++ w :: behind ++ new)
    (hbefore : ∀ l ∈ before, s.NoMore s' l l) (hw : s'.ruleOf w = s.ruleOf w) :
    s.Stays s' before w :=
  ⟨before, w, behind ++ new, by simpa using hlinks, fun l hl => ⟨l, hl, hbefore l hl⟩, hw⟩

end

section

variable {before behind : List Link} {w : Link}

variable (hs : s.Sound) (hlinks : s.links = before ++ w :: behind)

include hs hlinks

theorem id_ne_of_split : ∀ l ∈ before ++ behind, l.id ≠ w.id :=
  id_ne_of_nodup (hlinks ▸ hs.linkIds)

theorem stays_moveLink {id : String} {i : Int} {l : Link} {n : Nat}
    (found : s.links.find? (·.id == id) = some l)
    (place : placeFor? (.int i) (s.links.eraseP (·.id == id)).length = some n)
    (he : Edit.AwayFrom s (bump { s with links := (s.links.eraseP (·.id == id)).insertIdx n l }) w
      (.moveLink id (.int i))) :
    s.Stays (bump { s with links := (s.links.eraseP (·.id == id)).insertIdx n l }) before w := by
  have hne := id_ne_of_split hs hlinks
  have hlid : l.id = id := by simpa using List.find?_some found
  have herase : s.links.eraseP (·.id == id) = s.links.filter fun x => !(x.id == id) :=
    eraseP_eq_filter hs.linkIds id
  have hn := placeFor?_le place
  rw [herase] at hn he ⊢
  cases he with
  | moveWinner _ front =>
    obtain rfl : l = w := by
      refine List.inj_on_of_nodup_map hs.linkIds (List.mem_of_find?_eq_some found) ?_ hlid
      exact hlinks ▸ List.mem_append_right _ List.mem_cons_self
    have hothers : s.links.filter (fun x => !(x.id == l.id)) = before ++ behind := by
      have hall : (before ++ behind).filter (fun x => !(x.id == l.id)) = before ++ behind :=
        List.filter_eq_self.mpr fun x hx => by simpa using hne x hx
      simpa [hlinks] using hall
    have front' : Link.place ((before ++ behind).insertIdx n l) l.id ≤
        Link.place (before ++ l :: behind) l.id := by
      rw [← hothers, ← hlinks]
      exact front
    rw [hothers] at hn ⊢
    have hmoved := moved_front hne hn front'
    exact ⟨before.take n, l, (before ++ behind).drop n, hmoved,
      .of_subset rfl fun x hx => List.mem_of_mem_take hx, rfl⟩
  | moveOther _ hid hbehind =>
    have hothers : s.links.filter (fun x => !(x.id == id)) =
        before.filter (fun x => !(x.id == id)) ++ w :: behind.filter fun x => !(x.id == id) := by
      simp [hlinks, hid.symm]
    change Link.place ((s.links.filter _).insertIdx n l) w.id <
      Link.place ((s.links.filter _).insertIdx n l) id at hbehind
    rw [hothers] at hn hbehind ⊢
    have hbefore : ∀ x ∈ before.filter (fun x => !(x.id == id)), x ∈ before ∧ x.id ≠ id :=
      fun x hx => by simpa using List.mem_filter.mp hx
    obtain ⟨behind', hmoved⟩ := moved_behind
      (fun x hx => hne x (List.mem_append_left _ (hbefore x hx).1))
      (fun x hx => hlid ▸ (hbefore x hx).2) (hlid ▸ hid) hn (hlid ▸ hbehind)
    exact ⟨_, w, behind', hmoved, .of_subset rfl fun x hx => (hbefore x hx).1, rfl⟩

/-- An edit away from a link lets it make its rule and lets nothing do more before it. -/
theorem Effect.stays (h : s.Effect e s') (he : e.AwayFrom s s' w) : s.Stays s' before w := by
  have hw : w ∈ s.links := hlinks ▸ List.mem_append_right _ List.mem_cons_self
  have hbefore (l : Link) (hl : l ∈ before) : l ∈ s.links := hlinks ▸ List.mem_append_left _ hl
  cases h with
  | unchanged =>
    exact .append (by rw [hlinks, List.append_nil]) (fun _ _ => .of_ruleOf rfl) rfl
  | addPattern fresh =>
    exact .append (by rw [← hlinks, List.append_nil]; rfl)
      (fun l hl => .of_ruleOf (ruleOf_addPattern hs fresh (hbefore l hl)))
      (ruleOf_addPattern hs fresh hw)
  | addReplacer fresh =>
    exact .append (by rw [← hlinks, List.append_nil]; rfl)
      (fun l hl => .of_ruleOf (ruleOf_addReplacer hs fresh (hbefore l hl)))
      (ruleOf_addReplacer hs fresh hw)
  | setLinkComment =>
    refine .map (by rw [← hlinks]; exact updateFirst_eq_map hs.linkIds _ _) (fun l _ => ?_) ?_
    · exact .relabel rfl (fun l => .of_ruleOf (s.ruleOf_setComment l _)) l
    · split
      · exact s.ruleOf_setComment w _
      · rfl
  | setLinkEnabled =>
    cases he with
    | disable hne =>
      refine .map (by rw [← hlinks]; exact updateFirst_eq_map hs.linkIds _ _) (fun l _ => ?_) ?_
      · exact .relabel rfl (noMore_disabled s _) l
      · rw [if_neg hne.symm]
        rfl
  | removeLink =>
    cases he with
    | removeLink hne =>
      refine .filter (by rw [← hlinks]; exact eraseP_eq_filter hs.linkIds _) ?_
        (fun _ _ _ => .of_ruleOf rfl) rfl
      simpa using hne.symm
  | addLink =>
    exact .append (by rw [← hlinks]; rfl) (fun _ _ => .of_ruleOf rfl) rfl
  | @moveLink id index l n found place =>
    cases index with
    | int i => exact stays_moveLink hs hlinks found place he
    | _ => cases he
  | @loseLink id index noPlace =>
    cases index with
    | int i => cases noPlace
    | _ => cases he
  | editReplacer =>
    cases he with
    | editReplacer _ hne =>
      exact .append (by rw [← hlinks, List.append_nil]; rfl)
        (fun l _ => .inr (regexOf?_editReplacer l)) (ruleOf_editReplacer hs hne.symm)
  | removePattern =>
    cases he with
    | removePattern hne =>
      refine .filter (by rw [← hlinks]; rfl) (by simpa using hne.symm) (fun l _ hkeep => ?_)
        (ruleOf_removePattern hs hne.symm)
      exact .of_ruleOf (ruleOf_removePattern hs (by simpa using hkeep))
  | removeReplacer =>
    cases he with
    | removeReplacer hne =>
      refine .filter (by rw [← hlinks]; rfl) (by simpa using hne.symm) (fun l _ hkeep => ?_)
        (ruleOf_removeReplacer hs hne.symm)
      exact .of_ruleOf (ruleOf_removeReplacer hs (by simpa using hkeep))
  | @editPattern id text =>
    cases he with
    | editPattern _ hne unused =>
      refine .append (by rw [← hlinks, List.append_nil]; rfl) (fun l hl => ?_)
        (ruleOf_editPattern hs hne.symm)
      by_cases hid : l.patternId = id
      · cases hon : l.enabled with
        | false => exact .inl (ruleOf_of_disabled hon)
        | true =>
          have hplace := unused l (hbefore l hl) hon hid
          have hlt : Link.place (before ++ w :: behind) l.id < before.length := place_lt_of_mem hl
          rw [hlinks, place_append fun x hx =>
            id_ne_of_split hs hlinks x (List.mem_append_left _ hx)] at hplace
          omega
      · exact .of_ruleOf (ruleOf_editPattern hs hid)
  | pruneDanglingLinks => cases he

end

section

variable (hs : s.Sound) (hrules : ∀ l ∈ s.links, s.Compiles l)

include hs hrules

/-- After an edit away from a link, every link still makes a rule or none, unless the edit has
brought a pattern that makes the rules fail. -/
theorem Effect.compiles (h : s.Effect e s') {w : Link} (he : e.AwayFrom s s' w)
    (hno : ∀ fault, ¬e.Brings s fault) : ∀ l ∈ s'.links, s'.Compiles l := by
  have hfewer (honly : e.OnlyTakes) : ∀ l ∈ s'.links, s'.Compiles l := by
    intro l' hl'
    obtain ⟨l, hl, hmore⟩ := h.fewer hs honly l' hl'
    exact hmore.compiles (hrules l hl)
  cases he with
  | setLinkComment id comment => exact hfewer (.setLinkComment id comment)
  | disable => exact hfewer (.disable _)
  | removeLink => exact hfewer (.removeLink _)
  | moveOther i => exact hfewer (.moveLink _ i)
  | moveWinner i => exact hfewer (.moveLink _ i)
  | editReplacer text => exact hfewer (.editReplacer _ text)
  | removePattern => exact hfewer (.removePattern _)
  | removeReplacer => exact hfewer (.removeReplacer _)
  | addPattern text =>
    cases h with
    | unchanged => exact hrules
    | addPattern fresh =>
      intro l hl
      unfold Compiles
      rw [ruleOf_addPattern hs fresh hl]
      exact hrules l hl
  | addReplacer text =>
    cases h with
    | unchanged => exact hrules
    | addReplacer fresh =>
      intro l hl
      unfold Compiles
      rw [ruleOf_addReplacer hs fresh hl]
      exact hrules l hl
  | addLink enabled comment hnew =>
    cases h with
    | unchanged => exact hrules
    | addLink fresh drawn unjoined hp hr =>
      intro l hl
      rcases List.mem_append.mp hl with hold | hadded
      · exact hrules l hold
      · obtain rfl := List.mem_singleton.mp hadded
        refine compiles_iff.mpr fun pattern hpattern _ on => ?_
        obtain rfl : enabled = true := on
        cases hc : compilePattern pattern with
        | ok result => exact ⟨result, rfl⟩
        | error fault => exact absurd (.addLink comment hpattern hr hnew hc) (hno fault)
  | @editPattern id text hne unused =>
    cases h with
    | unchanged => exact hrules
    | editPattern =>
      intro l hl
      by_cases hid : l.patternId = id
      · refine compiles_iff.mpr fun pattern hpattern _ on => ?_
        have htext := Fragment.textOf?_updateFirst hs.patternIds text (hs.ends l hl).1
        obtain rfl : text = pattern := by
          rw [hid] at htext hpattern
          exact Option.some.inj (htext.symm.trans hpattern)
        cases hc : compilePattern text with
        | ok result => exact ⟨result, rfl⟩
        | error fault => exact absurd (.editPattern hl on hid hc) (hno fault)
      · unfold Compiles
        rw [ruleOf_editPattern hs hid]
        exact hrules l hl

variable [IdSupply σ]

omit hs hrules in
theorem edit_editPattern {id text : String} (hid : id ∈ s.patterns.map Fragment.id) :
    (s.edit (.editPattern id text)).2 = bump { s with
      patterns := updateFirst (·.id == id) (fun p => { p with text }) s.patterns } := by
  have hlookup := s.lookup_pattern id
  rw [edit_of_onFound rfl (Editing.exec_editPattern id text s)]
  generalize s.getPattern id = found at hlookup
  cases hlookup with
  | found p => rfl
  | missing hmissing => exact absurd hid hmissing

/-- An edit that brings a pattern that makes a rule fail makes all rules fail. -/
theorem rules_eq_error {fault : Fault} (he : e.Brings s fault) :
    (s.edit e).2.rules = .error fault := by
  cases he with
  | @addLink p r text comment hp hr new h =>
    have hpid := Fragment.exists_textOf?_iff.mp ⟨text, hp⟩
    rw [edit_eq rfl]
    rcases s.addLink_cases p r true (comment.getD "") with
      ⟨hno, -⟩ | ⟨-, hno, -⟩ | ⟨-, -, hjoined, -⟩ | ⟨-, -, -, id, ids, -, -, hadded⟩
    · exact absurd hpid hno
    · exact absurd hr hno
    · exact absurd hjoined new
    rw [hadded]
    have hlast : s.ruleOf ⟨id, p, r, true, comment.getD ""⟩ = .error fault :=
      ruleOf_eq_error hp hr rfl h
    refine gather_eq_error (fun l hl => ?_) (List.mem_append_right _ List.mem_cons_self) hlast
    rcases List.mem_append.mp hl with hold | hnew
    · exact .inl (hrules l hold)
    · exact .inr (List.mem_singleton.mp hnew ▸ hlast)
  | @editPattern id text l hl on uses h =>
    have hid : id ∈ s.patterns.map Fragment.id := uses ▸ (hs.ends l hl).1
    have htext := Fragment.textOf?_updateFirst hs.patternIds text hid
    rw [edit_editPattern hid]
    have hfault (l' : Link) (hl' : l' ∈ s.links) (on' : l'.enabled = true)
        (uses' : l'.patternId = id) : ruleOf (bump { s with
          patterns := updateFirst (·.id == id) (fun p => { p with text }) s.patterns }) l' =
            .error fault :=
      ruleOf_eq_error (uses' ▸ htext) (hs.ends l' hl').2 on' h
    refine gather_eq_error (fun l' hl' => ?_) hl (hfault l hl on uses)
    by_cases uses' : l'.patternId = id
    · cases on' : l'.enabled with
      | false => exact .inl ⟨none, ruleOf_of_disabled on'⟩
      | true => exact .inr (hfault l' hl' on' uses')
    · rw [ruleOf_editPattern hs uses']
      exact .inl (hrules l' hl')

end

section

variable [IdSupply σ] (hs : s.Sound) {rules : List Rule} (hrules : s.rules = .ok rules)

include hs hrules

/-- What wins for a text after an edit away from the link of the winner, if the edit brings no
pattern that makes the rules fail. -/
theorem winner?_after {w : Link} (hw : w ∈ s.links) {r : Rule}
    (hwins : Rule.winner? rules text = some r) (hlink : r.linkId = w.id)
    (he : e.AwayFrom s (s.edit e).2 w) (hno : ∀ fault, ¬e.Brings s fault) :
    ∃ rules', (s.edit e).2.rules = .ok rules' ∧ Rule.winner? rules' text = some r := by
  have heffect := s.edit_effect e
  generalize (s.edit e).2 = s' at he heffect
  have hcompiles := rules_isOk_iff.mp ⟨rules, hrules⟩
  obtain ⟨rules', hrules'⟩ := rules_isOk_iff.mpr (heffect.compiles hs hcompiles he hno)
  refine ⟨rules', hrules', ?_⟩
  obtain ⟨before, v, behind, hlinks, hquiet, hrule, happlies⟩ :=
    (winner?_eq_some_iff hrules).mp hwins
  obtain rfl : v = w := by
    refine List.inj_on_of_nodup_map hs.linkIds ?_ hw ((ruleOf_linkId hrule).symm.trans hlink)
    exact hlinks ▸ List.mem_append_right _ List.mem_cons_self
  obtain ⟨before', v', behind', hlinks', hfewer, hstays⟩ := heffect.stays hs hlinks he
  refine (winner?_eq_some_iff hrules').mpr
    ⟨before', v', behind', hlinks', fun l' hl' => ?_, hstays.trans hrule, happlies⟩
  obtain ⟨l, hl, hmore⟩ := hfewer l' hl'
  exact hmore.quiet (hquiet l hl)

/-- Where no rule applies to a text, none does after an edit that only takes. -/
theorem no_winner_after (hnone : Rule.winner? rules text = none) (he : e.OnlyTakes) :
    ∃ rules', (s.edit e).2.rules = .ok rules' ∧ Rule.winner? rules' text = none := by
  have hfewer := (s.edit_effect e).fewer hs he
  have hcompiles := rules_isOk_iff.mp ⟨rules, hrules⟩
  have hquiet := (winner?_eq_none_iff hrules).mp hnone
  obtain ⟨rules', hrules'⟩ := rules_isOk_iff.mpr fun l' hl' => by
    obtain ⟨l, hl, hmore⟩ := hfewer l' hl'
    exact hmore.compiles (hcompiles l hl)
  refine ⟨rules', hrules', (winner?_eq_none_iff hrules').mpr fun l' hl' => ?_⟩
  obtain ⟨l, hl, hmore⟩ := hfewer l' hl'
  exact hmore.quiet (hquiet l hl)

/-- An edit away from the link of the winner keeps the winner and what becomes of the text, unless
it gives a link that is on a pattern that makes all rules fail. Where no rule applies to the text,
it stays as it is after an edit that only takes. -/
theorem edit_away_from_winner (text : String) (e : Edit) :
    (∀ w ∈ s.links, ∀ r, Rule.winner? rules text = some r → r.linkId = w.id →
      e.AwayFrom s (s.edit e).2 w →
        (∀ fault, e.Brings s fault → (s.edit e).2.rules = .error fault) ∧
        ((∀ fault, ¬e.Brings s fault) → ∃ rules', (s.edit e).2.rules = .ok rules' ∧
          Rule.winner? rules' text = some r ∧
          Rule.transform rules' (some text) = Rule.transform rules (some text))) ∧
    (Rule.winner? rules text = none → e.OnlyTakes → ∃ rules', (s.edit e).2.rules = .ok rules' ∧
      Rule.winner? rules' text = none ∧ Rule.transform rules' (some text) = text) := by
  constructor
  · intro w hw r hwins hlink he
    have hcompiles := rules_isOk_iff.mp ⟨rules, hrules⟩
    refine ⟨fun fault hbrings => rules_eq_error hs hcompiles hbrings, fun hno => ?_⟩
    obtain ⟨rules', hrules', hwins'⟩ := winner?_after hs hrules hw hwins hlink he hno
    exact ⟨rules', hrules', hwins', Rule.transform_congr (hwins'.trans hwins.symm)⟩
  · intro hnone he
    obtain ⟨rules', hrules', hnone'⟩ := no_winner_after hs hrules hnone he
    exact ⟨rules', hrules', hnone', Rule.transform_eq_self hnone'⟩

end

def twoPairs : Store Counting :=
  ⟨[⟨"p-1", "a"⟩, ⟨"p-2", "b+"⟩], [⟨"r-1", "X"⟩, ⟨"r-2", "<$&>"⟩],
    [⟨"l-1", "p-1", "r-1", true, ""⟩, ⟨"l-2", "p-2", "r-2", true, ""⟩], 4, ⟨3⟩⟩

theorem twoPairs_sound : twoPairs.Sound :=
  ⟨by decide, by decide, by decide, by decide, by decide⟩

theorem twoPairs_after_move :
    ∃ rules rules' : List Rule, twoPairs.rules = .ok rules ∧
      (twoPairs.edit (.moveLink "l-1" (.int 7))).2.rules = .ok rules' ∧
      Rule.transform rules' (some "bb") = Rule.transform rules (some "bb") ∧
      Rule.transform rules' (some "c") = "c" := by
  have hwinners : (twoPairs.rules.map fun rules =>
      ((Rule.winner? rules "bb").map Rule.linkId, Rule.winner? rules "c")) =
        .ok (some "l-2", none) := by decide +kernel
  cases hrules : twoPairs.rules with
  | error fault =>
    rw [hrules] at hwinners
    cases hwinners
  | ok rules =>
    obtain ⟨hlink, hnone⟩ : (Rule.winner? rules "bb").map Rule.linkId = some "l-2" ∧
        Rule.winner? rules "c" = none := by simpa [hrules, Except.map] using hwinners
    obtain ⟨r, hwins, hid⟩ := Option.map_eq_some_iff.mp hlink
    have haway : Edit.AwayFrom twoPairs (twoPairs.edit (.moveLink "l-1" (.int 7))).2
        ⟨"l-2", "p-2", "r-2", true, ""⟩ (.moveLink "l-1" (.int 7)) :=
      .moveOther 7 (by decide) (by decide +kernel)
    obtain ⟨hwinner, -⟩ :=
      edit_away_from_winner twoPairs_sound hrules "bb" (.moveLink "l-1" (.int 7))
    obtain ⟨-, hafter⟩ := hwinner _ (by decide) r hwins hid haway
    obtain ⟨rules', hrules', -, hsame⟩ := hafter nofun
    obtain ⟨-, hrest⟩ :=
      edit_away_from_winner twoPairs_sound hrules "c" (.moveLink "l-1" (.int 7))
    obtain ⟨rules'', hrules'', -, hself⟩ := hrest hnone (.moveLink "l-1" 7)
    obtain rfl : rules' = rules'' := Except.ok.inj (hrules'.symm.trans hrules'')
    exact ⟨rules, rules', rfl, hrules', hsame, hself⟩

def contradictionAside : Store Counting :=
  ⟨[⟨"p-1", "a"⟩, ⟨"p-2", "(?a)(?u)b"⟩], [⟨"r-1", "X"⟩], [⟨"l-1", "p-1", "r-1", true, ""⟩], 0, ⟨1⟩⟩

/-- A link of its own for that pattern stands behind the winner, and yet no text is transformed. -/
theorem contradictionAside_unsettles :
    contradictionAside.Sound ∧
      (contradictionAside.rules.map fun rules =>
        ((Rule.winner? rules "a").map Rule.linkId, Rule.transform rules (some "a"))) =
          .ok (some "l-1", "X") ∧
      ("p-2", "r-1") ∉ contradictionAside.links.map Link.pair ∧
      (contradictionAside.edit (.addLink "p-2" "r-1" true none)).2.rules =
        .error .alphabetsContradict :=
  ⟨⟨by decide, by decide, by decide, by decide, by decide⟩, by decide +kernel, by decide,
    by decide +kernel⟩

end Store
end PasteRules
