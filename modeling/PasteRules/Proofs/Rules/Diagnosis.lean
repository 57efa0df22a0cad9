import PasteRules.Proofs.Session.Action
import PasteRules.Proofs.Store.Frame

/-! Diagnoses beside rules. Both go through the links in their order and find the same of each: a
link is diagnosed as good if and only if it has a rule, and a pattern that makes the compilation of
the rules fail makes the diagnosis fail. -/
namespace PasteRules

theorem compilePattern_eq_error {pattern : String} {fault : Fault}
    (h : compilePattern pattern = .error fault) :
    fault = .alphabetsContradict ∨ fault = .countHasTooManyDigits := by
  unfold compilePattern at h
  split at h
  · cases h
  · cases h
  · exact .inl (Except.error.inj h).symm
  · exact .inr (Except.error.inj h).symm

theorem compile_of_compilePattern {pattern : String} {regex : Regex}
    (h : compilePattern pattern = .ok (.ok regex)) : Regex.compile pattern = .ok regex := by
  unfold compilePattern at h
  split at h
  · next hcompile =>
    cases h
    exact hcompile
  · cases h
  · cases h
  · cases h

namespace Store

variable {σ : Type} {s : Store σ} {l : Link} {pattern : String}

structure Uses (s : Store σ) (l : Link) (pattern : String) : Prop where
  enabled : l.enabled = true
  resolves : s.resolves l = true
  text : Fragment.textOf? s.patterns l.patternId = some pattern

theorem Uses.iff (h : s.Uses l pattern) {other : String} : s.Uses l other ↔ other = pattern := by
  constructor
  · intro h'
    exact Option.some.inj (h'.text.symm.trans h.text)
  · rintro rfl
    exact h

theorem Uses.exists_template (h : s.Uses l pattern) :
    ∃ template, Fragment.textOf? s.replacers l.replacerId = some template := by
  obtain ⟨-, hr⟩ := resolves_iff.mp h.resolves
  exact Fragment.exists_textOf?_iff.mpr hr

theorem exists_uses (henabled : l.enabled = true) (hends : s.resolves l = true) :
    ∃ pattern, s.Uses l pattern := by
  obtain ⟨hp, -⟩ := resolves_iff.mp hends
  obtain ⟨pattern, htext⟩ := Fragment.exists_textOf?_iff.mpr hp
  exact ⟨pattern, henabled, hends, htext⟩

def diagnosisOf (s : Store σ) (l : Link) : Except Fault Diagnosis := return ⟨l, ← s.statusOf l⟩

inductive Finding (s : Store σ) (l : Link) :
    Except Fault LinkStatus → Except Fault (Option Rule) → Prop
  | disabled (h : l.enabled = false) : Finding s l (.ok .disabled) (.ok none)
  | dangling (henabled : l.enabled = true) (h : s.resolves l = false) :
    Finding s l (.ok .dangling) (.ok none)
  | rejected {pattern message : String} (h : s.Uses l pattern)
    (hc : compilePattern pattern = .ok (.error message)) :
    Finding s l (.ok (.invalidPattern message)) (.ok none)
  | compiled {pattern template : String} {regex : Regex} (h : s.Uses l pattern)
    (ht : Fragment.textOf? s.replacers l.replacerId = some template)
    (hc : compilePattern pattern = .ok (.ok regex)) :
    Finding s l (.ok .ok) (.ok (some (.make l.id regex template)))
  | failed {pattern : String} {fault : Fault} (h : s.Uses l pattern)
    (hc : compilePattern pattern = .error fault) : Finding s l (.error fault) (.error fault)

theorem statusOf_of_uses (h : s.Uses l pattern) :
    s.statusOf l = (compilePattern pattern).map fun
      | .ok _ => .ok
      | .error message => .invalidPattern message := by
  unfold statusOf
  rw [h.enabled, h.resolves, h.text]
  cases hc : compilePattern pattern with
  | error fault => simp [hc, bind, Except.bind, Except.map]
  | ok result => cases result <;> simp [hc, bind, Except.bind, Except.map, pure, Except.pure]

theorem ruleOf_of_uses (h : s.Uses l pattern) {template : String}
    (ht : Fragment.textOf? s.replacers l.replacerId = some template) :
    s.ruleOf l = (compilePattern pattern).map fun
      | .ok regex => some (.make l.id regex template)
      | .error _ => none := ruleOf_of_texts h.enabled h.text ht

/-- The diagnosis of a link and its compilation come to one finding. -/
theorem finding (s : Store σ) (l : Link) : s.Finding l (s.statusOf l) (s.ruleOf l) := by
  cases henabled : l.enabled with
  | false =>
    have hstatus : s.statusOf l = .ok .disabled := by simp [statusOf, henabled]
    have hrule : s.ruleOf l = .ok none := by simp [ruleOf, henabled]
    rw [hstatus, hrule]
    exact .disabled henabled
  | true =>
    cases hends : s.resolves l with
    | false =>
      have hstatus : s.statusOf l = .ok .dangling := by simp [statusOf, henabled, hends]
      rw [hstatus, ruleOf_of_not_resolves hends]
      exact .dangling henabled hends
    | true =>
      obtain ⟨pattern, huses⟩ := exists_uses henabled hends
      obtain ⟨template, ht⟩ := huses.exists_template
      rw [statusOf_of_uses huses, ruleOf_of_uses huses ht]
      cases hc : compilePattern pattern with
      | error fault => exact .failed huses hc
      | ok result =>
        cases result with
        | error message => exact .rejected huses hc
        | ok regex => exact .compiled huses ht hc

/-- A link makes the compilation of the rules fail if and only if compiling the pattern that it uses
fails. -/
theorem ruleOf_eq_error_iff {fault : Fault} :
    s.ruleOf l = .error fault ↔
      ∃ pattern, s.Uses l pattern ∧ compilePattern pattern = .error fault := by
  constructor
  · intro h
    have hfinding := s.finding l
    rw [h] at hfinding
    generalize s.statusOf l = status at hfinding
    cases hfinding with
    | failed huses hc => exact ⟨_, huses, hc⟩
  · rintro ⟨pattern, huses, hc⟩
    obtain ⟨template, ht⟩ := huses.exists_template
    rw [ruleOf_of_uses huses ht, hc]
    rfl

/-- The condition in a diagnosis is that of its link, told by the link's flag, by its two ends, and
by what comes of compiling its pattern. -/
structure Fits (s : Store σ) (d : Diagnosis) : Prop where
  disabled : d.status = .disabled ↔ d.link.enabled = false
  dangling : d.status = .dangling ↔ d.link.enabled = true ∧ s.resolves d.link = false
  rejected : ∀ message, d.status = .invalidPattern message ↔
    ∃ pattern, s.Uses d.link pattern ∧ compilePattern pattern = .ok (.error message)
  compiled : d.status = .ok ↔
    ∃ pattern regex, s.Uses d.link pattern ∧ compilePattern pattern = .ok (.ok regex)
  message : d.status.message?.isSome = true ↔ d.status.name = "INVALID_PATTERN"

structure Makes (s : Store σ) (l : Link) (r : Rule) : Prop where
  made : r = .make l.id r.regex r.template
  regex : ∃ pattern, s.Uses l pattern ∧ compilePattern pattern = .ok (.ok r.regex)
  template : Fragment.textOf? s.replacers l.replacerId = some r.template

/-- Links that are off or lack an end use no pattern; the others use one. -/
theorem fits_of_status {d : Diagnosis} (h : s.statusOf d.link = .ok d.status) : s.Fits d := by
  have hfinding := s.finding d.link
  rw [h] at hfinding
  obtain ⟨l, status⟩ := d
  dsimp only at hfinding
  generalize s.ruleOf l = rule at hfinding
  cases hfinding with
  | disabled henabled =>
    have hno : ∀ pattern, ¬s.Uses l pattern := fun _ huses => by simp [huses.enabled] at henabled
    constructor <;> simp [henabled, hno, LinkStatus.message?, LinkStatus.name]
  | dangling henabled hends =>
    have hno : ∀ pattern, ¬s.Uses l pattern := fun _ huses => by simp [huses.resolves] at hends
    constructor <;> simp [henabled, hends, hno, LinkStatus.message?, LinkStatus.name]
  | rejected huses hc =>
    constructor <;> simp [huses.enabled, huses.resolves, huses.iff, hc, LinkStatus.message?,
      LinkStatus.name]
  | compiled huses ht hc =>
    constructor <;> simp [huses.enabled, huses.resolves, huses.iff, hc, LinkStatus.message?,
      LinkStatus.name]

/-- Diagnoses and rules agree on links: each link has one diagnosis, in the order of the links,
which fits it, and the rules are those of the links that are diagnosed as good, in the same order.
-/
structure Agreement (s : Store σ) (links : List Link) (ds : List Diagnosis) (rs : List Rule) :
    Prop where
  links : ds.map Diagnosis.link = links
  fits : ∀ d ∈ ds, s.Fits d
  rules : List.Forall₂ (fun d r => s.Makes d.link r) (ds.filter (·.status == .ok)) rs

theorem agreement_singleton {status : LinkStatus} {rule : Option Rule}
    (hstatus : s.statusOf l = .ok status) (hrule : s.ruleOf l = .ok rule) :
    s.Agreement [l] [⟨l, status⟩] rule.toList := by
  have hfits : s.Fits ⟨l, status⟩ := fits_of_status hstatus
  refine ⟨rfl, by simpa using hfits, ?_⟩
  have hfinding := s.finding l
  rw [hstatus, hrule] at hfinding
  cases hfinding with
  | disabled henabled => exact .nil
  | dangling henabled hends => exact .nil
  | rejected huses hc => exact .nil
  | compiled huses ht hc => exact .cons ⟨rfl, ⟨_, huses, hc⟩, ht⟩ .nil

theorem Agreement.append {links links' : List Link} {ds ds' : List Diagnosis} {rs rs' : List Rule}
    (h : s.Agreement links ds rs) (h' : s.Agreement links' ds' rs') :
    s.Agreement (links ++ links') (ds ++ ds') (rs ++ rs') where
  links := by rw [List.map_append, h.links, h'.links]
  fits d hd := (List.mem_append.mp hd).elim (h.fits d) (h'.fits d)
  rules := by
    rw [List.filter_append]
    exact List.rel_append h.rules h'.rules

/-- Links are diagnosed and compiled with one outcome. Where the one fails, a pattern that a link
uses makes both fail in the same way. -/
theorem diagnosed (s : Store σ) (links : List Link) :
    match links.mapM s.diagnosisOf with
    | .ok ds => ∃ rs, gather s.ruleOf links = .ok rs ∧ s.Agreement links ds rs
    | .error fault => gather s.ruleOf links = .error fault ∧
        ∃ l ∈ links, ∃ pattern, s.Uses l pattern ∧ compilePattern pattern = .error fault := by
  induction links with
  | nil => exact ⟨[], rfl, rfl, by simp, .nil⟩
  | cons l rest ih =>
    have hfinding := s.finding l
    have hhead : s.diagnosisOf l = (s.statusOf l).map (Diagnosis.mk l) := by
      unfold diagnosisOf
      cases s.statusOf l <;> rfl
    rw [List.mapM_cons, hhead, gather_cons]
    cases hstatus : s.statusOf l with
    | error fault =>
      cases hrule : s.ruleOf l with
      | ok rule =>
        rw [hstatus, hrule] at hfinding
        cases hfinding
      | error fault' =>
        rw [hstatus, hrule] at hfinding
        cases hfinding with
        | failed huses hc => exact ⟨rfl, l, List.mem_cons_self, _, huses, hc⟩
    | ok status =>
      cases hrule : s.ruleOf l with
      | error fault' =>
        rw [hstatus, hrule] at hfinding
        cases hfinding
      | ok rule =>
        have hsingle := agreement_singleton hstatus hrule
        cases hrest : rest.mapM s.diagnosisOf with
        | error fault =>
          rw [hrest] at ih
          obtain ⟨hgather, l', hl', huses⟩ := ih
          rw [hgather]
          exact ⟨rfl, l', List.mem_cons_of_mem _ hl', huses⟩
        | ok ds =>
          rw [hrest] at ih
          obtain ⟨rs, hgather, hagree⟩ := ih
          rw [hgather]
          exact ⟨_, rfl, hsingle.append hagree⟩

theorem diagnose_eq_error_iff {fault : Fault} :
    s.diagnose = .error fault ↔ s.rules = .error fault := by
  have hdiagnosed := s.diagnosed s.links
  have hsame : s.links.mapM s.diagnosisOf = s.diagnose := rfl
  rw [hsame, ← rules_eq_gather] at hdiagnosed
  cases hd : s.diagnose with
  | ok ds =>
    rw [hd] at hdiagnosed
    obtain ⟨rs, hrules, -⟩ := hdiagnosed
    simp [hrules]
  | error fault' =>
    rw [hd] at hdiagnosed
    simp [hdiagnosed.1]

inductive FailsWith (s : Store σ) (fault : Fault) : Prop
  | mk {before behind : List Link} {l : Link} {pattern : String}
    (hlinks : s.links = before ++ l :: behind)
    (hbefore : ∀ l' ∈ before, ∀ pattern', s.Uses l' pattern' →
      ∃ result, compilePattern pattern' = .ok result)
    (huses : s.Uses l pattern) (hc : compilePattern pattern = .error fault)

theorem rules_eq_error_iff {fault : Fault} : s.rules = .error fault ↔ s.FailsWith fault := by
  have hquiet : ∀ l', (∃ o, s.ruleOf l' = .ok o) ↔
      ∀ pattern', s.Uses l' pattern' → ∃ result, compilePattern pattern' = .ok result := by
    intro l'
    constructor
    · rintro ⟨o, ho⟩ pattern' huses
      cases hc : compilePattern pattern' with
      | ok result => exact ⟨result, rfl⟩
      | error fault' =>
        rw [ruleOf_eq_error_iff.mpr ⟨pattern', huses, hc⟩] at ho
        cases ho
    · intro h
      cases hr : s.ruleOf l' with
      | ok o => exact ⟨o, rfl⟩
      | error fault' =>
        obtain ⟨pattern', huses, hc⟩ := ruleOf_eq_error_iff.mp hr
        obtain ⟨result, hok⟩ := h pattern' huses
        rw [hc] at hok
        cases hok
  simp only [rules_eq_gather, gather_eq_error_iff, hquiet, ruleOf_eq_error_iff]
  constructor
  · rintro ⟨before, l, behind, hlinks, hbefore, pattern, huses, hc⟩
    exact ⟨hlinks, hbefore, huses, hc⟩
  · rintro ⟨hlinks, hbefore, huses, hc⟩
    exact ⟨_, _, _, hlinks, hbefore, _, huses, hc⟩

/-- Only links that are on are diagnosed as good, so they are as many as the links that are on if
and only if every link that is on is good. -/
theorem Agreement.all_good_iff {links : List Link} {ds : List Diagnosis} {rs : List Rule}
    (h : s.Agreement links ds rs) :
    (ds.all fun d => !d.link.enabled || d.status == .ok) = true ↔
      rs.length = (links.filter (·.enabled)).length := by
  have hgood : ds.filter (·.status == .ok) =
      (ds.filter (·.link.enabled)).filter (·.status == .ok) := by
    rw [List.filter_filter]
    refine List.filter_congr fun d hd => ?_
    cases hok : d.status == .ok with
    | false => rfl
    | true =>
      obtain ⟨pattern, regex, huses, -⟩ := (h.fits d hd).compiled.mp (by simpa using hok)
      simp [huses.enabled]
  have hon : (links.filter (·.enabled)).length = (ds.filter (·.link.enabled)).length := by
    rw [← h.links, List.filter_map, List.length_map]
    rfl
  rw [← h.rules.length_eq, hon, hgood, List.length_filter_eq_length_iff, List.all_eq_true]
  constructor
  · intro hall d hd
    obtain ⟨hmem, henabled⟩ := List.mem_filter.mp hd
    simpa [henabled] using hall d hmem
  · intro hall d hd
    cases henabled : d.link.enabled with
    | false => rfl
    | true => exact hall d (List.mem_filter.mpr ⟨hd, henabled⟩)

end Store

namespace Session

variable {σ : Type}

/-- Diagnosis, check and compilation agree on every store: either the diagnoses and the rules are
those of the same links, and the check is passed if and only if there are as many rules as links
that are on, or all three fail as compiling a pattern in use does. -/
theorem diagnosed_as_compiled (s : Session σ) :
    match s.store.diagnose with
    | .ok ds => ∃ rs, s.store.rules = .ok rs ∧ s.store.Agreement s.store.links ds rs ∧
        ∃ good : Bool, (s.run Action.check).1 = .ok good ∧
          (good = true ↔ rs.length = (s.store.links.filter (·.enabled)).length)
    | .error fault => s.store.rules = .error fault ∧ (s.run Action.check).1 = .error fault ∧
        ∃ l ∈ s.store.links, ∃ pattern,
          s.store.Uses l pattern ∧ compilePattern pattern = .error fault := by
  have hdiagnosed := s.store.diagnosed s.store.links
  have hsame : s.store.links.mapM s.store.diagnosisOf = s.store.diagnose := rfl
  obtain ⟨hcheck, -⟩ := Action.exec_check (⟨s, ""⟩ : Work σ)
  have hrun : (s.run Action.check).1 = (Action.check.exec ⟨s, ""⟩).1 := rfl
  rw [hsame] at hdiagnosed
  rw [hrun, hcheck]
  cases hd : s.store.diagnose with
  | ok ds =>
    rw [hd] at hdiagnosed
    obtain ⟨rs, hrules, hagree⟩ := hdiagnosed
    exact ⟨rs, hrules, hagree, _, rfl, hagree.all_good_iff⟩
  | error fault =>
    rw [hd] at hdiagnosed
    obtain ⟨hrules, hfails⟩ := hdiagnosed
    exact ⟨hrules, rfl, hfails⟩

def contradictoryLink : Json :=
  .obj [("patterns", .arr [.obj [("id", .str "p-1"), ("text", .str "a")],
      .obj [("id", .str "p-2"), ("text", .str "(?a)(?u)b")]]),
    ("replacers", .arr [.obj [("id", .str "r-1"), ("text", .str "X")]]),
    ("links", .arr [
      .obj [("id", .str "l-1"), ("patternId", .str "p-1"), ("replacerId", .str "r-1")],
      .obj [("id", .str "l-2"), ("patternId", .str "p-2"), ("replacerId", .str "r-1")]])]

/-- No link has a diagnosis then, and the check does not end. -/
theorem contradictoryLink_undiagnosed :
    ∃ store : Store Unit, Store.ofJson contradictoryLink () = .ok store ∧
      store.diagnose = .error .alphabetsContradict ∧
      ((start store true false).run Action.check).1 = .error .alphabetsContradict := by
  refine ⟨_, rfl, ?_⟩
  decide +kernel

end Session
end PasteRules
