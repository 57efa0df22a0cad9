import PasteRules.Proofs.Store.Frame
import PasteRules.Rules.Transform

/-! The rule that wins for a text. It is that of the first link whose regex matches, and links that
do no more than before cannot take that from it. -/
namespace PasteRules

section

variable {α β ε : Type} {f : α → Except ε (Option β)} {xs : List α} {ys : List β}

theorem gather_eq_filterMap (h : gather f xs = .ok ys) :
    ys = xs.filterMap fun x => (f x).toOption.join := by
  induction xs generalizing ys with
  | nil => exact (Except.ok.inj h).symm
  | cons x xs ih =>
    obtain ⟨o, zs, hx, hrest, rfl⟩ := gather_cons_eq_ok h
    rw [ih hrest]
    cases o <;> simp [hx, Except.toOption]

theorem gather_eq_error {e : ε} (h : ∀ x ∈ xs, (∃ o, f x = .ok o) ∨ f x = .error e) {x : α}
    (hx : x ∈ xs) (he : f x = .error e) : gather f xs = .error e := by
  induction xs with
  | nil => cases hx
  | cons y ys ih =>
    rw [gather_cons]
    rcases h y List.mem_cons_self with ⟨o, hy⟩ | hy
    · have hrest : x ∈ ys := by
        rcases List.mem_cons.mp hx with rfl | hrest
        · rw [he] at hy
          cases hy
        · exact hrest
      rw [hy, ih (fun z hz => h z (List.mem_cons_of_mem _ hz)) hrest]
      rfl
    · rw [hy]
      rfl

theorem toOption_join_eq_some_iff {result : Except ε (Option β)} {y : β} :
    result.toOption.join = some y ↔ result = .ok (some y) := by
  cases result with
  | error e => simp [Except.toOption]
  | ok o => simp [Except.toOption]

end

namespace Rule

variable {rules rules' : List Rule} {text : String}

/-- The winner decides what becomes of a text. -/
theorem transform_congr (h : winner? rules' text = winner? rules text) :
    transform rules' (some text) = transform rules (some text) := by
  simp only [transform, h]

theorem transform_eq_self (h : winner? rules text = none) :
    transform rules (some text) = text := by
  simp only [transform, h]
  split
  · next hempty => exact hempty.symm
  · rfl

end Rule

namespace Store

variable {σ : Type} {s s' : Store σ} {text : String}

def Compiles (s : Store σ) (l : Link) : Prop := ∃ o, s.ruleOf l = .ok o

def Quiet (s : Store σ) (text : String) (l : Link) : Prop :=
  ∀ r, s.ruleOf l = .ok (some r) → r.applies text = false

theorem rules_isOk_iff : (∃ rules, s.rules = .ok rules) ↔ ∀ l ∈ s.links, s.Compiles l :=
  gather_isOk_iff

section

variable {rules : List Rule} (h : s.rules = .ok rules)

include h

theorem winner?_eq_none_iff :
    Rule.winner? rules text = none ↔ ∀ l ∈ s.links, s.Quiet text l := by
  rw [Rule.winner?, gather_eq_filterMap h, List.find?_eq_none]
  constructor
  · intro hnone l hl r hr
    simpa using hnone r (List.mem_filterMap.mpr ⟨l, hl, toOption_join_eq_some_iff.mpr hr⟩)
  · intro hquiet r hr
    obtain ⟨l, hl, hrule⟩ := List.mem_filterMap.mp hr
    simpa using hquiet l hl r (toOption_join_eq_some_iff.mp hrule)

/-- The winner is the rule of a link that it applies for, and that no such link stands before. -/
theorem winner?_eq_some_iff {r : Rule} :
    Rule.winner? rules text = some r ↔
      ∃ before w behind, s.links = before ++ w :: behind ∧ (∀ l ∈ before, s.Quiet text l) ∧
        s.ruleOf w = .ok (some r) ∧ r.applies text = true := by
  rw [Rule.winner?, gather_eq_filterMap h, List.find?_filterMap, Option.bind_eq_some_iff]
  have hquiet (l : Link) : s.Quiet text l ↔
      (!(s.ruleOf l).toOption.join.any (·.applies text)) = true := by
    simp only [Quiet, ← toOption_join_eq_some_iff]
    cases (s.ruleOf l).toOption.join <;> simp
  constructor
  · rintro ⟨w, hfind, hrule⟩
    obtain ⟨happlies, before, behind, hlinks, hbefore⟩ := List.find?_eq_some_iff_append.mp hfind
    rw [hrule] at happlies
    exact ⟨before, w, behind, hlinks, fun l hl => (hquiet l).mpr (hbefore l hl),
      toOption_join_eq_some_iff.mp hrule, happlies⟩
  · rintro ⟨before, w, behind, hlinks, hbefore, hrule, happlies⟩
    have hw := toOption_join_eq_some_iff.mpr hrule
    refine ⟨w, List.find?_eq_some_iff_append.mpr ⟨?_, before, behind, hlinks, fun l hl =>
      (hquiet l).mp (hbefore l hl)⟩, hw⟩
    rw [hw]
    exact happlies

end

theorem compiles_iff {l : Link} :
    s.Compiles l ↔ ∀ pattern, Fragment.textOf? s.patterns l.patternId = some pattern →
      l.replacerId ∈ s.replacers.map Fragment.id → l.enabled = true →
        ∃ result, compilePattern pattern = .ok result := by
  have hlink : s.Compiles l ↔ ∃ o, linkRule s.patterns s.replacers l = .ok o := by
    rw [← ruleOf_unlinked]
    unfold Compiles
    cases s.ruleOf l with
    | error e => exact iff_of_false nofun nofun
    | ok o => exact iff_of_true ⟨o, rfl⟩ ⟨_, rfl⟩
  rw [hlink, linkRule_isOk_iff]
  simp only [← Fragment.exists_textOf?_iff]
  constructor
  · rintro h pattern hp ⟨template, hr⟩
    exact h pattern template hp hr
  · intro h pattern template hp hr
    exact h pattern hp ⟨template, hr⟩

theorem ruleOf_eq_error {l : Link} {pattern : String} {fault : Fault}
    (hp : Fragment.textOf? s.patterns l.patternId = some pattern)
    (hr : l.replacerId ∈ s.replacers.map Fragment.id) (on : l.enabled = true)
    (h : compilePattern pattern = .error fault) : s.ruleOf l = .error fault := by
  obtain ⟨template, ht⟩ := Fragment.exists_textOf?_iff.mpr hr
  rw [ruleOf_of_texts on hp ht, h]
  rfl

/-- The first link does no less in its store than the second in the other store: that one makes no
rule, or one with the same regex. -/
def NoMore (s s' : Store σ) (l l' : Link) : Prop :=
  s'.ruleOf l' = .ok none ∨ s'.regexOf? l' = s.regexOf? l

/-- Each of the second links does no more than one of the first. -/
def Fewer (s s' : Store σ) (links links' : List Link) : Prop :=
  ∀ l' ∈ links', ∃ l ∈ links, s.NoMore s' l l'

section

variable {l l' : Link}

theorem NoMore.of_ruleOf (h : s'.ruleOf l' = s.ruleOf l) : s.NoMore s' l l' :=
  .inr (congrArg (Except.map (Option.map Rule.regex)) h)

theorem NoMore.compiles (h : s.NoMore s' l l') (hl : s.Compiles l) : s'.Compiles l' := by
  rcases h with hnone | hsame
  · exact ⟨none, hnone⟩
  · obtain ⟨o, ho⟩ := hl
    unfold regexOf? at hsame
    rw [ho] at hsame
    cases hrule : s'.ruleOf l' with
    | error e => simp [hrule, Except.map] at hsame
    | ok o' => exact ⟨o', hrule⟩

theorem NoMore.quiet (h : s.NoMore s' l l') (hl : s.Quiet text l) : s'.Quiet text l' := by
  intro r' hr'
  rcases h with hnone | hsame
  · rw [hnone] at hr'
    cases hr'
  · unfold regexOf? at hsame
    rw [hr'] at hsame
    cases hrule : s.ruleOf l with
    | error e => simp [hrule, Except.map] at hsame
    | ok o =>
      cases o with
      | none => simp [hrule, Except.map] at hsame
      | some r =>
        have hregex : r'.regex = r.regex := by simpa [hrule, Except.map] using hsame
        have happlies := hl r hrule
        unfold Rule.applies at happlies ⊢
        rwa [hregex]

end

theorem Fewer.of_subset {links links' : List Link} (h : s'.ruleOf = s.ruleOf)
    (hsub : links' ⊆ links) : s.Fewer s' links links' :=
  fun l hl => ⟨l, hsub hl, .of_ruleOf (congrFun h l)⟩

/-- Changing the one link of an identifier leaves it to do less, and the others what they did. -/
theorem NoMore.relabel {id : String} {f : Link → Link} (h : s'.ruleOf = s.ruleOf)
    (hf : ∀ l, s.NoMore s' l (f l)) (l : Link) : s.NoMore s' l (if l.id = id then f l else l) := by
  split
  · exact hf l
  · exact .of_ruleOf (congrFun h l)

theorem Fewer.map {links : List Link} {f : Link → Link} (h : ∀ l ∈ links, s.NoMore s' l (f l)) :
    s.Fewer s' links (links.map f) := by
  intro l' hl'
  obtain ⟨l, hl, rfl⟩ := List.mem_map.mp hl'
  exact ⟨l, hl, h l hl⟩

theorem Fewer.filter {links : List Link} {keep : Link → Bool}
    (h : ∀ l ∈ links, keep l = true → s.NoMore s' l l) :
    s.Fewer s' links (links.filter keep) := by
  intro l hl
  obtain ⟨hmem, hkeep⟩ := List.mem_filter.mp hl
  exact ⟨l, hmem, h l hmem hkeep⟩

end Store
end PasteRules
