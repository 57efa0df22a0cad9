import Mathlib.Data.List.Forall2
import PasteRules.Rules.Transform
import PasteRules.Proofs.Store.Graph
import PasteRules.Proofs.Store.Keyed

/-! Rules gathered link by link: each link gives a rule, none, or a fault, and the first fault is
that of all. Apart from its link, a rule comes from the texts behind the link's two ends. -/
namespace PasteRules

section

variable {α β γ ε : Type}

/-- What the elements give, in their order. The first that fails makes the whole fail. -/
def gather (f : α → Except ε (Option β)) (xs : List α) : Except ε (List β) := do
  return (← xs.mapM f).filterMap id

theorem gather_cons (f : α → Except ε (Option β)) (x : α) (xs : List α) :
    gather f (x :: xs) = (f x).bind fun o => (gather f xs).map (o.toList ++ ·) := by
  unfold gather
  rw [List.mapM_cons]
  cases f x with
  | error e => rfl
  | ok o =>
    cases xs.mapM f with
    | error e => rfl
    | ok os => cases o <;> rfl

theorem gather_cons_eq_ok {f : α → Except ε (Option β)} {x : α} {xs : List α} {ys : List β}
    (h : gather f (x :: xs) = .ok ys) :
    ∃ o zs, f x = .ok o ∧ gather f xs = .ok zs ∧ ys = o.toList ++ zs := by
  rw [gather_cons] at h
  cases hx : f x with
  | error e => simp [hx, Except.bind] at h
  | ok o =>
    cases hrest : gather f xs with
    | error e => simp [hx, hrest, Except.bind, Except.map] at h
    | ok zs =>
      rw [hx, hrest] at h
      exact ⟨o, zs, rfl, rfl, (Except.ok.inj h).symm⟩

theorem map_gather (k : β → γ) (f : α → Except ε (Option β)) (xs : List α) :
    (gather f xs).map (List.map k) = gather (fun x => (f x).map (Option.map k)) xs := by
  induction xs with
  | nil => rfl
  | cons x xs ih =>
    rw [gather_cons, gather_cons, ← ih]
    cases f x with
    | error e => rfl
    | ok o =>
      cases gather f xs with
      | error e => rfl
      | ok ys => cases o <;> rfl

theorem gather_of_forall₂ {f : α → Except ε (Option γ)} {g : β → Except ε (Option γ)} {xs : List α}
    {ys : List β} (h : List.Forall₂ (fun x y => f x = g y) xs ys) : gather f xs = gather g ys := by
  induction h with
  | nil => rfl
  | cons hxy _ ih => rw [gather_cons, gather_cons, hxy, ih]

theorem gather_map (f : β → Except ε (Option γ)) (k : α → β) (xs : List α) :
    gather f (xs.map k) = gather (f ∘ k) xs := by
  apply gather_of_forall₂
  rw [List.forall₂_map_left_iff, List.forall₂_same]
  exact fun _ _ => rfl

/-- Elements that are dropped change nothing if they give nothing. -/
theorem gather_filterMap {k : α → Option β} {f : α → Except ε (Option γ)}
    {g : β → Except ε (Option γ)} {xs : List α} (h : ∀ x ∈ xs, f x = (k x).elim (.ok none) g) :
    gather f xs = gather g (xs.filterMap k) := by
  induction xs with
  | nil => rfl
  | cons x xs ih =>
    have hx := h x List.mem_cons_self
    have hrest := ih fun y hy => h y (List.mem_cons_of_mem _ hy)
    rw [gather_cons, hx, hrest]
    cases hk : k x with
    | none =>
      rw [List.filterMap_cons_none hk]
      cases gather g (xs.filterMap k) <;> rfl
    | some y =>
      rw [List.filterMap_cons_some hk, gather_cons]
      rfl

theorem gather_congr {f g : α → Except ε (Option β)} {xs : List α} (h : ∀ x ∈ xs, f x = g x) :
    gather f xs = gather g xs := by
  apply gather_of_forall₂
  rw [List.forall₂_same]
  exact h

theorem gather_append (f : α → Except ε (Option β)) (xs ys : List α) :
    gather f (xs ++ ys) = (gather f xs).bind fun zs => (gather f ys).map (zs ++ ·) := by
  induction xs with
  | nil =>
    have hid : gather f ys = (gather f ys).map ([] ++ ·) := by cases gather f ys <;> rfl
    exact hid
  | cons x xs ih =>
    rw [List.cons_append, gather_cons, gather_cons, ih]
    cases f x with
    | error e => rfl
    | ok o =>
      cases gather f xs with
      | error e => rfl
      | ok zs => cases gather f ys <;> simp [Except.bind, Except.map]

/-- What elements give is gathered from those alone that pass a test, if what they give shows which
ones these are. -/
theorem gather_filter {f : α → Except ε (Option β)} {p : α → Bool} {q : β → Bool} {xs : List α}
    {ys : List β} (h : ∀ x ∈ xs, ∀ y, f x = .ok (some y) → q y = p x)
    (hys : gather f xs = .ok ys) : gather f (xs.filter p) = .ok (ys.filter q) := by
  induction xs generalizing ys with
  | nil =>
    obtain rfl : [] = ys := Except.ok.inj hys
    rfl
  | cons x xs ih =>
    obtain ⟨o, zs, hx, hrest, rfl⟩ := gather_cons_eq_ok hys
    have hzs := ih (fun y hy => h y (List.mem_cons_of_mem _ hy)) hrest
    cases o with
    | none =>
      cases hp : p x <;> simp [hp, gather_cons, hx, hzs, Except.bind, Except.map]
    | some y =>
      have hq := h x List.mem_cons_self y hx
      cases hp : p x <;> simp [hp, hq, gather_cons, hx, hzs, Except.bind, Except.map]

/-- Elements that give nothing count as little as if they were not there. -/
theorem gather_passing {f g : α → Except ε (Option β)} {p : α → Bool} {xs : List α}
    (h : ∀ x ∈ xs, g x = if p x then f x else .ok none) :
    gather g xs = gather f (xs.filter p) := by
  rw [← List.filterMap_eq_filter]
  apply gather_filterMap
  intro x hx
  rw [h x hx]
  cases hp : p x <;> simp [hp, Option.guard]

theorem gather_eq_nil {f : α → Except ε (Option β)} {xs : List α}
    (h : ∀ x ∈ xs, f x = .ok none) : gather f xs = .ok [] := by
  have hnone := gather_filterMap (k := fun _ => none) (g := f) h
  rwa [List.filterMap_none] at hnone

/-- Where each element gives something, what is gathered goes with the elements. -/
theorem gather_forall₂ {f : α → Except ε (Option β)} {R : α → β → Prop} {xs : List α}
    (h : ∀ x ∈ xs, ∃ y, f x = .ok (some y) ∧ R x y) :
    ∃ ys, gather f xs = .ok ys ∧ List.Forall₂ R xs ys := by
  induction xs with
  | nil => exact ⟨[], rfl, .nil⟩
  | cons x xs ih =>
    obtain ⟨⟨y, hy, hR⟩, hrest⟩ := List.forall_mem_cons.mp h
    obtain ⟨ys, hys, hRs⟩ := ih hrest
    refine ⟨y :: ys, ?_, .cons hR hRs⟩
    rw [gather_cons, hy, hys]
    rfl

/-- The first fault if there is one, else what the elements give. -/
theorem gather_eq_elim {f : α → Except ε (Option β)} {fault : α → Option ε} {value : α → Option β}
    (h : ∀ x, f x = (fault x).elim (.ok (value x)) .error) (xs : List α) :
    gather f xs = (xs.findSome? fault).elim (.ok (xs.filterMap value)) .error := by
  induction xs with
  | nil => rfl
  | cons x xs ih =>
    rw [gather_cons, h x, ih, List.findSome?_cons]
    cases hf : fault x with
    | some e => rfl
    | none =>
      cases xs.findSome? fault with
      | some e => rfl
      | none =>
        cases hv : value x with
        | none => simp [hv, Except.bind, Except.map]
        | some y => simp [hv, Except.bind, Except.map]

theorem gather_isOk_iff {f : α → Except ε (Option β)} {xs : List α} :
    (∃ ys, gather f xs = .ok ys) ↔ ∀ x ∈ xs, ∃ o, f x = .ok o := by
  induction xs with
  | nil => exact ⟨fun _ => by simp, fun _ => ⟨[], rfl⟩⟩
  | cons x xs ih =>
    rw [gather_cons, List.forall_mem_cons, ← ih]
    cases f x with
    | error e => simp [Except.bind]
    | ok o => cases gather f xs <;> simp [Except.bind, Except.map]

/-- What is gathered fails as the first element that fails. -/
theorem gather_eq_error_iff {f : α → Except ε (Option β)} {xs : List α} {e : ε} :
    gather f xs = .error e ↔ ∃ before x behind, xs = before ++ x :: behind ∧
      (∀ y ∈ before, ∃ o, f y = .ok o) ∧ f x = .error e := by
  constructor
  · intro h
    induction xs with
    | nil => cases h
    | cons x xs ih =>
      rw [gather_cons] at h
      cases hx : f x with
      | error e' =>
        rw [hx] at h
        obtain rfl : e' = e := Except.error.inj h
        exact ⟨[], x, xs, rfl, by simp, hx⟩
      | ok o =>
        cases hrest : gather f xs with
        | ok ys => simp [hx, hrest, Except.bind, Except.map] at h
        | error e' =>
          obtain rfl : e' = e := by simpa [hx, hrest, Except.bind, Except.map] using h
          obtain ⟨before, y, behind, rfl, hbefore, hy⟩ := ih hrest
          exact ⟨x :: before, y, behind, rfl, List.forall_mem_cons.mpr ⟨⟨o, hx⟩, hbefore⟩, hy⟩
  · rintro ⟨before, x, behind, rfl, hbefore, hx⟩
    induction before with
    | nil => rw [List.nil_append, gather_cons, hx]; rfl
    | cons y before ih =>
      obtain ⟨⟨o, hy⟩, hrest⟩ := List.forall_mem_cons.mp hbefore
      rw [List.cons_append, gather_cons, hy, ih hrest]
      rfl

end

namespace Fragment

theorem textOf?_of_mem {fragments : List Fragment} (hn : (fragments.map Fragment.id).Nodup)
    {f : Fragment} (hf : f ∈ fragments) : textOf? fragments f.id = some f.text := by
  have hn' : (fragments.reverse.map Fragment.id).Nodup := by
    rw [List.map_reverse]
    exact List.nodup_reverse.mpr hn
  unfold textOf? find?
  rw [find?_of_mem hn' (List.mem_reverse.mpr hf)]
  rfl

theorem textOf?_eq_none {fragments : List Fragment} {id : String}
    (h : id ∉ fragments.map Fragment.id) : textOf? fragments id = none := by
  unfold textOf? find?
  rw [Option.map_eq_none_iff, List.find?_eq_none]
  intro f hf hid
  obtain rfl : f.id = id := by simpa using hid
  exact h (List.mem_map_of_mem (List.mem_reverse.mp hf))

theorem textOf?_eq_some_iff {fragments : List Fragment} (hn : (fragments.map Fragment.id).Nodup)
    {id text : String} :
    textOf? fragments id = some text ↔ ∃ f ∈ fragments, f.id = id ∧ f.text = text := by
  constructor
  · intro h
    by_cases hid : id ∈ fragments.map Fragment.id
    · obtain ⟨f, hf, rfl⟩ := List.mem_map.mp hid
      rw [textOf?_of_mem hn hf] at h
      exact ⟨f, hf, rfl, Option.some.inj h⟩
    · rw [textOf?_eq_none hid] at h
      cases h
  · rintro ⟨f, hf, rfl, rfl⟩
    exact textOf?_of_mem hn hf

end Fragment

def Rule.unlinked (r : Rule) : Rule := { r with linkId := "" }

def ruleFor (pattern template : String) (enabled : Bool) : Except Fault (Option Rule) :=
  if enabled then
    (compilePattern pattern).map fun
      | .ok regex => some (.make "" regex template)
      | .error _ => none
  else .ok none

def linkRule (patterns replacers : List Fragment) (l : Link) : Except Fault (Option Rule) :=
  match Fragment.textOf? patterns l.patternId, Fragment.textOf? replacers l.replacerId with
  | some pattern, some template => ruleFor pattern template l.enabled
  | _, _ => .ok none

section

variable {patterns replacers : List Fragment} {l : Link}

theorem linkRule_of_dangling
    (h : ¬(l.patternId ∈ patterns.map Fragment.id ∧ l.replacerId ∈ replacers.map Fragment.id)) :
    linkRule patterns replacers l = .ok none := by
  unfold linkRule
  by_cases hp : l.patternId ∈ patterns.map Fragment.id
  · have hr : l.replacerId ∉ replacers.map Fragment.id := fun hr => h ⟨hp, hr⟩
    rw [Fragment.textOf?_eq_none hr]
    cases Fragment.textOf? patterns l.patternId <;> rfl
  · rw [Fragment.textOf?_eq_none hp]

theorem ruleFor_isOk_iff {pattern template : String} {enabled : Bool} :
    (∃ o, ruleFor pattern template enabled = .ok o) ↔
      (enabled = true → ∃ result, compilePattern pattern = .ok result) := by
  unfold ruleFor
  cases enabled with
  | false => simp
  | true =>
    cases compilePattern pattern with
    | error fault => simp [Except.map]
    | ok result => simp [Except.map]

/-- A rule is made, or none, unless the pattern is there, is used, and does not compile for a reason
that no message covers. -/
theorem linkRule_isOk_iff :
    (∃ o, linkRule patterns replacers l = .ok o) ↔
      ∀ pattern template, Fragment.textOf? patterns l.patternId = some pattern →
        Fragment.textOf? replacers l.replacerId = some template → l.enabled = true →
          ∃ result, compilePattern pattern = .ok result := by
  unfold linkRule
  cases Fragment.textOf? patterns l.patternId with
  | none => simp
  | some pattern =>
    cases Fragment.textOf? replacers l.replacerId with
    | none => simp
    | some template => simp [ruleFor_isOk_iff]

end

namespace Rule

/-- What rules do to a text has nothing to do with their links. -/
theorem transform_map_unlinked (rules : List Rule) (text : Option String) :
    transform (rules.map unlinked) text = transform rules text := by
  unfold transform winner?
  cases text with
  | none => rfl
  | some t =>
    have hfind : (rules.map unlinked).find? (·.applies t) =
        (rules.find? (·.applies t)).map unlinked := List.find?_map ..
    simp only [hfind]
    cases rules.find? (·.applies t) <;> rfl

theorem map_transform_unlinked {α : Type} (result : Except Fault (List Rule))
    (text : Option String) (f : String → α) :
    (result.map (List.map unlinked)).map (fun rules => f (transform rules text)) =
      result.map fun rules => f (transform rules text) := by
  cases result with
  | error fault => rfl
  | ok rules =>
    change Except.ok (f (transform (rules.map unlinked) text)) = _
    rw [transform_map_unlinked]
    rfl

end Rule

namespace Store

variable {σ : Type}

theorem rules_eq_gather (s : Store σ) : s.rules = gather s.ruleOf s.links := rfl

theorem ruleOf_unlinked (s : Store σ) (l : Link) :
    (s.ruleOf l).map (Option.map Rule.unlinked) =
      linkRule s.patterns s.replacers l := by
  unfold ruleOf linkRule ruleFor
  cases l.enabled with
  | false =>
    cases Fragment.textOf? s.patterns l.patternId <;>
      cases Fragment.textOf? s.replacers l.replacerId <;> rfl
  | true =>
    cases Fragment.textOf? s.patterns l.patternId with
    | none => rfl
    | some pattern =>
      cases Fragment.textOf? s.replacers l.replacerId with
      | none => rfl
      | some template =>
        cases hc : compilePattern pattern with
        | error e => simp [hc, bind, Except.bind, Except.map]
        | ok result =>
          cases result <;>
            simp [hc, bind, Except.bind, Except.map, pure, Except.pure, Rule.make, Rule.unlinked]

theorem ruleOf_linkId {s : Store σ} {l : Link} {r : Rule} (h : s.ruleOf l = .ok (some r)) :
    r.linkId = l.id := by
  unfold ruleOf at h
  split at h
  · cases h
  · split at h
    · next pattern template _ _ =>
      cases hc : compilePattern pattern with
      | error fault => simp [hc, bind, Except.bind] at h
      | ok result =>
        cases result with
        | error message => simp [hc, bind, Except.bind, pure, Except.pure] at h
        | ok regex =>
          obtain rfl : Rule.make l.id regex template = r := by
            simpa [hc, bind, Except.bind, pure, Except.pure] using h
          rfl
    · cases h

/-- The rules of a store without their links, gathered from what its links join. -/
theorem rules_unlinked (s : Store σ) :
    s.rules.map (List.map Rule.unlinked) =
      gather (linkRule s.patterns s.replacers) s.links := by
  rw [rules_eq_gather, map_gather, funext s.ruleOf_unlinked]

theorem resolves_iff {s : Store σ} {l : Link} : s.resolves l = true ↔
    l.patternId ∈ s.patterns.map Fragment.id ∧ l.replacerId ∈ s.replacers.map Fragment.id := by
  rw [resolves, Bool.and_eq_true, Fragment.has_iff, Fragment.has_iff]

theorem ruleOf_of_not_resolves {s : Store σ} {l : Link} (h : s.resolves l = false) :
    s.ruleOf l = .ok none := by
  have hdangling : linkRule s.patterns s.replacers l = .ok none :=
    linkRule_of_dangling (by rw [← resolves_iff, h]; exact Bool.false_ne_true)
  rw [← s.ruleOf_unlinked l] at hdangling
  cases hr : s.ruleOf l with
  | error fault => simp [hr, Except.map] at hdangling
  | ok o =>
    cases o with
    | none => rfl
    | some r => simp [hr, Except.map] at hdangling

end Store
end PasteRules
