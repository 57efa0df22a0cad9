import PasteRules.Proofs.Rules.Gather
import PasteRules.Proofs.Store.Runs

/-! What a change to the fragments of a store leaves alone: the texts under other identifiers, and
the rules of the links that use those. -/
namespace PasteRules

namespace Fragment

variable {fragments : List Fragment} {id : String}

theorem textOf?_isSome_iff : (textOf? fragments id).isSome = true ↔
    id ∈ fragments.map Fragment.id := by
  simp [textOf?, find?]

theorem exists_textOf?_iff : (∃ text, textOf? fragments id = some text) ↔
    id ∈ fragments.map Fragment.id := by
  rw [← textOf?_isSome_iff, Option.isSome_iff_exists]

theorem textOf?_isSome_congr {others : List Fragment}
    (h : others.map Fragment.id = fragments.map Fragment.id) :
    (textOf? others id).isSome = (textOf? fragments id).isSome := by
  rw [Bool.eq_iff_iff, textOf?_isSome_iff, textOf?_isSome_iff, h]

theorem textOf?_congr {others : List Fragment} (hn : (fragments.map Fragment.id).Nodup)
    (hn' : (others.map Fragment.id).Nodup)
    (h : ∀ f : Fragment, f.id = id → (f ∈ others ↔ f ∈ fragments)) :
    textOf? others id = textOf? fragments id := by
  ext text
  rw [textOf?_eq_some_iff hn, textOf?_eq_some_iff hn']
  constructor
  · rintro ⟨f, hf, hid, htext⟩
    exact ⟨f, (h f hid).mp hf, hid, htext⟩
  · rintro ⟨f, hf, hid, htext⟩
    exact ⟨f, (h f hid).mpr hf, hid, htext⟩

theorem textOf?_append_singleton {f : Fragment} (hne : f.id ≠ id) :
    textOf? (fragments ++ [f]) id = textOf? fragments id := by
  simp [textOf?, find?, hne]

variable (hn : (fragments.map Fragment.id).Nodup)

include hn

theorem textOf?_eraseP {gone : String} (hne : id ≠ gone) :
    textOf? (fragments.eraseP (·.id == gone)) id = textOf? fragments id := by
  refine textOf?_congr hn ((List.eraseP_sublist.map _).nodup hn) fun f hf => ?_
  exact List.mem_eraseP_of_neg (by simpa [hf] using hne)

theorem textOf?_updateFirst_of_ne {edited text : String} (hne : id ≠ edited) :
    textOf? (updateFirst (·.id == edited) (fun f => { f with text }) fragments) id =
      textOf? fragments id := by
  have hids := updateFirst_map (·.id == edited) (fun f => { f with text }) Fragment.id
    (fun _ => rfl) fragments
  refine textOf?_congr hn (hids ▸ hn) fun f hf => ?_
  rw [updateFirst_eq_map (k := Fragment.id) hn, List.mem_map]
  constructor
  · rintro ⟨g, hg, rfl⟩
    by_cases hedited : g.id = edited
    · rw [if_pos hedited] at hf
      exact absurd (hf.symm.trans hedited) hne
    · rwa [if_neg hedited]
  · intro hmem
    exact ⟨f, hmem, if_neg (hf ▸ hne)⟩

theorem textOf?_updateFirst (text : String) (hid : id ∈ fragments.map Fragment.id) :
    textOf? (updateFirst (·.id == id) (fun f => { f with text }) fragments) id = some text := by
  have hids := updateFirst_map (·.id == id) (fun f => { f with text }) Fragment.id
    (fun _ => rfl) fragments
  obtain ⟨f, hf, rfl⟩ := List.mem_map.mp hid
  refine (textOf?_eq_some_iff (hids ▸ hn)).mpr ⟨⟨f.id, text⟩, ?_, rfl, rfl⟩
  rw [updateFirst_eq_map (k := Fragment.id) hn, List.mem_map]
  exact ⟨f, hf, if_pos rfl⟩

end Fragment

namespace Store

variable {σ : Type} {s s' : Store σ} {l l' : Link}

/-- The regex of the rule that a link makes. The template is no part of what decides which rule
wins. -/
def regexOf? (s : Store σ) (l : Link) : Except Fault (Option Regex) :=
  (s.ruleOf l).map (Option.map Rule.regex)

theorem ruleOf_of_disabled (h : l.enabled = false) : s.ruleOf l = .ok none := by
  simp [ruleOf, h]

/-- The rule of a link that is on, from the texts at its ends. -/
theorem ruleOf_of_texts {pattern template : String} (on : l.enabled = true)
    (hp : Fragment.textOf? s.patterns l.patternId = some pattern)
    (hr : Fragment.textOf? s.replacers l.replacerId = some template) :
    s.ruleOf l = (compilePattern pattern).map fun
      | .ok regex => some (.make l.id regex template)
      | .error _ => none := by
  unfold ruleOf
  rw [on, hp, hr]
  cases hc : compilePattern pattern with
  | error fault => simp [hc, bind, Except.bind, Except.map]
  | ok result => cases result <;> simp [hc, bind, Except.bind, Except.map, pure, Except.pure]

theorem ruleOf_congr (hid : l'.id = l.id) (henabled : l'.enabled = l.enabled)
    (hp : Fragment.textOf? s'.patterns l'.patternId = Fragment.textOf? s.patterns l.patternId)
    (hr : Fragment.textOf? s'.replacers l'.replacerId = Fragment.textOf? s.replacers l.replacerId) :
    s'.ruleOf l' = s.ruleOf l := by
  unfold ruleOf
  rw [hid, henabled, hp, hr]

theorem regexOf?_eq (s : Store σ) (l : Link) :
    s.regexOf? l =
      match Fragment.textOf? s.patterns l.patternId with
      | none => .ok none
      | some pattern =>
        if l.enabled && (Fragment.textOf? s.replacers l.replacerId).isSome then
          (compilePattern pattern).map Except.toOption
        else .ok none := by
  unfold regexOf? ruleOf
  cases l.enabled with
  | false => cases Fragment.textOf? s.patterns l.patternId <;> rfl
  | true =>
    cases Fragment.textOf? s.patterns l.patternId with
    | none => rfl
    | some pattern =>
      cases Fragment.textOf? s.replacers l.replacerId with
      | none => rfl
      | some template =>
        cases hc : compilePattern pattern with
        | error e => simp [hc, bind, Except.bind, Except.map]
        | ok result =>
          cases result <;>
            simp [hc, bind, Except.bind, Except.map, pure, Except.pure, Rule.make,
              Except.toOption]

theorem regexOf?_congr (henabled : l'.enabled = l.enabled)
    (hp : Fragment.textOf? s'.patterns l'.patternId = Fragment.textOf? s.patterns l.patternId)
    (hr : (Fragment.textOf? s'.replacers l'.replacerId).isSome =
      (Fragment.textOf? s.replacers l.replacerId).isSome) :
    s'.regexOf? l' = s.regexOf? l := by
  rw [regexOf?_eq, regexOf?_eq, henabled, hp, hr]

theorem ruleOf_setComment (s : Store σ) (l : Link) (comment : String) :
    s.ruleOf { l with comment } = s.ruleOf l := ruleOf_congr rfl rfl rfl rfl

theorem regexOf?_editReplacer {id text : String} (l : Link) :
    regexOf? (bump { s with
      replacers := updateFirst (·.id == id) (fun r => { r with text }) s.replacers }) l =
      s.regexOf? l :=
  regexOf?_congr rfl rfl (Fragment.textOf?_isSome_congr (updateFirst_map _ _ _ (by simp) _))

theorem ruleOf_editReplacer (hs : s.Sound) {id text : String} {l : Link} (hl : l.replacerId ≠ id) :
    ruleOf (bump { s with
      replacers := updateFirst (·.id == id) (fun r => { r with text }) s.replacers }) l =
      s.ruleOf l :=
  ruleOf_congr rfl rfl rfl (Fragment.textOf?_updateFirst_of_ne hs.replacerIds hl)

theorem ruleOf_editPattern (hs : s.Sound) {id text : String} {l : Link} (hl : l.patternId ≠ id) :
    ruleOf (bump { s with
      patterns := updateFirst (·.id == id) (fun p => { p with text }) s.patterns }) l =
      s.ruleOf l :=
  ruleOf_congr rfl rfl (Fragment.textOf?_updateFirst_of_ne hs.patternIds hl) rfl

theorem ruleOf_addPattern (hs : s.Sound) {f : Fragment} {ids : σ}
    (fresh : f.id ∉ s.patterns.map Fragment.id) {l : Link} (hl : l ∈ s.links) :
    ruleOf (bump { s with patterns := s.patterns ++ [f], ids }) l = s.ruleOf l := by
  have hne : f.id ≠ l.patternId := fun hid => fresh (hid.symm ▸ (hs.ends l hl).1)
  exact ruleOf_congr rfl rfl (Fragment.textOf?_append_singleton hne) rfl

theorem ruleOf_addReplacer (hs : s.Sound) {f : Fragment} {ids : σ}
    (fresh : f.id ∉ s.replacers.map Fragment.id) {l : Link} (hl : l ∈ s.links) :
    ruleOf (bump { s with replacers := s.replacers ++ [f], ids }) l = s.ruleOf l := by
  have hne : f.id ≠ l.replacerId := fun hid => fresh (hid.symm ▸ (hs.ends l hl).2)
  exact ruleOf_congr rfl rfl rfl (Fragment.textOf?_append_singleton hne)

theorem ruleOf_removePattern (hs : s.Sound) {id : String} {links : List Link} {l : Link}
    (hl : l.patternId ≠ id) :
    ruleOf (bump { s with patterns := s.patterns.eraseP (·.id == id), links := links }) l =
      s.ruleOf l :=
  ruleOf_congr rfl rfl (Fragment.textOf?_eraseP hs.patternIds hl) rfl

theorem ruleOf_removeReplacer (hs : s.Sound) {id : String} {links : List Link} {l : Link}
    (hl : l.replacerId ≠ id) :
    ruleOf (bump { s with replacers := s.replacers.eraseP (·.id == id), links := links }) l =
      s.ruleOf l :=
  ruleOf_congr rfl rfl rfl (Fragment.textOf?_eraseP hs.replacerIds hl)

end Store
end PasteRules
