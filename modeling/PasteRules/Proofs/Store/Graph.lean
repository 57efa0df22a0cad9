import Mathlib.Data.List.Nodup
import PasteRules.Store.Edit

/-! The graph that patterns, replacers and links form, and the changes that keep it sound. -/
namespace PasteRules

def Link.pair (l : Link) : String × String := (l.patternId, l.replacerId)

/-- Identifiers tell the patterns, the replacers and the links apart, no pair is joined twice, and
every link has both ends. -/
structure SoundGraph (patterns replacers : List Fragment) (links : List Link) : Prop where
  patternIds : (patterns.map Fragment.id).Nodup
  replacerIds : (replacers.map Fragment.id).Nodup
  linkIds : (links.map Link.id).Nodup
  pairs : (links.map Link.pair).Nodup
  ends : ∀ l ∈ links,
    l.patternId ∈ patterns.map Fragment.id ∧ l.replacerId ∈ replacers.map Fragment.id

theorem updateFirst_map {α β : Type} (p : α → Bool) (f : α → α) (g : α → β)
    (h : ∀ x, g (f x) = g x) (xs : List α) : (updateFirst p f xs).map g = xs.map g := by
  induction xs with
  | nil => rfl
  | cons x rest ih =>
    by_cases hp : p x = true
    · simp [updateFirst, hp, h]
    · simp [updateFirst, hp, ih]

theorem nodup_map_append_singleton {α β : Type} {g : α → β} {xs : List α} {x : α}
    (h : (xs.map g).Nodup) (hx : g x ∉ xs.map g) : ((xs ++ [x]).map g).Nodup := by
  rw [List.map_append, List.map_singleton, ← List.concat_eq_append]
  exact h.concat hx

namespace Fragment

theorem has_iff (fragments : List Fragment) (id : String) :
    has fragments id = true ↔ id ∈ fragments.map Fragment.id := by
  simp [has]

theorem mem_ids_eraseP {fragments : List Fragment} {id x : String}
    (hx : x ∈ fragments.map Fragment.id) (hne : x ≠ id) :
    x ∈ (fragments.eraseP (·.id == id)).map Fragment.id := by
  obtain ⟨f, hf, rfl⟩ := List.mem_map.mp hx
  exact List.mem_map_of_mem ((List.mem_eraseP_of_neg (by simpa using hne)).mpr hf)

end Fragment

namespace SoundGraph

variable {patterns replacers : List Fragment} {links : List Link}

theorem empty : SoundGraph [] [] [] := ⟨.nil, .nil, .nil, .nil, by simp⟩

/-- Parts of a sound graph are sound as long as no link loses an end. -/
theorem restrict (h : SoundGraph patterns replacers links) {ps rs : List Fragment} {ls : List Link}
    (hp : ps.Sublist patterns) (hr : rs.Sublist replacers) (hl : ls.Sublist links)
    (he : ∀ l ∈ ls, l.patternId ∈ ps.map Fragment.id ∧ l.replacerId ∈ rs.map Fragment.id) :
    SoundGraph ps rs ls where
  patternIds := (hp.map _).nodup h.patternIds
  replacerIds := (hr.map _).nodup h.replacerIds
  linkIds := (hl.map _).nodup h.linkIds
  pairs := (hl.map _).nodup h.pairs
  ends := he

theorem sublist (h : SoundGraph patterns replacers links) {ls : List Link}
    (hl : ls.Sublist links) : SoundGraph patterns replacers ls :=
  h.restrict (.refl _) (.refl _) hl fun l hm => h.ends l (hl.subset hm)

/-- Texts, flags and comments are no part of the graph, and neither is the order of links. -/
theorem relabel (h : SoundGraph patterns replacers links) {ps rs : List Fragment} {ls : List Link}
    (hp : ps.map Fragment.id = patterns.map Fragment.id)
    (hr : rs.map Fragment.id = replacers.map Fragment.id)
    (hid : (ls.map Link.id).Perm (links.map Link.id))
    (hpair : (ls.map Link.pair).Perm (links.map Link.pair)) : SoundGraph ps rs ls where
  patternIds := hp ▸ h.patternIds
  replacerIds := hr ▸ h.replacerIds
  linkIds := hid.nodup_iff.mpr h.linkIds
  pairs := hpair.nodup_iff.mpr h.pairs
  ends l hl := by
    have hm : l.pair ∈ links.map Link.pair := hpair.mem_iff.mp (List.mem_map_of_mem hl)
    obtain ⟨l', hl', he⟩ := List.mem_map.mp hm
    obtain ⟨hp', hr'⟩ : l'.patternId = l.patternId ∧ l'.replacerId = l.replacerId := by
      simpa [Link.pair] using he
    rw [hp, hr, ← hp', ← hr']
    exact h.ends l' hl'

theorem addPattern (h : SoundGraph patterns replacers links) {f : Fragment}
    (hf : f.id ∉ patterns.map Fragment.id) :
    SoundGraph (patterns ++ [f]) replacers links where
  patternIds := nodup_map_append_singleton h.patternIds hf
  replacerIds := h.replacerIds
  linkIds := h.linkIds
  pairs := h.pairs
  ends l hl := by
    obtain ⟨hp, hr⟩ := h.ends l hl
    exact ⟨by rw [List.map_append]; exact List.mem_append_left _ hp, hr⟩

theorem addReplacer (h : SoundGraph patterns replacers links) {f : Fragment}
    (hf : f.id ∉ replacers.map Fragment.id) :
    SoundGraph patterns (replacers ++ [f]) links where
  patternIds := h.patternIds
  replacerIds := nodup_map_append_singleton h.replacerIds hf
  linkIds := h.linkIds
  pairs := h.pairs
  ends l hl := by
    obtain ⟨hp, hr⟩ := h.ends l hl
    exact ⟨hp, by rw [List.map_append]; exact List.mem_append_left _ hr⟩

theorem addLink (h : SoundGraph patterns replacers links) {l : Link}
    (hid : l.id ∉ links.map Link.id) (hpair : l.pair ∉ links.map Link.pair)
    (hp : l.patternId ∈ patterns.map Fragment.id)
    (hr : l.replacerId ∈ replacers.map Fragment.id) :
    SoundGraph patterns replacers (links ++ [l]) where
  patternIds := h.patternIds
  replacerIds := h.replacerIds
  linkIds := nodup_map_append_singleton h.linkIds hid
  pairs := nodup_map_append_singleton h.pairs hpair
  ends l' hl' := by
    rcases List.mem_append.mp hl' with hold | hnew
    · exact h.ends l' hold
    · rw [List.mem_singleton.mp hnew]
      exact ⟨hp, hr⟩

/-- A pattern goes together with the links that use it. -/
theorem removePattern (h : SoundGraph patterns replacers links) (id : String) :
    SoundGraph (patterns.eraseP (·.id == id)) replacers
      (links.filter fun l => !(l.patternId == id)) := by
  refine h.restrict List.eraseP_sublist (.refl _) List.filter_sublist fun l hl => ?_
  obtain ⟨hmem, hne⟩ : l ∈ links ∧ l.patternId ≠ id := by simpa using hl
  exact ⟨Fragment.mem_ids_eraseP (h.ends l hmem).1 hne, (h.ends l hmem).2⟩

theorem removeReplacer (h : SoundGraph patterns replacers links) (id : String) :
    SoundGraph patterns (replacers.eraseP (·.id == id))
      (links.filter fun l => !(l.replacerId == id)) := by
  refine h.restrict (.refl _) List.eraseP_sublist List.filter_sublist fun l hl => ?_
  obtain ⟨hmem, hne⟩ : l ∈ links ∧ l.replacerId ≠ id := by simpa using hl
  exact ⟨(h.ends l hmem).1, Fragment.mem_ids_eraseP (h.ends l hmem).2 hne⟩

end SoundGraph
end PasteRules
