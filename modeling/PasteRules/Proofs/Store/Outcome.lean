import PasteRules.Proofs.Store.Keyed
import PasteRules.Proofs.Store.Lookup

/-! What edits return that find what they name, and the stores that they leave. -/
namespace PasteRules

theorem Lookup.exists_ok {α : Type} {ids : List String} {id : String} {result : Except Fault α}
    (h : Lookup ids id result) (hid : id ∈ ids) : ∃ x, result = .ok x := by
  cases h with
  | found x _ => exact ⟨x, rfl⟩
  | missing hno => exact absurd hid hno

namespace Store

variable {σ : Type} {s : Store σ} {id : String}

theorem removePattern_eq (hid : id ∈ s.patterns.map Fragment.id) :
    s.removePattern id = .ok (s.links.filter (·.patternId == id), bump { s with
      patterns := s.patterns.eraseP (·.id == id)
      links := s.links.filter fun l => !(l.patternId == id) }) := by
  obtain ⟨p, hp⟩ := (s.lookup_pattern id).exists_ok hid
  rw [removePattern, attempt_of_onFound (Editing.exec_removePattern id s), hp]
  rfl

theorem removeReplacer_eq (hid : id ∈ s.replacers.map Fragment.id) :
    s.removeReplacer id = .ok (s.links.filter (·.replacerId == id), bump { s with
      replacers := s.replacers.eraseP (·.id == id)
      links := s.links.filter fun l => !(l.replacerId == id) }) := by
  obtain ⟨r, hr⟩ := (s.lookup_replacer id).exists_ok hid
  rw [removeReplacer, attempt_of_onFound (Editing.exec_removeReplacer id s), hr]
  rfl

theorem getPattern_eq (hn : (s.patterns.map Fragment.id).Nodup) {p : Fragment}
    (hp : p ∈ s.patterns) : s.getPattern p.id = .ok p := by
  unfold getPattern Fragment.find?
  rw [find?_of_mem hn hp]

theorem getReplacer_eq (hn : (s.replacers.map Fragment.id).Nodup) {r : Fragment}
    (hr : r ∈ s.replacers) : s.getReplacer r.id = .ok r := by
  unfold getReplacer Fragment.find?
  rw [find?_of_mem hn hr]

theorem getLink_eq (hn : (s.links.map Link.id).Nodup) {l : Link} (hl : l ∈ s.links) :
    s.getLink l.id = .ok l := by
  unfold getLink Link.find?
  rw [find?_of_mem hn hl]

theorem editPattern_eq (hn : (s.patterns.map Fragment.id).Nodup) {p : Fragment}
    (hp : p ∈ s.patterns) (text : String) :
    s.editPattern p.id text = .ok ({ p with text }, bump { s with
      patterns := updateFirst (·.id == p.id) (fun p => { p with text }) s.patterns }) := by
  rw [editPattern, attempt_of_onFound (Editing.exec_editPattern p.id text s), getPattern_eq hn hp]
  rfl

theorem editReplacer_eq (hn : (s.replacers.map Fragment.id).Nodup) {r : Fragment}
    (hr : r ∈ s.replacers) (text : String) :
    s.editReplacer r.id text = .ok ({ r with text }, bump { s with
      replacers := updateFirst (·.id == r.id) (fun r => { r with text }) s.replacers }) := by
  rw [editReplacer, attempt_of_onFound (Editing.exec_editReplacer r.id text s),
    getReplacer_eq hn hr]
  rfl

section

variable (hn : (s.links.map Link.id).Nodup) {l : Link} (hl : l ∈ s.links)

include hn hl

theorem removeLink_eq :
    s.removeLink l.id = .ok (l, bump { s with links := s.links.eraseP (·.id == l.id) }) := by
  rw [removeLink, attempt_of_onFound (Editing.exec_removeLink l.id s), getLink_eq hn hl]
  rfl

theorem setLinkEnabled_eq (enabled : Bool) :
    s.setLinkEnabled l.id enabled = .ok ({ l with enabled }, bump { s with
      links := updateFirst (·.id == l.id) (fun l => { l with enabled }) s.links }) := by
  rw [setLinkEnabled, attempt_of_onFound (Editing.exec_setLinkEnabled l.id enabled s),
    getLink_eq hn hl]
  rfl

theorem setLinkComment_eq (comment : String) :
    s.setLinkComment l.id comment = .ok ({ l with comment }, { s with
      links := updateFirst (·.id == l.id) (fun l => { l with comment }) s.links }) := by
  rw [setLinkComment, attempt_of_onFound (Editing.exec_setLinkComment l.id comment s),
    getLink_eq hn hl]
  rfl

end

end Store
end PasteRules
