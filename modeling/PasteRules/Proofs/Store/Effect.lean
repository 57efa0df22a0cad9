import PasteRules.Proofs.Store.Lookup

/-! What an edit does to a store, edit by edit. What every edit preserves is proved from here. -/
namespace PasteRules.Store

open Editing

variable {σ : Type}

/-- The stores an edit may lead to. Besides the change that it is named for, an edit may leave the
store alone, because it failed or found nothing to do. -/
inductive Effect (s : Store σ) : Edit → Store σ → Prop
  | unchanged (e : Edit) : Effect s e s
  | addPattern {text id : String} {ids : σ} (fresh : id ∉ s.patterns.map Fragment.id)
      (drawn : ∃ suffix, id = identifier Identifier.patternStem suffix) :
      Effect s (.addPattern text) (bump { s with patterns := s.patterns ++ [⟨id, text⟩], ids })
  | addReplacer {text id : String} {ids : σ} (fresh : id ∉ s.replacers.map Fragment.id)
      (drawn : ∃ suffix, id = identifier Identifier.replacerStem suffix) :
      Effect s (.addReplacer text) (bump { s with replacers := s.replacers ++ [⟨id, text⟩], ids })
  | editPattern {id text : String} :
      Effect s (.editPattern id text)
        (bump { s with
          patterns := updateFirst (·.id == id) (fun p => { p with text }) s.patterns })
  | editReplacer {id text : String} :
      Effect s (.editReplacer id text)
        (bump { s with
          replacers := updateFirst (·.id == id) (fun r => { r with text }) s.replacers })
  | removePattern {id : String} :
      Effect s (.removePattern id)
        (bump { s with
          patterns := s.patterns.eraseP (·.id == id)
          links := s.links.filter fun l => !(l.patternId == id) })
  | removeReplacer {id : String} :
      Effect s (.removeReplacer id)
        (bump { s with
          replacers := s.replacers.eraseP (·.id == id)
          links := s.links.filter fun l => !(l.replacerId == id) })
  | addLink {id p r : String} {enabled : Bool} {comment : Option String} {ids : σ}
      (fresh : id ∉ s.links.map Link.id)
      (drawn : ∃ suffix, id = identifier Identifier.linkStem suffix)
      (unjoined : (p, r) ∉ s.links.map Link.pair)
      (hp : p ∈ s.patterns.map Fragment.id) (hr : r ∈ s.replacers.map Fragment.id) :
      Effect s (.addLink p r enabled comment)
        (bump { s with links := s.links ++ [⟨id, p, r, enabled, comment.getD ""⟩], ids })
  | removeLink {id : String} :
      Effect s (.removeLink id) (bump { s with links := s.links.eraseP (·.id == id) })
  | setLinkEnabled {id : String} {enabled : Bool} :
      Effect s (.setLinkEnabled id enabled)
        (bump { s with links := updateFirst (·.id == id) (fun l => { l with enabled }) s.links })
  | setLinkComment {id : String} {comment : Option String} :
      Effect s (.setLinkComment id comment)
        { s with
          links := updateFirst (·.id == id) (fun l => { l with comment := comment.getD "" })
            s.links }
  | moveLink {id : String} {index : Json} {l : Link} {i : Nat}
      (found : s.links.find? (·.id == id) = some l)
      (place : placeFor? index (s.links.eraseP (·.id == id)).length = some i) :
      Effect s (.moveLink id index)
        (bump { s with links := (s.links.eraseP (·.id == id)).insertIdx i l })
  | loseLink {id : String} {index : Json}
      (noPlace : placeFor? index (s.links.eraseP (·.id == id)).length = none) :
      Effect s (.moveLink id index) { s with links := s.links.eraseP (·.id == id) }
  | pruneDanglingLinks {keep : Link → Bool} :
      Effect s .pruneDanglingLinks (bump { s with links := s.links.filter keep })

variable [IdSupply σ]

/-- An edit that looks something up first leaves the store alone if it is not there. -/
theorem effect_of_found {s : Store σ} {e : Edit} {α : Type} {found : Except Fault α}
    {next : α → Answer × Store σ} (hedit : s.edit e = s.onFound found next)
    (h : ∀ x, s.Effect e (next x).2) : s.Effect e (s.edit e).2 := by
  rw [hedit]
  cases found with
  | error fault => exact .unchanged e
  | ok x => exact h x

theorem edit_effect (s : Store σ) (e : Edit) : s.Effect e (s.edit e).2 := by
  cases e with
  | addPattern text =>
    exact .addPattern (IdSupply.draw_not_mem _ _ s.ids) (IdSupply.draw_form _ _ s.ids)
  | addReplacer text =>
    exact .addReplacer (IdSupply.draw_not_mem _ _ s.ids) (IdSupply.draw_form _ _ s.ids)
  | editPattern id text =>
    exact effect_of_found (edit_of_onFound rfl (exec_editPattern id text s)) fun _ => .editPattern
  | editReplacer id text =>
    exact effect_of_found (edit_of_onFound rfl (exec_editReplacer id text s)) fun _ => .editReplacer
  | removePattern id =>
    exact effect_of_found (edit_of_onFound rfl (exec_removePattern id s)) fun _ => .removePattern
  | removeReplacer id =>
    exact effect_of_found (edit_of_onFound rfl (exec_removeReplacer id s)) fun _ => .removeReplacer
  | addLink p r enabled comment =>
    rw [edit_eq rfl]
    rcases s.addLink_cases p r enabled (comment.getD "") with
      ⟨-, h⟩ | ⟨-, -, h⟩ | ⟨-, -, -, h⟩ | ⟨hp, hr, hapart, id, ids, hfresh, hdrawn, h⟩
    all_goals rw [h]
    · exact .unchanged _
    · exact .unchanged _
    · exact .unchanged _
    · exact .addLink hfresh hdrawn hapart hp hr
  | removeLink id =>
    exact effect_of_found (edit_of_onFound rfl (exec_removeLink id s)) fun _ => .removeLink
  | setLinkEnabled id enabled =>
    exact effect_of_found (edit_of_onFound rfl (exec_setLinkEnabled id enabled s))
      fun _ => .setLinkEnabled
  | setLinkComment id comment =>
    exact effect_of_found (edit_of_onFound rfl (exec_setLinkComment id _ s))
      fun _ => .setLinkComment
  | moveLink id index =>
    rw [edit_moveLink, moveLink_eq]
    cases h : s.getLink id with
    | error e => exact .unchanged _
    | ok l =>
      -- The link is out before the index is looked at, so it is lost where that means no place.
      cases hi : placeFor? index (s.links.eraseP (·.id == id)).length with
      | none => exact .loseLink hi
      | some i => exact .moveLink (getLink_ok h) hi
  | pruneDanglingLinks =>
    rw [edit_pruneDanglingLinks, pruneDanglingLinks_eq_ite]
    split
    · exact .unchanged _
    · exact .pruneDanglingLinks

end PasteRules.Store
