import PasteRules.Proofs.Store.Effect

/-! What the revision tells about the rules: an edit that does not count one keeps them. -/
namespace PasteRules

/-- Moves are to integers, as callers are to ask for them. -/
def Edit.hasIntegerIndex : Edit → Bool
  | .moveLink _ (.int _) => true
  | .moveLink _ _ => false
  | _ => true

namespace Store

variable {σ : Type}

theorem mapM_updateFirst {α β ε : Type} {g : α → Except ε β} (p : α → Bool) {f : α → α}
    (h : ∀ x, g (f x) = g x) (xs : List α) : (updateFirst p f xs).mapM g = xs.mapM g := by
  induction xs with
  | nil => rfl
  | cons x rest ih =>
    by_cases hp : p x = true
    · simp [updateFirst, hp, h]
    · simp [updateFirst, hp, ih]

theorem rules_setLinkComment (s : Store σ) (id comment : String) :
    rules { s with links := updateFirst (·.id == id) (fun l => { l with comment }) s.links } =
      s.rules := by
  unfold rules
  rw [mapM_updateFirst]
  · rfl
  · exact fun _ => rfl

/-- An edit counts a revision or keeps the rules. Only a move to no place would do neither. -/
theorem Effect.revision_or_rules {s s' : Store σ} {e : Edit} (h : s.Effect e s')
    (he : e.hasIntegerIndex = true) :
    s'.revision = s.revision + 1 ∨ (s'.revision = s.revision ∧ s'.rules = s.rules) := by
  cases h with
  | unchanged => exact .inr ⟨rfl, rfl⟩
  -- A comment is no part of a rule, so no revision has to be counted.
  | setLinkComment => exact .inr ⟨rfl, rules_setLinkComment s _ _⟩
  | @loseLink id index noPlace =>
    cases index with
    | int n => cases noPlace
    | _ => cases he
  | _ => exact .inl rfl

end Store
end PasteRules
