import PasteRules.Proofs.Template.Placeholder

/-! Templates are taken apart as the grammar reads them. The pattern of placeholders matches from
left to right where the grammar has them, and the text before a reference begins behind the last
reference, whatever was looked at in between. -/
namespace PasteRules.Template

open Regex (Cursor)

section

variable {groups : Nat} {names : List String} {before text rest : List Char} {parts : List Part}

abbrev placeholdersFrom (before after : List Char) : List Regex.Match :=
  placeholders.val.matchesFrom (.between before after) false

theorem placeholdersFrom_nil (before : List Char) : placeholdersFrom before [] = [] := by
  refine Regex.matchesFrom_eq_nil ?_
  rw [Regex.search?, matchAt?_of_head? before false (by simp)]
  rfl

theorem placeholdersFrom_char {c : Char} (hc : c ≠ '$') (before rest : List Char) :
    placeholdersFrom before (c :: rest) = placeholdersFrom (before ++ [c]) rest :=
  Regex.matchesFrom_of_next? (matchAt?_of_head? before false (by simpa using hc))
    (Cursor.next?_between_cons before rest c)

theorem placeholdersFrom_stray (h : ∀ parts rest, ¬Placeholder groups names text parts rest)
    (before : List Char) :
    placeholdersFrom before ('$' :: text) = placeholdersFrom (before ++ ['$']) text :=
  Regex.matchesFrom_of_next? (matchAt?_stray before false h)
    (Cursor.next?_between_cons before text '$')

theorem Opening.found_start (o : Opening) (before rest : List Char) :
    (o.found before rest).start = .between before ('$' :: (o.taken ++ rest)) := rfl

theorem Opening.found_finish (o : Opening) (before rest : List Char) :
    (o.found before rest).finish = .between (before ++ '$' :: o.taken) rest := by
  simp [found, state]

theorem placeholdersFrom_opening {o : Opening} (h : o.Runs rest) (before : List Char) :
    placeholdersFrom before ('$' :: (o.taken ++ rest)) =
      o.found before rest :: placeholdersFrom (before ++ '$' :: o.taken) rest := by
  have hleft : (o.found before rest).finish.left <
      (Cursor.between before ('$' :: (o.taken ++ rest))).left := by
    rw [o.found_finish]
    change rest.length < ('$' :: (o.taken ++ rest)).length
    rw [List.length_cons, List.length_append]
    omega
  rw [placeholdersFrom, Regex.matchesFrom_of_matchAt? (h.matchAt?_eq before false) hleft,
    o.found_finish]

/-- What a template reads as is what stitching its placeholders gives, behind the text gathered
before. -/
theorem Reads.spelled_stitch (h : Reads groups names text parts) (before pending : List Char) :
    spelled (stitch groups names (.between before (pending ++ text))
      (placeholdersFrom (before ++ pending) text)) = letters pending ++ parts := by
  induction h generalizing before pending with
  | done =>
    rw [placeholdersFrom_nil]
    simp [stitch, Part.spell, Cursor.between]
  | @char c rest parts hc hrest ih =>
    rw [placeholdersFrom_char hc, List.append_assoc, List.append_cons pending, ih]
    simp
  | @stray text parts h hrest ih =>
    rw [placeholdersFrom_stray h, List.append_assoc, List.append_cons pending, ih]
    simp
  | @placed text rest parts parts' h hrest ih =>
    obtain ⟨o, rfl, hruns, hparts⟩ := h.exists_opening
    have hslice := Cursor.slice_between before pending ('$' :: (o.taken ++ rest))
    have hspelled := hparts (before ++ pending)
    rw [placeholdersFrom_opening hruns, stitch]
    cases hresult : placeholderParts? groups names (o.found (before ++ pending) rest) with
    | none =>
      -- The text that is gathered goes on through a placeholder that stands for nothing.
      rw [hresult, Option.elim_none] at hspelled
      have hrest := ih before (pending ++ '$' :: o.taken)
      simp only [List.append_assoc, List.cons_append, letters_append, hspelled] at hrest ⊢
      exact hrest
    | some found =>
      rw [hresult, Option.elim_some] at hspelled
      have hrest := ih (before ++ pending ++ '$' :: o.taken) []
      rw [List.nil_append, List.append_nil, letters_nil, List.nil_append, ← o.found_finish] at hrest
      simp only [spelled_append, spelled_cons, Part.spell, hspelled, hrest]
      rw [Opening.found_start, hslice, List.append_assoc]

theorem Reads.eq_spelled_parse {template : List Char} {parts : List Part}
    (h : Reads groups names template parts) : parts = spelled (parse groups names template) := by
  rw [parse, spelled_filter_isSome]
  exact (h.spelled_stitch [] []).symm

theorem reads_spelled_parse (template : List Char) :
    Reads groups names template (spelled (parse groups names template)) := by
  obtain ⟨parts, h⟩ : ∃ parts, Reads groups names template parts := exists_reads template
  exact h.eq_spelled_parse ▸ h

/-- A template reads as its parts spell, and as nothing else, and no part of it is empty text. -/
theorem parse_reads (groups : Nat) (names : List String) (template : List Char) :
    (∀ parts, Reads groups names template parts ↔
      parts = spelled (parse groups names template)) ∧
      .literal [] ∉ parse groups names template := by
  refine ⟨fun parts => ⟨fun h => h.eq_spelled_parse, ?_⟩, ?_⟩
  · rintro rfl
    exact reads_spelled_parse template
  · intro hmem
    have hsome := (List.mem_filter.mp hmem).2
    simp [Part.isSome] at hsome

/-- Placeholders that look like others: a dollar sign written twice before a digit, a number that no
group has, a name that is not known with a number inside, and a name that does not end. -/
example : parse 1 ["n"] "$$1$00$12$<a$1>$<n>$<".toList =
    [.literal ['$'], .literal "1$00".toList, .group 1, .literal ['2'], .literal "$<a$1>".toList,
      .named "n", .literal "$<".toList] := by
  decide +kernel

end

end PasteRules.Template
