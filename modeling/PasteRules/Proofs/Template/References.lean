import Mathlib.Data.List.Basic
import PasteRules.Template.Expansion
import PasteRules.Proofs.Regex.Numbering
import PasteRules.Proofs.Regex.Span
import PasteRules.Proofs.Template.Parse

/-! The references of a template. All of them are to groups of the pattern that the template was
read for, so the template expands for every match. -/
namespace PasteRules.Template

def Part.Refers (groups : Nat) (names : List String) : Part → Prop
  | .group number => 1 ≤ number ∧ number ≤ groups
  | .named name => name ∈ names
  | _ => True

def Part.number? (r : Regex) : Part → Option Nat
  | .group number => some number
  | .named name => r.names.lookup name
  | _ => none

section

variable {groups : Nat} {names : List String} {part : Part}

theorem refers_of_mem_letters {text : List Char} (h : part ∈ letters text) :
    part.Refers groups names := by
  obtain ⟨c, -, rfl⟩ := List.mem_map.mp h
  trivial

theorem refers_of_mem_digitParts {digits : List Char} (h : part ∈ digitParts groups digits) :
    part.Refers groups names := by
  unfold digitParts at h
  split at h
  · cases List.mem_singleton.mp h
    assumption
  split at h
  · rcases List.mem_cons.mp h with rfl | htext
    · assumption
    · exact refers_of_mem_letters htext
  · exact refers_of_mem_letters h

theorem Placeholder.refers {text rest : List Char} {parts : List Part}
    (h : Placeholder groups names text parts rest) (hpart : part ∈ parts) :
    part.Refers groups names := by
  cases h with
  | digits => exact refers_of_mem_digitParts hpart
  | unknown => exact refers_of_mem_letters hpart
  | known rest h hname =>
    cases List.mem_singleton.mp hpart
    exact hname
  | _ =>
    cases List.mem_singleton.mp hpart
    trivial

theorem Reads.refers {template : List Char} {parts : List Part}
    (h : Reads groups names template parts) (hpart : part ∈ parts) : part.Refers groups names := by
  induction h with
  | done => cases hpart
  | char hc hrest ih =>
    rcases List.mem_cons.mp hpart with rfl | hpart
    · trivial
    · exact ih hpart
  | placed hplaceholder hrest ih =>
    rcases List.mem_append.mp hpart with hpart | hpart
    · exact hplaceholder.refers hpart
    · exact ih hpart
  | stray hstray hrest ih =>
    rcases List.mem_cons.mp hpart with rfl | hpart
    · trivial
    · exact ih hpart

theorem refers_of_mem_parse {template : List Char} (h : part ∈ parse groups names template) :
    part.Refers groups names := by
  cases part with
  | literal text => trivial
  | _ =>
    exact (reads_spelled_parse template).refers
      (List.mem_flatMap.mpr ⟨_, h, List.mem_singleton_self _⟩)

end

section

variable {r : Regex} {m : Regex.Match} {text : List Char} {part : Part}

/-- A number that a part refers to is that of a group, if the names stand for groups. -/
theorem Part.Refers.le_groups (hnumbered : ∀ p ∈ r.names, 1 ≤ p.2 ∧ p.2 ≤ r.groups)
    (h : part.Refers r.groups (r.names.map Prod.fst)) {number : Nat}
    (hnumber : part.number? r = some number) : number ≤ r.groups := by
  cases part with
  | group n =>
    cases hnumber
    exact h.2
  | named name =>
    obtain ⟨before, after, hnames, -⟩ := List.lookup_eq_some_iff.mp hnumber
    exact (hnumbered (name, number) (by simp [hnames])).2
  | _ => cases hnumber

theorem Part.expand?_of_number? {number : Nat} (hnumber : part.number? r = some number) :
    part.expand? r m = (m.group? number).map (·.getD []) := by
  cases part with
  | group n =>
    cases hnumber
    rfl
  | named name =>
    have hlookup : r.names.lookup name = some number := hnumber
    rw [Part.expand?, hlookup]
    rfl
  | _ => cases hnumber

/-- A part has a text for a match, if the groups that it may refer to have. -/
theorem Part.Refers.exists_expand? (h : part.Refers r.groups (r.names.map Prod.fst))
    (hgroup : ∀ number, part.number? r = some number → ∃ text, part.expand? r m = some text) :
    ∃ text, part.expand? r m = some text := by
  cases part with
  | group n => exact hgroup n rfl
  | named name =>
    obtain ⟨p, hp, hname⟩ := List.mem_map.mp h
    have hsome : (r.names.lookup name).isSome :=
      List.lookup_isSome_iff.mpr ⟨p, hp, by simp [hname]⟩
    obtain ⟨number, hnumber⟩ := Option.isSome_iff_exists.mp hsome
    exact hgroup number hnumber
  | _ => exact ⟨_, rfl⟩

/-- Parts expand if each of them has a text. -/
theorem exists_expand? {parts : List Part}
    (h : ∀ part ∈ parts, ∃ text, part.expand? r m = some text) :
    ∃ text, expand? r parts m = some text := by
  induction parts with
  | nil => exact ⟨[], rfl⟩
  | cons part parts ih =>
    obtain ⟨text, htext⟩ := h part List.mem_cons_self
    obtain ⟨rest, hrest⟩ := ih fun part hpart => h part (List.mem_cons_of_mem _ hpart)
    obtain ⟨pieces, hpieces, rfl⟩ := Option.map_eq_some_iff.mp hrest
    exact ⟨text ++ pieces.flatten, by simp [expand?, List.mapM_cons, htext, hpieces]⟩

section

variable {pattern : String} {flags : Regex.Flags} {codeNamed? : String → Option Nat}
  (hcompile : Regex.compile pattern flags codeNamed? = .ok r) (hwithin : m.Within r text)

include hcompile hwithin

/-- A reference of a template for a compiled pattern has the text of its group, or no text. -/
theorem expand?_reference {template : List Char} (hpart : part ∈ forRegex r template) {number : Nat}
    (hnumber : part.number? r = some number) :
    ∃ found, m.group? number = some found ∧ part.expand? r m = some (found.getD []) := by
  have hnumbered := Regex.numbered_of_compile hcompile
  have hle := (refers_of_mem_parse hpart).le_groups hnumbered hnumber
  obtain ⟨found, hfound⟩ := hwithin.exists_group? hle
  exact ⟨found, hfound, by rw [Part.expand?_of_number? hnumber, hfound]; rfl⟩

/-- A template for a compiled pattern expands for every match to what replaces the match. -/
theorem expand?_forRegex (template : List Char) :
    expand? r (forRegex r template) m = some (replacement r (forRegex r template) m) := by
  have htexts : ∀ part ∈ forRegex r template, ∃ text, part.expand? r m = some text := by
    intro part hpart
    refine (refers_of_mem_parse hpart).exists_expand? fun number hnumber => ?_
    obtain ⟨found, -, hexpand⟩ := expand?_reference hcompile hwithin hpart hnumber
    exact ⟨_, hexpand⟩
  obtain ⟨text', htext'⟩ := exists_expand? htexts
  rw [replacement, htext']
  rfl

end

/-- The references of a template are to groups that there are. Where the groups are those of a
compiled pattern, whatever characters may be given by name in it, the template expands for every
match to what replaces the match, and each reference becomes the text of its group, or no text if
the group took no part. -/
theorem references_resolve :
    (∀ groups names template,
      (∀ number, .group number ∈ parse groups names template → 1 ≤ number ∧ number ≤ groups) ∧
        ∀ name, .named name ∈ parse groups names template → name ∈ names) ∧
    ∀ pattern flags codeNamed? r, Regex.compile pattern flags codeNamed? = .ok r →
      ∀ template text m, m ∈ r.matchesFrom (.ofText text) false ∨ r.find? text = some m →
        expand? r (forRegex r template) m = some (replacement r (forRegex r template) m) ∧
          ∀ part ∈ forRegex r template, ∀ number, part.number? r = some number →
            ∃ found, m.group? number = some found ∧
              part.expand? r m = some (found.getD []) := by
  refine ⟨fun groups names template =>
    ⟨fun _ h => refers_of_mem_parse h, fun _ h => refers_of_mem_parse h⟩, ?_⟩
  intro pattern flags codeNamed? r hcompile template text m hm
  have hwithin : m.Within r text := by
    rcases hm with hm | hm
    · exact Regex.within_of_mem_matchesFrom hm
    · exact Regex.within_of_find? hm
  exact ⟨expand?_forRegex hcompile hwithin template,
    fun part hpart number hnumber => expand?_reference hcompile hwithin hpart hnumber⟩

/-- Of two groups the first takes no part, and a third there is none. -/
theorem references_resolve_alternatives :
    ∃ r m, Regex.compile "(a)|(?P<n>b)" = .ok r ∧ r.find? ['b'] = some m ∧
      expand? r (forRegex r "<$1$<n>$3>".toList) m = some "<b$3>".toList := by
  let a : Regex.Node := .char (.literal 'a'.toNat false .exact)
  let b : Regex.Node := .char (.literal 'b'.toNat false .exact)
  let r : Regex := ⟨"(a)|(?P<n>b)", 2, [("n", 2)], .alt (.group 1 a) (.group 2 b)⟩
  let finish : Regex.Cursor := ⟨['b'], [], 0, rfl⟩
  let m : Regex.Match := ⟨.ofText ['b'], finish, [{}, ⟨some (.ofText ['b']), some finish⟩]⟩
  have hcompile : Regex.compile "(a)|(?P<n>b)" = .ok r := by decide +kernel
  have hfind : r.find? ['b'] = some m := by decide +kernel
  refine ⟨r, m, hcompile, hfind, ?_⟩
  rw [(references_resolve.2 _ _ _ r hcompile _ _ m (.inr hfind)).1]
  decide +kernel

end

end PasteRules.Template
