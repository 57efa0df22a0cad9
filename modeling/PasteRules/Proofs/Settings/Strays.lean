import PasteRules.Proofs.Settings.FixedPoint

/-! Link entries of a saved graph that name what no entry is called. Migration drops them, unless an
identifier that it draws for an entry without one happens to be the one they name. -/
namespace PasteRules

def Json.Carries (blob : Json) (p r : String) : Prop :=
  .str p ∈ blob.idsOf "patterns" ∧ .str r ∈ blob.idsOf "replacers"

namespace Settings

variable {σ : Type} [IdSupply σ] {blob : Json}

theorem migrate_fragments (blob : Json) (s : σ) :
    (migrate blob s).1.patterns =
        (fragments Identifier.patternStem (blob.field "patterns").items s).1 ∧
      ∃ s' : σ, (migrate blob s).1.replacers =
        (fragments Identifier.replacerStem (blob.field "replacers").items s').1 := by
  rw [migrate_eq]
  exact ⟨rfl, _, rfl⟩

/-- Migration draws no identifiers for fragments that all bring one. -/
theorem migrate_fragments_of_identified (hp : blob.Identified "patterns")
    (hr : blob.Identified "replacers") (s : σ) :
    (migrate blob s).1.patterns = (ofJson blob).patterns ∧
      (migrate blob s).1.replacers = (ofJson blob).replacers := by
  obtain ⟨hpatterns, s', hreplacers⟩ := migrate_fragments blob s
  rw [fragments_eq _ hp.hasId hp.nodup] at hpatterns
  rw [fragments_eq _ hr.hasId hr.nodup] at hreplacers
  exact ⟨hpatterns, hreplacers⟩

theorem str_id_mem_idsOf {name : String} {f : Fragment} (h : blob.Identified name)
    (hf : f ∈ (blob.field name).items.map .ofJson) : .str f.id ∈ blob.idsOf name := by
  obtain ⟨v, hv, rfl⟩ := List.mem_map.mp hf
  refine List.mem_map.mpr ⟨v, hv, ?_⟩
  exact (h.hasId v hv).field_id

section

variable (h : Generation.ofJson blob = .linkGraph) (s : σ)

include h

theorem migrate_links_of_graph : ∃ s' : σ, (migrate blob s).1.links =
    (graphLinks (migrate blob s).1.patterns (migrate blob s).1.replacers
      (blob.field "links").items s').1 := by
  obtain ⟨s', hlinks⟩ := migrate_links blob s
  refine ⟨s', hlinks.trans ?_⟩
  simp only [migratedLinks, h]

theorem migrate_links_described {l : Link} (hl : l ∈ (migrate blob s).1.links) :
    ∃ entry ∈ (blob.field "links").items, entry.Describes l := by
  obtain ⟨s', hlinks⟩ := migrate_links_of_graph h s
  rw [hlinks] at hl
  exact graphLinks_described hl

/-- The pairs that migrated links join are those that entries name and migrated fragments have. -/
theorem mem_migrate_pairs {p r : String} :
    (p, r) ∈ (migrate blob s).1.links.map Link.pair ↔
      ∃ entry ∈ (blob.field "links").items, entry.Joins p r ∧
        p ∈ (migrate blob s).1.patterns.map Fragment.id ∧
        r ∈ (migrate blob s).1.replacers.map Fragment.id := by
  obtain ⟨s', hlinks⟩ := migrate_links_of_graph h s
  rw [hlinks, graphLinks_pairs, usedEntries, mem_map_usableLinks]
  simp only [List.not_mem_nil, not_false_eq_true, true_and, ends?_eq_some_iff]

omit h in
theorem migrate_links_ends {l : Link} (hl : l ∈ (migrate blob s).1.links) :
    ∃ p ∈ (migrate blob s).1.patterns, ∃ r ∈ (migrate blob s).1.replacers,
      p.id = l.patternId ∧ r.id = l.replacerId := by
  obtain ⟨hpattern, hreplacer⟩ := (migrate_consistent blob s).graph.ends l hl
  obtain ⟨p, hp, hpid⟩ := List.mem_map.mp hpattern
  obtain ⟨r, hr, hrid⟩ := List.mem_map.mp hreplacer
  exact ⟨p, hp, r, hr, hpid, hrid⟩

omit h in
/-- An end of a migrated link is brought by an entry or has the form of a drawn identifier. -/
theorem migrate_links_form {l : Link} (hl : l ∈ (migrate blob s).1.links) :
    (.str l.patternId ∈ blob.idsOf "patterns" ∨
        ∃ suffix, l.patternId = identifier Identifier.patternStem suffix) ∧
      (.str l.replacerId ∈ blob.idsOf "replacers" ∨
        ∃ suffix, l.replacerId = identifier Identifier.replacerStem suffix) := by
  obtain ⟨hpatterns, s', hreplacers⟩ := migrate_fragments blob s
  obtain ⟨p, hp, r, hr, hpid, hrid⟩ := migrate_links_ends s hl
  rw [hpatterns] at hp
  rw [hreplacers] at hr
  rw [← hpid, ← hrid]
  exact ⟨fragments_id_form hp, fragments_id_form hr⟩

/-- Entries bring the ends of all migrated links if and only if no link entry names fragments of
which one was given a drawn identifier. -/
theorem migrate_links_carried_iff :
    (∀ l ∈ (migrate blob s).1.links, blob.Carries l.patternId l.replacerId) ↔
      ∀ entry ∈ (blob.field "links").items, ∀ p ∈ (migrate blob s).1.patterns,
        ∀ r ∈ (migrate blob s).1.replacers, entry.Joins p.id r.id → blob.Carries p.id r.id := by
  constructor
  · intro hcarried entry hentry p hp r hr hjoins
    have hpair : (p.id, r.id) ∈ (migrate blob s).1.links.map Link.pair := by
      rw [mem_migrate_pairs h]
      exact ⟨entry, hentry, hjoins, List.mem_map_of_mem hp, List.mem_map_of_mem hr⟩
    obtain ⟨l, hl, he⟩ := List.mem_map.mp hpair
    obtain ⟨hpid, hrid⟩ := Prod.mk.inj he
    rw [← hpid, ← hrid]
    exact hcarried l hl
  · intro hnone l hl
    obtain ⟨entry, hentry, hdescribes⟩ := migrate_links_described h s hl
    obtain ⟨p, hp, r, hr, hpid, hrid⟩ := migrate_links_ends s hl
    have hjoins := hdescribes.joins
    rw [← hpid, ← hrid] at hjoins ⊢
    exact hnone entry hentry p hp r hr hjoins

omit h in
theorem migrate_links_carried (hps : blob.Identified "patterns")
    (hrs : blob.Identified "replacers") {l : Link} (hl : l ∈ (migrate blob s).1.links) :
    blob.Carries l.patternId l.replacerId := by
  obtain ⟨hpatterns, hreplacers⟩ := migrate_fragments_of_identified hps hrs s
  obtain ⟨p, hp, r, hr, hpid, hrid⟩ := migrate_links_ends s hl
  rw [hpatterns] at hp
  rw [hreplacers] at hr
  rw [← hpid, ← hrid]
  exact ⟨str_id_mem_idsOf hps hp, str_id_mem_idsOf hrs hr⟩

end

/-- The links of a migrated graph stem from its link entries, and an end that no entry brings has
the form of a drawn identifier. Entries bring all ends if and only if no link entry names a drawn
identifier, and so where all fragments bring identifiers of their own. -/
theorem migrate_links_stem {blob : Json} (h : Generation.ofJson blob = .linkGraph) (s : σ) :
    (∀ l ∈ (migrate blob s).1.links,
      (∃ entry ∈ (blob.field "links").items, entry.Describes l) ∧
      (.str l.patternId ∈ blob.idsOf "patterns" ∨
        ∃ suffix, l.patternId = identifier Identifier.patternStem suffix) ∧
      (.str l.replacerId ∈ blob.idsOf "replacers" ∨
        ∃ suffix, l.replacerId = identifier Identifier.replacerStem suffix)) ∧
    ((∀ l ∈ (migrate blob s).1.links, blob.Carries l.patternId l.replacerId) ↔
      ∀ entry ∈ (blob.field "links").items, ∀ p ∈ (migrate blob s).1.patterns,
        ∀ r ∈ (migrate blob s).1.replacers, entry.Joins p.id r.id → blob.Carries p.id r.id) ∧
    (blob.Identified "patterns" → blob.Identified "replacers" →
      ∀ l ∈ (migrate blob s).1.links, blob.Carries l.patternId l.replacerId) := by
  refine ⟨?_, migrate_links_carried_iff h s, ?_⟩
  · intro l hl
    exact ⟨migrate_links_described h s hl, migrate_links_form s hl⟩
  · intro hps hrs l hl
    exact migrate_links_carried s hps hrs hl

def strayLink : Json :=
  .obj [("patterns", .arr [.obj [("text", .str "a")],
      .obj [("id", .str "p-7"), ("text", .str "b")]]),
    ("replacers", .arr [.obj [("id", .str "r-9"), ("text", .str "X")]]),
    ("links", .arr [
      .obj [("id", .str "l-1"), ("patternId", .str "p-1"), ("replacerId", .str "r-9")],
      .obj [("id", .str "l-2"), ("patternId", .str "p-7"), ("replacerId", .str "r-9")]])]

/-- Where identifiers are counted from five, the link finds no pattern and is dropped. -/
theorem strayLink_links_stem :
    Generation.ofJson strayLink = .linkGraph ∧
      (migrate strayLink (Counting.mk 5)).1.links.map Link.id = ["l-2"] ∧
      ∀ l ∈ (migrate strayLink (Counting.mk 5)).1.links,
        strayLink.Carries l.patternId l.replacerId := by
  have hgraph : Generation.ofJson strayLink = .linkGraph := rfl
  have hids : (migrate strayLink (Counting.mk 5)).1.links.map Link.id = ["l-2"] := by
    decide +kernel
  have hpatterns : (migrate strayLink (Counting.mk 5)).1.patterns =
      [⟨"p-5", "a"⟩, ⟨"p-7", "b"⟩] := by decide +kernel
  have hreplacers : (migrate strayLink (Counting.mk 5)).1.replacers = [⟨"r-9", "X"⟩] := by
    decide +kernel
  have hentries : (strayLink.field "links").items =
      [.obj [("id", .str "l-1"), ("patternId", .str "p-1"), ("replacerId", .str "r-9")],
        .obj [("id", .str "l-2"), ("patternId", .str "p-7"), ("replacerId", .str "r-9")]] := rfl
  obtain ⟨-, hexact, -⟩ := migrate_links_stem hgraph (Counting.mk 5)
  refine ⟨hgraph, hids, hexact.mpr ?_⟩
  rw [hpatterns, hreplacers, hentries]
  simp [Json.Joins, Json.Carries, Json.idsOf, Json.field, Json.field?, Json.items, strayLink,
    List.lookup_cons]

/-- Where they are counted from one, the pattern is given the identifier that the link names. -/
theorem strayLink_not_dropped :
    ¬ ∀ l ∈ (migrate strayLink (Counting.mk 1)).1.links,
      strayLink.Carries l.patternId l.replacerId := by
  intro hcarried
  have hlink : ⟨"l-1", "p-1", "r-9", true, ""⟩ ∈ (migrate strayLink (Counting.mk 1)).1.links := by
    decide +kernel
  obtain ⟨hp, -⟩ := hcarried _ hlink
  have hids : strayLink.idsOf "patterns" = [.null, .str "p-7"] := rfl
  simp [hids] at hp

end Settings
end PasteRules
