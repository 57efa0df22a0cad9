import PasteRules.Proofs.Rules.Gather
import PasteRules.Proofs.Session.Cache
import PasteRules.Proofs.Settings.Places
import PasteRules.Proofs.Store.Runs

/-! Sessions of settings in the older forms. The entries and the flag at a place make the rule of
that place, and a text is transformed by the first place that applies to it, whatever identifiers
are drawn. -/
namespace PasteRules

/-- What rules see of one place of settings that pair their entries by place. -/
structure Place where
  pattern : String
  template : String
  enabled : Bool
  deriving DecidableEq, Repr

def Json.places (blob : Json) : List Place :=
  ((blob.field "patterns").items.zip (blob.field "replacers").items).mapIdx fun i entries =>
    { pattern := entries.1.entryText
      template := entries.2.entryText
      enabled := ((blob.field "enabled").items[i]?.bind Json.flag?).getD true }

namespace Place

def rule? (p : Place) : Option Rule :=
  if p.enabled then
    match compilePattern p.pattern with
    | .ok (.ok regex) => some (.make "" regex p.template)
    | _ => none
  else none

/-- What makes compiling the pattern of a place fail without a message, if the place is on. -/
def fault? (p : Place) : Option Fault :=
  if p.enabled then
    match compilePattern p.pattern with
    | .error fault => some fault
    | .ok _ => none
  else none

def appliesTo (p : Place) (text : String) : Bool := p.rule?.any (·.applies text)

def apply (p : Place) (text : String) : String := (p.rule?.map (·.apply text)).getD text

def transform (places : List Place) (text : String) : String :=
  match places.find? (·.appliesTo text) with
  | some p => p.apply text
  | none => text

theorem ruleFor_eq (p : Place) :
    ruleFor p.pattern p.template p.enabled = p.fault?.elim (.ok p.rule?) .error := by
  unfold ruleFor fault? rule?
  cases p.enabled with
  | false => rfl
  | true =>
    cases compilePattern p.pattern with
    | error fault => rfl
    | ok result => cases result <;> rfl

theorem transform_filterMap_rule? (places : List Place) {text : String} (h : text ≠ "") :
    Rule.transform (places.filterMap rule?) (some text) = transform places text := by
  have hfind : (places.filterMap rule?).find? (·.applies text) =
      (places.find? (·.appliesTo text)).bind rule? := List.find?_filterMap ..
  unfold Rule.transform Rule.winner? transform
  simp only [h, if_false, hfind]
  cases hp : places.find? (·.appliesTo text) with
  | none => rfl
  | some p =>
    have happlies : p.appliesTo text = true :=
      List.find?_some (p := fun p : Place => p.appliesTo text) hp
    obtain ⟨r, hr, -⟩ := (Option.any_eq_true ..).mp happlies
    simp [apply, hr]

end Place

/-- The store holds what settings pair by place: the texts of the entries in their order, and a link
at each place that has both a pattern and a replacer, with the flag and the comment found there. -/
structure Store.PairedByPlace {σ : Type} (s : Store σ) (blob : Json) : Prop where
  sound : s.Sound
  patterns : s.patterns.map Fragment.text = (blob.field "patterns").items.map Json.entryText
  replacers : s.replacers.map Fragment.text = (blob.field "replacers").items.map Json.entryText
  count : s.links.length =
    min (blob.field "patterns").items.length (blob.field "replacers").items.length
  joined : ∀ (i : Nat) (p r : Fragment), s.patterns[i]? = some p → s.replacers[i]? = some r →
    ∃ id, s.links[i]? = some (Link.mk id p.id r.id
      (((blob.field "enabled").items[i]?.bind Json.flag?).getD true)
      (((blob.field "comments").items[i]?.bind Json.string?).getD ""))

namespace Store.PairedByPlace

variable {σ : Type} {s : Store σ} {blob : Json} (h : s.PairedByPlace blob)

include h

/-- Each link has the rule of its place. -/
theorem forall₂_rule : List.Forall₂
    (fun l (p : Place) => linkRule s.patterns s.replacers l =
      ruleFor p.pattern p.template p.enabled) s.links blob.places := by
  have hcount := h.count
  have hp := congrArg List.length h.patterns
  have hr := congrArg List.length h.replacers
  simp only [List.length_map] at hp hr
  refine List.forall₂_iff_get.mpr ⟨by simp [Json.places, hcount], fun i hi hi' => ?_⟩
  have hip : i < s.patterns.length := by omega
  have hir : i < s.replacers.length := by omega
  obtain ⟨id, hl⟩ := h.joined i _ _ (List.getElem?_eq_getElem hip) (List.getElem?_eq_getElem hir)
  have hlink := List.getElem_eq_iff hi |>.mpr hl
  have hptext := List.getElem_of_eq h.patterns (i := i) (by simpa using hip)
  have hrtext := List.getElem_of_eq h.replacers (i := i) (by simpa using hir)
  simp only [List.getElem_map] at hptext hrtext
  rw [List.get_eq_getElem, hlink]
  simp only [linkRule, Fragment.textOf?_of_mem h.sound.patternIds (List.getElem_mem hip),
    Fragment.textOf?_of_mem h.sound.replacerIds (List.getElem_mem hir), hptext, hrtext]
  simp [Json.places]

/-- The rules are those of the places, unless compiling one of them fails. -/
theorem rules_unlinked_eq :
    s.rules.map (List.map Rule.unlinked) =
      (blob.places.findSome? Place.fault?).elim (.ok (blob.places.filterMap Place.rule?))
        .error := by
  rw [rules_unlinked, gather_of_forall₂ h.forall₂_rule]
  exact gather_eq_elim Place.ruleFor_eq _

end Store.PairedByPlace

namespace Session

variable {σ : Type} [IdSupply σ]

theorem load_pairedByPlace {saved : Json}
    (h : Generation.ofJson (Settings.overBuiltIn saved) ≠ .linkGraph) (ids : σ) :
    (load saved ids).store.PairedByPlace (Settings.overBuiltIn saved) := by
  have hmigrated := Settings.migrate_consistent (Settings.overBuiltIn saved) ids
  obtain ⟨hpatterns, hreplacers⟩ := Settings.migrate_texts (Settings.overBuiltIn saved) ids
  obtain ⟨ids', hlinks⟩ := Settings.migrate_links_of_older h ids
  have hp := congrArg List.length hpatterns
  have hr := congrArg List.length hreplacers
  simp only [List.length_map] at hp hr
  have hstore : (load saved ids).store =
      (Settings.load saved ids).1.toStore (Settings.load saved ids).2 := rfl
  rw [hstore, Settings.load_of_older h]
  exact {
    sound := hmigrated.graph
    patterns := hpatterns
    replacers := hreplacers
    count := by
      have hcount := congrArg List.length hlinks
      rw [Settings.alignedLinks_length _ _ ids' hmigrated.graph.patternIds, hp, hr] at hcount
      exact hcount
    joined := fun i p r hpi hri => by
      obtain ⟨id, hlink⟩ :=
        Settings.alignedLinks_getElem? _ _ ids' hmigrated.graph.patternIds hpi hri
      exact ⟨id, (congrArg (·[i]?) hlinks).trans hlink⟩ }

/-- Such a session transforms a text by the first place that applies to it, and none at all if a
place has a fault. -/
theorem next_transform_of_pairedByPlace {s : Session σ} {blob : Json} (hs : s.Coherent)
    (h : s.store.PairedByPlace blob) {text : String} (ht : text ≠ "") :
    (s.next (.transform (some text))).1 =
      match blob.places.findSome? Place.fault? with
      | some fault => .error fault
      | none => .ok (.text (Place.transform blob.places text)) := by
  rw [hs.next_transform, ← Rule.map_transform_unlinked, h.rules_unlinked_eq]
  cases blob.places.findSome? Place.fault? with
  | some fault => rfl
  | none =>
    have htransform := Place.transform_filterMap_rule? blob.places ht
    exact congrArg (fun result => Except.ok (Reply.text result)) htransform

/-- Settings of an older form are loaded place by place. A text is transformed by the first place
that is on, whose pattern compiles and which matches, unless compiling the pattern of a place that
is on fails without a message: then no text is transformed. -/
theorem load_by_place {saved : Json}
    (h : Generation.ofJson (Settings.overBuiltIn saved) ≠ .linkGraph) (ids : σ) :
    (load saved ids).store.PairedByPlace (Settings.overBuiltIn saved) ∧
      ∀ text : String, text ≠ "" →
        ((load saved ids).next (.transform (some text))).1 =
          match (Settings.overBuiltIn saved).places.findSome? Place.fault? with
          | some fault => .error fault
          | none => .ok (.text (Place.transform (Settings.overBuiltIn saved).places text)) := by
  have hpaired := load_pairedByPlace h ids
  have hcoherent : (load saved ids).Coherent := .of_none rfl
  exact ⟨hpaired, fun text ht => next_transform_of_pairedByPlace hcoherent hpaired ht⟩

/-- Entries of many kinds, a place that is off, and a pattern beyond the last replacer. -/
def unevenPlaces : Json :=
  .obj [("patterns", .arr [.str "b", .obj [("id", .str "p-1"), ("text", .str "a+")], .int 7,
      .obj [("id", .str "p-1")]]),
    ("replacers", .arr [.str "X", .str "<$&>", .null]), ("enabled", .arr [.bool false, .int 0])]

theorem unevenPlaces_load_by_place :
    Generation.ofJson (Settings.overBuiltIn unevenPlaces) ≠ .linkGraph ∧ "baab7" ≠ "" ∧
      (load unevenPlaces (Counting.mk 1)).store.PairedByPlace (Settings.overBuiltIn unevenPlaces) ∧
      ((load unevenPlaces (Counting.mk 1)).next (.transform (some "baab7"))).1 =
        .ok (.text "b<aa>b7") := by
  have hform : Generation.ofJson (Settings.overBuiltIn unevenPlaces) ≠ .linkGraph := by decide
  have ht : "baab7" ≠ "" := by decide
  obtain ⟨hpaired, htransform⟩ := load_by_place hform (Counting.mk 1)
  have hfault :
      (Settings.overBuiltIn unevenPlaces).places.findSome? Place.fault? = none := by decide +kernel
  have hresult :
      Place.transform (Settings.overBuiltIn unevenPlaces).places "baab7" = "b<aa>b7" := by
    decide +kernel
  refine ⟨hform, ht, hpaired, ?_⟩
  rw [htransform _ ht, hfault, hresult]

def contradictoryPlace : Json :=
  .obj [("patterns", .arr [.str "(?a)(?u)b", .str "a"]), ("replacers", .arr [.str "X", .str "Y"])]

/-- The first pattern does not compile and the second matches, and yet no text is transformed. -/
theorem contradictoryPlace_not_passed_over :
    Generation.ofJson (Settings.overBuiltIn contradictoryPlace) ≠ .linkGraph ∧
      Place.transform (Settings.overBuiltIn contradictoryPlace).places "a" = "Y" ∧
      ((load contradictoryPlace (Counting.mk 1)).next (.transform (some "a"))).1 =
        .error .alphabetsContradict := by
  have hform : Generation.ofJson (Settings.overBuiltIn contradictoryPlace) ≠ .linkGraph := by decide
  have hfault : (Settings.overBuiltIn contradictoryPlace).places.findSome? Place.fault? =
      some .alphabetsContradict := by decide +kernel
  refine ⟨hform, by decide +kernel, ?_⟩
  rw [next_transform_of_pairedByPlace (.of_none rfl) (load_pairedByPlace hform _) (by decide),
    hfault]

end Session
end PasteRules
