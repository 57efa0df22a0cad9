import PasteRules.Settings.Basic
import PasteRules.Settings.Generation

/-! Bringing settings of any form into the present one. Nothing is refused: what is usable is kept
in its order, and the rest is mended or dropped. -/
namespace PasteRules.Settings

variable {σ : Type}

/-- The identifier that an entry brings along, if it is a string and not empty. -/
def ownId? (entry : Json) : Option String :=
  match entry.field "id" with
  | .str id => if id = "" then none else some id
  | _ => none

/-- Leaves each identifier to the first that brings it. -/
def keepFirst (taken : List String) : List (Option String) → List (Option String)
  | [] => []
  | none :: rest => none :: keepFirst taken rest
  | some id :: rest =>
    if id ∈ taken then none :: keepFirst taken rest else some id :: keepFirst (id :: taken) rest

/-- Draws an identifier for each place that has none, avoiding the taken ones and those drawn
before. -/
def fillIds [IdSupply σ] (stem : String) (taken : List String) :
    List (Option String) → σ → List String × σ
  | [], s => ([], s)
  | some id :: rest, s =>
    let (ids, s) := fillIds stem taken rest s
    (id :: ids, s)
  | none :: rest, s =>
    let (id, s) := IdSupply.draw stem taken s
    let (ids, s) := fillIds stem (id :: taken) rest s
    (id :: ids, s)

/-- Identifiers for entries: their own where they are the first to bring it, else fresh ones, which
are drawn last so that none is taken from a later entry. -/
def assignIds [IdSupply σ] (stem : String) (own : List (Option String)) (s : σ) : List String × σ :=
  let kept := keepFirst [] own
  fillIds stem (kept.filterMap id) kept s

def fragments [IdSupply σ] (stem : String) (entries : List Json) (s : σ) : List Fragment × σ :=
  let (ids, s) := assignIds stem (entries.map ownId?) s
  (List.zipWith (fun id entry => ⟨id, entry.entryText⟩) ids entries, s)

/-- Numbered pairs, without those that come a second time. -/
def distinctPairs {α : Type} (same : α → α → Bool) (seen : List (α × α)) :
    List (Nat × α × α) → List (Nat × α × α)
  | [] => []
  | (i, p, r) :: rest =>
    if seen.any (fun q => same q.1 p && same q.2 r) then distinctPairs same seen rest
    else (i, p, r) :: distinctPairs same ((p, r) :: seen) rest

/-- Two lists paired by place, the places counted from zero. -/
def alignedPairs {α : Type} (patterns replacers : List α) : List (Nat × α × α) :=
  (patterns.zip replacers).mapIdx fun i pair => (i, pair)

def linkIds [IdSupply σ] (count : Nat) (s : σ) : List String × σ :=
  fillIds Identifier.linkStem [] (List.replicate count none) s

/-- Links between the fragments at the same places, with the flags and comments found there. -/
def alignedLinks [IdSupply σ] (patterns replacers : List Fragment) (flags comments : List Json)
    (s : σ) : List Link × σ :=
  let pairs := distinctPairs (· == ·) []
    (alignedPairs (patterns.map Fragment.id) (replacers.map Fragment.id))
  let (ids, s) := linkIds pairs.length s
  let link (id : String) (pair : Nat × String × String) : Link :=
    { id, patternId := pair.2.1, replacerId := pair.2.2
      enabled := (flags[pair.1]?.map (·.flagOr true)).getD true
      comment := (comments[pair.1]?.map (·.stringOr "")).getD "" }
  (List.zipWith link ids pairs, s)

/-- The ends of a link entry, if it is an object that names two present fragments. -/
def ends? (patterns replacers : List Fragment) (entry : Json) : Option (String × String) := do
  let p ← (entry.field "patternId").string?
  let r ← (entry.field "replacerId").string?
  if Fragment.has patterns p && Fragment.has replacers r then return (p, r) else none

/-- The entries whose ends are there, without those that join a pair a second time. -/
def usableLinks (patterns replacers : List Fragment) (seen : List (String × String)) :
    List Json → List (Json × String × String)
  | [] => []
  | entry :: rest =>
    match ends? patterns replacers entry with
    | none => usableLinks patterns replacers seen rest
    | some pair =>
      if pair ∈ seen then usableLinks patterns replacers seen rest
      else (entry, pair) :: usableLinks patterns replacers (pair :: seen) rest

def graphLinks [IdSupply σ] (patterns replacers : List Fragment) (entries : List Json) (s : σ) :
    List Link × σ :=
  let kept := usableLinks patterns replacers [] entries
  let (ids, s) := assignIds Identifier.linkStem (kept.map (ownId? ·.1)) s
  let link (id : String) (use : Json × String × String) : Link :=
    { id, patternId := use.2.1, replacerId := use.2.2
      enabled := (use.1.field "enabled").flagOr true
      comment := (use.1.field "comment").stringOr "" }
  (List.zipWith link ids kept, s)

/-- Settings of any form in the present one. -/
def migrate [IdSupply σ] (blob : Json) (s : σ) : Settings × σ :=
  let (patterns, s) := fragments Identifier.patternStem (blob.field "patterns").items s
  let (replacers, s) := fragments Identifier.replacerStem (blob.field "replacers").items s
  let (links, s) := match Generation.ofJson blob with
    | .linkGraph => graphLinks patterns replacers (blob.field "links").items s
    | _ =>
      alignedLinks patterns replacers (blob.field "enabled").items (blob.field "comments").items s
  let active := (blob.field "active").flagOr true
  let debugMode := (blob.field "debugMode").flagOr false
  (⟨patterns, replacers, links, active, debugMode⟩, s)

end PasteRules.Settings
