import PasteRules.Settings.Migration

/-! Links by place for settings as they stand in a file, where an identifier may be any value. -/
namespace PasteRules

namespace Json

/-- The number that a value is; a flag counts as zero or one. -/
def number? : Json → Option (Int ⊕ Number.Binary64)
  | .bool b => some (.inl (if b then 1 else 0))
  | .int n => some (.inl n)
  | .real x => some (.inr x)
  | _ => none

/-- Whether two values identify the same thing: equal strings, equal numbers of any kind, or nothing
twice. -/
def sameIdentity (a b : Json) : Bool :=
  match a.number?, b.number? with
  | some (.inl m), some (.inl n) => m == n
  | some (.inl m), some (.inr y) => y.compareInt? m == some .eq
  | some (.inr x), some (.inl n) => x.compareInt? n == some .eq
  | some (.inr x), some (.inr y) => x.sameValue y
  | none, none =>
    match a, b with
    | .null, .null => true
    | .str s, .str t => s == t
    | _, _ => false
  | _, _ => false

def length? : Json → Except Fault Nat
  | .arr items => .ok items.length
  | .str s => .ok s.length
  | .obj fields => .ok fields.length
  | _ => .error .noLength

def idAt (value : Json) (i : Nat) : Except Fault Json :=
  match value with
  | .arr items =>
    match items[i]? with
    | some (.obj fields) =>
      match fields.lookup "id" with
      | some id => .ok id
      | none => .error .missingEntry
    | _ => .error .notARecord
  | .obj _ => .error .missingEntry
  | _ => .error .notARecord

/-- Lists and objects identify nothing. -/
def asIdentity (value : Json) : Except Fault Json :=
  match value with
  | .arr _ | .obj _ => .error .notAnIdentity
  | v => .ok v

/-- Links by place for settings that have both kinds of entries but no link. -/
def withDefaultLinks {σ : Type} [IdSupply σ] (blob : Json) (s : σ) : Except Fault (Json × σ) := do
  match blob with
  | .obj fields =>
    let patterns := blob.field "patterns"
    let replacers := blob.field "replacers"
    if (blob.field "links").isTruthy || !patterns.isTruthy || !replacers.isTruthy then
      return (blob, s)
    let count := min (← patterns.length?) (← replacers.length?)
    let pairs ← (List.range count).mapM fun i => do
      let p ← patterns.idAt i
      let r ← replacers.idAt i
      return (i, ← p.asIdentity, ← r.asIdentity)
    let pairs := Settings.distinctPairs sameIdentity [] pairs
    let (ids, s) := Settings.linkIds pairs.length s
    let link (id : String) (pair : Nat × Json × Json) : Json :=
      .obj [("id", .str id), ("patternId", pair.2.1), ("replacerId", pair.2.2),
        ("enabled", .bool true), ("comment", .str "")]
    return (.obj (setField "links" (.arr (List.zipWith link ids pairs)) fields), s)
  | _ => throw .notAnObject

end Json
end PasteRules
