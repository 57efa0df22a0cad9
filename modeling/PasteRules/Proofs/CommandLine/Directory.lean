import Mathlib.Data.List.Basic
import PasteRules.CommandLine.Directory

/-! Files that are written. The name of a file that has been written leads to it, so the text that
it was given is read back, and writing that text again changes nothing. -/
namespace PasteRules.CommandLine

theorem isPrefixOf_iff (p s : String) : p.isPrefixOf s = true ↔ p.toList <+: s.toList := by
  unfold String.isPrefixOf
  exact String.startsWith_string_iff

theorem not_isPrefixOf_self (path : String) : (path ++ "/").isPrefixOf path = false := by
  rw [Bool.eq_false_iff]
  intro h
  have hle := ((isPrefixOf_iff _ _).mp h).length_le
  rw [String.toList_append, List.length_append] at hle
  have hslash : "/".toList.length = 1 := by decide
  omega

/-- The path of a file at a place: of the one that is there, or of one that can be made. -/
def Place.path? : Place → Option String
  | .file path _ => some path
  | .free path => some path
  | _ => none

namespace Directory

variable {d : Directory} {path s : String}

theorem paths_put : (d.put path s).files.map Prod.fst =
    if (d.files.lookup path).isSome then d.files.map Prod.fst
    else d.files.map Prod.fst ++ [path] := by
  unfold put
  split
  · rw [List.map_map]
    refine List.map_congr_left fun f _ => ?_
    by_cases hf : f.1 = path
    · simp [hf]
    · simp [hf]
  · simp

theorem folders_put : (d.put path s).folders = d.folders := by
  unfold put
  split <;> rfl

/-- A file that is new makes folders of the paths that lead to it, and of no others. -/
theorem hasFolder_put (q : String) : (d.put path s).hasFolder q =
    (d.hasFolder q || (!(d.files.lookup path).isSome && (q ++ "/").isPrefixOf path)) := by
  unfold hasFolder
  rw [folders_put, paths_put]
  cases (d.files.lookup path).isSome with
  | true => simp
  | false => simp [Bool.or_assoc]

theorem hasFolder_put_self (h : d.hasFolder path = false) :
    (d.put path s).hasFolder path = false := by
  rw [hasFolder_put, h, not_isPrefixOf_self, Bool.and_false, Bool.or_false]

theorem lookup_replaced {files : List (String × Content)} (c : Content)
    (h : (files.lookup path).isSome = true) :
    (files.map fun f => if f.1 = path then (path, c) else f).lookup path = some c := by
  induction files with
  | nil => cases h
  | cons f files ih =>
    by_cases hf : f.1 = path
    · simp [hf]
    · have hne : (path == f.1) = false := by simpa using Ne.symm hf
      rw [List.map_cons, if_neg hf, List.lookup_cons, hne]
      rw [List.lookup_cons, hne] at h
      exact ih h

theorem lookup_put : (d.put path s).files.lookup path = some (.text s) := by
  unfold put
  split
  · next h => exact lookup_replaced _ h
  · next h =>
    rw [Option.not_isSome_iff_eq_none] at h
    simp [List.lookup_append, h]

/-- No other file is touched. -/
theorem others_put : (d.put path s).files.filter (·.1 ≠ path) = d.files.filter (·.1 ≠ path) := by
  unfold put
  split
  · simp only [List.filter_map]
    have hkept : (fun f : String × Content => decide (f.1 ≠ path)) ∘
        (fun f => if f.1 = path then (path, Content.text s) else f) =
        fun f => decide (f.1 ≠ path) := by
      funext f
      by_cases hf : f.1 = path
      · simp [hf]
      · simp [hf]
    rw [hkept]
    refine (List.map_congr_left fun f hf => ?_).trans (List.map_id _)
    exact if_neg (by simpa using (List.mem_filter.mp hf).2)
  · simp

theorem eq_of_mem_put {f : String × Content} (hf : f ∈ (d.put path s).files) (hpath : f.1 = path) :
    f = (path, .text s) := by
  unfold put at hf
  split at hf
  · obtain ⟨g, -, rfl⟩ := List.mem_map.mp hf
    by_cases hg : g.1 = path
    · exact if_pos hg
    · rw [if_neg hg] at hpath
      exact absurd hpath hg
  · next h =>
    rw [Option.not_isSome_iff_eq_none, List.lookup_eq_none_iff] at h
    rcases List.mem_append.mp hf with hold | hnew
    · have hne := h f hold
      simp [hpath] at hne
    · exact List.mem_singleton.mp hnew

theorem put_put : (d.put path s).put path s = d.put path s := by
  have hsame : (d.put path s).files.map (fun f => if f.1 = path then (path, .text s) else f) =
      (d.put path s).files := by
    have hid : ∀ f ∈ (d.put path s).files,
        (if f.1 = path then (path, .text s) else f) = id f := by
      intro f hf
      by_cases hpath : f.1 = path
      · rw [if_pos hpath]
        exact (eq_of_mem_put hf hpath).symm
      · exact if_neg hpath
    rw [List.map_congr_left hid, List.map_id]
  have hput : (d.put path s).put path s =
      { d.put path s with files := (d.put path s).files.map fun f =>
          if f.1 = path then (path, .text s) else f } := by
    rw [put, if_pos (by rw [lookup_put]; rfl)]
  rw [hput, hsame]

/-- The parts that lead to a file lead to it once it has been written. -/
theorem follow_put {folder : List String} {parts : List (List Char)}
    (h : (d.follow folder parts).path? = some path) :
    (d.put path s).follow folder parts = .file path (.text s) := by
  induction parts generalizing folder with
  | nil => cases h
  | cons part rest ih =>
    unfold follow at h ⊢
    by_cases hhere : staysHere part = true
    · rw [if_pos hhere] at h ⊢
      exact ih h
    rw [if_neg hhere] at h ⊢
    by_cases hup : part = ['.', '.']
    · rw [if_pos hup] at h ⊢
      revert h
      cases folder.reverse with
      | nil =>
        intro h
        cases h
      | cons last up => exact ih
    rw [if_neg hup] at h ⊢
    dsimp only at h ⊢
    by_cases hlong : partLimit < (String.ofList part).utf8ByteSize
    · rw [if_pos hlong] at h
      cases h
    rw [if_neg hlong] at h ⊢
    by_cases hfolder : d.hasFolder (join folder (String.ofList part)) = true
    · rw [if_pos hfolder] at h
      rw [if_pos (by rw [hasFolder_put, hfolder]; rfl)]
      exact ih h
    rw [if_neg hfolder] at h
    -- Only the last part can be that of a file, and writing the file makes no folder of it.
    obtain ⟨rfl, hpath⟩ : rest = [] ∧ join folder (String.ofList part) = path := by
      generalize d.files.lookup (join folder (String.ofList part)) = found at h
      cases rest with
      | nil => cases found <;> exact ⟨rfl, Option.some.inj h⟩
      | cons next rest => cases found <;> cases h
    rw [hpath, Bool.not_eq_true] at hfolder
    rw [hpath, hasFolder_put_self hfolder, lookup_put]
    rfl

theorem find_put {name : String} (h : (d.find name).path? = some path) :
    (d.put path s).find name = .file path (.text s) := by
  unfold find at h ⊢
  by_cases hlong : pathLimit < name.utf8ByteSize
  · rw [if_pos hlong] at h
    cases h
  rw [if_neg hlong] at h ⊢
  split at h
  · cases h
  · split at h
    · cases h
    · cases h
  · exact follow_put h

theorem write?_eq (name : String) :
    d.write? name s = (d.find name).path?.map fun path => d.put path s := by
  unfold write?
  cases d.find name <;> rfl

/-- What has been written is read back, and is what writing it again leaves. -/
theorem read_write {name : String} {d' : Directory} (h : d.write? name s = some d') :
    d'.read name = .text s ∧ d'.write? name s = some d' := by
  rw [write?_eq, Option.map_eq_some_iff] at h
  obtain ⟨path, hpath, rfl⟩ := h
  have hfind := find_put (s := s) hpath
  constructor
  · rw [read, hfind]
  · rw [write?_eq, hfind]
    exact congrArg some put_put

end Directory
end PasteRules.CommandLine
