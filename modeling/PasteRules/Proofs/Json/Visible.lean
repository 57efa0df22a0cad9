import PasteRules.CommandLine.Directory
import PasteRules.Proofs.Json.RoundTrip

/-! What is written holds no control character but line feeds, so reading line ends of other systems
as line feeds changes nothing in it. -/
namespace PasteRules.Json

def Visible (cs : List Char) : Prop := ∀ c ∈ cs, c = '\n' ∨ 0x20 ≤ c.toNat

section

variable {cs ds : List Char} {level : Nat}

theorem Visible.append (h : Visible cs) (h' : Visible ds) : Visible (cs ++ ds) :=
  List.forall_mem_append.mpr ⟨h, h'⟩

theorem Visible.cons {c : Char} (hc : 0x20 ≤ c.toNat) (h : Visible cs) : Visible (c :: cs) :=
  List.forall_mem_cons.mpr ⟨.inr hc, h⟩

theorem visible_nil : Visible [] := nofun

theorem visible_digits (h : ∀ c ∈ cs, c.isDigit = true) : Visible cs := by
  intro c hc
  have hdigit := h c hc
  rw [Char.isDigit, Bool.and_eq_true, decide_eq_true_eq] at hdigit
  have hzero : 48 ≤ c.toNat := hdigit.1
  exact .inr (by omega)

theorem visible_lineBreak : Visible (lineBreak level) := by
  intro c hc
  rcases List.mem_cons.mp hc with rfl | hc
  · exact .inl rfl
  · rw [List.eq_of_mem_replicate hc]
    exact .inr (by decide)

theorem visible_of_all (h : (cs.all fun c => 0x20 ≤ c.toNat) = true) : Visible cs := by
  intro c hc
  have hvisible := List.all_eq_true.mp h c hc
  exact .inr (of_decide_eq_true hvisible)

theorem hexPadded_all : ∀ n < 0x20, ((Text.hexPadded 4 n).all fun c => 0x20 ≤ c.toNat) = true := by
  decide +kernel

theorem visible_pair {c d : Char} (hc : 0x20 ≤ c.toNat) (hd : 0x20 ≤ d.toNat) : Visible [c, d] :=
  visible_nil.cons hd |>.cons hc

theorem visible_writtenChar (c : Char) : Visible (writtenChar c) := by
  rcases writtenChar_cases c with ⟨x, hwritten, -, -, hx⟩ | ⟨hwritten, hcode⟩ |
    ⟨hwritten, -, -, hplain⟩
  · rw [hwritten]
    exact visible_pair (by decide) hx
  · have hdigits : Visible (Text.hexPadded 4 c.toNat) :=
      visible_of_all (hexPadded_all c.toNat hcode)
    rw [hwritten]
    exact (hdigits.cons (by decide)).cons (by decide)
  · rw [hwritten]
    exact visible_nil.cons hplain

theorem visible_writtenString (s : String) : Visible (writtenString s) := by
  have hbody : Visible (s.toList.flatMap writtenChar) := by
    intro c hc
    obtain ⟨d, -, hd⟩ := List.mem_flatMap.mp hc
    exact visible_writtenChar d c hd
  exact (hbody.cons (by decide)).append (visible_nil.cons (by decide))

theorem visible_writtenItems {items : List Json} (h : ∀ v ∈ items, Visible (written level v)) :
    Visible (writtenItems level items) := by
  induction items with
  | nil =>
    rw [writtenItems]
    exact visible_nil
  | cons v items ih =>
    obtain ⟨hv, hitems⟩ := List.forall_mem_cons.mp h
    rw [writtenItems]
    exact ((visible_lineBreak.cons (by decide)).append hv).append (ih hitems)

theorem visible_field {c : Char} (hc : 0x20 ≤ c.toNat) (name : String) {v : Json}
    (h : Visible (written level v)) :
    Visible (c :: lineBreak level ++ writtenString name ++ ':' :: ' ' :: written level v) :=
  ((visible_lineBreak.cons hc).append (visible_writtenString name)).append
    ((h.cons (by decide)).cons (by decide))

theorem visible_writtenFields {fields : List (String × Json)}
    (h : ∀ f ∈ fields, Visible (written level f.2)) : Visible (writtenFields level fields) := by
  induction fields with
  | nil =>
    rw [writtenFields]
    exact visible_nil
  | cons f fields ih =>
    obtain ⟨name, v⟩ := f
    obtain ⟨hv, hfields⟩ := List.forall_mem_cons.mp h
    rw [writtenFields]
    exact (visible_field (by decide) name hv).append (ih hfields)

theorem visible_int (n : Int) : Visible (toString n).toList := by
  have hdigits := visible_digits (isDigit_of_mem n.natAbs)
  rw [toString_int]
  split
  · exact hdigits.cons (by decide)
  · exact hdigits

/-- No control character but the line feed is written. -/
theorem Plain.visible {v : Json} (h : Plain v) (level : Nat) : Visible (written level v) := by
  induction h generalizing level with
  | null =>
    rw [written]
    exact visible_of_all (by decide)
  | bool b =>
    rw [written]
    cases b with
    | true => exact visible_of_all (by decide)
    | false => exact visible_of_all (by decide)
  | @int n h =>
    rw [written]
    exact visible_int n
  | str s =>
    rw [written]
    exact visible_writtenString s
  | @arr items h ih =>
    cases items with
    | nil =>
      rw [written]
      exact visible_pair (by decide) (by decide)
    | cons v items =>
      obtain ⟨hv, hitems⟩ := List.forall_mem_cons.mp ih
      have hrest := visible_writtenItems fun x hx => hitems x hx (level + 1)
      rw [written]
      exact (((visible_lineBreak.cons (by decide)).append (hv (level + 1))).append hrest
        |>.append visible_lineBreak).append (visible_nil.cons (by decide))
  | @obj fields names h ih =>
    cases fields with
    | nil =>
      rw [written]
      exact visible_pair (by decide) (by decide)
    | cons f fields =>
      obtain ⟨name, v⟩ := f
      obtain ⟨hv, hfields⟩ := List.forall_mem_cons.mp ih
      have hrest := visible_writtenFields fun f hf => hfields f hf (level + 1)
      rw [written]
      exact (((visible_field (by decide) name (hv (level + 1))).append hrest).append
        visible_lineBreak).append (visible_nil.cons (by decide))

end

end PasteRules.Json

namespace PasteRules.CommandLine

theorem plainLines_eq_self {cs : List Char} (h : '\r' ∉ cs) : plainLines cs = cs := by
  induction cs with
  | nil => rfl
  | cons c cs ih =>
    obtain ⟨hc, hcs⟩ : '\r' ≠ c ∧ '\r' ∉ cs := by simpa [not_or] using h
    rw [plainLines, ih hcs]
    · exact fun rest hreturn _ => hc hreturn.symm
    · exact fun hreturn => hc hreturn.symm

theorem plainLines_saved {v : Json} (h : v.Plain) : plainLines v.saved.toList = v.saved.toList := by
  apply plainLines_eq_self
  intro hmem
  have hvisible : Json.Visible v.saved.toList := by
    rw [Json.saved, String.toList_ofList]
    exact (h.visible 0).append fun c hc => .inl (List.mem_singleton.mp hc)
  rcases hvisible _ hmem with hreturn | hreturn
  · cases hreturn
  · exact absurd hreturn (by decide)

end PasteRules.CommandLine
