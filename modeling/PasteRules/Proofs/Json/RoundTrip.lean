import Mathlib.Data.List.Nodup
import PasteRules.Proofs.Json.Literal

/-! Values read back as they were written. Fractional numbers are left out, and so are integers of
more digits than the reader takes. -/
namespace PasteRules.Json

/-- A value without fractional numbers, whose integers have no more digits than are read and whose
objects have each name once. -/
inductive Plain : Json → Prop
  | null : Plain .null
  | bool (b : Bool) : Plain (.bool b)
  | int {n : Int} (h : digitCount n ≤ digitLimit) : Plain (.int n)
  | str (s : String) : Plain (.str s)
  | arr {items : List Json} (h : ∀ v ∈ items, Plain v) : Plain (.arr items)
  | obj {fields : List (String × Json)} (names : (fields.map Prod.fst).Nodup)
      (h : ∀ f ∈ fields, Plain f.2) : Plain (.obj fields)

/-- Wherever the value is written, it is what is read there, with a step for each of its characters
and one more. -/
def ReadsBack (v : Json) : Prop :=
  ∀ level n rest, EndsValue rest → (written level v).length ≤ n →
    readValue (n + 1) (written level v ++ rest) = .ok (v, rest)

section

variable {rest : List Char}

theorem readWord_null : readWord ("null".toList ++ rest) = some (.null, rest) := by
  simp only [readWord, List.findSome?_cons, afterWord?_append]
  rfl

theorem readWord_bool (b : Bool) :
    readWord ((if b then "true" else "false").toList ++ rest) = some (.bool b, rest) := by
  cases b with
  | true =>
    have hnull : afterWord? "null" ("true".toList ++ rest) = none := by simp [afterWord?]
    simp only [readWord, List.findSome?_cons, if_pos, hnull, afterWord?_append]
    rfl
  | false =>
    have hnull : afterWord? "null" ("false".toList ++ rest) = none := by simp [afterWord?]
    have htrue : afterWord? "true" ("false".toList ++ rest) = none := by simp [afterWord?]
    simp only [readWord, List.findSome?_cons, Bool.false_eq_true, if_false, hnull, htrue,
      afterWord?_append]
    rfl

theorem ne_of_isDigit {c d : Char} (hc : c.isDigit = true) (hd : d.isDigit = false) : d ≠ c := by
  rintro rfl
  rw [hc] at hd
  cases hd

theorem readWord_digit {c : Char} (h : c.isDigit = true) : readWord (c :: rest) = none := by
  have hne {d : Char} (hd : d.isDigit = false) : d ≠ c := ne_of_isDigit h hd
  simp [readWord, afterWord?, hne (show 'n'.isDigit = false by decide),
    hne (show 't'.isDigit = false by decide), hne (show 'f'.isDigit = false by decide),
    hne (show 'N'.isDigit = false by decide), hne (show 'I'.isDigit = false by decide),
    hne (show '-'.isDigit = false by decide)]

theorem readWord_minus {c : Char} (h : c.isDigit = true) : readWord ('-' :: c :: rest) = none := by
  have hne : 'I' ≠ c := ne_of_isDigit h (by decide)
  simp [readWord, afterWord?, hne]

theorem readWord_int (n : Int) : readWord ((toString n).toList ++ rest) = none := by
  obtain ⟨d, ds, hdigits, hd⟩ := exists_toDigits n.natAbs
  rw [toString_int, hdigits]
  split
  · exact readWord_minus hd
  · exact readWord_digit hd

end

theorem setField_append {fields : List (String × Json)} {name : String} {v : Json}
    (h : name ∉ fields.map Prod.fst) : setField name v fields = fields ++ [(name, v)] := by
  induction fields with
  | nil => rfl
  | cons f rest ih =>
    obtain ⟨hne, hrest⟩ : name ≠ f.1 ∧ name ∉ rest.map Prod.fst := by
      simpa [not_or] using h
    simp [setField, hne.symm, ih hrest]

/-- Fields whose names differ are laid one behind the other. -/
theorem overlay_eq_append {below above : List (String × Json)}
    (h : ((below ++ above).map Prod.fst).Nodup) : overlay below above = below ++ above := by
  induction above generalizing below with
  | nil => simp [overlay]
  | cons f rest ih =>
    have hf : f.1 ∉ below.map Prod.fst := by
      rw [List.map_append, List.nodup_append] at h
      intro hmem
      exact h.2.2 f.1 hmem f.1 (by simp) rfl
    have hstep : overlay below (f :: rest) = overlay (below ++ [f]) rest := by
      simp [overlay, setField_append hf]
    rw [hstep, ih (by simpa using h)]
    simp

section

variable {rest cs : List Char} {c : Char} {n level : Nat}

theorem skipSpace_cons (h : isSpace c = false) : skipSpace (c :: cs) = c :: cs := by
  simp [skipSpace, h]

theorem skipSpace_blank : skipSpace (' ' :: cs) = skipSpace cs := rfl

theorem skipSpace_lineBreak : skipSpace (lineBreak level ++ cs) = skipSpace cs := by
  refine List.dropWhile_append_of_pos fun c hc => ?_
  rcases List.mem_cons.mp hc with rfl | hc
  · decide
  · rw [List.eq_of_mem_replicate hc]
    decide

/-- The first character of a value is neither white space nor what ends or precedes a list of
values. -/
def StartsValue (cs : List Char) : Prop :=
  ∃ c rest, cs = c :: rest ∧ isSpace c = false ∧ c ≠ ']' ∧ c ≠ '\ufeff'

theorem startsValue_digit (h : c.isDigit = true) : StartsValue (c :: cs) := by
  have hspace : isSpace c = false := by
    have hne {d : Char} (hd : d.isDigit = false) : c ≠ d := (ne_of_isDigit h hd).symm
    simp [isSpace, hne (show ' '.isDigit = false by decide),
      hne (show '\t'.isDigit = false by decide), hne (show '\n'.isDigit = false by decide),
      hne (show '\r'.isDigit = false by decide)]
  exact ⟨c, cs, rfl, hspace, (ne_of_isDigit h (by decide)).symm, (ne_of_isDigit h (by decide)).symm⟩

theorem Plain.startsValue {v : Json} (h : Plain v) (level : Nat) :
    StartsValue (written level v) := by
  cases h with
  | null => exact ⟨'n', _, rfl, by decide, by decide, by decide⟩
  | bool b =>
    cases b with
    | true => exact ⟨'t', _, rfl, by decide, by decide, by decide⟩
    | false => exact ⟨'f', _, rfl, by decide, by decide, by decide⟩
  | @int n h =>
    obtain ⟨d, ds, hdigits, hd⟩ := exists_toDigits n.natAbs
    have hwritten : written level (.int n) = (toString n).toList := by rw [written]
    rw [hwritten, toString_int, hdigits]
    split
    · exact ⟨'-', _, rfl, by decide, by decide, by decide⟩
    · exact startsValue_digit hd
  | str s => exact ⟨'"', _, by rw [written]; rfl, by decide, by decide, by decide⟩
  | @arr items h =>
    cases items with
    | nil => exact ⟨'[', _, by rw [written], by decide, by decide, by decide⟩
    | cons v rest => exact ⟨'[', _, by rw [written]; rfl, by decide, by decide, by decide⟩
  | @obj fields names h =>
    cases fields with
    | nil => exact ⟨'\x7b', _, by rw [written], by decide, by decide, by decide⟩
    | cons f rest => exact ⟨'\x7b', _, by rw [written]; rfl, by decide, by decide, by decide⟩

theorem readValue_word (hquote : c ≠ '"') (hbracket : c ≠ '[') (hbrace : c ≠ '\x7b')
    {r : Json × List Char} (h : readWord (c :: cs) = some r) :
    readValue (n + 1) (c :: cs) = .ok r := by
  rw [readValue]
  · rw [h]
  all_goals simp_all

theorem readValue_number (hquote : c ≠ '"') (hbracket : c ≠ '[') (hbrace : c ≠ '\x7b')
    (h : readWord (c :: cs) = none) : readValue (n + 1) (c :: cs) = readNumber (c :: cs) := by
  rw [readValue]
  · rw [h]
  all_goals simp_all

theorem readString_writtenString (start : List Char) (s : String) :
    readString start [] (s.toList.flatMap writtenChar ++ '"' :: rest) = .ok (s, rest) := by
  rw [readString_written]
  simp

theorem readsBack_null : ReadsBack .null := fun _ _ _ _ _ =>
  readValue_word (by decide) (by decide) (by decide) readWord_null

theorem readsBack_bool (b : Bool) : ReadsBack (.bool b) := by
  intro level n rest _ _
  cases b with
  | true => exact readValue_word (by decide) (by decide) (by decide) (readWord_bool true)
  | false => exact readValue_word (by decide) (by decide) (by decide) (readWord_bool false)

theorem readsBack_int {i : Int} (h : digitCount i ≤ digitLimit) : ReadsBack (.int i) := by
  intro level n rest hrest _
  have hwritten : written level (.int i) = (toString i).toList := by rw [written]
  have hnumber := readNumber_int hrest h
  have hword : readWord ((toString i).toList ++ rest) = none := readWord_int i
  obtain ⟨c, cs, hlist, hquote, hbracket, hbrace⟩ : ∃ c cs, (toString i).toList = c :: cs ∧
      c ≠ '"' ∧ c ≠ '[' ∧ c ≠ '\x7b' := by
    obtain ⟨d, ds, hdigits, hd⟩ := exists_toDigits i.natAbs
    rw [toString_int, hdigits]
    split
    · exact ⟨'-', _, rfl, by decide, by decide, by decide⟩
    · exact ⟨d, ds, rfl, (ne_of_isDigit hd (by decide)).symm, (ne_of_isDigit hd (by decide)).symm,
        (ne_of_isDigit hd (by decide)).symm⟩
  rw [hwritten]
  rw [hlist, List.cons_append] at hnumber hword ⊢
  rw [readValue_number hquote hbracket hbrace hword, hnumber]

theorem readsBack_str (s : String) : ReadsBack (.str s) := by
  intro level n rest _ _
  have hwritten : written level (.str s) ++ rest =
      '"' :: (s.toList.flatMap writtenChar ++ '"' :: rest) := by
    rw [written]
    simp [writtenString]
  rw [hwritten, readValue, readString_writtenString]
  rfl

theorem endsValue_lineBreak : EndsValue (lineBreak level ++ cs) := by
  intro c hc
  exact .inr (Option.some.inj hc).symm

theorem endsValue_writtenItems (items : List Json) (h : EndsValue rest) :
    EndsValue (writtenItems level items ++ rest) := by
  cases items with
  | nil => exact h
  | cons v items =>
    intro c hc
    exact .inl (Option.some.inj hc).symm

theorem endsValue_writtenFields (fields : List (String × Json)) (h : EndsValue rest) :
    EndsValue (writtenFields level fields ++ rest) := by
  cases fields with
  | nil => exact h
  | cons f fields =>
    intro c hc
    exact .inl (Option.some.inj hc).symm

theorem StartsValue.skipSpace (h : StartsValue cs) : skipSpace (cs ++ rest) = cs ++ rest := by
  obtain ⟨c, tail, rfl, hspace, -, -⟩ := h
  exact skipSpace_cons hspace

theorem writtenItems_cons (v : Json) (items : List Json) :
    writtenItems level (v :: items) ++ rest =
      ',' :: (lineBreak level ++ (written level v ++ (writtenItems level items ++ rest))) := by
  rw [writtenItems]
  simp

theorem length_writtenItems_cons (level : Nat) (v : Json) (items : List Json) :
    (writtenItems level (v :: items)).length =
      2 * level + 2 + (written level v).length + (writtenItems level items).length := by
  rw [writtenItems]
  simp [lineBreak]
  omega

/-- Items that read back one by one read back as a list, up to the bracket that closes it. -/
theorem readItems_written {items : List Json} {v : Json} (hback : ∀ x ∈ v :: items, ReadsBack x)
    (hstarts : ∀ x ∈ v :: items, StartsValue (written level x)) (close : Nat)
    (hn : (written level v).length + (writtenItems level items).length + 1 ≤ n) :
    readItems (n + 1) (written level v ++ (writtenItems level items ++
      (lineBreak close ++ ']' :: rest))) = .ok (v :: items, rest) := by
  induction items generalizing v n with
  | nil =>
    obtain ⟨m, rfl⟩ : ∃ m, n = m + 1 := ⟨n - 1, by omega⟩
    have hv := hback v List.mem_cons_self level m
      (writtenItems level [] ++ (lineBreak close ++ ']' :: rest))
      (endsValue_writtenItems _ endsValue_lineBreak) (by omega)
    rw [readItems, hv]
    simp only [writtenItems, bind, Except.bind, List.nil_append, skipSpace_lineBreak,
      skipSpace_cons (show isSpace ']' = false by decide)]
  | cons w items ih =>
    obtain ⟨m, rfl⟩ : ∃ m, n = m + 1 := ⟨n - 1, by omega⟩
    have hv := hback v List.mem_cons_self level m
      (writtenItems level (w :: items) ++ (lineBreak close ++ ']' :: rest))
      (endsValue_writtenItems _ endsValue_lineBreak) (by omega)
    have hw := hstarts w (by simp)
    have hlength := length_writtenItems_cons level w items
    have hnext : (written level w).length + (writtenItems level items).length + 1 ≤ m := by omega
    have hrest := ih (fun x hx => hback x (List.mem_cons_of_mem _ hx))
      (fun x hx => hstarts x (List.mem_cons_of_mem _ hx)) hnext
    rw [readItems, hv]
    simp only [writtenItems_cons, bind, Except.bind, skipSpace_lineBreak, hw.skipSpace, hrest,
      skipSpace_cons (show isSpace ',' = false by decide)]

theorem writtenString_append (s : String) :
    writtenString s ++ rest = '"' :: (s.toList.flatMap writtenChar ++ '"' :: rest) := by
  simp [writtenString]

theorem writtenFields_cons (name : String) (v : Json) (fields : List (String × Json)) :
    writtenFields level ((name, v) :: fields) ++ rest =
      ',' :: (lineBreak level ++ (writtenString name ++ (':' :: ' ' :: (written level v ++
        (writtenFields level fields ++ rest))))) := by
  rw [writtenFields]
  simp

theorem length_writtenFields_cons (level : Nat) (name : String) (v : Json)
    (fields : List (String × Json)) :
    2 + (written level v).length + (writtenFields level fields).length ≤
      (writtenFields level ((name, v) :: fields)).length := by
  rw [writtenFields]
  simp
  omega

theorem startsValue_writtenString (s : String) : StartsValue (writtenString s) :=
  ⟨'"', _, rfl, by decide, by decide, by decide⟩

/-- Fields whose values read back one by one read back as a list, up to the brace that closes it. -/
theorem readFields_written {fields : List (String × Json)} {name : String} {v : Json}
    (hback : ∀ f ∈ (name, v) :: fields, ReadsBack f.2)
    (hstarts : ∀ f ∈ (name, v) :: fields, StartsValue (written level f.2)) (close : Nat)
    (hn : (written level v).length + (writtenFields level fields).length + 1 ≤ n) :
    readFields (n + 1) (writtenString name ++ (':' :: ' ' :: (written level v ++
      (writtenFields level fields ++ (lineBreak close ++ '\x7d' :: rest))))) =
        .ok ((name, v) :: fields, rest) := by
  induction fields generalizing name v n with
  | nil =>
    obtain ⟨m, rfl⟩ : ∃ m, n = m + 1 := ⟨n - 1, by omega⟩
    have hstart : StartsValue (written level v) := hstarts (name, v) List.mem_cons_self
    have hv := hback (name, v) List.mem_cons_self level m
      (writtenFields level [] ++ (lineBreak close ++ '\x7d' :: rest))
      (endsValue_writtenFields _ endsValue_lineBreak) (by simp only at hn ⊢; omega)
    rw [writtenString_append, readFields, readString_writtenString]
    simp only [bind, Except.bind, skipSpace_cons (show isSpace ':' = false by decide),
      skipSpace_blank, hstart.skipSpace, hv]
    simp only [writtenFields, List.nil_append, skipSpace_lineBreak,
      skipSpace_cons (show isSpace '\x7d' = false by decide)]
  | cons f fields ih =>
    obtain ⟨next, w⟩ := f
    obtain ⟨m, rfl⟩ : ∃ m, n = m + 1 := ⟨n - 1, by omega⟩
    have hstart : StartsValue (written level v) := hstarts (name, v) List.mem_cons_self
    have hv := hback (name, v) List.mem_cons_self level m
      (writtenFields level ((next, w) :: fields) ++ (lineBreak close ++ '\x7d' :: rest))
      (endsValue_writtenFields _ endsValue_lineBreak) (by simp only at hn ⊢; omega)
    have hlength := length_writtenFields_cons level next w fields
    have hnext : (written level w).length + (writtenFields level fields).length + 1 ≤ m := by omega
    have hrest := ih (fun g hg => hback g (List.mem_cons_of_mem _ hg))
      (fun g hg => hstarts g (List.mem_cons_of_mem _ hg)) hnext
    rw [writtenString_append, readFields, readString_writtenString]
    simp only [bind, Except.bind, skipSpace_cons (show isSpace ':' = false by decide),
      skipSpace_blank, hstart.skipSpace, hv]
    simp only [writtenFields_cons, skipSpace_cons (show isSpace ',' = false by decide),
      skipSpace_lineBreak, (startsValue_writtenString next).skipSpace, hrest]

theorem readsBack_arr {items : List Json} (hback : ∀ v ∈ items, ReadsBack v)
    (hplain : ∀ v ∈ items, Plain v) : ReadsBack (.arr items) := by
  intro level n rest hrest hn
  cases items with
  | nil =>
    rw [written]
    rfl
  | cons v items =>
    have hlist : written level (.arr (v :: items)) ++ rest =
        '[' :: (lineBreak (level + 1) ++ (written (level + 1) v ++
          (writtenItems (level + 1) items ++ (lineBreak level ++ ']' :: rest)))) := by
      rw [written]
      simp
    have hlength : (written (level + 1) v).length + (writtenItems (level + 1) items).length + 4 ≤
        (written level (.arr (v :: items))).length := by
      rw [written]
      simp [lineBreak]
      omega
    obtain ⟨m, rfl⟩ : ∃ m, n = m + 1 := ⟨n - 1, by omega⟩
    have hsteps :
        (written (level + 1) v).length + (writtenItems (level + 1) items).length + 1 ≤ m := by
      omega
    have hitems : readItems (m + 1) (written (level + 1) v ++ (writtenItems (level + 1) items ++
        (lineBreak level ++ ']' :: rest))) = .ok (v :: items, rest) :=
      readItems_written hback (fun x hx => (hplain x hx).startsValue (level + 1)) level hsteps
    obtain ⟨c, cs, hwritten, hspace, hclose, -⟩ :=
      (hplain v List.mem_cons_self).startsValue (level + 1)
    rw [hwritten] at hitems
    rw [hlist, readValue, skipSpace_lineBreak, hwritten, List.cons_append, skipSpace_cons hspace]
    split
    · next heq => exact absurd (List.cons.inj heq).1 hclose
    · rw [List.cons_append] at hitems
      rw [hitems]
      rfl

theorem readsBack_obj {fields : List (String × Json)} (names : (fields.map Prod.fst).Nodup)
    (hback : ∀ f ∈ fields, ReadsBack f.2) (hplain : ∀ f ∈ fields, Plain f.2) :
    ReadsBack (.obj fields) := by
  intro level n rest hrest hn
  cases fields with
  | nil =>
    rw [written]
    rfl
  | cons f fields =>
    obtain ⟨name, v⟩ := f
    have hlist : written level (.obj ((name, v) :: fields)) ++ rest =
        '\x7b' :: (lineBreak (level + 1) ++ (writtenString name ++ (':' :: ' ' ::
          (written (level + 1) v ++ (writtenFields (level + 1) fields ++
            (lineBreak level ++ '\x7d' :: rest)))))) := by
      rw [written]
      simp
    have hlength : (written (level + 1) v).length + (writtenFields (level + 1) fields).length + 4 ≤
        (written level (.obj ((name, v) :: fields))).length := by
      rw [written]
      simp [lineBreak]
      omega
    obtain ⟨m, rfl⟩ : ∃ m, n = m + 1 := ⟨n - 1, by omega⟩
    have hsteps :
        (written (level + 1) v).length + (writtenFields (level + 1) fields).length + 1 ≤ m := by
      omega
    have hfields : readFields (m + 1) (writtenString name ++ (':' :: ' ' ::
        (written (level + 1) v ++ (writtenFields (level + 1) fields ++
          (lineBreak level ++ '\x7d' :: rest))))) = .ok ((name, v) :: fields, rest) :=
      readFields_written hback (fun f hf => (hplain f hf).startsValue (level + 1)) level hsteps
    rw [hlist, readValue, skipSpace_lineBreak, (startsValue_writtenString name).skipSpace,
      writtenString_append]
    split
    · next heq => exact absurd (List.cons.inj heq).1 (by decide)
    · rw [writtenString_append] at hfields
      rw [hfields]
      have hoverlay : overlay [] ((name, v) :: fields) = (name, v) :: fields :=
        overlay_eq_append names
      simp [bind, Except.bind, hoverlay]

/-- Every plain value reads back. -/
theorem Plain.readsBack {v : Json} (h : Plain v) : ReadsBack v := by
  induction h with
  | null => exact readsBack_null
  | bool b => exact readsBack_bool b
  | int h => exact readsBack_int h
  | str s => exact readsBack_str s
  | arr h ih => exact readsBack_arr ih h
  | obj names h ih => exact readsBack_obj names ih h

end

/-- A saved value reads back. -/
theorem read_saved {v : Json} (h : Plain v) : read v.saved.toList = .ok v := by
  obtain ⟨c, cs, hwritten, hspace, -, hmark⟩ := h.startsValue 0
  have hback := h.readsBack 0 (2 * v.saved.toList.length) ['\n'] (by simp [EndsValue])
    (by simp [saved]; omega)
  have htext : v.saved.toList = written 0 v ++ ['\n'] := by simp [saved]
  rw [← htext] at hback
  have hstart : v.saved.toList = c :: (cs ++ ['\n']) := by rw [htext, hwritten]; rfl
  unfold read
  split
  · next heq =>
    rw [hstart] at heq
    exact absurd (List.cons.inj heq).1 hmark
  · have hskip : skipSpace v.saved.toList = v.saved.toList := by
      rw [hstart]
      exact skipSpace_cons hspace
    rw [hskip, hback]
    rfl

end PasteRules.Json
