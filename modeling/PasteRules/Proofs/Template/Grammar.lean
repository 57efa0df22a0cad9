import PasteRules.Template.Basic

/-! The grammar of templates. A template is read from left to right, one character or placeholder
after the other, in exactly one way, and its parts are what that reading gives. -/
namespace PasteRules.Template

def letters (text : List Char) : List Part := text.map fun c => .literal [c]

def Part.spell : Part → List Part
  | .literal text => letters text
  | part => [part]

/-- Parts with their text taken apart: characters and references. Lists of parts that differ only in
how text is cut, or in empty text, spell alike. -/
def spelled (parts : List Part) : List Part := parts.flatMap Part.spell

section

variable {groups : Nat} {names : List String}

@[simp]
theorem letters_nil : letters [] = [] := rfl

@[simp]
theorem letters_cons (c : Char) (text : List Char) :
    letters (c :: text) = .literal [c] :: letters text := rfl

@[simp]
theorem letters_append (text text' : List Char) :
    letters (text ++ text') = letters text ++ letters text' := List.map_append

@[simp]
theorem spelled_nil : spelled [] = [] := rfl

@[simp]
theorem spelled_cons (part : Part) (parts : List Part) :
    spelled (part :: parts) = part.spell ++ spelled parts := rfl

@[simp]
theorem spelled_append (parts parts' : List Part) :
    spelled (parts ++ parts') = spelled parts ++ spelled parts' := List.flatMap_append

/-- Empty text is not spelled. -/
theorem spelled_filter_isSome (parts : List Part) :
    spelled (parts.filter Part.isSome) = spelled parts := by
  induction parts with
  | nil => rfl
  | cons part parts ih =>
    by_cases h : part = .literal []
    · subst h
      exact ih
    · have hsome : part.isSome = true := by simpa [Part.isSome] using h
      rw [List.filter_cons_of_pos hsome, spelled_cons, spelled_cons, ih]

/-- The digits behind a dollar sign that count: one, and a second if it follows at once. -/
def leadingDigits (text : List Char) : List Char := (text.takeWhile Char.isDigit).take 2

def HasGroup (groups : Nat) (digits : List Char) : Prop :=
  1 ≤ Nat.ofDigitChars 10 digits 0 ∧ Nat.ofDigitChars 10 digits 0 ≤ groups

instance (groups : Nat) (digits : List Char) : Decidable (HasGroup groups digits) :=
  inferInstanceAs (Decidable (_ ∧ _))

/-- What digits behind a dollar sign stand for: the group of their number, else the group of the
first digit with the other digit as text, else text. -/
def digitParts (groups : Nat) (digits : List Char) : List Part :=
  if HasGroup groups digits then [.group (Nat.ofDigitChars 10 digits 0)]
  else if HasGroup groups (digits.take 1) then
    .group (Nat.ofDigitChars 10 (digits.take 1) 0) :: letters (digits.drop 1)
  else letters ('$' :: digits)

/-- The text behind a dollar sign begins with a placeholder, which stands for the parts and is
followed by the rest. A name ends at the first closing bracket. -/
inductive Placeholder (groups : Nat) (names : List String) :
    List Char → List Part → List Char → Prop
  | dollar (rest : List Char) : Placeholder groups names ('$' :: rest) [.literal ['$']] rest
  | whole (rest : List Char) : Placeholder groups names ('&' :: rest) [.whole] rest
  | before (rest : List Char) : Placeholder groups names ('\x60' :: rest) [.before] rest
  | after (rest : List Char) : Placeholder groups names ('\'' :: rest) [.after] rest
  | digits {text : List Char} (h : leadingDigits text ≠ []) :
    Placeholder groups names text (digitParts groups (leadingDigits text))
      (text.drop (leadingDigits text).length)
  | known {name : List Char} (rest : List Char) (h : '>' ∉ name)
    (hname : String.ofList name ∈ names) :
    Placeholder groups names ('<' :: name ++ '>' :: rest) [.named (String.ofList name)] rest
  | unknown {name : List Char} (rest : List Char) (h : '>' ∉ name)
    (hname : String.ofList name ∉ names) :
    Placeholder groups names ('<' :: name ++ '>' :: rest) (letters ('$' :: '<' :: name ++ ['>']))
      rest

/-- The template reads as the characters and references. A dollar sign that no placeholder follows
is a character. -/
inductive Reads (groups : Nat) (names : List String) : List Char → List Part → Prop
  | done : Reads groups names [] []
  | char {c : Char} {rest : List Char} {parts : List Part} (h : c ≠ '$')
    (hrest : Reads groups names rest parts) : Reads groups names (c :: rest) (.literal [c] :: parts)
  | placed {text rest : List Char} {parts parts' : List Part}
    (h : Placeholder groups names text parts rest) (hrest : Reads groups names rest parts') :
    Reads groups names ('$' :: text) (parts ++ parts')
  | stray {text : List Char} {parts : List Part}
    (h : ∀ parts rest, ¬Placeholder groups names text parts rest)
    (hrest : Reads groups names text parts) :
    Reads groups names ('$' :: text) (.literal ['$'] :: parts)

/-- The digits that count, cut off from the text. If it is one, no other follows. -/
theorem exists_leadingDigits {text : List Char} (h : leadingDigits text ≠ []) :
    ∃ (c : Char) (more : Option Char) (rest : List Char), text = c :: more.toList ++ rest ∧
      leadingDigits text = c :: more.toList ∧ c.isDigit = true ∧
      (∀ d ∈ more, d.isDigit = true) ∧
      (more = none → ∀ d ∈ rest.head?, d.isDigit = false) := by
  cases text with
  | nil => exact absurd rfl h
  | cons c tail =>
    have hc : c.isDigit = true := by
      cases hc : c.isDigit with
      | true => rfl
      | false => simp [leadingDigits, hc] at h
    cases tail with
    | nil => exact ⟨c, none, [], by simp [leadingDigits, hc]⟩
    | cons d tail =>
      cases hd : d.isDigit with
      | true => exact ⟨c, some d, tail, by simp [leadingDigits, hc, hd]⟩
      | false => exact ⟨c, none, d :: tail, by simp [leadingDigits, hc, hd]⟩

theorem spelled_resolveDigits (c : Char) (second : Option Char) :
    ((resolveDigits groups c second).elim (letters ('$' :: c :: second.toList)) spelled) =
      digitParts groups (c :: second.toList) := by
  have hone : Nat.ofDigitChars 10 [c] 0 = digitValue c := by simp [Nat.ofDigitChars, digitValue]
  cases second with
  | none =>
    unfold resolveDigits digitParts HasGroup
    simp only [Option.toList_none, hone, List.take_succ_cons, List.take_zero]
    split <;> rfl
  | some d =>
    have htwo : Nat.ofDigitChars 10 [c, d] 0 = digitValue c * 10 + digitValue d := by
      simp [Nat.ofDigitChars, digitValue, Nat.mul_comm]
    unfold resolveDigits digitParts HasGroup
    simp only [Option.toList_some, hone, htwo, List.take_succ_cons, List.take_zero]
    split
    · rfl
    split <;> rfl

theorem Placeholder.length_le {text rest : List Char} {parts : List Part}
    (h : Placeholder groups names text parts rest) : rest.length ≤ text.length := by
  cases h with
  | digits h => simp
  | _ => grind

theorem exists_reads (template : List Char) : ∃ parts, Reads groups names template parts := by
  match template with
  | [] => exact ⟨[], .done⟩
  | c :: text =>
    by_cases hc : c = '$'
    · subst hc
      by_cases h : ∃ parts rest, Placeholder groups names text parts rest
      · obtain ⟨parts, rest, hplaceholder⟩ := h
        have hlength := hplaceholder.length_le
        obtain ⟨parts', hrest⟩ := exists_reads rest
        exact ⟨parts ++ parts', .placed hplaceholder hrest⟩
      · obtain ⟨parts, hrest⟩ := exists_reads text
        exact ⟨_, .stray (fun parts rest hplaceholder => h ⟨parts, rest, hplaceholder⟩) hrest⟩
    · obtain ⟨parts, hrest⟩ := exists_reads text
      exact ⟨_, .char hc hrest⟩
termination_by template.length

end

end PasteRules.Template
