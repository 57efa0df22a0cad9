import PasteRules.Regex.Compile

/-! The numbers of groups. Groups are numbered from one on as they are met, and a name belongs to
one of these numbers. -/
namespace PasteRules.Regex

variable {α β : Type}

namespace Reader

def Fails (act : Reader α) : Prop := ∀ s a s', act.run s ≠ .ok (a, s')

namespace Fails

theorem throw (e : Failure) : Fails (throw e : Reader α) := fun _ _ _ h => nomatch h

theorem reject (flaw : Flaw) (back : Nat) : Fails (Reader.reject flaw back : Reader α) :=
  fun _ _ _ h => nomatch h

theorem rejectAt (flaw : Flaw) (position : Nat) :
    Fails (Reader.rejectAt flaw position : Reader α) :=
  throw _

theorem rejectNowhere (flaw : Flaw) : Fails (Reader.rejectNowhere flaw : Reader α) := throw _

theorem bind {act : Reader α} (h : Fails act) (next : α → Reader β) : Fails (act >>= next) := by
  intro s b s' hrun
  rw [StateT.run_bind] at hrun
  cases hact : act.run s with
  | error e =>
    rw [hact] at hrun
    cases hrun
  | ok result => exact h s result.1 result.2 hact

end Fails

/-- Begun where `P` holds of the groups met so far, the action ends where it does, unless it fails.
-/
def Keeps (P : Groups → Prop) (act : Reader α) : Prop :=
  ∀ s a s', P s.groups → act.run s = .ok (a, s') → P s'.groups

namespace Keeps

variable {P : Groups → Prop}

theorem of_fails {act : Reader α} (h : Fails act) : Keeps P act :=
  fun s a s' _ hact => absurd hact (h s a s')

theorem pure (a : α) : Keeps P (Pure.pure a : Reader α) := by
  intro s b s' hs h
  cases h
  exact hs

theorem bind {act : Reader α} {next : α → Reader β} (h : Keeps P act)
    (hnext : ∀ a, Keeps P (next a)) : Keeps P (act >>= next) := by
  intro s b s' hs hrun
  rw [StateT.run_bind] at hrun
  cases hact : act.run s with
  | error e =>
    rw [hact] at hrun
    cases hrun
  | ok result =>
    rw [hact] at hrun
    exact hnext result.1 result.2 b s' (h s result.1 result.2 hs hact) hrun

theorem get_bind {next : Reading → Reader α} (h : ∀ s, P s.groups → Keeps P (next s)) :
    Keeps P (get >>= next) := fun s a s' hs hrun => h s hs s a s' hs hrun

theorem set {s : Reading} (h : P s.groups) : Keeps P (set s : Reader PUnit) := by
  intro s₀ a s' _ hrun
  cases hrun
  exact h

theorem modify {f : Reading → Reading} (h : ∀ s, P s.groups → P (f s).groups) :
    Keeps P (modify f : Reader PUnit) := by
  intro s a s' hs hrun
  cases hrun
  exact h s hs

/-- What is refused first and goes on otherwise keeps what goes on. -/
theorem guarded {c : Prop} [Decidable c] {refuse : Reader α} {next : α → Reader β}
    {other : Reader β} (h : Fails refuse) (hnext : Keeps P other) :
    Keeps P (if c then refuse >>= next else other) := by
  split
  · exact of_fails (h.bind next)
  · exact hnext

theorem ite {c : Prop} [Decidable c] {act other : Reader α} (h : Keeps P act)
    (hother : Keeps P other) : Keeps P (if c then act else other) := by
  split
  · exact h
  · exact hother

/-- Two beginnings go on in the same way. -/
theorem join {c : Prop} [Decidable c] {act other : Reader α} {next : α → Reader β}
    (h : Keeps P act) (hother : Keeps P other) (hnext : ∀ a, Keeps P (next a)) :
    Keeps P (if c then act >>= next else other >>= next) :=
  ite (bind h hnext) (bind hother hnext)

theorem position : Keeps P Reader.position := get_bind fun _ _ => pure _

theorem peek : Keeps P Reader.peek := get_bind fun _ _ => pure _

theorem flags : Keeps P Reader.flags := get_bind fun _ _ => pure _

theorem bound : Keeps P Reader.bound := get_bind fun _ _ => pure _

theorem push (node : Node) (kind : ItemKind) : Keeps P (Reader.push node kind) :=
  modify fun _ h => h

theorem advance : Keeps P Reader.advance := by
  refine get_bind fun s hs => ?_
  cases hadvance : s.source.advance with
  | error e => exact of_fails fun _ _ _ h => nomatch h
  | ok source => exact set hs

theorem take : Keeps P Reader.take := bind peek fun _ => bind advance fun _ => pure _

theorem eat (c : Char) : Keeps P (Reader.eat c) := by
  refine bind peek fun x => ?_
  split
  · exact bind advance fun _ => pure _
  · exact pure _

theorem takeWhile (p : Char → Bool) (n : Nat) : Keeps P (Reader.takeWhile p n) := by
  induction n with
  | zero => exact pure _
  | succ n ih =>
    refine bind peek fun x => ?_
    split
    · split
      · exact bind advance fun _ => bind ih fun _ => pure _
      · exact pure _
    · exact pure _

theorem takeName (terminator : Char) (missing : Flaw) (soFar : List Char) (n : Nat) :
    Keeps P (Reader.takeName terminator missing soFar n) := by
  induction n generalizing soFar with
  | zero => exact pure _
  | succ n ih =>
    refine bind take fun x => ?_
    split
    · split
      · exact of_fails (.reject _ _)
      · exact of_fails (.reject _ _)
    · split
      · split
        · exact of_fails (.reject _ _)
        · exact pure _
      · exact ih _

theorem name (terminator : Char) (missing : Flaw) : Keeps P (Reader.name terminator missing) :=
  bind bound fun _ => takeName _ _ _ _

theorem checkLimit (number : Nat) : Keeps P (Reader.checkLimit number) := by
  refine get_bind fun s _ => ?_
  dsimp only
  split
  · exact pure _
  · exact guarded (.reject _ _) (ite (of_fails (.reject _ _)) (pure _))

theorem hexCode (letter : Char) (count : Nat) : Keeps P (Reader.hexCode letter count) :=
  bind (takeWhile _ _) fun _ => guarded (.reject _ _) (guarded (.reject _ _) (pure _))

theorem namedCode : Keeps P Reader.namedCode := by
  refine bind (eat _) fun _ => guarded (.reject _ _) ?_
  refine bind (name _ _) fun _ => get_bind fun _ _ => ?_
  split
  · exact pure _
  · exact of_fails (.reject _ _)

theorem setEscape (c : Char) : Keeps P (Reader.setEscape c) := by
  unfold Reader.setEscape
  split
  · exact pure _
  split
  · exact pure _
  split
  · exact pure _
  split
  · exact bind (hexCode _ _) fun _ => pure _
  split
  · exact bind namedCode fun _ => pure _
  split
  · exact bind (takeWhile _ _) fun _ => guarded (.reject _ _) (pure _)
  · exact guarded (.reject _ _) (pure _)

theorem literal (code : Nat) : Keeps P (Reader.literal code) := bind flags fun _ => pure _

theorem groupReference (ds : List Char) : Keeps P (Reader.groupReference ds) :=
  get_bind fun _ _ => guarded (.reject _ _) <| guarded (.reject _ _) <|
    bind (checkLimit _) fun _ => bind flags fun _ => pure _

theorem digitEscape (c : Char) : Keeps P (Reader.digitEscape c) := by
  refine bind (takeWhile _ _) fun ds => ?_
  split
  · exact groupReference _
  split
  · refine bind (takeWhile _ _) fun es => ?_
    split
    · exact groupReference _
    · exact guarded (.reject _ _) (literal _)
  · exact groupReference _

theorem escape (c : Char) : Keeps P (Reader.escape c) := by
  refine bind flags fun f => ?_
  split
  · exact pure _
  split
  · exact pure _
  split
  · exact pure _
  split
  · exact pure _
  split
  · exact pure _
  split
  · exact bind (literal _) fun _ => pure _
  split
  · exact bind (hexCode _ _) fun _ => bind (literal _) fun _ => pure _
  split
  · exact bind namedCode fun _ => bind (literal _) fun _ => pure _
  split
  · exact bind (takeWhile _ _) fun _ => bind (literal _) fun _ => pure _
  split
  · exact bind (digitEscape _) fun _ => pure _
  · exact guarded (.reject _ _) (bind (literal _) fun _ => pure _)

theorem setAtom (x : Symbol) : Keeps P (Reader.setAtom x) := by
  cases x with
  | plain c => exact pure _
  | escaped c => exact setEscape c

theorem setRange (first last : Symbol) (lo hi : CharItem) :
    Keeps P (Reader.setRange first last lo hi) := by
  unfold Reader.setRange
  split
  · split
    · exact pure _
    · exact of_fails (.reject _ _)
  · exact of_fails (.reject _ _)

theorem setItems (start : Nat) (soFar : List CharItem) (n : Nat) :
    Keeps P (Reader.setItems start soFar n) := by
  induction n generalizing soFar with
  | zero => exact pure _
  | succ n ih =>
    refine bind take fun x => ?_
    split
    · exact of_fails (.rejectAt _ _)
    split
    · exact pure _
    refine bind (setAtom _) fun first => bind (eat _) fun isRange => ?_
    split
    · refine bind take fun y => ?_
      split
      · exact of_fails (.rejectAt _ _)
      split
      · exact pure _
      · exact bind (setAtom _) fun last => bind (setRange _ _ _ _) fun _ => ih _
    · exact ih _

theorem charSet (start : Nat) : Keeps P (Reader.charSet start) := by
  refine bind (eat _) fun _ => bind bound fun _ => bind (setItems _ _ _) fun items =>
    bind flags fun _ => ?_
  split
  · exact pure _
  · exact pure _

theorem groupName (terminator : Char) : Keeps P (Reader.groupName terminator) := by
  refine bind (name _ _) fun cs => ?_
  split
  · exact pure _
  · exact of_fails (.reject _ _)

theorem enter (opener : Opener) (start : Nat) (inner : Flags) :
    Keeps P (Reader.enter opener start inner) :=
  get_bind fun _ hs => guarded (.rejectNowhere _) (set hs)

theorem skipComment (start n : Nat) : Keeps P (Reader.skipComment start n) := by
  induction n with
  | zero => exact pure _
  | succ n ih =>
    refine bind peek fun x => ?_
    split
    · exact of_fails (.rejectAt _ _)
    refine bind advance fun _ => ?_
    split
    · exact pure _
    · exact ih

theorem namedReference : Keeps P Reader.namedReference := by
  refine bind (groupName _) fun n => get_bind fun s _ => ?_
  dsimp only
  split
  · exact of_fails (.reject _ _)
  · exact guarded (.reject _ _) <| bind (checkLimit _) fun _ => bind flags fun _ => push _ _

theorem flagOf (x : Symbol) (otherwise : Flaw) : Keeps P (Reader.flagOf x otherwise) := by
  unfold Reader.flagOf
  split
  · split
    · exact pure _
    · exact of_fails (.reject _ _)
  · exact of_fails (.reject _ _)

theorem flagsOn (x : Symbol) (soFar : Flags) (n : Nat) : Keeps P (Reader.flagsOn x soFar n) := by
  induction n generalizing x soFar with
  | zero => exact pure _
  | succ n ih =>
    refine guarded (.reject _ _) <| bind (flagOf _ _) fun f => guarded (.reject _ _) <|
      bind take fun y => ?_
    split
    · exact of_fails (.reject _ _)
    split
    · exact pure _
    split
    · exact pure _
    split
    · exact pure _
    split
    · exact ih _ _
    · exact bind (flagOf _ _) fun _ => ih _ _

theorem flagsOff (x : Symbol) (soFar : Flags) (n : Nat) : Keeps P (Reader.flagsOff x soFar n) := by
  induction n generalizing x soFar with
  | zero => exact pure _
  | succ n ih =>
    refine guarded (.reject _ _) <| bind (flagOf _ _) fun f => guarded (.reject _ _) <|
      bind take fun y => ?_
    split
    · exact of_fails (.reject _ _)
    split
    · exact pure _
    split
    · exact ih _ _
    · exact bind (flagOf _ _) fun _ => ih _ _

theorem globalFlags (on : Flags) (start : Nat) : Keeps P (Reader.globalFlags on start) :=
  get_bind fun _ hs => guarded (.rejectAt _ _) (set hs)

theorem flagGroup (x : Symbol) (start : Nat) : Keeps P (Reader.flagGroup x start) := by
  refine bind flags fun outer => bind bound fun n => join (pure _) (flagsOn _ _ _) fun on => ?_
  refine ite (globalFlags _ _) (guarded (.reject _ _) (ite (bind take fun y => ?_) (enter _ _ _)))
  split
  · exact of_fails (.reject _ _)
  have hoff : ∀ y, Keeps P (Reader.flagsOff y {} n) := fun _ => flagsOff _ _ _
  refine ite (bind (flagOf _ _) fun _ => ?_) ?_
  · exact bind (hoff _) fun _ => guarded (.reject _ _) (guarded (.reject _ _) (enter _ _ _))
  · exact bind (hoff _) fun _ => guarded (.reject _ _) (guarded (.reject _ _) (enter _ _ _))

theorem countOf (ds : List Char) : Keeps P (Reader.countOf ds) :=
  guarded (.throw _) (guarded (.rejectNowhere _) (pure _))

/-- Where no counts are found, the groups are those from before. -/
theorem braces : Keeps P Reader.braces := by
  refine get_bind fun before hbefore => bind bound fun n => bind (takeWhile _ _) fun lo =>
    bind (eat _) fun _ => join (takeWhile _ _) (pure _) fun hi => bind (eat _) fun _ => ?_
  refine ite (join (pure _) (countOf _) fun least => ?_) (bind (set hbefore) fun _ => pure _)
  exact ite (pure _) (bind (countOf _) fun _ => guarded (.rejectAt _ _) (pure _))

theorem greedMark : Keeps P Reader.greedMark := by
  refine bind (eat _) fun _ => ?_
  split
  · exact pure _
  refine bind (eat _) fun _ => ?_
  split
  · exact pure _
  · exact pure _

theorem repeatLast (start least : Nat) (most : Option Nat) :
    Keeps P (Reader.repeatLast start least most) := by
  refine get_bind fun s _ => ?_
  split
  · exact of_fails (.rejectAt _ _)
  split
  · exact of_fails (.rejectAt _ _)
  · exact of_fails (.rejectAt _ _)
  · exact bind greedMark fun _ => modify fun _ h => h

theorem brace (start : Nat) : Keeps P (Reader.brace start) := by
  refine bind peek fun x => ?_
  split
  · exact bind (literal _) fun _ => push _ _
  refine bind braces fun counts => ?_
  split
  · exact bind (literal _) fun _ => push _ _
  · exact repeatLast _ _ _

theorem skipLine (n : Nat) : Keeps P (Reader.skipLine n) := by
  induction n with
  | zero => exact pure _
  | succ n ih =>
    refine bind take fun x => ?_
    split
    · exact pure _
    split
    · exact pure _
    · exact ih

theorem nextBranch : Keeps P Reader.nextBranch := by
  refine get_bind fun s _ => ?_
  dsimp only
  split
  · exact guarded (.reject _ _) (bind advance fun _ => modify fun _ h => h)
  · exact bind advance fun _ => modify fun _ h => h

end Keeps

end Reader

def Groups.Numbered (g : Groups) : Prop := ∀ p ∈ g.names, 1 ≤ p.2 ∧ p.2 ≤ g.count

namespace Groups.Numbered

variable {g : Groups}

/-- A group that gets the next number and no name. -/
theorem next (h : g.Numbered) : Numbered { g with widths := g.widths ++ [.none] } := by
  intro p hp
  have hcount := h p hp
  simp only [count, List.length_append, List.length_singleton] at hcount ⊢
  omega

/-- A group that gets the next number and a name. -/
theorem nextNamed (h : g.Numbered) (n : String) :
    Numbered { g with
      widths := g.widths ++ [.none], names := g.names ++ [(n, g.count + 1)] } := by
  intro p hp
  simp only [List.mem_append, List.mem_singleton] at hp
  rcases hp with hp | rfl
  · exact h.next p hp
  · simp [count]

theorem close (h : g.Numbered) (number : Nat) (w : Width) : (g.close number w).Numbered := by
  intro p hp
  have hcount := h p hp
  simpa [Groups.close, count] using hcount

end Groups.Numbered

namespace Reader.Keeps

open Groups (Numbered)

theorem newGroup (groupName : Option String) : Keeps Numbered (Reader.newGroup groupName) := by
  refine get_bind fun s hs => ?_
  cases groupName with
  | none => exact bind (set hs.next) fun _ => pure _
  | some n =>
    dsimp only
    split
    · exact of_fails (.bind (.reject _ _) _)
    · exact bind (set (hs.nextNamed n)) fun _ => pure _

theorem enterLook (behind negated : Bool) (start : Nat) :
    Keeps Numbered (Reader.enterLook behind negated start) := by
  refine get_bind fun s _ => bind flags fun f => ?_
  exact ite (bind (modify fun _ h => h) fun _ => enter _ _ _) (enter _ _ _)

theorem condition : Keeps Numbered Reader.condition := by
  refine bind (name _ _) fun cs => ?_
  dsimp only
  split
  · refine get_bind fun s _ => ?_
    split
    · exact of_fails (.reject _ _)
    · exact pure _
  · split
    · exact of_fails (.reject _ _)
    refine guarded (.reject _ _) <| guarded (.reject _ _) <| guarded (.reject _ _) <|
      bind position fun _ => bind (modify fun s h => ?_) fun _ => pure _
    -- A number that is noted for later is no name.
    split <;> exact h

theorem extension (start : Nat) : Keeps Numbered (Reader.extension start) := by
  refine bind flags fun f => bind take fun x => ?_
  split
  · exact of_fails (.reject _ _)
  split
  · refine bind (eat _) fun _ => ite ?_ (bind (eat _) fun _ => ite namedReference ?_)
    · exact bind (groupName _) fun _ => bind (newGroup _) fun _ => enter _ _ _
    · refine bind take fun y => ?_
      split
      · exact of_fails (.reject _ _)
      · exact of_fails (.reject _ _)
  · exact enter _ _ _
  · exact bind bound fun _ => skipComment _ _
  · exact enterLook _ _ _
  · exact enterLook _ _ _
  · refine bind take fun y => ?_
    split
    · exact of_fails (.reject _ _)
    · exact ite (enterLook _ _ _) (ite (enterLook _ _ _) (of_fails (.reject _ _)))
  · exact bind condition fun _ => bind (checkLimit _) fun _ => enter _ _ _
  · exact enter _ _ _
  · exact ite (flagGroup _ _) (of_fails (.reject _ _))
  · exact of_fails (.reject _ _)

theorem openGroup (start : Nat) : Keeps Numbered (Reader.openGroup start) :=
  bind (eat _) fun _ => ite (extension _) <|
    bind (newGroup _) fun _ => bind flags fun _ => enter _ _ _

theorem finish (opener : Opener) (level : Level) : Keeps Numbered (Reader.finish opener level) := by
  refine get_bind fun s _ => ?_
  cases opener with
  | capture number => exact bind (modify fun _ h => h.close _ _) fun _ => pure _
  | plain => exact pure _
  | atomic => exact pure _
  | look behind negated formerLimit => exact bind (modify fun _ h => h) fun _ => pure _
  | cond number =>
    dsimp only
    split
    · exact pure _
    · exact pure _

theorem closeGroup (frame : Frame) (outer : List Frame) :
    Keeps Numbered (Reader.closeGroup frame outer) :=
  get_bind fun _ _ => bind (finish _ _) fun _ => bind (modify fun _ h => h) fun _ => push _ _

theorem plainSymbol (c : Char) (start : Nat) : Keeps Numbered (Reader.plainSymbol c start) := by
  refine bind flags fun f => ite (pure _) (ite (bind bound fun _ => skipLine _) ?_)
  split
  · exact bind (charSet _) fun _ => push _ _
  · exact repeatLast _ _ _
  · exact repeatLast _ _ _
  · exact repeatLast _ _ _
  · exact brace _
  · exact push _ _
  · exact openGroup _
  · exact push _ _
  · exact push _ _
  · exact bind (literal _) fun _ => push _ _

theorem parts (n : Nat) : Keeps Numbered (Reader.parts n) := by
  induction n with
  | zero => exact pure _
  | succ n ih =>
    refine get_bind fun s _ => ?_
    dsimp only
    split
    · exact pure _
    · split
      · exact pure _
      · exact bind advance fun _ => bind (closeGroup _ _) fun _ => ih
    · exact bind nextBranch fun _ => ih
    · exact bind advance fun _ => bind (plainSymbol _ _) fun _ => ih
    · exact bind advance fun _ => bind (escape _) fun _ => bind (push _ _) fun _ => ih

theorem pattern : Keeps Numbered Reader.pattern := by
  refine bind bound fun _ => bind (parts _) fun _ => get_bind fun s _ => ?_
  dsimp only
  split
  · exact of_fails (.bind (.rejectAt _ _) _)
  refine guarded (.throw _) (guarded (.reject _ _) ?_)
  split
  · exact of_fails (.bind (.rejectAt _ _) _)
  · exact pure _

end Reader.Keeps

/-- The reading that a compiled pattern comes from. -/
theorem exists_reading_of_compile {pattern : String} {flags : Flags}
    {codeNamed? : String → Option Nat} {r : Regex} (h : compile pattern flags codeNamed? = .ok r) :
    ∃ source s,
      Reader.pattern.run ⟨source, .none, .fresh flags, [], codeNamed?⟩ = .ok (r.root, s) ∧
      r.groups = s.groups.count ∧ r.names = s.groups.names := by
  unfold compile at h
  cases hsource : Source.ofPattern pattern.toList with
  | error e => simp [hsource, Bind.bind, Except.bind] at h
  | ok source =>
    simp only [hsource, Bind.bind, Except.bind] at h
    cases hread : Reader.pattern.run ⟨source, .none, .fresh flags, [], codeNamed?⟩ with
    | error e => simp [hread] at h
    | ok result =>
      simp only [hread] at h
      split at h
      · cases h
      · cases h
        exact ⟨source, result.2, hread, rfl, rfl⟩

/-- Each name of a compiled pattern belongs to one of its groups. -/
theorem numbered_of_compile {pattern : String} {flags : Flags} {codeNamed? : String → Option Nat}
    {r : Regex} (h : compile pattern flags codeNamed? = .ok r) :
    ∀ p ∈ r.names, 1 ≤ p.2 ∧ p.2 ≤ r.groups := by
  obtain ⟨source, s, hread, hgroups, hnames⟩ := exists_reading_of_compile h
  rw [hgroups, hnames]
  exact Reader.Keeps.pattern _ _ _ (fun p hp => absurd hp List.not_mem_nil) hread

end PasteRules.Regex
