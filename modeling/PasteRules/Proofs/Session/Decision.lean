import PasteRules.Proofs.Rules.Diagnosis
import PasteRules.Proofs.Session.Invariant
import PasteRules.Proofs.Session.Paste

/-! When a session replaces what is pasted. After any steps the decision comes from the rules that
the store compiles to then, and the paste leaves the session as it was but for the rules that it has
compiled. -/
namespace PasteRules

/-- Content types as they are handed over with a paste: a list of names, or nothing. -/
def Json.ofTypes : Option (List String) → Json
  | some names => .arr (names.map .str)
  | none => .null

namespace Session

variable {σ : Type}

structure Considers (s : Session σ) (types : Option (List String)) (pasted : Option String)
    (handled : Bool) (text : String) : Prop where
  active : s.active = true
  unhandled : handled = false
  plain : types = some ["text/plain"]
  pasted : pasted = some text
  nonempty : text ≠ ""

def Replaces (s : Session σ) (types : Option (List String)) (pasted : Option String)
    (handled : Bool) (result : String) : Prop :=
  ∃ text rules, s.Considers types pasted handled text ∧ s.store.rules = .ok rules ∧
    result = Rule.transform rules (some text) ∧ result ≠ text

/-- What a session decides about a paste: the text that takes its place if its rules change the
pasted text, the fault if the rules are asked for and compiling a pattern in use fails, and else to
leave the paste alone. -/
structure Decides (s : Session σ) (types : Option (List String)) (pasted : Option String)
    (handled : Bool) (result : Except Fault PasteDecision) : Prop where
  replaces : ∀ text, result = .ok (.replace text) ↔ s.Replaces types pasted handled text
  fails : ∀ fault, result = .error fault ↔
    (∃ text, s.Considers types pasted handled text) ∧ s.store.FailsWith fault
  leaves : result = .ok .leave ↔ (¬∃ text, s.Replaces types pasted handled text) ∧
    ¬((∃ text, s.Considers types pasted handled text) ∧ ∃ fault, s.store.FailsWith fault)

theorem Coherent.currentRules_eq {s : Session σ} (h : s.Coherent) :
    s.currentRules = s.store.rules := by
  unfold currentRules
  cases hc : s.compiled with
  | none => rfl
  | some cache =>
    dsimp only
    split
    · next hlast => exact ((h _ _ hc).2 hlast).symm
    · rfl

namespace Action

theorem contentTypes?_ofTypes (types : Option (List String)) :
    contentTypes? (.ofTypes types) = .ok (types.map (List.map Json.str)) := by
  cases types <;> rfl

theorem isPlainText_map_str (types : Option (List String)) :
    isPlainText (types.map (List.map Json.str)) = true ↔ types = some ["text/plain"] := by
  cases types with
  | none => simp [isPlainText]
  | some names =>
    match names with
    | [] => simp [isPlainText]
    | [name] => simp [isPlainText]
    | _ :: _ :: _ => simp [isPlainText]

end Action

variable {s : Session σ} {types : Option (List String)} {pasted : Option String} {handled : Bool}
  {text : String}

theorem Considers.unique (h : s.Considers types pasted handled text) {other : String}
    (h' : s.Considers types pasted handled other) : other = text :=
  Option.some.inj (h'.pasted.symm.trans h.pasted)

theorem run_paste_of_considers (hs : s.Coherent) (h : s.Considers types pasted handled text) :
    (s.run (Action.paste (.ofTypes types) pasted handled)).1 =
      (s.store.rules.map fun rules => Rule.transform rules (some text)).map
        (Action.decisionOn text) := by
  obtain ⟨hactive, rfl, rfl, rfl, hnonempty⟩ := h
  refine (Action.paste_yields _ _ _ s "").trans ?_
  rw [Action.contentTypes?_ofTypes, hs.currentRules_eq.symm]
  simp [hactive, Except.bind, Action.decided, Action.isPlainText, hnonempty]

theorem run_paste_of_not_considers (h : ¬∃ text, s.Considers types pasted handled text) :
    (s.run (Action.paste (.ofTypes types) pasted handled)).1 = .ok .leave := by
  refine (Action.paste_yields _ _ _ s "").trans ?_
  rw [Action.contentTypes?_ofTypes]
  split
  · rfl
  · next hlooked =>
    obtain ⟨hactive, hunhandled⟩ : s.active = true ∧ handled = false := by simpa using hlooked
    dsimp only [Except.bind, Action.decided]
    split
    · next t hplain =>
      split
      · rfl
      · next hnonempty =>
        have htypes := (Action.isPlainText_map_str types).mp hplain
        exact absurd ⟨t, hactive, hunhandled, htypes, rfl, hnonempty⟩ h
    · rfl

theorem replaces_iff (h : s.Considers types pasted handled text) {rules : List Rule}
    (hrules : s.store.rules = .ok rules) {result : String} :
    s.Replaces types pasted handled result ↔
      result = Rule.transform rules (some text) ∧ result ≠ text := by
  constructor
  · rintro ⟨other, rules', hother, hrules', hresult, hne⟩
    obtain rfl := h.unique hother
    obtain rfl := Except.ok.inj (hrules.symm.trans hrules')
    exact ⟨hresult, hne⟩
  · rintro ⟨hresult, hne⟩
    exact ⟨text, rules, h, hrules, hresult, hne⟩

namespace Decides

theorem leave (hkept : ¬∃ result, s.Replaces types pasted handled result)
    (hsettled : ¬((∃ text, s.Considers types pasted handled text) ∧
      ∃ fault, s.store.FailsWith fault)) :
    s.Decides types pasted handled (.ok .leave) where
  replaces result := iff_of_false (by simp [PasteDecision.leave, PasteDecision.replace])
    fun hreplaces => hkept ⟨result, hreplaces⟩
  fails fault := iff_of_false nofun fun hfails => hsettled ⟨hfails.1, fault, hfails.2⟩
  leaves := iff_of_true rfl ⟨hkept, hsettled⟩

theorem fail (h : s.Considers types pasted handled text) {fault : Fault}
    (hrules : s.store.rules = .error fault) : s.Decides types pasted handled (.error fault) where
  replaces result := by
    refine iff_of_false nofun ?_
    rintro ⟨-, rules, -, hok, -⟩
    rw [hrules] at hok
    cases hok
  fails fault' := by
    rw [← Store.rules_eq_error_iff, hrules]
    constructor
    · intro hsame
      cases hsame
      exact ⟨⟨text, h⟩, rfl⟩
    · rintro ⟨-, hsame⟩
      cases hsame
      rfl
  leaves := by
    refine iff_of_false nofun fun hleft => hleft.2 ⟨⟨text, h⟩, fault, ?_⟩
    exact Store.rules_eq_error_iff.mp hrules

theorem settle (h : s.Considers types pasted handled text) {rules : List Rule}
    (hrules : s.store.rules = .ok rules) :
    s.Decides types pasted handled
      (.ok (Action.decisionOn text (Rule.transform rules (some text)))) := by
  have hsettled : ¬∃ fault, s.store.FailsWith fault := by
    rintro ⟨fault, hfails⟩
    rw [← Store.rules_eq_error_iff, hrules] at hfails
    cases hfails
  unfold Action.decisionOn
  split
  · next hsame =>
    refine .leave ?_ fun hfails => hsettled hfails.2
    rintro ⟨result, hreplaces⟩
    obtain ⟨rfl, hne⟩ := (replaces_iff h hrules).mp hreplaces
    exact hne hsame
  · next hchanged =>
    constructor
    · intro result
      rw [replaces_iff h hrules]
      constructor
      · intro hresult
        obtain rfl : Rule.transform rules (some text) = result := by
          simpa [PasteDecision.replace] using hresult
        exact ⟨rfl, hchanged⟩
      · rintro ⟨rfl, -⟩
        rfl
    · exact fun fault => iff_of_false nofun fun hfails => hsettled ⟨fault, hfails.2⟩
    · refine iff_of_false (by simp [PasteDecision.leave, PasteDecision.replace]) fun hleft => ?_
      exact hleft.1 ⟨_, (replaces_iff h hrules).mpr ⟨rfl, hchanged⟩⟩

end Decides

theorem Coherent.decides (hs : s.Coherent) (types : Option (List String)) (pasted : Option String)
    (handled : Bool) :
    s.Decides types pasted handled (s.run (Action.paste (.ofTypes types) pasted handled)).1 := by
  by_cases hconsidered : ∃ text, s.Considers types pasted handled text
  · obtain ⟨text, h⟩ := hconsidered
    rw [run_paste_of_considers hs h]
    cases hrules : s.store.rules with
    | error fault => exact .fail h hrules
    | ok rules => exact .settle h hrules
  · rw [run_paste_of_not_considers hconsidered]
    refine .leave ?_ fun hfails => hconsidered hfails.1
    rintro ⟨result, text, rules, h, -⟩
    exact hconsidered ⟨text, h⟩

/-- Of a session that decides about a paste, only the compiled rules change. -/
theorem run_paste_session (s : Session σ) (types : Json) (pasted : Option String) (handled : Bool) :
    ∃ compiled, (s.run (Action.paste types pasted handled)).2.2 = { s with compiled } := by
  have hc : Consulting (fun t : Session σ => ∃ compiled, t = { s with compiled })
      (fun _ => True) := {
    compiled := by
      rintro t ⟨-, rfl⟩ compiled
      exact ⟨compiled, rfl⟩
    print := fun _ _ _ _ _ => trivial }
  exact (hc.paste types pasted handled ⟨s, ""⟩ ⟨s.compiled, rfl⟩ trivial).1

/-- After any steps a session replaces what is pasted if and only if it is active, nobody has
handled the paste, it is plain text alone and not empty, and the rules that the store compiles to
then change it; the text that they make of it takes its place and the usual handling is held back.
It fails if and only if it gets as far as the rules and compiling them fails, and leaves the paste
alone otherwise. The store, its revision and both switches stay as they are. -/
theorem Opened.paste_decided [IdSupply σ] {s : Session σ} (hs : Opened s) {steps : List Step}
    (hsteps : ∀ step ∈ steps, step.hasIntegerIndex = true) (types : Option (List String))
    (pasted : Option String) (handled : Bool) :
    (s.after steps).Decides types pasted handled
        ((s.after steps).run (Action.paste (.ofTypes types) pasted handled)).1 ∧
      ∃ compiled, ((s.after steps).run (Action.paste (.ofTypes types) pasted handled)).2.2 =
        { s.after steps with compiled } :=
  ⟨(hs.coherent.after hsteps).decides types pasted handled, run_paste_session _ _ _ _⟩

def switchedBack : List Step :=
  [.rules, .edit (.moveLink "l-6" (.int (-1))), .toggleActive, .transform (some "b"),
    .edit (.editReplacer "r-4" "<$&>"), .edit (.removeLink "l-9"), .setActive true]

/-- The former rules would have taken the first place and another template. -/
theorem switchedBack_paste_decided :
    let saved : Json := .obj [("patterns", .arr [.str "a+", .str "b"]),
      ("replacers", .arr [.str "X", .str "Y"])]
    let s : Session Counting := (load saved ⟨1⟩).after switchedBack
    Opened (load saved (Counting.mk 1)) ∧
      (∀ step ∈ switchedBack, step.hasIntegerIndex = true) ∧
      s.Replaces (some ["text/plain"]) (some "abc") false "a<b>c" ∧
      (s.run (Action.paste (.ofTypes (some ["text/plain"])) (some "abc") false)).1 =
        .ok (.replace "a<b>c") ∧
      (s.run (Action.paste (.ofTypes (some ["text/html", "text/plain"])) (some "abc") false)).1 =
        .ok .leave := by
  intro saved s
  have hopened : Opened (load saved (Counting.mk 1)) := .load _ _
  have hsteps : ∀ step ∈ switchedBack, step.hasIntegerIndex = true := by
    simp [switchedBack, Step.hasIntegerIndex, Edit.hasIntegerIndex]
  have hactive : s.active = true := by decide +kernel
  have hrules : s.store.rules.map (fun rules => Rule.transform rules (some "abc")) =
      .ok "a<b>c" := by decide +kernel
  obtain ⟨rules, hok, hresult⟩ : ∃ rules, s.store.rules = .ok rules ∧
      Rule.transform rules (some "abc") = "a<b>c" := by
    cases hr : s.store.rules with
    | error fault => simp [hr, Except.map] at hrules
    | ok rules => exact ⟨rules, rfl, by simpa [hr, Except.map] using hrules⟩
  have hreplaces : s.Replaces (some ["text/plain"]) (some "abc") false "a<b>c" :=
    ⟨"abc", rules, ⟨hactive, rfl, rfl, rfl, by decide⟩, hok, hresult.symm, by decide⟩
  obtain ⟨hplain, -⟩ := hopened.paste_decided hsteps (some ["text/plain"]) (some "abc") false
  obtain ⟨hmixed, -⟩ :=
    hopened.paste_decided hsteps (some ["text/html", "text/plain"]) (some "abc") false
  have hno : ¬∃ text, s.Considers (some ["text/html", "text/plain"]) (some "abc") false text := by
    rintro ⟨text, h⟩
    simpa using h.plain
  refine ⟨hopened, hsteps, hreplaces, (hplain.replaces _).mpr hreplaces, hmixed.leaves.mpr ⟨?_, ?_⟩⟩
  · rintro ⟨result, text, rules, h, -⟩
    exact hno ⟨text, h⟩
  · exact fun hfails => hno hfails.1

def contradictoryPattern : Json :=
  .obj [("patterns", .arr [.str "(?a)(?u)b"]), ("replacers", .arr [.str "X"])]

/-- No decision comes of a paste then, not even to leave it alone. -/
theorem contradictoryPattern_undecided :
    let s : Session Counting := load contradictoryPattern ⟨1⟩
    (s.run (Action.paste (.ofTypes (some ["text/plain"])) (some "a") false)).1 =
        .error .alphabetsContradict ∧
      ∀ decision, (s.run (Action.paste (.ofTypes (some ["text/plain"])) (some "a") false)).1 ≠
        .ok decision := by
  have hfault : ((load contradictoryPattern (Counting.mk 1)).run
      (Action.paste (.ofTypes (some ["text/plain"])) (some "a") false)).1 =
        .error .alphabetsContradict := by decide +kernel
  refine ⟨hfault, fun decision hdecided => ?_⟩
  rw [hfault] at hdecided
  cases hdecided

end Session
end PasteRules
