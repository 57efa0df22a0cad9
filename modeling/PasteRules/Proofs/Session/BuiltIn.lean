import PasteRules.Proofs.Regex.Line
import PasteRules.Proofs.Regex.Walk
import PasteRules.Proofs.Session.ByPlace

/-! The built-in rules. Each of them rewrites every address of its kind, whatever the names in the
address are. -/
namespace PasteRules

open Regex (CharClass CharTest IsRun Mark Piece State Bounded lineNode spell walk?)

structure Place.IsLine (p : Place) (groups : Nat) (row : List Piece) : Prop where
  enabled : p.enabled = true
  compiled : compilePattern p.pattern = .ok (.ok ⟨p.pattern, groups, [], lineNode row⟩)

namespace Place.IsLine

variable {p : Place} {groups : Nat} {row : List Piece} {text : String} {before : List Char}
  {marks : List Mark}

theorem rule?_eq (h : p.IsLine groups row) :
    p.rule? = some (.make "" ⟨p.pattern, groups, [], lineNode row⟩ p.template) := by
  rw [rule?, h.enabled, h.compiled]
  rfl

theorem fault?_eq (h : p.IsLine groups row) : p.fault? = none := by
  rw [fault?, h.enabled, h.compiled]
  rfl

theorem appliesTo_eq_false (h : p.IsLine groups row) (hbounded : Bounded row)
    (hwalk : walk? row (.initial groups text.toList) = none) : p.appliesTo text = false := by
  let regex : Regex := ⟨p.pattern, groups, [], lineNode row⟩
  have hfind : regex.find? text.toList = none := Regex.find?_line_eq_none rfl hbounded hwalk
  simp [appliesTo, h.rule?_eq, Rule.applies, Rule.make, regex, hfind]

theorem appliesTo_eq_true (h : p.IsLine groups row)
    (hwalk : walk? row (.initial groups text.toList) = some ⟨.between before [], marks⟩) :
    p.appliesTo text = true := by
  let regex : Regex := ⟨p.pattern, groups, [], lineNode row⟩
  have hfind : regex.find? text.toList = some _ := Regex.find?_line_eq_some rfl hwalk
  simp [appliesTo, h.rule?_eq, Rule.applies, Rule.make, regex, hfind]

/-- A match of the whole text is replaced as a whole. -/
theorem apply_eq (h : p.IsLine groups row) (htext : text.toList ≠ [])
    (hwalk : walk? row (.initial groups text.toList) = some ⟨.between before [], marks⟩) :
    p.apply text = String.ofList (Template.replacement ⟨p.pattern, groups, [], lineNode row⟩
      (Template.parse groups [] p.template.toList)
      ⟨.ofText text.toList, .between before [], marks⟩) := by
  let regex : Regex := ⟨p.pattern, groups, [], lineNode row⟩
  have hlength : (Regex.Cursor.between before []).left < text.toList.length := by
    exact List.length_pos_of_ne_nil htext
  have hreplace (replacement) := Regex.replace_line (r := regex) rfl hwalk hlength replacement
  simp only [apply, h.rule?_eq, Option.map_some, Option.getD_some, Rule.apply, Rule.make]
  rw [hreplace]
  simp [Template.forRegex, Regex.Cursor.between]

end Place.IsLine

/-- The first place that applies is carried out. -/
theorem Place.transform_of_appliesTo {p : Place} {text : String} (before after : List Place)
    (hbefore : ∀ q ∈ before, q.appliesTo text = false) (hp : p.appliesTo text = true) :
    transform (before ++ p :: after) text = p.apply text := by
  have hnone : before.find? (·.appliesTo text) = none := by simpa using hbefore
  simp [transform, hnone, hp]

namespace BuiltIn

def notSlash : CharTest := .is '/' true

def digit : CharTest := .set false [.kind .digit false] false .exact

def wordChar : CharTest := .set false [.kind .word false] false .exact

def notBlank : CharTest := .set true [.kind .space false] false .exact

def repository (row : List Piece) : List Piece :=
  spell "https://github".toList ++ .char .notNewline :: (spell "com/".toList ++
    .run none notSlash :: .char (.is '/' false) :: .run (some 1) notSlash :: row)

/-- The row of the address of something of a kind that has a number in a repository. The kind is
given with the slashes around it. -/
def numbered (kind : String) : List Piece :=
  repository (spell kind.toList ++ [.run (some 2) digit])

def article : List Piece :=
  spell "https://".toList ++ .run none wordChar :: .char .notNewline :: (spell "wikipedia".toList ++
    .char .notNewline :: (spell "org/wiki/".toList ++ [.run (some 1) notBlank]))

section

variable {o r n w a rest : List Char}

/-- A name does not go on behind a slash. -/
theorem rejects_of_head? (h : rest.head? = some '/') :
    ∀ c ∈ rest.head?, notSlash.accepts c = false := by
  simp [h, notSlash, CharTest.accepts_is]

def repositoryStart (o : List Char) : List Char := "https://github.com/".toList ++ o ++ ['/']

/-- The dot is a part of its own. -/
theorem repositoryStart_eq (o : List Char) :
    repositoryStart o = "https://github".toList ++ '.' :: ("com/".toList ++ (o ++ ['/'])) := by
  have hhost : "https://github.com/".toList = "https://github".toList ++ '.' :: "com/".toList := by
    simp
  refine (congrArg (· ++ o ++ ['/']) hhost).trans ?_
  generalize "https://github".toList = host
  generalize "com/".toList = domain
  simp

theorem walk?_repository {marks : List Mark} (hmarks : 0 < marks.length) (ho : IsRun notSlash o)
    (hr : IsRun notSlash r) (hrest : ∀ c ∈ rest.head?, notSlash.accepts c = false)
    (row : List Piece) :
    walk? (repository row) ⟨.between [] (repositoryStart o ++ r ++ rest), marks⟩ =
      walk? row ⟨.between (repositoryStart o ++ r) rest,
        marks.set 0 (.around (repositoryStart o) r rest)⟩ := by
  have hpoint : CharTest.accepts '.' .notNewline = true := rfl
  have hslash : CharTest.accepts '/' (.is '/' false) = true := rfl
  have hend : ∀ c ∈ ('/' :: (r ++ rest)).head?, notSlash.accepts c = false := by
    simp [notSlash, CharTest.accepts_is]
  rw [repository, repositoryStart_eq]
  generalize "https://github".toList = host
  generalize "com/".toList = domain
  simp only [List.append_assoc, List.cons_append, List.nil_append]
  rw [Regex.walk?_spell, Regex.walk?_char _ _ _ hpoint, Regex.walk?_spell,
    Regex.walk?_run _ _ _ ho hend, Regex.walk?_char _ _ _ hslash,
    Regex.walk?_group _ _ hmarks hr hrest]
  simp

theorem walk?_numbered {kind : String} (hkind : kind.toList.head? = some '/')
    (ho : IsRun notSlash o) (hr : IsRun notSlash r) (hn : IsRun digit n) :
    walk? (numbered kind) (.initial 2 (repositoryStart o ++ r ++ (kind.toList ++ n))) =
      some ⟨.between (repositoryStart o ++ r ++ kind.toList ++ n) [],
        [.around (repositoryStart o) r (kind.toList ++ n),
          .around (repositoryStart o ++ r ++ kind.toList) n []]⟩ := by
  have hmarks : 0 < [({} : Mark), {}].length := Nat.zero_lt_two
  have hrest : (kind.toList ++ n).head? = some '/' := by simp [List.head?_append, hkind]
  refine (walk?_repository hmarks ho hr (rejects_of_head? hrest) _).trans ?_
  rw [Regex.walk?_spell, Regex.walk?_last_group _ (by simp) hn]
  rfl

theorem walk?_numbered_eq_none {kind : String} {i : Nat} (ho : IsRun notSlash o)
    (hr : IsRun notSlash r) (hrest : ∀ c ∈ rest.head?, notSlash.accepts c = false)
    (hi : i < kind.toList.length) (hother : ∀ c ∈ rest[i]?, c ≠ kind.toList[i]) :
    walk? (numbered kind) (.initial 2 (repositoryStart o ++ r ++ rest)) = none := by
  have hmarks : 0 < [({} : Mark), {}].length := Nat.zero_lt_two
  refine (walk?_repository hmarks ho hr hrest _).trans ?_
  rw [Regex.walk?_spell_eq_none _ _ hi hother]

theorem walk?_repository_nil (ho : IsRun notSlash o) (hr : IsRun notSlash r) :
    walk? (repository []) (.initial 1 (repositoryStart o ++ r)) =
      some ⟨.between (repositoryStart o ++ r) [], [.around (repositoryStart o) r []]⟩ := by
  have hmarks : 0 < [({} : Mark)].length := Nat.zero_lt_one
  have hrest : ∀ c ∈ ([] : List Char).head?, notSlash.accepts c = false := by simp
  have hwalk := walk?_repository hmarks ho hr hrest []
  rwa [List.append_nil] at hwalk

def articleStart (w : List Char) : List Char :=
  "https://".toList ++ w ++ ".wikipedia.org/wiki/".toList

/-- The dots are parts of their own. -/
theorem articleStart_eq (w : List Char) :
    articleStart w = "https://".toList ++ (w ++ '.' :: ("wikipedia".toList ++
      '.' :: "org/wiki/".toList)) := by
  have hpath : ".wikipedia.org/wiki/".toList =
      '.' :: ("wikipedia".toList ++ '.' :: "org/wiki/".toList) := by simp
  refine (congrArg ("https://".toList ++ w ++ ·) hpath).trans ?_
  exact List.append_assoc ..

/-- The path begins with a slash, and there is none in the domain. -/
theorem articleStart_eq_path (w : List Char) :
    articleStart w = "https://".toList ++ ((w ++ ".wikipedia.org".toList) ++ "/wiki/".toList) := by
  have hpath : ".wikipedia.org/wiki/".toList = ".wikipedia.org".toList ++ "/wiki/".toList := by
    simp
  refine (congrArg ("https://".toList ++ w ++ ·) hpath).trans ?_
  generalize "https://".toList = scheme
  generalize ".wikipedia.org".toList = domain
  simp

theorem wordChar_rejects : wordChar.accepts '.' = false ∧ wordChar.accepts '/' = false := by
  decide +kernel

theorem walk?_article (hw : IsRun wordChar w) (ha : IsRun notBlank a) :
    walk? article (.initial 1 (articleStart w ++ a)) =
      some ⟨.between (articleStart w ++ a) [], [.around (articleStart w) a []]⟩ := by
  have hpoint : CharTest.accepts '.' .notNewline = true := rfl
  obtain ⟨hword, -⟩ := wordChar_rejects
  change walk? article ⟨.between [] (articleStart w ++ a), [{}]⟩ = _
  rw [article, articleStart_eq]
  generalize "https://".toList = scheme
  generalize "wikipedia".toList = domain
  generalize "org/wiki/".toList = path
  simp only [List.append_assoc, List.cons_append]
  rw [Regex.walk?_spell, Regex.walk?_run _ _ _ hw (by simpa using hword),
    Regex.walk?_char _ _ _ hpoint, Regex.walk?_spell, Regex.walk?_char _ _ _ hpoint,
    Regex.walk?_spell, Regex.walk?_last_group _ (by simp) ha]
  simp

/-- The characters that the address of a repository begins with, where the dot may be another. -/
def hostTests : List CharTest :=
  "https://github".toList.map (.is · false) ++ .notNewline :: "com/".toList.map (.is · false)

theorem repository_eq (row : List Piece) :
    repository row = hostTests.map Piece.char ++
      (.run none notSlash :: .char (.is '/' false) :: .run (some 1) notSlash :: row) := by
  unfold repository hostTests
  generalize "https://github".toList = host
  generalize "com/".toList = domain
  simp [spell, Function.comp_def]

/-- The last of them is the slash behind the domain. -/
theorem hostTests_last : hostTests[18]? = some (.is '/' false) := by decide +kernel

/-- The address of an article is not that of a repository: its domain is too long. -/
theorem walk?_repository_article (hw : IsRun wordChar w) {groups : Nat} (row : List Piece) :
    walk? (repository row) (.initial groups (articleStart w ++ a)) = none := by
  obtain ⟨hlast, hslash⟩ := List.getElem?_eq_some_iff.mp hostTests_last
  have hw' : '/' ∉ w := by
    intro hmem
    have hword := hw.accepted _ hmem
    rw [wordChar_rejects.2] at hword
    cases hword
  have hdomain : '/' ∉ w ++ ".wikipedia.org".toList := by
    rw [List.mem_append]
    exact not_or.mpr ⟨hw', by decide⟩
  have hlength : 10 < (w ++ ".wikipedia.org".toList).length := by
    have := List.length_pos_of_ne_nil hw.ne_nil
    have : ".wikipedia.org".toList.length = 14 := rfl
    rw [List.length_append]
    omega
  have hat : (articleStart w ++ a)[18]? = (w ++ ".wikipedia.org".toList)[10]? := by
    have hscheme : "https://".toList.length = 8 := rfl
    rw [articleStart_eq_path, List.append_assoc, List.append_assoc,
      List.getElem?_append_right (by omega), hscheme, List.getElem?_append_left hlength]
  rw [repository_eq]
  refine Regex.walk?_chars_eq_none [] _ hlast (fun c hc => ?_) _
  rw [hat] at hc
  rw [hslash, CharTest.accepts_is]
  have hne : c ≠ '/' := fun h => hdomain (h ▸ List.mem_of_getElem? hc)
  simpa using hne

def issues : Place :=
  ⟨"^https://github.com/[^/]+/([^/]+)/issues/(\\d+)$", "[🐈‍⬛🔨 $1#$2]($&)", true⟩

def pulls : Place :=
  ⟨"^https://github.com/[^/]+/([^/]+)/pull/(\\d+)$", "[🐈‍⬛🛠︎ $1#$2]($&)", true⟩

def repositories : Place :=
  ⟨"^https://github.com/[^/]+/([^/]+)$", "[🐈‍⬛ $1]($&)", true⟩

def articles : Place :=
  ⟨"^https://\\w+.wikipedia.org/wiki/([^\\s]+)$", "[📖 $1]($&)", true⟩

def places : List Place := [issues, pulls, repositories, articles]

theorem places_overBuiltIn : (Settings.overBuiltIn .null).places = places := by decide +kernel

theorem places_isLine :
    issues.IsLine 2 (numbered "/issues/") ∧ pulls.IsLine 2 (numbered "/pull/") ∧
      repositories.IsLine 1 (repository []) ∧ articles.IsLine 1 article := by
  refine ⟨⟨rfl, ?_⟩, ⟨rfl, ?_⟩, ⟨rfl, ?_⟩, ⟨rfl, ?_⟩⟩ <;> decide +kernel

theorem findSome?_fault?_places : places.findSome? Place.fault? = none := by
  obtain ⟨hissues, hpulls, hrepositories, harticles⟩ := places_isLine
  simp [places, hissues.fault?_eq, hpulls.fault?_eq, hrepositories.fault?_eq, harticles.fault?_eq]

def numberedParts (icon : String) : List Template.Part :=
  [.literal icon.toList, .group 1, .literal "#".toList, .group 2, .literal "](".toList, .whole,
    .literal ")".toList]

def namedParts (icon : String) : List Template.Part :=
  [.literal icon.toList, .group 1, .literal "](".toList, .whole, .literal ")".toList]

theorem parse_templates :
    Template.parse 2 [] issues.template.toList = numberedParts "[🐈‍⬛🔨 " ∧
      Template.parse 2 [] pulls.template.toList = numberedParts "[🐈‍⬛🛠︎ " ∧
      Template.parse 1 [] repositories.template.toList = namedParts "[🐈‍⬛ " ∧
      Template.parse 1 [] articles.template.toList = namedParts "[📖 " := by
  decide +kernel

theorem bounds_slash (row : List Piece) :
    Regex.Bounds notSlash (.char (.is '/' false) :: row) := by
  intro c hc
  simpa [notSlash, CharTest.accepts_is] using hc

theorem bounded_repository {row : List Piece} (hrow : Bounded row)
    (hbounds : Regex.Bounds notSlash row) : Bounded (repository row) :=
  Regex.bounded_spell _ (Regex.bounded_spell _ ⟨bounds_slash _, hbounds, hrow⟩)

theorem bounded_numbered {kind : String} (hkind : kind.toList.head? = some '/') :
    Bounded (numbered kind) := by
  obtain ⟨path, hpath⟩ := List.head?_eq_some_iff.mp hkind
  refine bounded_repository (Regex.bounded_spell _ ⟨trivial, trivial⟩) ?_
  rw [hpath]
  exact bounds_slash _

variable {text : List Char} {icon : String} {regex : Regex} {m : Regex.Match}

theorem replacement_numbered {s t u v : List Char} (hwhole : m.whole = text)
    (hmarks : m.marks = [.around s r t, .around u n v]) :
    Template.replacement regex (numberedParts icon) m =
      icon.toList ++ r ++ "#".toList ++ n ++ "](".toList ++ text ++ ")".toList := by
  simp [numberedParts, Template.replacement, Template.expand?, Template.Part.expand?,
    Regex.Match.group?, hmarks, hwhole, Regex.Mark.text?_around]

theorem replacement_named {s t : List Char} (hwhole : m.whole = text)
    (hmarks : m.marks = [.around s r t]) :
    Template.replacement regex (namedParts icon) m =
      icon.toList ++ r ++ "](".toList ++ text ++ ")".toList := by
  simp [namedParts, Template.replacement, Template.expand?, Template.Part.expand?,
    Regex.Match.group?, hmarks, hwhole, Regex.Mark.text?_around]

end

section

def repositoryUrl (o r : String) : String := "https://github.com/" ++ o ++ "/" ++ r

def articleUrl (w a : String) : String := "https://" ++ w ++ ".wikipedia.org/wiki/" ++ a

variable {o r n w a : String} {p : Place} {kind : String}

theorem toList_repositoryUrl (o r : String) :
    (repositoryUrl o r).toList = repositoryStart o.toList ++ r.toList := by
  unfold repositoryUrl repositoryStart
  generalize "https://github.com/" = host
  simp

theorem toList_articleUrl (w a : String) :
    (articleUrl w a).toList = articleStart w.toList ++ a.toList := by
  unfold articleUrl articleStart
  generalize "https://" = scheme
  generalize ".wikipedia.org/wiki/" = path
  simp

/-- A rule for something with a number in a repository rewrites each address of its kind. -/
theorem apply_numbered {icon : String} (hp : p.IsLine 2 (numbered kind))
    (hkind : kind.toList.head? = some '/')
    (htemplate : Template.parse 2 [] p.template.toList = numberedParts icon)
    (ho : IsRun notSlash o.toList) (hr : IsRun notSlash r.toList) (hn : IsRun digit n.toList) :
    p.appliesTo (repositoryUrl o r ++ kind ++ n) = true ∧
      p.apply (repositoryUrl o r ++ kind ++ n) =
        icon ++ r ++ "#" ++ n ++ "](" ++ (repositoryUrl o r ++ kind ++ n) ++ ")" := by
  have htext : (repositoryUrl o r ++ kind ++ n).toList =
      repositoryStart o.toList ++ r.toList ++ (kind.toList ++ n.toList) := by
    simp [toList_repositoryUrl]
  have hwalk := walk?_numbered hkind ho hr hn
  rw [← htext] at hwalk
  refine ⟨hp.appliesTo_eq_true hwalk, ?_⟩
  have hne : (repositoryUrl o r ++ kind ++ n).toList ≠ [] := by simp [htext, hr.ne_nil]
  rw [hp.apply_eq hne hwalk, htemplate, replacement_numbered (Regex.Match.whole_eq ..) rfl]
  generalize "#" = hash
  generalize "](" = link
  generalize ")" = close
  simp only [String.ofList_append, String.ofList_toList]

/-- A rule with one name in it rewrites each address that the walk comes through to the end. -/
theorem apply_named {row : List Piece} {url start rest : List Char} {text name : String}
    {icon : String} (hp : p.IsLine 1 row)
    (htemplate : Template.parse 1 [] p.template.toList = namedParts icon)
    (hwalk : walk? row (.initial 1 text.toList) =
      some ⟨.between url [], [.around start name.toList rest]⟩) (htext : text.toList ≠ []) :
    p.appliesTo text = true ∧ p.apply text = icon ++ name ++ "](" ++ text ++ ")" := by
  refine ⟨hp.appliesTo_eq_true hwalk, ?_⟩
  rw [hp.apply_eq htext hwalk, htemplate, replacement_named (Regex.Match.whole_eq ..) rfl]
  generalize "](" = link
  generalize ")" = close
  simp only [String.ofList_append, String.ofList_toList]

theorem transform_issue (ho : IsRun notSlash o.toList) (hr : IsRun notSlash r.toList)
    (hn : IsRun digit n.toList) :
    Place.transform places (repositoryUrl o r ++ "/issues/" ++ n) =
      "[🐈‍⬛🔨 " ++ r ++ "#" ++ n ++ "](" ++ (repositoryUrl o r ++ "/issues/" ++ n) ++ ")" := by
  obtain ⟨hissues, -⟩ := places_isLine
  obtain ⟨htemplate, -⟩ := parse_templates
  obtain ⟨happlies, happly⟩ := apply_numbered hissues rfl htemplate ho hr hn
  exact (Place.transform_of_appliesTo [] _ (by simp) happlies).trans happly

theorem transform_pull (ho : IsRun notSlash o.toList) (hr : IsRun notSlash r.toList)
    (hn : IsRun digit n.toList) :
    Place.transform places (repositoryUrl o r ++ "/pull/" ++ n) =
      "[🐈‍⬛🛠︎ " ++ r ++ "#" ++ n ++ "](" ++ (repositoryUrl o r ++ "/pull/" ++ n) ++ ")" := by
  obtain ⟨hissues, hpulls, -⟩ := places_isLine
  obtain ⟨-, htemplate, -⟩ := parse_templates
  obtain ⟨happlies, happly⟩ := apply_numbered hpulls rfl htemplate ho hr hn
  have hissue : issues.appliesTo (repositoryUrl o r ++ "/pull/" ++ n) = false := by
    refine hissues.appliesTo_eq_false (bounded_numbered rfl) ?_
    have hother : ∀ c ∈ ("/pull/".toList ++ n.toList)[1]?, c ≠ "/issues/".toList[1] := by
      intro c hc
      obtain rfl : 'p' = c := Option.some.inj hc
      decide
    rw [String.toList_append, String.toList_append, toList_repositoryUrl, List.append_assoc]
    exact walk?_numbered_eq_none ho hr (rejects_of_head? rfl) (by decide) hother
  exact (Place.transform_of_appliesTo [issues] _ (by simpa using hissue) happlies).trans happly

theorem not_appliesTo_repositoryUrl (hp : p.IsLine 2 (numbered kind))
    (hkind : kind.toList.head? = some '/') (ho : IsRun notSlash o.toList)
    (hr : IsRun notSlash r.toList) : p.appliesTo (repositoryUrl o r) = false := by
  refine hp.appliesTo_eq_false (bounded_numbered hkind) ?_
  have hlength : 0 < kind.toList.length :=
    List.length_pos_iff_exists_mem.mpr ⟨_, List.mem_of_mem_head? hkind⟩
  rw [toList_repositoryUrl, ← List.append_nil (_ ++ _)]
  exact walk?_numbered_eq_none ho hr (by simp) hlength (by simp)

theorem transform_repository (ho : IsRun notSlash o.toList) (hr : IsRun notSlash r.toList) :
    Place.transform places (repositoryUrl o r) =
      "[🐈‍⬛ " ++ r ++ "](" ++ repositoryUrl o r ++ ")" := by
  have hwalk := walk?_repository_nil ho hr
  rw [← toList_repositoryUrl] at hwalk
  have hne : (repositoryUrl o r).toList ≠ [] := by simp [toList_repositoryUrl, hr.ne_nil]
  obtain ⟨hissues, hpulls, hrepositories, -⟩ := places_isLine
  obtain ⟨-, -, htemplate, -⟩ := parse_templates
  obtain ⟨happlies, happly⟩ := apply_named hrepositories htemplate hwalk hne
  have hissue := not_appliesTo_repositoryUrl hissues rfl ho hr
  have hpull := not_appliesTo_repositoryUrl hpulls rfl ho hr
  exact (Place.transform_of_appliesTo [issues, pulls] _ (by simp [hissue, hpull]) happlies).trans
    happly

theorem not_appliesTo_articleUrl {groups : Nat} {row : List Piece}
    (hp : p.IsLine groups (repository row)) (hbounded : Bounded (repository row))
    (hw : IsRun wordChar w.toList) : p.appliesTo (articleUrl w a) = false := by
  refine hp.appliesTo_eq_false hbounded ?_
  rw [toList_articleUrl]
  exact walk?_repository_article hw row

theorem transform_article (hw : IsRun wordChar w.toList) (ha : IsRun notBlank a.toList) :
    Place.transform places (articleUrl w a) =
      "[📖 " ++ a ++ "](" ++ articleUrl w a ++ ")" := by
  have hwalk := walk?_article hw ha
  rw [← toList_articleUrl] at hwalk
  have hne : (articleUrl w a).toList ≠ [] := by simp [toList_articleUrl, ha.ne_nil]
  obtain ⟨hissues, hpulls, hrepositories, harticles⟩ := places_isLine
  obtain ⟨-, -, -, htemplate⟩ := parse_templates
  obtain ⟨happlies, happly⟩ := apply_named harticles htemplate hwalk hne
  have hissue : issues.appliesTo (articleUrl w a) = false :=
    not_appliesTo_articleUrl hissues (bounded_numbered rfl) hw
  have hpull : pulls.appliesTo (articleUrl w a) = false :=
    not_appliesTo_articleUrl hpulls (bounded_numbered rfl) hw
  have hrepository : repositories.appliesTo (articleUrl w a) = false :=
    not_appliesTo_articleUrl hrepositories (bounded_repository trivial trivial) hw
  exact (Place.transform_of_appliesTo [issues, pulls, repositories] _
    (by simp [hissue, hpull, hrepository]) happlies).trans happly

theorem isRun_of_ne {test : CharTest} {s : String} (hne : s ≠ "")
    (h : ∀ c ∈ s.toList, test.accepts c = true) : IsRun test s.toList :=
  ⟨mt String.toList_eq_nil_iff.mp hne, h⟩

theorem isRun_notSlash {s : String} (h : s ≠ "" ∧ '/' ∉ s.toList) : IsRun notSlash s.toList := by
  refine isRun_of_ne h.1 fun c hc => ?_
  have hne : c ≠ '/' := fun heq => h.2 (heq ▸ hc)
  simpa [notSlash, CharTest.accepts_is] using hne

end

end BuiltIn

namespace Session

open BuiltIn

/-- A session that was never saved transforms by the built-in places. -/
theorem next_transform_load_null {σ : Type} [IdSupply σ] (ids : σ) {text result : String}
    (htext : text.toList ≠ []) (h : Place.transform places text = result) :
    ((load .null ids).next (.transform (some text))).1 = .ok (.text result) := by
  have hform : Generation.ofJson (Settings.overBuiltIn .null) ≠ .linkGraph := by decide
  have hne : text ≠ "" := mt String.toList_eq_nil_iff.mpr htext
  rw [next_transform_of_pairedByPlace (.of_none rfl) (load_pairedByPlace hform ids) hne,
    places_overBuiltIn, findSome?_fault?_places, h]

/-- A session that was never saved rewrites all addresses of issues, pull requests, repositories and
articles. -/
theorem load_null_transform {σ : Type} [IdSupply σ] (ids : σ) {o r n w a : String}
    (ho : o ≠ "" ∧ '/' ∉ o.toList) (hr : r ≠ "" ∧ '/' ∉ r.toList)
    (hn : n ≠ "" ∧ ∀ c ∈ n.toList, CharClass.digit.contains false c.toNat = true)
    (hw : w ≠ "" ∧ ∀ c ∈ w.toList, CharClass.word.contains false c.toNat = true)
    (ha : a ≠ "" ∧ ∀ c ∈ a.toList, CharClass.space.contains false c.toNat = false) :
    let transform (text : String) := ((load .null ids).next (.transform (some text))).1
    let issue := repositoryUrl o r ++ "/issues/" ++ n
    let pull := repositoryUrl o r ++ "/pull/" ++ n
    transform issue = .ok (.text ("[🐈‍⬛🔨 " ++ r ++ "#" ++ n ++ "](" ++ issue ++ ")")) ∧
      transform pull = .ok (.text ("[🐈‍⬛🛠︎ " ++ r ++ "#" ++ n ++ "](" ++ pull ++ ")")) ∧
      transform (repositoryUrl o r) =
        .ok (.text ("[🐈‍⬛ " ++ r ++ "](" ++ repositoryUrl o r ++ ")")) ∧
      transform (articleUrl w a) = .ok (.text ("[📖 " ++ a ++ "](" ++ articleUrl w a ++ ")")) := by
  have ho' := isRun_notSlash ho
  have hr' := isRun_notSlash hr
  have hn' : IsRun digit n.toList := isRun_of_ne hn.1 fun c hc => by
    simp [digit, CharTest.accepts, CharTest.inSet, Regex.CharItem.contains, hn.2 c hc]
  have hw' : IsRun wordChar w.toList := isRun_of_ne hw.1 fun c hc => by
    simp [wordChar, CharTest.accepts, CharTest.inSet, Regex.CharItem.contains, hw.2 c hc]
  have ha' : IsRun notBlank a.toList := isRun_of_ne ha.1 fun c hc => by
    simp [notBlank, CharTest.accepts, CharTest.inSet, Regex.CharItem.contains, ha.2 c hc]
  refine ⟨?_, ?_, ?_, ?_⟩
  · exact next_transform_load_null ids (by simp [toList_repositoryUrl, hr'.ne_nil])
      (transform_issue ho' hr' hn')
  · exact next_transform_load_null ids (by simp [toList_repositoryUrl, hr'.ne_nil])
      (transform_pull ho' hr' hn')
  · exact next_transform_load_null ids (by simp [toList_repositoryUrl, hr'.ne_nil])
      (transform_repository ho' hr')
  · exact next_transform_load_null ids (by simp [toList_articleUrl, ha'.ne_nil])
      (transform_article hw' ha')

/-- Names with a line break, with dollar signs and brackets, and digits of two scripts. -/
theorem load_null_transform_odd_names :
    ((load .null (Counting.mk 1)).next
        (.transform (some "https://github.com/$1/r]\n/issues/7٣"))).1 =
      .ok (.text "[🐈‍⬛🔨 r]\n#7٣](https://github.com/$1/r]\n/issues/7٣)") := by
  have ho : "$1" ≠ "" ∧ '/' ∉ "$1".toList := by decide
  have hr : "r]\n" ≠ "" ∧ '/' ∉ "r]\n".toList := by decide
  have hn : "7٣" ≠ "" ∧ ∀ c ∈ "7٣".toList, CharClass.digit.contains false c.toNat = true :=
    ⟨by decide, List.all_eq_true.mp (by decide +kernel)⟩
  have hw : "de" ≠ "" ∧ ∀ c ∈ "de".toList, CharClass.word.contains false c.toNat = true :=
    ⟨by decide, List.all_eq_true.mp (by decide +kernel)⟩
  have hblank : CharClass.space.contains false 'A'.toNat = false := by decide +kernel
  have ha : "A" ≠ "" ∧ ∀ c ∈ "A".toList, CharClass.space.contains false c.toNat = false :=
    ⟨by decide, by simpa using hblank⟩
  exact (load_null_transform (Counting.mk 1) ho hr hn hw ha).1

end Session
end PasteRules
