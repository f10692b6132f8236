import StyleGuide.Plan.Template
import StyleGuide.Token.Collection

namespace StyleGuide

open Text

/-- A token that its declaration tells whole: no mark that ends a text stands in it, no brace and no
blank at its ends, and everything else follows from the two texts. -/
structure Token.Declarable (t : Token) : Prop where
  derived : t = .ofDeclaration t.name t.value
  name_nonempty : t.name ≠ ""
  name_trimmed : Trimmed t.name.toList
  name_plain : ∀ c ∈ t.name.toList, c ≠ ':' ∧ c ≠ '{' ∧ c ≠ '}'
  value_trimmed : Trimmed t.value.toList
  value_plain : ∀ c ∈ t.value.toList, c ≠ ';' ∧ c ≠ '{' ∧ c ≠ '}'

namespace Theme

def Declarable (theme : Theme) : Prop :=
  ∀ e ∈ theme.entries, e.1 = e.2.name ∧ e.2.Declarable

def declarationChars (t : Token) : List Char :=
  ' ' :: ' ' :: '-' :: '-' :: (t.name.toList ++ ':' :: ' ' :: (t.value.toList ++ [';', '\n']))

theorem toList_declaration (t : Token) : (declaration t).toList = declarationChars t := by
  simp [declaration, declarationChars, toString]

theorem toList_declarations (theme : Theme) :
    theme.declarations.toList = theme.values.flatMap declarationChars := by
  rw [declarations, String.toList_join, List.flatMap_map]
  exact congrArg (fun f => theme.values.flatMap f) (funext toList_declaration)

theorem declaration?_of_ne {c : Char} {r : List Char} (h : c ≠ '-') :
    declaration? (c :: r) = none := by
  have ha : after? ['-', '-'] (c :: r) = none := by
    rw [after?_cons, beq_false_of_ne (Ne.symm h)]
    rfl
  rw [declaration?, ha]
  rfl

/-- Where a declaration stands, the whole of it is read: dashes in the name and colons in the value
belong to them. -/
theorem declaration?_append {name value rest : List Char} (hn : name ≠ []) (hv : value ≠ [])
    (hname : ∀ c ∈ name, c ≠ ':') (hvalue : ∀ c ∈ value, c ≠ ';') :
    declaration? ('-' :: '-' :: (name ++ ':' :: (value ++ ';' :: rest))) =
      some ((trim name, trim value), rest) := by
  have hs : after? ['-', '-'] ('-' :: '-' :: (name ++ ':' :: (value ++ ';' :: rest))) =
      some (name ++ ':' :: (value ++ ';' :: rest)) := after?_append ['-', '-'] _
  have hr : run? (· != ':') (name ++ ':' :: (value ++ ';' :: rest)) =
      some (name, ':' :: (value ++ ';' :: rest)) :=
    run?_eq_some_iff.2 ⟨hn, rfl, fun c hc => bne_iff_ne.2 (hname c hc), by simp⟩
  have hw : run? (· != ';') (value ++ ';' :: rest) = some (value, ';' :: rest) :=
    run?_eq_some_iff.2 ⟨hv, rfl, fun c hc => bne_iff_ne.2 (hvalue c hc), by simp⟩
  simp [declaration?, hs, hr, hw, char?]

theorem matchAll_declarationChars {t : Token} (h : t.Declarable) (rest : List Char) :
    matchAll declaration? (declarationChars t ++ rest) =
      (t.name.toList, t.value.toList) :: matchAll declaration? rest := by
  have hn : t.name.toList ≠ [] := fun he => h.name_nonempty (String.toList_eq_nil_iff.1 he)
  have hd : declaration? ('-' :: '-' :: (t.name.toList ++ ':' ::
      (' ' :: t.value.toList ++ ';' :: '\n' :: rest))) =
      some ((t.name.toList, t.value.toList), '\n' :: rest) := by
    rw [declaration?_append hn (List.cons_ne_nil _ _) (fun c hc => (h.name_plain c hc).1)
      (List.forall_mem_cons.2 ⟨by decide, fun c hc => (h.value_plain c hc).1⟩),
      trim_eq_self h.name_trimmed, trim_cons_blank (by decide), trim_eq_self h.value_trimmed]
  have hc : declarationChars t ++ rest = ' ' :: ' ' :: '-' :: '-' :: (t.name.toList ++ ':' ::
      (' ' :: t.value.toList ++ ';' :: '\n' :: rest)) := by
    simp [declarationChars]
  rw [hc, matchAll_cons_of_none (declaration?_of_ne (by decide)),
    matchAll_cons_of_none (declaration?_of_ne (by decide)),
    matchAll_cons_of_some hd (by simp; omega),
    matchAll_cons_of_none (declaration?_of_ne (by decide))]

theorem matchAll_declarations {ts : List Token} (h : ∀ t ∈ ts, t.Declarable) :
    matchAll declaration? (ts.flatMap declarationChars) =
      ts.map fun t => (t.name.toList, t.value.toList) := by
  induction ts with
  | nil => rw [List.flatMap_nil, matchAll, List.map_nil]
  | cons t ts ih =>
    rw [List.flatMap_cons, matchAll_declarationChars (h t (.head _)),
      ih fun u hu => h u (.tail _ hu), List.map_cons]

theorem ofBlock_declarations {theme : Theme} (h : theme.Declarable) :
    ofBlock ('\n' :: theme.declarations.toList) = theme := by
  have hv : ∀ t ∈ theme.values, t.Declarable := by
    intro t ht
    obtain ⟨e, he, rfl⟩ := List.mem_map.1 ht
    exact (h e he).2
  have he : ∀ e ∈ theme.entries, (e.2.name, Token.ofDeclaration e.2.name e.2.value) = e := by
    intro e he
    obtain ⟨hk, hd⟩ := h e he
    rw [← hd.derived, ← hk]
  rw [ofBlock, matchAll_cons_of_none (declaration?_of_ne (by decide)), toList_declarations,
    matchAll_declarations hv, ofDeclarations, OrderedMap.values]
  simp only [List.map_map, Function.comp_def, String.ofList_toList]
  rw [List.map_congr_left he, List.map_id', OrderedMap.ofList_entries]

theorem rule?_eq_some_iff {selector cs body : List Char} : rule? selector cs = some body ↔
    ∃ blanks rest, (∀ c ∈ blanks, isBlank c = true) ∧ body ≠ [] ∧ '}' ∉ body ∧
      cs = selector ++ (blanks ++ '{' :: (body ++ '}' :: rest)) := by
  constructor
  · intro h
    obtain ⟨a, ha, h⟩ := Option.bind_eq_some_iff.1 h
    obtain ⟨b, hb, h⟩ := Option.bind_eq_some_iff.1 h
    obtain ⟨⟨x, rest⟩, hr, h⟩ := Option.bind_eq_some_iff.1 h
    obtain ⟨bs, hbs, hab⟩ := exists_blanks a
    obtain ⟨hx, hxr, hp, hstop⟩ := run?_eq_some_iff.1 hr
    cases rest with
    | nil => cases h
    | cons c rest =>
      have hc : c = '}' := by simpa using hstop c rfl
      have he : x = body := Option.some.inj h
      subst hc he
      refine ⟨bs, rest, hbs, hx, fun hm => ?_, ?_⟩
      · exact absurd (hp _ hm) (by decide)
      · rw [← after?_eq_some_iff.1 ha, hxr, char?_eq_some_iff.1 hb, hab]
  · rintro ⟨bs, rest, hbs, hne, hbody, rfl⟩
    have hskip : skipBlanks (bs ++ '{' :: (body ++ '}' :: rest)) =
        '{' :: (body ++ '}' :: rest) := by
      rw [skipBlanks_append hbs, skipBlanks_eq_self]
      intro c hc
      rw [← Option.some.inj hc]
      decide
    have hrun : run? (· != '}') (body ++ '}' :: rest) = some (body, '}' :: rest) :=
      run?_eq_some_iff.2
        ⟨hne, rfl, fun c hc => bne_iff_ne.2 fun he => hbody (he ▸ hc), by simp⟩
    simp [rule?, after?_append, hskip, char?, hrun]

def isBrace (c : Char) : Bool := c == '{' || c == '}'

theorem not_isBrace_of_isBlank {c : Char} (h : isBlank c = true) : isBrace c = false := by
  have ho : c ≠ '{' := fun he => absurd h (by rw [he]; decide)
  have hc : c ≠ '}' := fun he => absurd h (by rw [he]; decide)
  simp [isBrace, ho, hc]

theorem rule?_eq_none {selector cs : List Char} (hs : ∀ c ∈ selector, isBrace c = false)
    (hc : ∀ c ∈ cs, isBrace c = false) (rest : List Char) :
    rule? selector (cs ++ '}' :: rest) = none := by
  rw [Option.eq_none_iff_forall_ne_some]
  intro body h
  obtain ⟨bs, r, hbs, -, -, he⟩ := rule?_eq_some_iff.1 h
  have hb : ∀ c ∈ selector ++ bs, isBrace c = false := by
    intro c hm
    obtain hm | hm := List.mem_append.1 hm
    · exact hs c hm
    · exact not_isBrace_of_isBlank (hbs c hm)
  have hl : (cs ++ '}' :: rest).find? isBrace = some '}' := by
    rw [List.find?_append, List.find?_eq_none.2 fun c hm => by simp [hc c hm]]
    rfl
  have hr : (selector ++ bs ++ '{' :: (body ++ '}' :: r)).find? isBrace = some '{' := by
    rw [List.find?_append, List.find?_eq_none.2 fun c hm => by simp [hb c hm]]
    rfl
  rw [he, ← List.append_assoc, hr] at hl
  exact absurd (Option.some.inj hl) (by decide)

variable {mark : Char} {selector : List Char}

theorem firstMatch_rule?_of_ne {cs : List Char} (h : ∀ c ∈ cs, c ≠ mark) (rest : List Char) :
    firstMatch (rule? (mark :: selector)) (cs ++ rest) =
      firstMatch (rule? (mark :: selector)) rest := by
  induction cs with
  | nil => rfl
  | cons c cs ih =>
    have ha : after? (mark :: selector) (c :: (cs ++ rest)) = none := by
      rw [after?_cons, beq_false_of_ne (Ne.symm (h c (.head _)))]
      rfl
    have hn : rule? (mark :: selector) (c :: (cs ++ rest)) = none := by
      rw [rule?, ha]
      rfl
    rw [List.cons_append, firstMatch_cons_of_none hn, ih fun d hd => h d (.tail _ hd)]

/-- The search for a rule passes over whatever stands before a closing brace, selectors as well. -/
theorem firstMatch_rule?_of_block {cs : List Char} (hs : ∀ c ∈ mark :: selector, isBrace c = false)
    (hc : ∀ c ∈ cs, isBrace c = false) (rest : List Char) :
    firstMatch (rule? (mark :: selector)) (cs ++ '}' :: rest) =
      firstMatch (rule? (mark :: selector)) rest := by
  induction cs with
  | nil =>
    have hn := rule?_eq_none hs hc rest
    exact firstMatch_cons_of_none hn
  | cons c cs ih =>
    have hn := rule?_eq_none hs hc rest
    rw [List.cons_append] at hn ⊢
    rw [firstMatch_cons_of_none hn, ih fun d hd => hc d (.tail _ hd)]

theorem not_isBrace_of_declarable {theme : Theme} (h : theme.Declarable) :
    ∀ c ∈ theme.declarations.toList, isBrace c = false := by
  intro c hc
  rw [toList_declarations] at hc
  obtain ⟨t, ht, hc⟩ := List.mem_flatMap.1 hc
  obtain ⟨e, he, rfl⟩ := List.mem_map.1 ht
  have hd := (h e he).2
  have hbrace : ∀ {d : Char}, d ≠ '{' ∧ d ≠ '}' → isBrace d = false := by
    rintro d ⟨ho, hc⟩
    simp [isBrace, ho, hc]
  simp only [declarationChars, List.mem_cons, List.mem_append, List.not_mem_nil, or_false] at hc
  obtain rfl | rfl | rfl | rfl | hc | rfl | rfl | hc | rfl | rfl := hc
  case inr.inr.inr.inr.inl => exact hbrace (hd.name_plain c hc).2
  case inr.inr.inr.inr.inr.inr.inr.inl => exact hbrace (hd.value_plain c hc).2
  all_goals decide

theorem ofCss_of_firstMatch {theme : Theme} {css selector : String} (h : theme.Declarable)
    (hm : firstMatch (rule? selector.toList) css.toList =
      some ('\n' :: theme.declarations.toList)) :
    ofCss css selector = theme := by
  rw [ofCss, hm]
  exact ofBlock_declarations h

end Theme

namespace Collection

theorem toList_css (tokens : Collection) : tokens.css.toList =
    lightSelector.toList ++ ([' '] ++ '{' :: ('\n' :: tokens.light.declarations.toList ++ '}' ::
      ('\n' :: '\n' :: (darkSelector.toList ++ ([' '] ++ '{' ::
        ('\n' :: tokens.dark.declarations.toList ++ '}' :: ['\n'])))))) := by
  simp [css, lightSelector, darkSelector]

variable {tokens : Collection} {css : String} {front back : List Char}

theorem closing_not_mem_block {theme : Theme} (h : theme.Declarable) :
    '}' ∉ '\n' :: theme.declarations.toList := by
  intro hm
  obtain hm | hm := List.mem_cons.1 hm
  · exact absurd hm (by decide)
  · exact absurd (Theme.not_isBrace_of_declarable h _ hm) (by decide)

theorem ofCss_light (hl : tokens.light.Declarable) (hf : ∀ c ∈ front, c ≠ ':')
    (hcss : css.toList = front ++ (tokens.css.toList ++ back)) :
    Theme.ofCss css lightSelector = tokens.light := by
  apply Theme.ofCss_of_firstMatch hl
  have hrule : Theme.rule? lightSelector.toList (tokens.css.toList ++ back) =
      some ('\n' :: tokens.light.declarations.toList) := by
    refine Theme.rule?_eq_some_iff.2
      ⟨[' '], '\n' :: '\n' :: (darkSelector.toList ++ ([' '] ++ '{' ::
      ('\n' :: tokens.dark.declarations.toList ++ '}' :: '\n' :: back))),
      List.forall_mem_singleton.2 (by decide), List.cons_ne_nil _ _, closing_not_mem_block hl, ?_⟩
    simp [toList_css]
  have hs : lightSelector.toList = ':' :: "root".toList := rfl
  rw [hcss, hs, Theme.firstMatch_rule?_of_ne hf, ← hs]
  exact firstMatch_of_some hrule

/-- The dark theme is read back although its selector may stand in names and values of the light
one. -/
theorem ofCss_dark (hl : tokens.light.Declarable) (hd : tokens.dark.Declarable)
    (hf : ∀ c ∈ front, c ≠ '.') (hcss : css.toList = front ++ (tokens.css.toList ++ back)) :
    Theme.ofCss css darkSelector = tokens.dark := by
  apply Theme.ofCss_of_firstMatch hd
  let rule := darkSelector.toList ++ ([' '] ++ '{' ::
    ('\n' :: tokens.dark.declarations.toList ++ '}' :: '\n' :: back))
  have hrule : Theme.rule? darkSelector.toList rule =
      some ('\n' :: tokens.dark.declarations.toList) :=
    Theme.rule?_eq_some_iff.2 ⟨[' '], '\n' :: back, List.forall_mem_singleton.2 (by decide),
      List.cons_ne_nil _ _, closing_not_mem_block hd, rfl⟩
  have hsplit : css.toList = (front ++ lightSelector.toList ++ [' ', '{']) ++
      (('\n' :: tokens.light.declarations.toList) ++ '}' :: (['\n', '\n'] ++ rule)) := by
    simp [hcss, toList_css, rule]
  have hfront : ∀ c ∈ front ++ lightSelector.toList ++ [' ', '{'], c ≠ '.' := by
    simp only [List.append_assoc, List.forall_mem_append]
    exact ⟨hf, by simp [lightSelector], by simp⟩
  have hlight : ∀ c ∈ '\n' :: tokens.light.declarations.toList, Theme.isBrace c = false :=
    List.forall_mem_cons.2 ⟨by decide, Theme.not_isBrace_of_declarable hl⟩
  have hs : darkSelector.toList = '.' :: "dark".toList := rfl
  rw [hsplit, hs, Theme.firstMatch_rule?_of_ne hfront,
    Theme.firstMatch_rule?_of_block (by simp [Theme.isBrace]) hlight,
    Theme.firstMatch_rule?_of_ne (by simp), ← hs]
  exact firstMatch_of_some hrule

theorem toList_globalCss (tokens : Collection) : (Plan.Template.globalCss tokens).toList =
    "@import \"tailwindcss\";\n\n".toList ++ (tokens.css.toList ++
      ("\n" ++ Plan.Template.text Plan.Template.baseRules).toList) := by
  have h (a b c d : String) :
      (a ++ b ++ c ++ d).toList = a.toList ++ (b.toList ++ (c ++ d).toList) := by
    simp
  exact h _ _ _ _

/-- What either stylesheet says can be read back from it whole: the same tokens under the same names
in the same order, in both themes. -/
theorem ofCss_rendered (tokens : Collection) (hl : tokens.light.Declarable)
    (hd : tokens.dark.Declarable) :
    ∀ css ∈ [tokens.css, Plan.Template.globalCss tokens],
      Theme.ofCss css lightSelector = tokens.light ∧
      Theme.ofCss css darkSelector = tokens.dark := by
  have hparts : ∀ css ∈ [tokens.css, Plan.Template.globalCss tokens],
      ∃ front back : List Char, (∀ c ∈ front, c ≠ ':' ∧ c ≠ '.') ∧
        css.toList = front ++ (tokens.css.toList ++ back) := by
    refine List.forall_mem_cons.2 ⟨?_, List.forall_mem_singleton.2 ?_⟩
    · exact ⟨[], [], nofun, by rw [List.nil_append, List.append_nil]⟩
    · exact ⟨_, _, by simp, toList_globalCss tokens⟩
  intro css hcss
  obtain ⟨front, back, hf, ht⟩ := hparts css hcss
  exact ⟨ofCss_light hl (fun c hc => (hf c hc).1) ht, ofCss_dark hl hd (fun c hc => (hf c hc).2) ht⟩

def awkward : Collection where
  light := ⟨[("a--b;\nc", .ofDeclaration "a--b;\nc" ""),
    (".dark", .ofDeclaration ".dark" ":root .dark"),
    ("--", .ofDeclaration "--" "217 91% 60%")], by decide⟩
  dark := .empty
  categories := []
  generatedAt := ""

theorem declarable_awkward : awkward.light.Declarable ∧ awkward.dark.Declarable := by
  refine ⟨fun e he => ?_, nofun⟩
  simp only [awkward, List.mem_cons, List.not_mem_nil, or_false] at he
  obtain rfl | rfl | rfl := he
  all_goals exact ⟨rfl, rfl, by decide, by decide, by simp [Token.ofDeclaration], by decide,
    by simp [Token.ofDeclaration]⟩

theorem ofCss_rendered_awkward :
    (awkward.light.Declarable ∧ awkward.dark.Declarable ∧
      awkward.css ∈ [awkward.css, Plan.Template.globalCss awkward]) ∧
    Theme.ofCss awkward.css lightSelector = awkward.light ∧
    Theme.ofCss awkward.css darkSelector = awkward.dark :=
  ⟨⟨declarable_awkward.1, declarable_awkward.2, .head _⟩,
    ofCss_rendered awkward declarable_awkward.1 declarable_awkward.2 _ (.head _)⟩

end Collection

end StyleGuide
