import StyleGuide.Proofs.PlainBlock
import StyleGuide.Proofs.Stylesheet

namespace StyleGuide

theorem OrderedMap.of_mem_values_filter {α : Type} {p : α → Bool} {m : OrderedMap α} {a : α}
    (h : a ∈ (m.filter p).values) : p a = true := by
  obtain ⟨e, he, rfl⟩ := List.mem_map.mp h
  exact (List.mem_filter.mp he).2

open Text

/-- A token as a block can declare it: nothing stands in its texts that ends them, or that ends the
block, and everything else follows from them. -/
structure Token.Contained (t : Token) : Prop where
  derived : t = .ofDeclaration t.name t.value
  name_trimmed : Trimmed t.name.toList
  name_plain : ':' ∉ t.name.toList ∧ '}' ∉ t.name.toList
  value_trimmed : Trimmed t.value.toList
  value_plain : ';' ∉ t.value.toList ∧ '}' ∉ t.value.toList

namespace Theme

def Contained (theme : Theme) : Prop := ∀ e ∈ theme.entries, e.1 = e.2.name ∧ e.2.Contained

variable {theme : Theme} {cs body : List Char}

theorem exists_of_declaration? {name value rest : List Char}
    (h : declaration? cs = some ((name, value), rest)) :
    ∃ n v, ':' ∉ n ∧ ';' ∉ v ∧ name = trim n ∧ value = trim v ∧
      cs = '-' :: '-' :: (n ++ ':' :: (v ++ ';' :: rest)) := by
  obtain ⟨a, ha, h⟩ := Option.bind_eq_some_iff.mp h
  obtain ⟨⟨n, b⟩, hn, h⟩ := Option.bind_eq_some_iff.mp h
  obtain ⟨c, hc, h⟩ := Option.bind_eq_some_iff.mp h
  obtain ⟨⟨v, d⟩, hv, h⟩ := Option.bind_eq_some_iff.mp h
  obtain ⟨e, he, h⟩ := Option.bind_eq_some_iff.mp h
  obtain ⟨-, hname, hplain, -⟩ := run?_eq_some_iff.mp hn
  obtain ⟨-, hvalue, hplain', -⟩ := run?_eq_some_iff.mp hv
  cases Option.some.inj h
  refine ⟨n, v, fun hm => absurd (hplain _ hm) (by decide),
    fun hm => absurd (hplain' _ hm) (by decide), rfl, rfl, ?_⟩
  rw [← after?_eq_some_iff.mp ha, ← hname, ← char?_eq_some_iff.mp hc, ← hvalue,
    ← char?_eq_some_iff.mp he]
  rfl

theorem suffix_of_declaration? {d rest} (h : declaration? cs = some (d, rest)) : rest <:+ cs := by
  obtain ⟨n, v, -, -, -, -, rfl⟩ := exists_of_declaration? h
  exact ⟨'-' :: '-' :: (n ++ ':' :: (v ++ [';'])), by simp⟩

/-- The token of a declaration has nothing in it that the block does not have. -/
theorem contained_of_declaration {d : List Char × List Char} (h : d ∈ matchAll declaration? body)
    (hbody : '}' ∉ body) : (Token.ofDeclaration (.ofList d.1) (.ofList d.2)).Contained := by
  obtain ⟨part, rest, hpart, hd⟩ := exists_of_mem_matchAll (fun _ _ _ => suffix_of_declaration?) h
  obtain ⟨n, v, hn, hv, hname, hvalue, rfl⟩ := exists_of_declaration? hd
  have hclosed : '}' ∉ n ∧ '}' ∉ v := by
    refine ⟨fun hm => hbody (hpart.subset ?_), fun hm => hbody (hpart.subset ?_)⟩ <;> simp [hm]
  have hsub : ∀ {c : Char} {cs : List Char}, c ∉ cs → c ∉ trim cs :=
    fun hc hm => hc ((trim_isInfix _).subset hm)
  refine ⟨rfl, ?_, ?_, ?_, ?_⟩ <;> simp only [Token.ofDeclaration, String.toList_ofList, hname,
    hvalue]
  · exact trimmed_trim n
  · exact ⟨hsub hn, hsub hclosed.1⟩
  · exact trimmed_trim v
  · exact ⟨hsub hv, hsub hclosed.2⟩

theorem contained_ofBlock (h : '}' ∉ body) : (ofBlock body).Contained := by
  intro e he
  have hassigned := OrderedMap.mem_of_mem_ofList he
  rw [List.map_map] at hassigned
  obtain ⟨d, hd, rfl⟩ := List.mem_map.mp hassigned
  exact ⟨rfl, contained_of_declaration hd h⟩

theorem contained_ofCss (css selector : String) : (ofCss css selector).Contained := by
  rw [ofCss]
  split
  · next body hbody =>
    obtain ⟨part, -, hrule⟩ := exists_of_firstMatch hbody
    obtain ⟨blanks, rest, -, -, hclosed, -⟩ := rule?_eq_some_iff.mp hrule
    exact contained_ofBlock hclosed
  · exact fun e he => absurd he List.not_mem_nil

theorem Contained.filter (h : theme.Contained) (p : Token → Bool) :
    Contained (OrderedMap.filter p theme) :=
  fun e he => h e (List.mem_filter.mp he).1

theorem Contained.not_mem_declarations (h : theme.Contained) : '}' ∉ theme.declarations.toList := by
  intro hm
  rw [toList_declarations] at hm
  obtain ⟨t, ht, hm⟩ := List.mem_flatMap.mp hm
  obtain ⟨e, he, rfl⟩ := List.mem_map.mp ht
  obtain ⟨-, hcontained⟩ := h e he
  simp [declarationChars, hcontained.name_plain.2, hcontained.value_plain.2] at hm

end Theme

theorem Category.name_injective {c d : Category} (h : c.name = d.name) : c = d := by
  have hread := ofName?_name c
  rw [h, ofName?_name] at hread
  exact (Option.some.inj hread).symm

namespace Collection

variable {tokens : Collection}

theorem count_css (hl : tokens.light.Contained) (hd : tokens.dark.Contained) :
    tokens.css.toList.count '}' = 2 := by
  have hlight := List.count_eq_zero_of_not_mem hl.not_mem_declarations
  have hdark := List.count_eq_zero_of_not_mem hd.not_mem_declarations
  rw [toList_css]
  simp [lightSelector, darkSelector, hlight, hdark]

theorem mem_categoriesOf {theme : Theme} {c : Category} :
    c ∈ categoriesOf theme ↔ ∃ t ∈ theme.values, t.category = c := by
  rw [← List.mem_map]
  refine ⟨mem_of_mem_ascending, fun h => ?_⟩
  have hname : c.name ∈ (categoriesOf theme).map Category.name :=
    mem_keys_ascending.mpr (List.mem_map_of_mem h)
  obtain ⟨d, hd, heq⟩ := List.mem_map.mp hname
  rwa [Category.name_injective heq] at hd

theorem entries_foldl_ofCategory (theme : Collection → Theme)
    (h : ∀ tokens c, theme (tokens.ofCategory c) = (theme tokens).filter (·.category = c))
    (cs : List Category) (tokens : Collection) : (theme (cs.foldl ofCategory tokens)).entries =
      (theme tokens).entries.filter fun e => cs.all fun c => e.2.category = c := by
  induction cs generalizing tokens with
  | nil => simp
  | cons c cs ih =>
    rw [List.foldl_cons, ih, h, OrderedMap.filter, List.filter_filter]
    refine List.filter_congr fun e _ => ?_
    rw [List.all_cons, Bool.and_comm]

theorem contained_foldl_ofCategory (cs : List Category) (hl : tokens.light.Contained)
    (hd : tokens.dark.Contained) :
    (cs.foldl ofCategory tokens).light.Contained ∧ (cs.foldl ofCategory tokens).dark.Contained := by
  induction cs generalizing tokens with
  | nil => exact ⟨hl, hd⟩
  | cons c cs ih => exact ih (hl.filter _) (hd.filter _)

/-- Whatever is read from a stylesheet, and whichever categories it is narrowed to one after the
other, its tokens are such that a stylesheet can declare them, so that they leave both blocks closed
where they were. What is read has the categories of its light tokens, in order; what is narrowed has
the last category asked for, and the tokens that are left are in the order they had. -/
theorem contained_of_categories (css now : String) (cs : List Category) :
    let read := ofCss css now
    let tokens := cs.foldl ofCategory read
    (tokens.light.Contained ∧ tokens.dark.Contained) ∧ tokens.css.toList.count '}' = 2 ∧
      (read.categories.map Category.name).Pairwise (· < ·) ∧
      (∀ c, c ∈ read.categories ↔ ∃ t ∈ read.light.values, t.category = c) ∧
      (∀ last, cs.getLast? = some last → tokens.categories = [last] ∧
        ∀ t ∈ tokens.light.values ++ tokens.dark.values, t.category = last) ∧
      tokens.light.entries = (read.light.entries.filter fun e => cs.all fun c => e.2.category = c) ∧
      tokens.dark.entries =
        (read.dark.entries.filter fun e => cs.all fun c => e.2.category = c) := by
  intro read tokens
  have hlight := entries_foldl_ofCategory light (fun _ _ => rfl) cs read
  have hdark := entries_foldl_ofCategory dark (fun _ _ => rfl) cs read
  have hcontained : tokens.light.Contained ∧ tokens.dark.Contained :=
    contained_foldl_ofCategory cs (Theme.contained_ofCss css lightSelector)
      (Theme.contained_ofCss css darkSelector)
  refine ⟨hcontained, count_css hcontained.1 hcontained.2,
    pairwise_ascending _ _, fun c => mem_categoriesOf, ?_,
    hlight, hdark⟩
  intro last hlast
  obtain ⟨before, rfl⟩ := List.getLast?_eq_some_iff.mp hlast
  have hstep : tokens = (before.foldl ofCategory read).ofCategory last := List.foldl_append
  rw [hstep]
  refine ⟨rfl, fun t ht => ?_⟩
  have hkept : ∀ theme : Theme, t ∈ (OrderedMap.filter (·.category = last) theme).values →
      t.category = last := by
    intro theme ht
    simpa using OrderedMap.of_mem_values_filter ht
  exact (List.mem_append.mp ht).elim (hkept _) (hkept _)

/-- A reference that is taken for the start of a declaration, an opening brace in a value, a name
that is declared twice and one that is not ended, and a block that is not closed. -/
def malformed : String :=
  "a:root\n\x7b color: var(--a); --gap : 1px \n;--b:\x7b2; --gap:\t; --shadow-x: y; --gap: 3;" ++
    "--lost: 4 \x7d .dark\x7b--gap:5;"

theorem contained_of_categories_malformed :
    let tokens := [Category.spacing].foldl ofCategory (ofCss malformed "")
    [Category.spacing].getLast? = some .spacing ∧
      (ofCss malformed "").light.keys = ["a); --gap", "b", "gap", "shadow-x"] ∧
      tokens.light.keys = ["a); --gap", "gap"] ∧ tokens.categories = [.spacing] ∧
      tokens.css.toList.count '}' = 2 := by
  intro tokens
  have hlast : [Category.spacing].getLast? = some .spacing := rfl
  obtain ⟨-, hcount, -, -, hnarrowed, -, -⟩ := contained_of_categories malformed "" [.spacing]
  exact ⟨hlast, by decide +kernel, by decide +kernel, (hnarrowed _ hlast).1, hcount⟩

end Collection

end StyleGuide
