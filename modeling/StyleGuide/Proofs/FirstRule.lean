import Mathlib.Data.Nat.Find
import StyleGuide.Proofs.Occurrence
import StyleGuide.Proofs.Stylesheet

namespace StyleGuide.Theme

open Text

/-- A block of the selector opens at the front of a text: the selector, blanks and an opening brace.
-/
def Opens (selector cs : List Char) : Prop :=
  ∃ blanks rest, (∀ c ∈ blanks, isBlank c = true) ∧ cs = selector ++ (blanks ++ '{' :: rest)

theorem opens_iff {selector cs : List Char} : Opens selector cs ↔
    ((after? selector cs).bind fun r => char? '{' (skipBlanks r)).isSome = true := by
  simp only [Option.isSome_iff_exists, Option.bind_eq_some_iff, after?_eq_some_iff,
    char?_eq_some_iff]
  constructor
  · rintro ⟨blanks, rest, hb, rfl⟩
    refine ⟨rest, _, rfl, ?_⟩
    rw [skipBlanks_append hb, skipBlanks_eq_self]
    intro c hc
    rw [← Option.some.inj hc]
    decide
  · rintro ⟨rest, r, rfl, hr⟩
    obtain ⟨blanks, hb, heq⟩ := exists_blanks r
    exact ⟨blanks, rest, hb, by rw [hr, heq]⟩

instance (selector cs : List Char) : Decidable (Opens selector cs) :=
  decidable_of_iff _ opens_iff.symm

/-- The first block of a selector in a stylesheet: it opens where no other one opens before, and
ends at the first closing brace. -/
structure FirstBlock (selector css : String) where
  before : List Char
  blanks : List Char
  body : List Char
  rest : List Char
  blank : ∀ c ∈ blanks, isBlank c = true
  closed : '}' ∉ body
  split : css.toList = before ++ (selector.toList ++ (blanks ++ '{' :: (body ++ '}' :: rest)))
  first : ∀ n < before.length, ¬ Opens selector.toList (css.toList.drop n)

variable {selector css : String}

def FirstBlock.upto (b : FirstBlock selector css) : String :=
  .ofList (b.before ++ (selector.toList ++ (b.blanks ++ '{' :: (b.body ++ ['}']))))

theorem FirstBlock.upto_append (b : FirstBlock selector css) (rest : List Char) :
    b.upto.toList ++ rest =
      b.before ++ (selector.toList ++ (b.blanks ++ '{' :: (b.body ++ '}' :: rest))) := by
  simp [upto]

theorem FirstBlock.css_eq (b : FirstBlock selector css) : css = b.upto ++ .ofList b.rest := by
  rw [← String.toList_inj, String.toList_append, String.toList_ofList, b.upto_append, b.split]

theorem not_mem_opening {s blanks : List Char} (hs : '{' ∉ s)
    (hb : ∀ c ∈ blanks, isBlank c = true) :
    '{' ∉ s ++ blanks := by
  intro hm
  obtain hm | hm := List.mem_append.mp hm
  · exact hs hm
  · exact absurd (hb _ hm) (by decide)

theorem Opens.of_append {s front rest : List Char} (hs : '{' ∉ s)
    (h : Opens s (front ++ '{' :: rest)) (rest' : List Char) : Opens s (front ++ '{' :: rest') := by
  obtain ⟨blanks, r, hb, heq⟩ := h
  have hsb : '{' ∉ s ++ blanks := not_mem_opening hs hb
  rw [← List.append_assoc] at heq
  by_cases hm : '{' ∈ front
  · obtain ⟨x, y, rfl, hx⟩ := List.eq_append_cons_of_mem hm
    obtain ⟨rfl, -⟩ := append_cons_inj hx hsb (by simpa using heq)
    exact ⟨blanks, y ++ '{' :: rest', hb, by simp⟩
  · obtain ⟨rfl, -⟩ := append_cons_inj hm hsb heq
    exact ⟨blanks, rest', hb, List.append_assoc _ _ _⟩

theorem opens_of_rule? {s cs body : List Char} (h : rule? s cs = some body) : Opens s cs := by
  obtain ⟨blanks, rest, hb, -, -, rfl⟩ := rule?_eq_some_iff.mp h
  exact ⟨blanks, body ++ '}' :: rest, hb, rfl⟩

theorem FirstBlock.firstMatch_upto (b : FirstBlock selector css)
    (hs : ∀ c ∈ selector.toList, isBrace c = false) (rest : List Char) :
    firstMatch (rule? selector.toList) (b.upto.toList ++ rest) =
      firstMatch (rule? selector.toList)
        (selector.toList ++ (b.blanks ++ '{' :: (b.body ++ '}' :: rest))) := by
  rw [b.upto_append]
  apply firstMatch_append
  intro x y hxy hy
  rw [Option.eq_none_iff_forall_ne_some]
  intro body h
  have hbrace : '{' ∉ selector.toList := fun hm => absurd (hs _ hm) (by decide)
  have hopens : Opens selector.toList
      ((y ++ (selector.toList ++ b.blanks)) ++ '{' :: (b.body ++ '}' :: rest)) := by
    simpa using opens_of_rule? h
  have hlength := congrArg List.length hxy
  rw [List.length_append] at hlength
  refine b.first x.length ?_ ?_
  · have := List.length_pos_iff.mpr hy
    omega
  · have hdrop : css.toList.drop x.length =
        (y ++ (selector.toList ++ b.blanks)) ++ '{' :: (b.body ++ '}' :: b.rest) := by
      rw [b.split, ← hxy, List.append_assoc, List.drop_left]
      simp
    rw [hdrop]
    exact hopens.of_append hbrace _

/-- An empty block is no rule, and the search goes on behind it. -/
theorem firstMatch_empty_block {s blanks : List Char} (hs : ∀ c ∈ s, isBrace c = false)
    (hb : ∀ c ∈ blanks, isBlank c = true) (rest : List Char) :
    firstMatch (rule? s) (s ++ (blanks ++ '{' :: '}' :: rest)) = firstMatch (rule? s) rest := by
  have hbrace : '{' ∉ s := fun hm => absurd (hs _ hm) (by decide)
  have hsplit : s ++ (blanks ++ '{' :: '}' :: rest) = (s ++ blanks ++ ['{']) ++ '}' :: rest := by
    simp
  have hclosing : rule? s ([] ++ '}' :: rest) = none :=
    rule?_eq_none hs (List.forall_mem_nil _) rest
  rw [hsplit, firstMatch_append]
  · exact firstMatch_cons_of_none hclosing
  intro x y hxy hy
  rw [Option.eq_none_iff_forall_ne_some]
  intro body h
  obtain ⟨bs, r, hbs, hne, hclosed, heq⟩ := rule?_eq_some_iff.mp h
  -- The first brace from here on is the one that opens the empty block.
  obtain ⟨y, d, rfl⟩ := List.eq_nil_or_concat y |>.resolve_left hy
  rw [List.concat_eq_append, ← List.append_assoc] at hxy
  obtain ⟨hxy, hd⟩ := List.append_inj' hxy rfl
  have hy' : '{' ∉ y := fun hm => not_mem_opening hbrace hb (hxy ▸ List.mem_append_right x hm)
  rw [List.concat_eq_append, List.append_assoc, hd, List.singleton_append,
    ← List.append_assoc s] at heq
  obtain ⟨-, hbody⟩ := append_cons_inj hy' (not_mem_opening hbrace hbs) heq
  cases body with
  | nil => exact hne rfl
  | cons e body =>
    obtain ⟨rfl, -⟩ := List.cons.inj hbody
    exact hclosed List.mem_cons_self

theorem exists_firstBlock (hs : ∀ c ∈ selector.toList, isBrace c = false)
    (h : ∃ n, Opens selector.toList (css.toList.drop n) ∧ '}' ∈ css.toList.drop n) :
    Nonempty (FirstBlock selector css) := by
  obtain ⟨n, hn, hclosed⟩ := h
  have hex : ∃ n, Opens selector.toList (css.toList.drop n) := ⟨n, hn⟩
  obtain ⟨blanks, rest, hb, heq⟩ := Nat.find_spec hex
  have hmem : '}' ∈ css.toList.drop (Nat.find hex) :=
    (List.drop_suffix_drop_left _ (Nat.find_min' hex hn)).subset hclosed
  have hrest : '}' ∈ rest := by
    rw [heq] at hmem
    simp only [List.mem_append, List.mem_cons] at hmem
    obtain hm | hm | hm | hm := hmem
    · exact absurd (hs _ hm) (by decide)
    · exact absurd (hb _ hm) (by decide)
    · exact absurd hm (by decide)
    · exact hm
  obtain ⟨body, rest, rfl, hbody⟩ := List.eq_append_cons_of_mem hrest
  refine ⟨⟨css.toList.take (Nat.find hex), blanks, body, rest, hb, hbody, ?_, fun m hm => ?_⟩⟩
  · rw [← heq, List.take_append_drop]
  · exact Nat.find_min hex (hm.trans_le (List.length_take_le _ _))

theorem ofCss_of_firstMatch_eq {css css' : String}
    (h : firstMatch (rule? selector.toList) css.toList =
      firstMatch (rule? selector.toList) css'.toList) :
    ofCss css selector = ofCss css' selector := by
  rw [ofCss, ofCss, h]

theorem ofCss_block_front {blanks body rest : List Char} (hb : ∀ c ∈ blanks, isBlank c = true)
    (hne : body ≠ []) (hclosed : '}' ∉ body)
    (h : css.toList = selector.toList ++ (blanks ++ '{' :: (body ++ '}' :: rest))) :
    ofCss css selector = ofBlock body := by
  rw [ofCss, firstMatch_of_some (rule?_eq_some_iff.mpr ⟨blanks, rest, hb, hne, hclosed, h⟩)]

/-- Where a selector has a closed block it has a first one. What follows the first block makes no
difference to the theme exactly if something stands in it: the theme is then what this block
declares. Behind an empty block the theme is sought anew. -/
theorem first_block_decides (hs : ∀ c ∈ selector.toList, isBrace c = false) (css : String) :
    ((∃ n, Opens selector.toList (css.toList.drop n) ∧ '}' ∈ css.toList.drop n) →
      Nonempty (FirstBlock selector css)) ∧
    ∀ b : FirstBlock selector css, css = b.upto ++ .ofList b.rest ∧
      (b.body ≠ [] ↔ ∀ rest, ofCss (b.upto ++ rest) selector = ofBlock b.body) ∧
      (b.body = [] → ∀ rest, ofCss (b.upto ++ rest) selector = ofCss rest selector) := by
  refine ⟨exists_firstBlock hs, fun b => ?_⟩
  have hfull : b.body ≠ [] → ∀ rest, ofCss (b.upto ++ rest) selector = ofBlock b.body := by
    intro hne rest
    let found := selector.toList ++ (b.blanks ++ '{' :: (b.body ++ '}' :: rest.toList))
    have htext : (String.ofList found).toList = found := String.toList_ofList
    have hfound := ofCss_block_front b.blank hne b.closed htext
    rw [← hfound]
    apply ofCss_of_firstMatch_eq
    rw [String.toList_append, b.firstMatch_upto hs, htext]
  have hempty : b.body = [] → ∀ rest, ofCss (b.upto ++ rest) selector = ofCss rest selector := by
    intro he rest
    apply ofCss_of_firstMatch_eq
    rw [String.toList_append, b.firstMatch_upto hs, he, List.nil_append,
      firstMatch_empty_block hs b.blank]
  refine ⟨b.css_eq, ⟨hfull, fun h he => ?_⟩, hempty⟩
  -- A block that follows the empty one is read, although the empty one declares nothing.
  have htext : (selector ++ "\x7b--a:b;\x7d").toList =
      selector.toList ++ ([] ++ '{' :: ("--a:b;".toList ++ '}' :: [])) := by simp
  have hsecond := ofCss_block_front (List.forall_mem_nil _) (by decide) (by decide) htext
  have hkeys := congrArg OrderedMap.keys (h (selector ++ "\x7b--a:b;\x7d"))
  rw [hempty he, hsecond, he] at hkeys
  have hone : (ofBlock "--a:b;".toList).keys = ["a"] := by decide +kernel
  have hnone : (ofBlock []).keys = [] := by decide +kernel
  rw [hone, hnone] at hkeys
  cases hkeys

def nested :
    FirstBlock ":root" "/* :root */ .a:root\n\x7b--a: \x7b 1;\x7d :root \x7b--b: 2;\x7d" where
  before := "/* :root */ .a".toList
  blanks := ['\n']
  body := "--a: \x7b 1;".toList
  rest := " :root \x7b--b: 2;\x7d".toList
  blank := by decide
  closed := by decide
  split := by decide
  first := by decide

theorem first_block_decides_nested :
    (∀ c ∈ ":root".toList, isBrace c = false) ∧ nested.body ≠ [] ∧
      ∀ rest, ofCss (nested.upto ++ rest) ":root" = ofBlock nested.body := by
  have hs : ∀ c ∈ ":root".toList, isBrace c = false := by decide
  have hne : nested.body ≠ [] := by decide
  obtain ⟨-, hdecides, -⟩ := (first_block_decides hs _).2 nested
  exact ⟨hs, hne, hdecides.mp hne⟩

def emptied : FirstBlock ":root" ":root \x7b\x7d\n:root \x7b --b: 2; \x7d" where
  before := []
  blanks := [' ']
  body := []
  rest := "\n:root \x7b --b: 2; \x7d".toList
  blank := by decide
  closed := by decide
  split := by decide
  first := nofun

/-- Two stylesheets that are the same up to the end of the first block have different themes. -/
theorem not_first_block_alone :
    emptied.upto = ":root \x7b\x7d" ∧
      emptied.upto ++ "\n:root \x7b --b: 2; \x7d" = ":root \x7b\x7d\n:root \x7b --b: 2; \x7d" ∧
      (ofCss emptied.upto ":root").keys = [] ∧
      (ofCss ":root \x7b\x7d\n:root \x7b --b: 2; \x7d" ":root").keys = ["b"] := by
  exact ⟨by decide, by decide, by decide +kernel, by decide +kernel⟩

end StyleGuide.Theme
