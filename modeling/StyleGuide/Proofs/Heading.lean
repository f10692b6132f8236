import StyleGuide.Proofs.Nesting
import StyleGuide.Tailwind

namespace StyleGuide

namespace Text

variable {cs : List Char}

theorem exists_trim (cs : List Char) :
    ∃ bs ds, (∀ c ∈ bs, isBlank c = true) ∧ (∀ c ∈ ds, isBlank c = true) ∧
    cs = bs ++ (trim cs ++ ds) := by
  obtain ⟨bs, hbs, hskip⟩ := exists_blanks cs
  obtain ⟨ds, hds, hend⟩ := exists_blanks (skipBlanks cs).reverse
  refine ⟨bs, ds.reverse, hbs, fun c hc => hds c (List.mem_reverse.mp hc), ?_⟩
  have htrim : trim cs = (skipBlanks (skipBlanks cs).reverse).reverse := rfl
  rw [htrim, ← List.reverse_append, hend, List.reverse_reverse, hskip]

theorem exists_quote (cs : List Char) :
    ∃ q : Option Char, (∀ c ∈ q, isQuote c = true) ∧ cs = q.toList ++ skipQuote cs := by
  cases cs with
  | nil => exact ⟨none, nofun, rfl⟩
  | cons c r =>
    rw [skipQuote]
    split
    · next hc => exact ⟨some c, by simpa using hc, rfl⟩
    · exact ⟨none, nofun, rfl⟩

theorem skipQuote_append {q : Option Char} (hq : ∀ c ∈ q, isQuote c = true)
    (hcs : ∀ c, cs.head? = some c → isQuote c = false) : skipQuote (q.toList ++ cs) = cs := by
  cases q with
  | some c => exact if_pos (hq c rfl)
  | none =>
    cases cs with
    | nil => rfl
    | cons c r => exact if_neg (by simp [hcs c rfl])

theorem prefix_of_prefix_append {xs ds : List Char} (h : xs <+: cs ++ ds)
    (hds : ∀ c, ds.head? = some c → c ∉ xs) : xs <+: cs := by
  obtain hxs | ⟨ys, rfl⟩ := List.prefix_or_prefix_of_prefix h (List.prefix_append cs ds)
  · exact hxs
  · cases ys with
    | nil => rw [List.append_nil]
    | cons y ys =>
      obtain ⟨zs, rfl⟩ := (List.prefix_append_right_inj cs).mp h
      exact absurd (by simp) (hds y rfl)

theorem not_isQuote_of_isBlank {c : Char} (h : isBlank c = true) : isQuote c = false := by
  rw [Bool.eq_false_iff]
  intro hq
  rw [not_isBlank_of_isQuote hq] at h
  cases h

end Text

namespace Tailwind

open Text

/-- A key before its colon, with a quotation mark on either side or none. -/
structure Heading where
  indent : List Char
  left : Option Char
  name : List Char
  right : Option Char
  gap : List Char

namespace Heading

def content (h : Heading) : List Char := h.left.toList ++ (h.name ++ (h.right.toList ++ h.gap))

def text (h : Heading) : List Char := h.indent ++ h.content

@[mk_iff]
structure WellFormed (h : Heading) : Prop where
  indent : ∀ c ∈ h.indent, isBlank c = true
  left : h.left.all isQuote = true
  nonempty : h.name ≠ []
  plain : ∀ c ∈ h.name, isKeyChar c = true
  right : h.right.all isQuote = true
  gap : ∀ c ∈ h.gap, isBlank c = true
  noComment : h.left = none → ¬ ['/', '/'] <+: h.name

instance (h : Heading) : Decidable h.WellFormed := decidable_of_iff' _ (wellFormed_iff h)

end Heading

theorem not_isBlank_of_isKeyChar {c : Char} (h : isKeyChar c = true) : isBlank c = false := by
  simp only [isKeyChar, Bool.and_eq_true] at h
  simpa using h.2

theorem not_isKeyChar_of_isQuote {c : Char} (h : isQuote c = true) : isKeyChar c = false := by
  rw [isKeyChar, h]
  rfl

theorem not_isQuote_of_isKeyChar {c : Char} (h : isKeyChar c = true) : isQuote c = false := by
  rw [Bool.eq_false_iff]
  intro hq
  rw [not_isKeyChar_of_isQuote hq] at h
  cases h

namespace Heading

variable {a : Heading} {value : List Char}

theorem content_append (a : Heading) (value : List Char) : a.content ++ ':' :: value =
    a.left.toList ++ (a.name ++ (a.right.toList ++ (a.gap ++ ':' :: value))) := by
  simp [content]

theorem WellFormed.isQuote_left (h : a.WellFormed) : ∀ c ∈ a.left, isQuote c = true :=
  (Option.all_eq_true isQuote a.left).mp h.left

theorem WellFormed.isQuote_right (h : a.WellFormed) : ∀ c ∈ a.right, isQuote c = true :=
  (Option.all_eq_true isQuote a.right).mp h.right

theorem WellFormed.head?_content (h : a.WellFormed) :
    ∃ c cs, a.content = c :: cs ∧ isBlank c = false := by
  rw [content]
  cases hleft : a.left with
  | some q => exact ⟨q, _, rfl, not_isBlank_of_isQuote (h.isQuote_left q hleft)⟩
  | none =>
    obtain ⟨c, cs, hname⟩ := List.exists_cons_of_ne_nil h.nonempty
    refine ⟨c, cs ++ (a.right.toList ++ a.gap), by simp [hname],
      not_isBlank_of_isKeyChar (h.plain c ?_)⟩
    simp [hname]

theorem WellFormed.not_mem_text (h : a.WellFormed) : ':' ∉ a.text := by
  have hindent : ':' ∉ a.indent := fun hm => absurd (h.indent _ hm) (by decide)
  have hleft : ':' ∉ a.left.toList :=
    fun hm => absurd (h.isQuote_left _ (Option.mem_toList.mp hm)) (by decide)
  have hname : ':' ∉ a.name := fun hm => absurd (h.plain _ hm) (by decide)
  have hright : ':' ∉ a.right.toList :=
    fun hm => absurd (h.isQuote_right _ (Option.mem_toList.mp hm)) (by decide)
  have hgap : ':' ∉ a.gap := fun hm => absurd (h.gap _ hm) (by decide)
  simp only [text, content, List.mem_append, not_or]
  exact ⟨hindent, hleft, hname, hright, hgap⟩

theorem WellFormed.head?_gap (h : a.WellFormed) {c : Char}
    (hc : (a.gap ++ ':' :: value).head? = some c) : isQuote c = false ∧ isKeyChar c = false := by
  cases hgap : a.gap with
  | nil =>
    rw [hgap] at hc
    cases hc
    decide
  | cons d ds =>
    rw [hgap] at hc
    cases hc
    have hblank := h.gap c (hgap ▸ List.mem_cons_self)
    exact ⟨not_isQuote_of_isBlank hblank, by simp [isKeyChar, hblank]⟩

theorem WellFormed.head?_right (h : a.WellFormed) {c : Char}
    (hc : (a.right.toList ++ (a.gap ++ ':' :: value)).head? = some c) : isKeyChar c = false := by
  cases hright : a.right with
  | none =>
    rw [hright] at hc
    exact (h.head?_gap hc).2
  | some q =>
    rw [hright] at hc
    cases hc
    exact not_isKeyChar_of_isQuote (h.isQuote_right _ hright)

theorem WellFormed.keyValue?_eq (h : a.WellFormed) (hvalue : skipBlanks value ≠ []) :
    keyValue? (a.content ++ ':' :: value) = some (a.name, dropComma (skipBlanks value)) := by
  have hname : ∀ c, (a.name ++ (a.right.toList ++ (a.gap ++ ':' :: value))).head? = some c →
      isQuote c = false := by
    intro c hc
    obtain ⟨d, ds, hd⟩ := List.exists_cons_of_ne_nil h.nonempty
    rw [hd] at hc
    cases hc
    exact not_isQuote_of_isKeyChar (h.plain _ (hd ▸ List.mem_cons_self))
  have hrun : run? isKeyChar (a.name ++ (a.right.toList ++ (a.gap ++ ':' :: value))) =
      some (a.name, a.right.toList ++ (a.gap ++ ':' :: value)) :=
    run?_eq_some_iff.mpr ⟨h.nonempty, rfl, h.plain, fun c hc => h.head?_right hc⟩
  have hcolon : skipBlanks (a.gap ++ ':' :: value) = ':' :: value := by
    rw [skipBlanks_append h.gap]
    exact skipBlanks_eq_self fun c hc => by cases hc; decide
  rw [keyValue?, content_append, skipQuote_append h.isQuote_left hname, hrun, Option.bind_eq_bind,
    Option.bind_some]
  simp only [skipQuote_append h.isQuote_right fun c hc => (h.head?_gap hc).1, hcolon, char?,
    if_true, Option.bind_eq_bind, Option.bind_some]
  rw [if_neg (by simpa using hvalue)]
  rfl

theorem exists_of_keyValue? {line : List Char} {e : List Char × List Char}
    (h : keyValue? line = some e) (hcomment : after? ['/', '/'] line = none) :
    ∃ a : Heading, a.WellFormed ∧ ∃ value, line = a.content ++ ':' :: value := by
  obtain ⟨⟨name, cs⟩, hrun, h⟩ := Option.bind_eq_some_iff.mp h
  obtain ⟨value, hcolon, -⟩ := Option.bind_eq_some_iff.mp h
  obtain ⟨hne, hname, hplain, -⟩ := run?_eq_some_iff.mp hrun
  obtain ⟨left, hleft, hline⟩ := exists_quote line
  obtain ⟨right, hright, hcs⟩ := exists_quote cs
  obtain ⟨gap, hgap, hskip⟩ := exists_blanks (skipQuote cs)
  have hvalue := char?_eq_some_iff.mp hcolon
  have hsplit : line = left.toList ++ (name ++ (right.toList ++ gap)) ++ ':' :: value := by
    rw [hline, ← hname, hcs, ← hskip, ← hvalue]
    simp
  refine ⟨⟨[], left, name, right, gap⟩, ⟨nofun, (Option.all_eq_true _ _).mpr hleft, hne, hplain,
    (Option.all_eq_true _ _).mpr hright, hgap, ?_⟩, value, hsplit⟩
  rintro rfl ⟨rest, rfl⟩
  rw [hsplit] at hcomment
  cases hcomment

theorem WellFormed.not_comment (h : a.WellFormed) (rest : List Char) :
    after? ['/', '/'] (a.content ++ ':' :: rest) = none := by
  rw [Option.eq_none_iff_forall_ne_some]
  intro r hr
  have hslashes : ['/', '/'] ++ r = a.left.toList ++
      (a.name ++ (a.right.toList ++ (a.gap ++ ':' :: rest))) := by
    rw [after?_eq_some_iff.mp hr, content_append]
  cases hleft : a.left with
  | some q =>
    rw [hleft] at hslashes
    obtain ⟨hq, -⟩ := List.cons.inj hslashes
    have hquote := h.isQuote_left q hleft
    rw [← hq] at hquote
    exact absurd hquote (by decide)
  | none =>
    rw [hleft] at hslashes
    -- What follows the key is no slash, so a comment would have to begin within the key.
    refine h.noComment hleft (prefix_of_prefix_append ⟨r, hslashes⟩ fun c hc hmem => ?_)
    have hkey := h.head?_right hc
    obtain rfl : c = '/' := by simpa using hmem
    exact absurd hkey (by decide)

theorem WellFormed.trim_line (h : a.WellFormed) (hvalue : trim value ≠ []) :
    ∃ bs, (∀ c ∈ bs, isBlank c = true) ∧
    trim (a.text ++ ':' :: value) = a.content ++ ':' :: (bs ++ trim value) := by
  obtain ⟨bs, ds, hbs, hds, hsplit⟩ := exists_trim value
  obtain ⟨c, cs, hcontent, hc⟩ := h.head?_content
  have hline : a.text ++ ':' :: value = a.indent ++
      ((a.content ++ ':' :: (bs ++ trim value)) ++ ds) := by
    conv_lhs => rw [hsplit]
    simp [text]
  have hends : Trimmed ([c] ++ ((cs ++ ':' :: bs) ++ trim value)) := by
    refine Trimmed.append ?_ (trimmed_trim value) (List.cons_ne_nil c []) hvalue _
    simp [Trimmed, hc]
  refine ⟨bs, hbs, ?_⟩
  rw [hline, trim_blanks_append h.indent, trim_append_blanks hds, trim_eq_self]
  simpa [hcontent] using hends

theorem exists_of_entryOf? {line : List Char} {e : String × String} (h : entryOf? line = some e) :
    ∃ a : Heading, a.WellFormed ∧ ∃ value, line = a.text ++ ':' :: value := by
  rw [entryOf?] at h
  split at h
  · cases h
  · next hskip =>
    obtain ⟨d, hd, -⟩ := Option.bind_eq_some_iff.mp h
    have hcomment : after? ['/', '/'] (trim line) = none := by
      simp only [Bool.or_eq_true, not_or, Bool.not_eq_true, Option.isSome_eq_false_iff,
        Option.isNone_iff_eq_none]
        at hskip
      exact hskip.2
    obtain ⟨a, ha, value, hvalue⟩ := exists_of_keyValue? hd hcomment
    obtain ⟨bs, ds, hbs, -, hline⟩ := exists_trim line
    refine ⟨⟨bs, a.left, a.name, a.right, a.gap⟩,
      ⟨hbs, ha.left, ha.nonempty, ha.plain, ha.right, ha.gap, ha.noComment⟩, value ++ ds, ?_⟩
    rw [hline, hvalue]
    simp [text, content]

/-- What a line is read as, by the value behind its heading. -/
theorem WellFormed.entryOf?_eq (h : a.WellFormed) {c : Char} {cs : List Char}
    (hbare : bare (dropComma (trim value)) = c :: cs) : entryOf? (a.text ++ ':' :: value) =
      if c = '{' then none else some (.ofList a.name, .ofList (c :: cs)) := by
  have hne : trim value ≠ [] := by
    intro hnil
    rw [hnil] at hbare
    cases hbare
  obtain ⟨bs, hbs, htrim⟩ := h.trim_line hne
  have hskip : skipBlanks (bs ++ trim value) = trim value := by
    rw [skipBlanks_append hbs, skipBlanks_eq_self (trimmed_trim value).1]
  have hentry : keyValue? (trim (a.text ++ ':' :: value)) =
      some (a.name, dropComma (trim value)) := by
    rw [htrim, h.keyValue?_eq (hskip.symm ▸ hne), hskip]
  have hline : ((trim (a.text ++ ':' :: value)).isEmpty ||
      (after? ['/', '/'] (trim (a.text ++ ':' :: value))).isSome) = false := by
    rw [htrim, h.not_comment]
    simp
  rw [entryOf?]
  simp only [hline, hentry, Option.bind_eq_bind, Option.bind_some, hbare]
  by_cases hc : c = '{'
  · subst hc
    rfl
  · simp [hc]

end Heading

end Tailwind

end StyleGuide
