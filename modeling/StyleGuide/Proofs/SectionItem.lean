import StyleGuide.Proofs.Heading

namespace StyleGuide.Tailwind

open Text

structure Key where
  text : String
  quotes : Option (Char × Char)

namespace Key

def written (k : Key) : String :=
  match k.quotes with
  | none => k.text
  | some (left, right) => .ofList (left :: (k.text.toList ++ [right]))

@[mk_iff]
structure WellFormed (k : Key) : Prop where
  nonempty : k.text ≠ ""
  plain : ∀ c ∈ k.text.toList, isWord c = true ∨ c = '-' ∨ c = '.' ∨ c = '/'
  noSlash : k.text.toList.head? ≠ some '/'
  quotes : ∀ q ∈ k.quotes, isQuote q.1 = true ∧ isQuote q.2 = true

instance (k : Key) : Decidable k.WellFormed := decidable_of_iff' _ (wellFormed_iff k)

end Key

structure FlatEntry where
  indent : String
  key : Key
  quotes : Char × Char
  value : String
  comma : Bool

namespace FlatEntry

def quoted (e : FlatEntry) : List Char := e.quotes.1 :: (e.value.toList ++ [e.quotes.2])

def written (e : FlatEntry) : List Char := e.quoted ++ (if e.comma then [','] else [])

def line (e : FlatEntry) : String := e.indent ++ e.key.written ++ ": " ++ .ofList e.written

@[mk_iff]
structure WellFormed (e : FlatEntry) : Prop where
  indent : IsMargin e.indent
  key : e.key.WellFormed
  quotes : isQuote e.quotes.1 = true ∧ isQuote e.quotes.2 = true
  nonempty : e.value ≠ ""
  trimmed : Trimmed e.value.toList
  plain : ∀ c ∈ e.value.toList, c ≠ '\n' ∧ c ≠ '{' ∧ c ≠ '}' ∧ isQuote c = false
  noComma : e.value.toList.getLast? ≠ some ','

instance (e : FlatEntry) : Decidable e.WellFormed := decidable_of_iff' _ (wellFormed_iff e)

end FlatEntry

inductive Item where
  | blank (blanks : String)
  | comment (indent text : String)
  | flat (entry : FlatEntry)
  | nested (indent : String) (key : Key) (body : List String)

namespace Item

def lines : Item → List String
  | blank blanks => [blanks]
  | comment indent text => [indent ++ "//" ++ text]
  | flat entry => [entry.line]
  | nested indent key body => InnerBlock.lines ⟨indent, key.written, body⟩

def WellFormed : Item → Prop
  | blank blanks => IsMargin blanks
  | comment indent text => IsMargin indent ∧ '\n' ∉ text.toList ∧ Braceless text.toList
  | flat entry => entry.WellFormed
  | nested indent key body =>
    IsMargin indent ∧ key.WellFormed ∧ (∀ line ∈ body, '\n' ∉ line.toList) ∧
      Balanced (Plan.Template.text body).toList

instance : (i : Item) → Decidable i.WellFormed
  | blank blanks => inferInstanceAs (Decidable (IsMargin blanks))
  | comment _ _ => inferInstanceAs (Decidable (_ ∧ _))
  | flat entry => inferInstanceAs (Decidable entry.WellFormed)
  | nested _ _ _ => inferInstanceAs (Decidable (_ ∧ _))

def assignment? : Item → Option (String × String)
  | flat entry => some (entry.key.text, entry.value)
  | _ => none

end Item

/-! What a line of a section is read as. -/

theorem entryOf?_withoutReturn (line : List Char) :
    entryOf? (withoutReturn line) = entryOf? line := by
  rw [entryOf?, trim_withoutReturn, ← entryOf?]

theorem dropComma_of_getLast? {value : List Char} (h : value.getLast? ≠ some ',') :
    dropComma value = value := by
  have hnone : before? [','] value = none := by
    rw [before?_eq_none_iff]
    rintro ⟨kept, rfl⟩
    exact h List.getLast?_concat
  rw [dropComma, hnone]

theorem dropComma_append {value : List Char} (h : value ≠ []) :
    dropComma (value ++ [',']) = value := by
  rw [dropComma, before?_eq_some_iff.mpr rfl]
  cases value with
  | nil => exact absurd rfl h
  | cons c cs => rfl

theorem isKeyChar_of_plain {c : Char} (h : isWord c = true ∨ c = '-' ∨ c = '.' ∨ c = '/') :
    isKeyChar c = true := by
  obtain h | rfl | rfl | rfl := h
  · have hblank := not_isBlank_of_isWord h
    have hne : ∀ d, isWord d = false → c ≠ d := by
      rintro d hd rfl
      rw [h] at hd
      cases hd
    have hquote : isQuote c = false := by
      simp [isQuote, hne '\x27' (by decide), hne '\x22' (by decide), hne '\x60' (by decide)]
    simp [isKeyChar, hblank, hquote, hne ':' (by decide)]
  all_goals decide

namespace Key

variable {k : Key}

theorem WellFormed.text_ne (h : k.WellFormed) : k.text.toList ≠ [] :=
  fun he => h.nonempty (String.toList_eq_nil_iff.mp he)

theorem WellFormed.isKeyChar_text (h : k.WellFormed) : ∀ c ∈ k.text.toList, isKeyChar c = true :=
  fun c hc => isKeyChar_of_plain (h.plain c hc)

theorem WellFormed.not_mem_written (h : k.WellFormed) {c : Char} (hq : isQuote c = false)
    (hp : ¬ (isWord c = true ∨ c = '-' ∨ c = '.' ∨ c = '/')) : c ∉ k.written.toList := by
  have htext : c ∉ k.text.toList := fun hm => hp (h.plain c hm)
  have hquotes := h.quotes
  rw [written]
  cases hk : k.quotes with
  | none => exact htext
  | some q =>
    obtain ⟨hl, hr⟩ := hquotes q hk
    have hne : ∀ d, isQuote d = true → c ≠ d := by
      rintro d hd rfl
      rw [hd] at hq
      cases hq
    simp [htext, hne _ hl, hne _ hr]

def heading (k : Key) (indent : String) : Heading :=
  ⟨indent.toList, k.quotes.map Prod.fst, k.text.toList, k.quotes.map Prod.snd, []⟩

theorem text_heading (k : Key) (indent : String) :
    (k.heading indent).text = indent.toList ++ k.written.toList := by
  rw [Heading.text, Heading.content, heading, written]
  cases k.quotes <;> simp

theorem WellFormed.wellFormed_heading (h : k.WellFormed) {indent : String}
    (hindent : IsMargin indent) : (k.heading indent).WellFormed := by
  refine ⟨hindent.isBlank, ?_, h.text_ne, h.isKeyChar_text, ?_, nofun, ?_⟩
  · refine (Option.all_eq_true _ _).mpr fun c hc => ?_
    obtain ⟨q, hq, rfl⟩ := Option.map_eq_some_iff.mp hc
    exact (h.quotes q hq).1
  · refine (Option.all_eq_true _ _).mpr fun c hc => ?_
    obtain ⟨q, hq, rfl⟩ := Option.map_eq_some_iff.mp hc
    exact (h.quotes q hq).2
  · rintro - ⟨rest, hrest⟩
    have htext : ['/', '/'] ++ rest = k.text.toList := hrest
    refine h.noSlash ?_
    rw [← htext]
    rfl

theorem WellFormed.entryOf?_eq (h : k.WellFormed) {indent : String} (hindent : IsMargin indent)
    {value : List Char} {c : Char} {cs : List Char}
    (hbare : bare (dropComma (trim value)) = c :: cs) :
    entryOf? (indent.toList ++ (k.written.toList ++ ':' :: value)) =
      if c = '{' then none else some (k.text, .ofList (c :: cs)) := by
  have hentry := (h.wellFormed_heading hindent).entryOf?_eq hbare
  rw [text_heading, List.append_assoc] at hentry
  rw [hentry, heading, String.ofList_toList]

end Key

namespace FlatEntry

variable {e : FlatEntry}

theorem WellFormed.value_ne (h : e.WellFormed) : e.value.toList ≠ [] :=
  fun he => h.nonempty (String.toList_eq_nil_iff.mp he)

theorem WellFormed.bare_quoted (h : e.WellFormed) : bare e.quoted = e.value.toList := by
  obtain ⟨hleft, hright⟩ := h.quotes
  have hkept : e.value.toList.filter (fun c => !isQuote c) = e.value.toList :=
    List.filter_eq_self.mpr fun c hc => by simp [(h.plain c hc).2.2.2]
  have hfilter : e.quoted.filter (fun c => !isQuote c) = e.value.toList := by
    simp [quoted, List.filter_append, hleft, hright, hkept]
  have hcomma : before? [','] e.value.toList = none := by
    rw [before?_eq_none_iff]
    rintro ⟨kept, hkept⟩
    exact h.noComma (hkept ▸ List.getLast?_concat)
  rw [bare, hfilter, hcomma, Option.getD_none, trim_eq_self h.trimmed]

theorem WellFormed.exists_written (h : e.WellFormed) :
    ∃ value c, e.written = value ++ [c] ∧ isBlank c = false := by
  cases hcomma : e.comma with
  | true => exact ⟨e.quoted, ',', by simp [written, hcomma], by decide⟩
  | false =>
    exact ⟨e.quotes.1 :: e.value.toList, e.quotes.2, by simp [written, quoted, hcomma],
      not_isBlank_of_isQuote h.quotes.2⟩

theorem WellFormed.dropComma_written (h : e.WellFormed) : dropComma e.written = e.quoted := by
  cases hcomma : e.comma with
  | true =>
    rw [written, if_pos hcomma]
    exact dropComma_append (List.cons_ne_nil _ _)
  | false =>
    rw [written, if_neg (by simp [hcomma]), List.append_nil]
    refine dropComma_of_getLast? fun hlast => ?_
    have hright : e.quotes.2 = ',' := by simpa [quoted, List.getLast?_cons] using hlast
    have hquote := h.quotes.2
    rw [hright] at hquote
    exact absurd hquote (by decide)

theorem WellFormed.trim_written (h : e.WellFormed) : trim (' ' :: e.written) = e.written := by
  obtain ⟨value, d, hwritten, hd⟩ := h.exists_written
  rw [trim_cons_blank (by decide), trim_eq_self]
  constructor
  · rintro c ⟨⟩
    exact not_isBlank_of_isQuote h.quotes.1
  · intro c hc
    rw [hwritten, List.getLast?_concat] at hc
    cases hc
    exact hd

theorem WellFormed.entryOf?_line (h : e.WellFormed) :
    entryOf? e.line.toList = some (e.key.text, e.value) := by
  obtain ⟨c, cs, hc⟩ := List.exists_cons_of_ne_nil h.value_ne
  have hbrace : c ≠ '{' := (h.plain c (hc ▸ .head cs)).2.1
  have hbare : bare (dropComma (trim (' ' :: e.written))) = c :: cs := by
    rw [h.trim_written, h.dropComma_written, h.bare_quoted, hc]
  have hline : e.line.toList = e.indent.toList ++
      (e.key.written.toList ++ ':' :: ' ' :: e.written) := by
    simp [line]
  rw [hline, h.key.entryOf?_eq h.indent hbare, if_neg hbrace, ← hc, String.ofList_toList]

theorem WellFormed.not_mem_line (h : e.WellFormed) {c : Char} (hindent : c ∉ e.indent.toList)
    (hvalue : c ∉ e.value.toList) (hquote : isQuote c = false)
    (hkey : ¬ (isWord c = true ∨ c = '-' ∨ c = '.' ∨ c = '/')) (hmarks : c ∉ [':', ' ', ',']) :
    c ∉ e.line.toList := by
  have hne : ∀ d, isQuote d = true → c ≠ d := by
    rintro d hd rfl
    rw [hd] at hquote
    cases hquote
  have hquoted : c ∉ e.quoted := by simp [quoted, hne _ h.quotes.1, hne _ h.quotes.2, hvalue]
  have hcomma : c ∉ (if e.comma then [','] else []) := by
    split
    · exact fun hm => hmarks (by simp [List.mem_singleton.mp hm])
    · exact List.not_mem_nil
  simp only [List.mem_cons, List.not_mem_nil, or_false, not_or] at hmarks
  simp [line, written, hindent, h.key.not_mem_written hquote hkey, hmarks, hquoted, hcomma]

theorem WellFormed.not_newline_mem (h : e.WellFormed) : '\n' ∉ e.line.toList :=
  h.not_mem_line h.indent.not_newline_mem (fun hm => (h.plain _ hm).1 rfl) (by decide) (by decide)
    (by decide)

theorem WellFormed.braceless (h : e.WellFormed) : Braceless e.line.toList :=
  ⟨h.not_mem_line h.indent.braceless.1 (fun hm => (h.plain _ hm).2.1 rfl) (by decide) (by decide)
    (by decide),
    h.not_mem_line h.indent.braceless.2 (fun hm => (h.plain _ hm).2.2.1 rfl) (by decide) (by decide)
      (by decide)⟩

end FlatEntry

namespace Item

variable {i : Item} {items : List Item}

theorem WellFormed.innerBlock {indent : String} {key : Key} {body : List String}
    (h : (Item.nested indent key body).WellFormed) :
    (InnerBlock.mk indent key.written body).WellFormed := by
  obtain ⟨hindent, hkey, hlines, hbody⟩ := h
  have hnone : ∀ {c}, isQuote c = false → ¬ (isWord c = true ∨ c = '-' ∨ c = '.' ∨ c = '/') →
      c ∉ key.written.toList := hkey.not_mem_written
  exact ⟨hindent, hnone (by decide) (by decide),
    ⟨hnone (by decide) (by decide), hnone (by decide) (by decide)⟩,
    hlines, hbody⟩

theorem WellFormed.entryOf?_heading {indent : String} {key : Key} {body : List String}
    (h : (Item.nested indent key body).WellFormed) :
    entryOf? (InnerBlock.mk indent key.written body).heading.toList = none := by
  obtain ⟨hindent, hkey, -⟩ := h
  have hline : (InnerBlock.mk indent key.written body).heading.toList =
      indent.toList ++ (key.written.toList ++ ':' :: [' ', '{']) := by
    simp [InnerBlock.heading]
  have hbare : bare (dropComma (trim [' ', '{'])) = '{' :: [] := by decide
  rw [hline, hkey.entryOf?_eq hindent hbare, if_pos rfl]

theorem entryOf?_blank {blanks : String} (h : IsMargin blanks) : entryOf? blanks.toList = none := by
  have htrim : trim blanks.toList = [] := by
    rw [← List.append_nil blanks.toList, trim_blanks_append h.isBlank]
    rfl
  rw [entryOf?, htrim]
  rfl

theorem entryOf?_comment {indent : String} (h : IsMargin indent) (text : String) :
    entryOf? (indent ++ "//" ++ text).toList = none := by
  have htrim : trim (indent ++ "//" ++ text).toList = trim (['/', '/'] ++ text.toList) := by
    rw [String.toList_append, String.toList_append, List.append_assoc, trim_blanks_append h.isBlank]
    rfl
  have hslashes : Trimmed ['/', '/'] := by decide
  obtain ⟨rest, hrest⟩ := prefix_trim_append hslashes (by decide) text.toList
  rw [entryOf?, htrim, ← hrest, after?_append]
  simp

/-- An item is one line without braces, or a block, and its entry is what its first line is read as.
-/
theorem WellFormed.lines_eq (h : i.WellFormed) :
    (∃ line, i.lines = [line] ∧ '\n' ∉ line.toList ∧ Braceless line.toList ∧
      entryOf? line.toList = i.assignment?) ∨
      ∃ b : InnerBlock, i.lines = b.lines ∧ b.WellFormed ∧
      entryOf? b.heading.toList = i.assignment? := by
  cases i with
  | blank blanks =>
    have hblanks : IsMargin blanks := h
    exact .inl ⟨blanks, rfl, hblanks.not_newline_mem, hblanks.braceless, entryOf?_blank hblanks⟩
  | comment indent text =>
    obtain ⟨hindent, hline, htext⟩ := h
    have hslashes : Braceless "//".toList := by decide
    refine .inl ⟨indent ++ "//" ++ text, rfl, ?_, ?_, entryOf?_comment hindent text⟩
    · simp [hindent.not_newline_mem, hline]
    · rw [String.toList_append, String.toList_append]
      exact (hindent.braceless.append hslashes).append htext
  | flat entry =>
    have hentry : entry.WellFormed := h
    exact .inl ⟨entry.line, rfl, hentry.not_newline_mem, hentry.braceless, hentry.entryOf?_line⟩
  | nested indent key body =>
    exact .inr ⟨⟨indent, key.written, body⟩, rfl, h.innerBlock, h.entryOf?_heading⟩

theorem WellFormed.not_mem_lines (h : i.WellFormed) : ∀ line ∈ i.lines, '\n' ∉ line.toList := by
  obtain ⟨line, hlines, hline, -⟩ | ⟨b, hlines, hb, -⟩ := h.lines_eq
  · rw [hlines]
    exact List.forall_mem_singleton.mpr hline
  · rw [hlines]
    exact hb.not_mem_lines

theorem WellFormed.balanced_lines (h : i.WellFormed) :
    Balanced (ofLines (i.lines.map String.toList)) := by
  obtain ⟨line, hlines, -, hline, -⟩ | ⟨b, hlines, hb, -⟩ := h.lines_eq
  · have hfeed : Braceless ['\n'] := by decide
    have hone : ofLines (i.lines.map String.toList) = line.toList ++ ['\n'] := by
      simp [hlines, ofLines]
    rw [hone]
    exact (hline.append hfeed).balanced
  · rw [hlines]
    exact hb.balanced_lines

theorem WellFormed.filterMap_lines (h : i.WellFormed) (rest : List (List Char)) :
    (outermost 0 (i.lines.map String.toList ++ rest)).filterMap entryOf? =
      i.assignment?.toList ++ (outermost 0 rest).filterMap entryOf? := by
  obtain ⟨line, hlines, -, hline, hentry⟩ | ⟨b, hlines, hb, hentry⟩ := h.lines_eq
  · rw [hlines, List.map_singleton, List.singleton_append, outermost, if_pos rfl,
      depthAfter_of_braceless hline, List.filterMap_cons, hentry]
    cases i.assignment? <;> rfl
  · rw [hlines, hb.outermost_lines, List.filterMap_cons, hentry]
    cases i.assignment? <;> rfl

theorem filterMap_entryOf? (h : ∀ i ∈ items, i.WellFormed) :
    (outermost 0 ((items.flatMap Item.lines).map String.toList)).filterMap entryOf? =
      items.filterMap Item.assignment? := by
  induction items with
  | nil => rfl
  | cons i items ih =>
    obtain ⟨hi, hitems⟩ := List.forall_mem_cons.mp h
    rw [List.flatMap_cons, List.map_append, hi.filterMap_lines, ih hitems, List.filterMap_cons]
    cases i.assignment? <;> rfl

end Item

end StyleGuide.Tailwind
