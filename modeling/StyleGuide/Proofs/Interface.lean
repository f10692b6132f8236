import Mathlib.Data.List.Forall2
import StyleGuide.Proofs.Nesting
import StyleGuide.Proofs.PropertyEntry

namespace StyleGuide.Component

open Text Plan.Template

/-- A line of a source that says this between its margins. -/
def Laid (line content : String) : Prop :=
  ∃ left right : List Char, (∀ c ∈ left ++ right, isBlank c = true ∧ c ≠ '\n') ∧
    line.toList = left ++ (content.toList ++ right)

def interfaceText (front name : String) (lines : List String) (back : String) : String :=
  front ++ "export interface " ++ name ++ "Props \x7b\n" ++ text lines ++ "\x7d" ++ back

/-! What the lines of an entry are made of. -/

theorem IsPlain.append {cs bs : List Char} (h : IsPlain cs) (h' : IsPlain bs) :
    IsPlain (cs ++ bs) :=
  List.forall_mem_append.mpr ⟨h, h'⟩

theorem isPlain_of_blank {bs : List Char} (h : ∀ c ∈ bs, isBlank c = true ∧ c ≠ '\n') :
    IsPlain bs := by
  refine fun c hc => ⟨(h c hc).2, ?_, ?_⟩ <;> rintro rfl <;> exact absurd (h _ hc).1 (by decide)

theorem isPlain_of_word {cs : List Char} (h : ∀ c ∈ cs, isWord c = true) : IsPlain cs := by
  refine fun c hc => ⟨?_, ?_, ?_⟩ <;> rintro rfl <;> exact absurd (h _ hc) (by decide)

theorem IsPlain.braceless {cs : List Char} (h : IsPlain cs) : Braceless cs :=
  ⟨fun hm => (h _ hm).2.1 rfl, fun hm => (h _ hm).2.2 rfl⟩

/-- What a line between margins can say. -/
structure IsContent (cs : List Char) : Prop where
  plain : IsPlain cs
  trimmed : Trimmed cs

theorem IsContent.append {cs bs between : List Char} (h : IsContent cs) (h' : IsContent bs)
    (hne : cs ≠ []) (hne' : bs ≠ []) (hb : IsPlain between) : IsContent (cs ++ (between ++ bs)) :=
  ⟨h.plain.append (hb.append h'.plain), h.trimmed.append h'.trimmed hne hne' between⟩

theorem IsRemark.isContent {text : String} (h : IsRemark text) : IsContent text.toList :=
  ⟨h.plain, h.trimmed⟩

theorem IsRemark.isPlain_spaced {text : String} (h : IsRemark text) :
    IsPlain ([' '] ++ (text.toList ++ [' '])) :=
  IsPlain.append (by decide) (h.plain.append (by decide))

theorem isContent_docStart : IsContent "/**".toList := ⟨by decide, by decide⟩

theorem isContent_docEnd : IsContent "*/".toList := ⟨by decide, by decide⟩

theorem Above.isContent_lines {a : Above} (h : ∀ text ∈ a.texts, IsRemark text) :
    ∀ line ∈ a.lines, IsContent line.toList := by
  cases a with
  | nothing => exact List.forall_mem_nil _
  | line text =>
    obtain ⟨htext, -⟩ := List.forall_mem_cons.mp h
    have hslashes : IsContent "//".toList := ⟨by decide, by decide⟩
    have hline : IsContent ("//".toList ++ ([' '] ++ text.toList)) :=
      hslashes.append htext.isContent (by decide) htext.ne_nil (by decide)
    exact List.forall_mem_singleton.mpr (by simpa using hline)
  | doc text =>
    obtain ⟨htext, -⟩ := List.forall_mem_cons.mp h
    have hline : IsContent ("/**".toList ++ ([' '] ++ (text.toList ++ [' ']) ++ "*/".toList)) :=
      isContent_docStart.append isContent_docEnd (by decide) (by decide) htext.isPlain_spaced
    exact List.forall_mem_singleton.mpr (by simpa using hline)
  | block texts =>
    have htexts : ∀ line ∈ texts.map ("* " ++ ·), IsContent line.toList := by
      refine List.forall_mem_map.mpr fun text ht => ?_
      have hstar : IsContent ['*'] := ⟨by decide, by decide⟩
      have hline : IsContent (['*'] ++ ([' '] ++ text.toList)) :=
        hstar.append (h text ht).isContent (by decide) (h text ht).ne_nil (by decide)
      simpa using hline
    refine List.forall_mem_append.mpr ⟨List.forall_mem_cons.mpr ⟨isContent_docStart, htexts⟩, ?_⟩
    exact List.forall_mem_singleton.mpr isContent_docEnd

namespace PropertyEntry

variable {e : PropertyEntry}

theorem WellFormed.isContent_declaration (h : e.WellFormed) : IsContent e.declaration.toList := by
  refine ⟨?_, h.trimmed_declaration⟩
  have hmark : IsPlain (e.mark ++ [':', ' ']) := by
    cases hr : e.required <;> simp [mark, hr, IsPlain]
  have hend : IsPlain [';'] := by decide
  have hplain := (isPlain_of_word h.name_word).append (hmark.append (h.type_plain.append hend))
  simpa [toList_declaration, front] using hplain

theorem WellFormed.isContent_join (h : e.WellFormed) :
    IsContent (e.beside.join e.declaration).toList := by
  have hspace := isPlain_of_blank h.space
  have hbeside := h.beside
  have hdeclaration := h.isContent_declaration
  have hne : e.declaration.toList ≠ [] := by simp [toList_declaration]
  cases hb : e.beside with
  | nothing => exact hdeclaration
  | docBefore text space =>
    rw [hb] at hbeside
    rw [hb, Beside.space] at hspace
    have hline := isContent_docStart.append hdeclaration (by decide) hne
      ((hbeside text rfl).isPlain_spaced.append (isContent_docEnd.plain.append hspace))
    simpa [Beside.join] using hline
  | lineAfter space text =>
    rw [hb] at hbeside
    rw [hb, Beside.space] at hspace
    have hslashes : IsPlain "// ".toList := by decide
    have hline := hdeclaration.append (hbeside text rfl).isContent hne (hbeside text rfl).ne_nil
      (hspace.append hslashes)
    simpa [Beside.join] using hline
  | docAfter space text =>
    rw [hb] at hbeside
    rw [hb, Beside.space] at hspace
    have hline := hdeclaration.append isContent_docEnd hne (by decide)
      (hspace.append (isContent_docStart.plain.append (hbeside text rfl).isPlain_spaced))
    simpa [Beside.join] using hline

theorem WellFormed.isContent_lines (h : e.WellFormed) :
    ∀ line ∈ e.lines, IsContent line.toList := by
  have hgap : ∀ line ∈ List.replicate e.gap "", IsContent line.toList := by
    intro line hline
    rw [List.eq_of_mem_replicate hline]
    exact ⟨by decide, by decide⟩
  refine List.forall_mem_append.mpr
    ⟨List.forall_mem_append.mpr ⟨hgap, Above.isContent_lines h.above⟩, ?_⟩
  exact List.forall_mem_singleton.mpr h.isContent_join

end PropertyEntry

/-! The block of an interface. -/

theorem laid_indented (content : String) : Laid ("  " ++ content) content :=
  ⟨[' ', ' '], [], by decide, by simp⟩

namespace Laid

variable {line content : String}

theorem isPlain (h : Laid line content) (hc : IsContent content.toList) : IsPlain line.toList := by
  obtain ⟨left, right, hmargins, hline⟩ := h
  obtain ⟨hleft, hright⟩ := List.forall_mem_append.mp hmargins
  rw [hline]
  exact (isPlain_of_blank hleft).append (hc.plain.append (isPlain_of_blank hright))

theorem trim_eq (h : Laid line content) (hc : IsContent content.toList) :
    trim line.toList = content.toList := by
  obtain ⟨left, right, hmargins, hline⟩ := h
  obtain ⟨hleft, hright⟩ := List.forall_mem_append.mp hmargins
  rw [hline, trim_blanks_append fun c hc => (hleft c hc).1,
    trim_append_blanks fun c hc => (hright c hc).1, trim_eq_self hc.trimmed]

end Laid

theorem isPlain_of_laid {raws contents : List String} (h : List.Forall₂ Laid raws contents)
    (hc : ∀ content ∈ contents, IsContent content.toList) : ∀ raw ∈ raws, IsPlain raw.toList := by
  induction h with
  | nil => exact List.forall_mem_nil _
  | cons hlaid _ ih =>
    obtain ⟨hcontent, hcontents⟩ := List.forall_mem_cons.mp hc
    exact List.forall_mem_cons.mpr ⟨hlaid.isPlain hcontent, ih hcontents⟩

theorem map_trim_of_laid {raws contents : List String} (h : List.Forall₂ Laid raws contents)
    (hc : ∀ content ∈ contents, IsContent content.toList) :
    raws.map (fun raw => trim raw.toList) = contents.map String.toList := by
  induction h with
  | nil => rfl
  | cons hlaid _ ih =>
    obtain ⟨hcontent, hcontents⟩ := List.forall_mem_cons.mp hc
    rw [List.map_cons, List.map_cons, hlaid.trim_eq hcontent, ih hcontents]

theorem braceless_text {raws : List String} (h : ∀ raw ∈ raws, IsPlain raw.toList) :
    Braceless (text raws).toList := by
  have hline : ∀ c ∈ (text raws).toList, c ≠ '{' ∧ c ≠ '}' := by
    rw [toList_text, ofLines, List.flatMap_map]
    refine List.forall_mem_flatMap.mpr fun raw hraw => List.forall_mem_append.mpr ⟨?_, by decide⟩
    exact fun c hc => (h raw hraw c hc).2
  exact ⟨fun hm => (hline _ hm).1 rfl, fun hm => (hline _ hm).2 rfl⟩

theorem map_trim_topLevelLines {raws contents : List String} (h : List.Forall₂ Laid raws contents)
    (hc : ∀ content ∈ contents, IsContent content.toList) :
    (topLevelLines ('\n' :: (text raws).toList)).map trim = [] :: contents.map String.toList := by
  have hplain := isPlain_of_laid h hc
  have hfeed : ∀ raw ∈ raws, '\n' ∉ raw.toList := fun raw hraw hm => (hplain raw hraw _ hm).1 rfl
  have hbraceless : ∀ l ∈ raws.map String.toList, Braceless l :=
    List.forall_mem_map.mpr fun raw hraw => (hplain raw hraw).braceless
  have htrim : (raws.map String.toList).map (fun l => trim (withoutReturn l)) =
      contents.map String.toList := by
    rw [← map_trim_of_laid h hc, List.map_map]
    exact List.map_congr_left fun raw _ => trim_withoutReturn raw.toList
  rw [topLevelLines_text hfeed, outermost_of_braceless hbraceless, List.map_cons, List.map_map]
  exact congrArg ([] :: ·) htrim

theorem blanks?_space {cs : List Char} (h : ∀ c, cs.head? = some c → isBlank c = false) :
    blanks? (' ' :: cs) = some cs := by
  rw [blanks?, if_pos (by decide), skipBlanks_eq_self h]

theorem propsOpener?_interface {name : String} (hne : name ≠ "")
    (hword : ∀ c ∈ name.toList, isWord c = true) (rest : List Char) :
    propsOpener? ("export".toList ++ ' ' :: ("interface".toList ++ ' ' ::
      (name.toList ++ "Props".toList ++ ' ' :: '{' :: rest))) = some rest := by
  obtain ⟨c, cs, hname⟩ := List.exists_cons_of_ne_nil fun he => hne (String.toList_eq_nil_iff.mp he)
  have hwhole : ∀ c ∈ name.toList ++ "Props".toList, isWord c = true :=
    List.forall_mem_append.mpr ⟨hword, by decide⟩
  have hbefore : before? "Props".toList (name.toList ++ "Props".toList) = some (c :: cs) :=
    before?_eq_some_iff.mpr (by rw [hname])
  have hprops : propsName? (name.toList ++ "Props".toList ++ ' ' :: '{' :: rest) =
      some (' ' :: '{' :: rest) := by
    have hstop : ∀ c, (' ' :: '{' :: rest).head? = some c → isWord c = false := by
      rintro c ⟨⟩
      decide
    rw [propsName?, run?_eq_some_iff.mpr ⟨by simp, rfl, hwhole, hstop⟩, Option.bind_eq_bind,
      Option.bind_some]
    simp only [hbefore]
    rfl
  have hhead : ∀ d, (name.toList ++ "Props".toList ++ ' ' :: '{' :: rest).head? = some d →
      isBlank d = false := by
    intro d hd
    rw [hname, List.cons_append, List.cons_append, List.head?_cons, Option.some.injEq] at hd
    exact hd ▸ not_isBlank_of_isWord (hword c (hname ▸ .head cs))
  have hinterface : interfaceOpener? ("interface".toList ++ ' ' ::
      (name.toList ++ "Props".toList ++ ' ' :: '{' :: rest)) = some rest := by
    rw [interfaceOpener?, after?_append, Option.bind_eq_bind, Option.bind_some, blanks?_space hhead]
    simp only [Option.bind_some, hprops]
    rfl
  have hi : ∀ d, ("interface".toList ++ ' ' ::
      (name.toList ++ "Props".toList ++ ' ' :: '{' :: rest)).head? = some d →
        isBlank d = false := by
    rintro d ⟨⟩
    decide
  rw [propsOpener?, after?_append, Option.bind_eq_bind, Option.bind_some, blanks?_space hi,
    Option.bind_some, hinterface]
  rfl

theorem firstBlock?_interface {front name : String} (hfront : ¬ "export".toList <:+: front.toList)
    (hne : name ≠ "") (hword : ∀ c ∈ name.toList, isWord c = true) {body : List Char}
    (hbody : Braceless body) (back : List Char) :
    firstBlock? propsOpener?
      (front.toList ++ ("export".toList ++ ' ' :: ("interface".toList ++ ' ' ::
      (name.toList ++ "Props".toList ++ ' ' :: '{' :: (body ++ '}' :: back))))) = some body := by
  have hsearch : firstMatch propsOpener?
      (front.toList ++ ("export".toList ++ ' ' :: ("interface".toList ++ ' ' ::
      (name.toList ++ "Props".toList ++ ' ' :: '{' :: (body ++ '}' :: back))))) =
      some (body ++ '}' :: back) := by
    rw [firstMatch_append, firstMatch_of_some (propsOpener?_interface hne hword _)]
    intro a b hab hb
    have hnone : ¬ 'e' :: "xport".toList <:+: b :=
      fun h => hfront (h.trans ⟨a, [], by simpa using hab⟩)
    have hafter : after? "export".toList
        (b ++ ("export".toList ++ ' ' :: ("interface".toList ++ ' ' ::
        (name.toList ++ "Props".toList ++ ' ' :: '{' :: (body ++ '}' :: back))))) = none :=
      after?_eq_none (by decide) hnone hb
    rw [propsOpener?, hafter]
    rfl
  rw [firstBlock?, hsearch, Option.bind_some, blockBody?, closing_of_balanced hbody.balanced]
  rfl

/-- The properties of an exported interface of props are those of its entries, in order, each with
what is said of it on its own line or else above. -/
theorem properties_of_interface {front name back : String} {raws : List String}
    {entries : List PropertyEntry} (hfront : ¬ "export".toList <:+: front.toList) (hne : name ≠ "")
    (hname : ∀ c ∈ name.toList, isWord c = true) (hentries : ∀ e ∈ entries, e.WellFormed)
    (hlaid : List.Forall₂ Laid raws (entries.flatMap PropertyEntry.lines)) :
    properties (interfaceText front name raws back) = entries.map PropertyEntry.property := by
  let body := '\n' :: (text raws).toList
  have hcontent : ∀ line ∈ entries.flatMap PropertyEntry.lines, IsContent line.toList :=
    List.forall_mem_flatMap.mpr fun e he => (hentries e he).isContent_lines
  have hend : Braceless ['\n'] := by decide
  have hbody : Braceless body := hend.append (braceless_text (isPlain_of_laid hlaid hcontent))
  have htext : (interfaceText front name raws back).toList = front.toList ++
      ("export".toList ++ ' ' ::
      ("interface".toList ++ ' ' ::
        (name.toList ++ "Props".toList ++ ' ' :: '{' :: (body ++ '}' :: back.toList)))) := by
    simp [interfaceText, body]
  rw [properties, htext, firstBlock?_interface hfront hne hname hbody]
  simp only
  rw [map_trim_topLevelLines hlaid hcontent, propertiesAfter_cons, Pending.next_blank,
    propertiesAfter_entries hentries]
  rfl

def mixed : List PropertyEntry :=
  [⟨0, .doc "How large", .nothing, "size", true, "'sm' | 'lg'"⟩,
   ⟨1, .block ["Not seen:", "see right"], .lineAfter " " "said right", "tone", false, "string"⟩,
   ⟨0, .line "not seen", .docBefore "said left" " ", "open", true, "boolean"⟩,
   ⟨0, .nothing, .nothing, "plain", true, "T[]"⟩,
   ⟨2, .block ["Two", "lines"], .nothing, "count", false, "number"⟩,
   ⟨0, .nothing, .docAfter "  " "said right", "late", true, "Date"⟩]

theorem properties_of_interface_mixed :
    let lines := mixed.flatMap PropertyEntry.lines
    (¬ "export".toList <:+: "const a = 1;\n".toList ∧ "Field" ≠ "" ∧
      (∀ c ∈ "Field".toList, isWord c = true) ∧ (∀ e ∈ mixed, e.WellFormed) ∧
      List.Forall₂ Laid (lines.map ("  " ++ ·)) lines) ∧
    properties (interfaceText "const a = 1;\n" "Field" (lines.map ("  " ++ ·)) "\n") =
      [⟨"size", "'sm' | 'lg'", true, some "How large"⟩,
       ⟨"tone", "string", false, some "said right"⟩,
       ⟨"open", "boolean", true, some "said left"⟩,
       ⟨"plain", "T[]", true, none⟩,
       ⟨"count", "number", false, some "Two lines"⟩,
       ⟨"late", "Date", true, some "said right"⟩] := by
  intro lines
  have hfront : ¬ "export".toList <:+: "const a = 1;\n".toList := by decide
  have hname : ∀ c ∈ "Field".toList, isWord c = true := by decide
  have hentries : ∀ e ∈ mixed, e.WellFormed := by decide
  have hlaid : List.Forall₂ Laid (lines.map ("  " ++ ·)) lines :=
    List.forall₂_map_left_iff.mpr (List.forall₂_same.mpr fun line _ => laid_indented line)
  refine ⟨⟨hfront, by decide, hname, hentries, hlaid⟩, ?_⟩
  rw [properties_of_interface hfront (by decide) hname hentries hlaid]
  rfl

end StyleGuide.Component
