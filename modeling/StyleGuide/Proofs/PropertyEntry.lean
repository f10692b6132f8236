import Mathlib.Tactic.MkIffOfInductiveProp
import StyleGuide.Proofs.OpenComment

namespace StyleGuide.Component

open Text

def IsPlain (cs : List Char) : Prop := ∀ c ∈ cs, c ≠ '\n' ∧ c ≠ '{' ∧ c ≠ '}'

instance (cs : List Char) : Decidable (IsPlain cs) := inferInstanceAs (Decidable (∀ c ∈ cs, _))

/-- A text that can stand in a comment of any form and be told from its marks. -/
@[mk_iff]
structure IsRemark (text : String) : Prop where
  nonempty : text ≠ ""
  trimmed : Trimmed text.toList
  plain : IsPlain text.toList
  opensNone : ¬ commentStart <:+: text.toList
  closesNone : ¬ commentEnd <:+: text.toList

instance (text : String) : Decidable (IsRemark text) := decidable_of_iff' _ (isRemark_iff text)

/-- The comment on the lines just above a declaration: one line of either form, or a block that has
its marks on lines of their own. -/
inductive Above where
  | nothing
  | line (text : String)
  | doc (text : String)
  | block (texts : List String)

namespace Above

def lines : Above → List String
  | nothing => []
  | line text => ["// " ++ text]
  | doc text => ["/** " ++ text ++ " */"]
  | block texts => "/**" :: texts.map ("* " ++ ·) ++ ["*/"]

def texts : Above → List String
  | nothing => []
  | line text => [text]
  | doc text => [text]
  | block texts => texts

end Above

def joined? (texts : List String) : Option String :=
  if texts.isEmpty then none else some (" ".intercalate texts)

/-- The comment on the line of a declaration, and the space between the two. -/
inductive Beside where
  | nothing
  | docBefore (text space : String)
  | lineAfter (space text : String)
  | docAfter (space text : String)

namespace Beside

def join : Beside → String → String
  | nothing, declaration => declaration
  | docBefore text space, declaration => "/** " ++ text ++ " */" ++ space ++ declaration
  | lineAfter space text, declaration => declaration ++ space ++ "// " ++ text
  | docAfter space text, declaration => declaration ++ space ++ "/** " ++ text ++ " */"

def text? : Beside → Option String
  | nothing => none
  | docBefore text _ => some text
  | lineAfter _ text => some text
  | docAfter _ text => some text

def space : Beside → String
  | nothing => ""
  | docBefore _ space => space
  | lineAfter space _ => space
  | docAfter space _ => space

end Beside

/-- A property as it is written in an interface: blank lines, a comment above it, and the line that
declares it. -/
structure PropertyEntry where
  gap : Nat
  above : Above
  beside : Beside
  name : String
  required : Bool
  type : String

namespace PropertyEntry

def declaration (e : PropertyEntry) : String :=
  e.name ++ (if e.required then "" else "?") ++ ": " ++ e.type ++ ";"

def lines (e : PropertyEntry) : List String :=
  List.replicate e.gap "" ++ e.above.lines ++ [e.beside.join e.declaration]

def description (e : PropertyEntry) : Option String := e.beside.text? <|> joined? e.above.texts

def property (e : PropertyEntry) : Property := ⟨e.name, e.type, e.required, e.description⟩

@[mk_iff]
structure WellFormed (e : PropertyEntry) : Prop where
  above : ∀ text ∈ e.above.texts, IsRemark text
  beside : ∀ text ∈ e.beside.text?, IsRemark text
  space : ∀ c ∈ e.beside.space.toList, isBlank c = true ∧ c ≠ '\n'
  name_nonempty : e.name ≠ ""
  name_word : ∀ c ∈ e.name.toList, isWord c = true
  type_trimmed : Trimmed e.type.toList
  type_plain : IsPlain e.type.toList
  type_whole : ∀ c ∈ e.type.toList, c ≠ ';' ∧ c ≠ ','
  type_noLine : ¬ "//".toList <:+: e.type.toList
  type_noBlock : ¬ commentStart <:+: e.type.toList

instance (e : PropertyEntry) : Decidable e.WellFormed := decidable_of_iff' _ (wellFormed_iff e)

end PropertyEntry

/-! The marks of comments. -/

section

variable {text : String} {line stars right : List Char}

theorem IsRemark.ne_nil (h : IsRemark text) : text.toList ≠ [] :=
  fun he => h.nonempty (String.toList_eq_nil_iff.mp he)

theorem nonempty?_of_ne_nil {cs : List Char} (h : cs ≠ []) : nonempty? cs = some cs := by
  rw [nonempty?, if_neg (by simpa using h)]

theorem IsRemark.commentText_eq (h : IsRemark text) (hs : ∀ c ∈ stars, (c == '*') = true)
    (hr : ∀ c ∈ right, isBlank c = true) :
    commentText (stars ++ ' ' :: (text.toList ++ right)) = text.toList := by
  have hdrop : (stars ++ ' ' :: (text.toList ++ right)).dropWhile (· == '*') =
      ' ' :: (text.toList ++ right) := by
    rw [List.dropWhile_append_of_pos hs]
    rfl
  rw [commentText, hdrop, trim_cons_blank (by decide), trim_append_blanks hr,
    trim_eq_self h.trimmed]

theorem IsRemark.push_eq (h : IsRemark text) (hs : ∀ c ∈ stars, (c == '*') = true)
    (hr : ∀ c ∈ right, isBlank c = true) (p : Pending) :
    p.push (stars ++ ' ' :: (text.toList ++ right)) =
      { p with lines := p.lines ++ [text.toList] } := by
  rw [Pending.push, h.commentText_eq hs hr, nonempty?_of_ne_nil h.ne_nil]

/-- No mark with a star in it comes about where a remark is put between spaces. -/
theorem not_infix_spaced {mark : List Char} (hm : ' ' ∉ mark) (hslash : '/' ∈ mark)
    (h : ¬ mark <:+: text.toList) (hs : '/' ∉ stars) (hr : '/' ∉ right) :
    ¬ mark <:+: stars ++ ' ' :: (text.toList ++ ' ' :: right) :=
  not_infix_append_cons hm (not_infix_of_not_mem hslash hs)
    (not_infix_append_cons hm h (not_infix_of_not_mem hslash hr))

theorem IsRemark.splitAt?_end (h : IsRemark text) {stars : List Char} (hs : '/' ∉ stars)
    (rest : List Char) :
    splitAt? commentEnd (stars ++ ' ' :: (text.toList ++ ' ' :: '*' :: '/' :: rest)) =
      some (stars ++ ' ' :: (text.toList ++ [' ']), rest) := by
  have hnone : ¬ '*' :: ['/'] <:+: stars ++ ' ' :: (text.toList ++ ' ' :: []) :=
    not_infix_spaced (by decide) (by decide) h.closesNone hs (by simp)
  have hsplit : splitAt? ('*' :: ['/'])
      ((stars ++ ' ' :: (text.toList ++ [' '])) ++ ('*' :: ['/'] ++ rest)) =
      some (stars ++ ' ' :: (text.toList ++ [' ']), rest) := splitAt?_append (by decide) hnone
  simpa [commentEnd] using hsplit

end

/-! What the lines of a comment above a declaration leave for it. -/

namespace Pending

theorem next_blank (p : Pending) : p.next [] = (.empty, none) := rfl

theorem next_line {text : String} (h : IsRemark text) :
    Pending.empty.next ("// " ++ text).toList = (⟨[text.toList], false⟩, none) := by
  have htext : ("// " ++ text).toList = '/' :: '/' :: ([] ++ ' ' :: (text.toList ++ [])) := by simp
  have hleading : leadingComment? ('/' :: '/' :: ([] ++ ' ' :: (text.toList ++ []))) = none := rfl
  have hafter : after? "//".toList ('/' :: '/' :: ([] ++ ' ' :: (text.toList ++ []))) =
      some ([] ++ ' ' :: (text.toList ++ [])) := rfl
  rw [htext, next, if_neg (by simp), if_neg (by simp [Pending.empty]), hleading]
  simp only [absorb?, hafter]
  rw [h.push_eq (List.forall_mem_nil _) (List.forall_mem_nil _)]
  rfl

theorem next_doc {text : String} (h : IsRemark text) :
    Pending.empty.next ("/** " ++ text ++ " */").toList = (⟨[text.toList], false⟩, none) := by
  let inner := ['*'] ++ ' ' :: (text.toList ++ [' '])
  have htext : ("/** " ++ text ++ " */").toList = commentStart ++ (inner ++ commentEnd) := by
    simp [inner, commentStart, commentEnd]
  have hsplit : splitAt? commentEnd (inner ++ commentEnd) = some (inner, []) := by
    have hstar : '/' ∉ ['*'] := by decide
    simpa [inner, commentEnd] using h.splitAt?_end hstar []
  have hleading : leadingComment? (commentStart ++ (inner ++ commentEnd)) = none := by
    rw [leadingComment?, after?_append, Option.bind_eq_bind, Option.bind_some, hsplit]
    rfl
  have hslashes : after? "//".toList (commentStart ++ (inner ++ commentEnd)) = none := rfl
  rw [htext, next, if_neg (by simp), if_neg (by simp [Pending.empty]), hleading]
  simp only [absorb?, hslashes, after?_append, before?_eq_some_iff.mpr rfl]
  rw [h.push_eq (by decide) (by decide)]
  rfl

theorem next_blockStart : Pending.empty.next "/**".toList = (⟨[], true⟩, none) := rfl

theorem next_blockLine {text : String} (h : IsRemark text) (before : List (List Char)) :
    Pending.next ⟨before, true⟩ ("* " ++ text).toList =
      (⟨before ++ [text.toList], true⟩, none) := by
  have htext : ("* " ++ text).toList = ['*'] ++ ' ' :: (text.toList ++ []) := by simp
  have hend : ¬ commentEnd <:+: ['*'] ++ ' ' :: (text.toList ++ []) := by
    refine not_infix_append_cons (by decide) (by decide) ?_
    rw [List.append_nil]
    exact h.closesNone
  have hne : ['*'] ++ ' ' :: (text.toList ++ []) ≠ [] := List.cons_ne_nil _ _
  rw [htext, next_inside rfl hne fun hs => hend hs.isInfix,
    h.push_eq (by decide) (List.forall_mem_nil _)]

theorem next_blockEnd (texts : List (List Char)) :
    Pending.next ⟨texts, true⟩ "*/".toList = (⟨texts, false⟩, none) := rfl

theorem text?_eq_joined? (texts : List String) (isOpen : Bool) :
    (Pending.text? ⟨texts.map String.toList, isOpen⟩).map String.ofList = joined? texts := by
  rw [text?, joined?, List.isEmpty_map]
  cases texts.isEmpty with
  | true => rfl
  | false =>
    have htext : (" ".intercalate texts).toList = [' '].intercalate (texts.map String.toList) :=
      String.toList_intercalate
    simp only [Bool.false_eq_true, if_false, Option.map_some]
    rw [← htext, String.ofList_toList]

end Pending

theorem propertiesAfter_gap (n : Nat) (rest : List (List Char)) :
    propertiesAfter .empty (List.replicate n [] ++ rest) = propertiesAfter .empty rest := by
  induction n with
  | zero => rfl
  | succ n ih =>
    rw [List.replicate_succ, List.cons_append, propertiesAfter_cons, Pending.next_blank, ih]
    rfl

theorem propertiesAfter_block {texts : List String} (h : ∀ text ∈ texts, IsRemark text)
    (before : List (List Char)) (rest : List (List Char)) :
    propertiesAfter ⟨before, true⟩ ((texts.map ("* " ++ ·) ++ ["*/"]).map String.toList ++ rest) =
      propertiesAfter ⟨before ++ texts.map String.toList, false⟩ rest := by
  induction texts generalizing before with
  | nil =>
    rw [List.map_nil, List.nil_append, List.map_singleton, List.singleton_append,
      propertiesAfter_cons, Pending.next_blockEnd, List.map_nil, List.append_nil]
    rfl
  | cons text texts ih =>
    obtain ⟨htext, htexts⟩ := List.forall_mem_cons.mp h
    rw [List.map_cons, List.cons_append, List.map_cons, List.cons_append, propertiesAfter_cons,
      Pending.next_blockLine htext, ih htexts, List.map_cons, List.append_assoc]
    rfl

theorem propertiesAfter_above {a : Above} (h : ∀ text ∈ a.texts, IsRemark text)
    (rest : List (List Char)) :
    propertiesAfter .empty (a.lines.map String.toList ++ rest) =
      propertiesAfter ⟨a.texts.map String.toList, false⟩ rest := by
  cases a with
  | nothing => rfl
  | line text =>
    obtain ⟨htext, -⟩ := List.forall_mem_cons.mp h
    rw [Above.lines, List.map_singleton, List.singleton_append, propertiesAfter_cons,
      Pending.next_line htext]
    rfl
  | doc text =>
    obtain ⟨htext, -⟩ := List.forall_mem_cons.mp h
    rw [Above.lines, List.map_singleton, List.singleton_append, propertiesAfter_cons,
      Pending.next_doc htext]
    rfl
  | block texts =>
    rw [Above.lines, List.cons_append, List.map_cons, List.cons_append, propertiesAfter_cons,
      Pending.next_blockStart]
    exact propertiesAfter_block h [] rest

/-! The line that declares a property. -/

theorem Pending.next_word {p : Pending} (hp : p.isOpen = false) {c : Char} (hc : isWord c = true)
    (line : List Char) : p.next (c :: line) = (.empty, propertyOf? p none (c :: line)) := by
  have hslash : ('/' == c) = false := beq_false_of_ne fun he => absurd hc (by rw [← he]; decide)
  have hstar : c ≠ '*' := fun he => absurd hc (by rw [he]; decide)
  have hblock : after? commentStart (c :: line) = none := by
    rw [show commentStart = '/' :: ['*'] from rfl, after?_cons, hslash]
    rfl
  have hline : after? "//".toList (c :: line) = none := by
    rw [show "//".toList = '/' :: ['/'] from rfl, after?_cons, hslash]
    rfl
  have hleading : leadingComment? (c :: line) = none := by
    rw [leadingComment?, hblock]
    rfl
  have habsorb : p.absorb? (c :: line) = none := by
    rw [absorb?, if_neg (by simp [hp]), hline, hblock]
    simp [hstar]
  rw [next, if_neg (by simp), if_neg (by simp [hp]), hleading]
  simp only [habsorb]

theorem not_doc_of_not_comment {cs : List Char} (h : ¬ commentStart <:+: cs) :
    ¬ "/**".toList <:+: cs :=
  fun hm => h ((List.prefix_append commentStart ['*']).isInfix.trans hm)

theorem docOnLine?_eq_none {line : List Char} (h : ¬ "/**".toList <:+: line) :
    docOnLine? line = none := by
  rw [docOnLine?, splitAt?_eq_none_iff.mpr h]
  rfl

theorem lineComment?_append {front space : List Char} (hf : ¬ "//".toList <:+: front)
    (hs : '/' ∉ space) (rest : List Char) :
    lineComment? (front ++ ';' :: (space ++ rest)) = lineComment? rest := by
  have hsplit : front ++ ';' :: (space ++ rest) = (front ++ ';' :: space) ++ rest := by simp
  rw [hsplit, lineComment?, firstMatch_append, lineComment?]
  intro a b hab hb
  have hnone : after? "//".toList (b ++ rest) = none := by
    rw [after?_eq_none_iff]
    obtain ⟨x, hx, rfl⟩ | ⟨y, rfl, hy⟩ := List.append_eq_append_iff.mp hab
    · rw [List.append_assoc]
      refine not_prefix_append_cons (by decide) fun hp => hf ?_
      exact hp.isInfix.trans (hx ▸ (List.suffix_append a x).isInfix)
    · obtain ⟨d, b, rfl⟩ := List.exists_cons_of_ne_nil hb
      have hd : d ∈ ';' :: space := hy ▸ List.mem_append_right y (.head _)
      intro hp
      have hslash : '/' = d := (List.cons_prefix_cons.mp hp).1
      obtain he | he := List.mem_cons.mp hd
      · exact absurd (hslash.trans he) (by decide)
      · exact hs (hslash ▸ he)
  rw [hnone]
  rfl

theorem propertyOf?_of_declared {line name type : List Char} {required : Bool}
    (h : declared? line = some (name, required, type)) (p : Pending)
    (leading : Option (List Char)) :
    propertyOf? p leading line = some ⟨.ofList name, .ofList type, required,
      (leading <|> sameLineComment? line <|> p.text?).map .ofList⟩ := by
  rw [propertyOf?, h]
  rfl

namespace PropertyEntry

variable {e : PropertyEntry}

def mark (e : PropertyEntry) : List Char := if e.required then [] else ['?']

def front (e : PropertyEntry) : List Char :=
  e.name.toList ++ (e.mark ++ ':' :: ' ' :: e.type.toList)

theorem toList_declaration (e : PropertyEntry) : e.declaration.toList = e.front ++ [';'] := by
  cases h : e.required <;> simp [declaration, front, mark, h]

theorem WellFormed.name_ne_nil (h : e.WellFormed) : e.name.toList ≠ [] :=
  fun he => h.name_nonempty (String.toList_eq_nil_iff.mp he)

theorem WellFormed.declared?_append (h : e.WellFormed) (tail : List Char) :
    declared? (e.declaration.toList ++ tail) = some (e.name.toList, e.required, e.type.toList) := by
  have hstop : ∀ c, (e.mark ++ ':' :: ' ' :: (e.type.toList ++ ';' :: tail)).head? = some c →
      isWord c = false := by
    intro c hc
    have hmark : ':' = c ∨ '?' = c := by
      cases hr : e.required with
      | true => exact .inl (by simpa [mark, hr] using hc)
      | false => exact .inr (by simpa [mark, hr] using hc)
    obtain rfl | rfl := hmark <;> decide
  have hname := run?_eq_some_iff.mpr ⟨h.name_ne_nil, rfl, h.name_word, hstop⟩
  have htype : run? (fun c => c != ';' && c != ',') (' ' :: (e.type.toList ++ ';' :: tail)) =
      some (' ' :: e.type.toList, ';' :: tail) := by
    refine run?_eq_some_iff.mpr ⟨List.cons_ne_nil _ _, rfl, ?_, by simp⟩
    refine List.forall_mem_cons.mpr ⟨by decide, fun c hc => ?_⟩
    simpa using h.type_whole c hc
  have htrim : trim (' ' :: e.type.toList) = e.type.toList := by
    rw [trim_cons_blank (by decide), trim_eq_self h.type_trimmed]
  have hline : e.declaration.toList ++ tail =
      e.name.toList ++ (e.mark ++ ':' :: ' ' :: (e.type.toList ++ ';' :: tail)) := by
    simp [toList_declaration, front]
  rw [hline, declared?, hname]
  cases hr : e.required with
  | true => simp [mark, hr, char?, htype, htrim]
  | false => simp [mark, hr, char?, htype, htrim]

theorem WellFormed.not_infix_front (h : e.WellFormed) {mark : List Char} (hslash : '/' ∈ mark)
    (hspace : ' ' ∉ mark) (htype : ¬ mark <:+: e.type.toList) : ¬ mark <:+: e.front := by
  have hname : '/' ∉ e.name.toList := fun hm => absurd (h.name_word _ hm) (by decide)
  have hmark : '/' ∉ e.mark ++ [':'] := by
    cases hr : e.required <;> simp [PropertyEntry.mark, hr]
  have hsplit : e.front = (e.name.toList ++ (e.mark ++ [':'])) ++ ' ' :: e.type.toList := by
    simp [front]
  rw [hsplit]
  refine not_infix_append_cons hspace (not_infix_of_not_mem hslash fun hm => ?_) htype
  exact (List.mem_append.mp hm).elim hname hmark

theorem WellFormed.noDoc (h : e.WellFormed) {tail : List Char} (htail : ¬ "/**".toList <:+: tail) :
    ¬ "/**".toList <:+: e.front ++ ';' :: tail := by
  have htype : ¬ "/**".toList <:+: e.type.toList := not_doc_of_not_comment h.type_noBlock
  exact not_infix_append_cons (by decide) (h.not_infix_front (by decide) (by decide) htype) htail

theorem WellFormed.lineComment?_append (h : e.WellFormed) {space : List Char}
    (hs : ∀ c ∈ space, isBlank c = true) (tail : List Char) :
    lineComment? (e.front ++ ';' :: (space ++ tail)) = lineComment? tail := by
  have hslash : '/' ∉ space := fun hm => absurd (hs _ hm) (by decide)
  exact Component.lineComment?_append
    (h.not_infix_front (by decide) (by decide) h.type_noLine) hslash tail

/-! The comment on the line of a declaration. -/

theorem WellFormed.sameLineComment?_nothing (h : e.WellFormed) :
    sameLineComment? e.declaration.toList = none := by
  have hline : lineComment? (e.front ++ [';']) = none :=
    h.lineComment?_append (List.forall_mem_nil _) []
  rw [toList_declaration, sameLineComment?, docOnLine?_eq_none (h.noDoc (by decide))]
  simp only [hline]
  rfl

theorem WellFormed.sameLineComment?_line (h : e.WellFormed) {text : String} (ht : IsRemark text)
    {space : List Char} (hs : ∀ c ∈ space, isBlank c = true) :
    sameLineComment? (e.declaration.toList ++ (space ++ "// ".toList ++ text.toList)) =
      some text.toList := by
  have hstar : '*' ∉ space ++ "//".toList := by
    intro hm
    obtain hm | hm := List.mem_append.mp hm
    · exact absurd (hs _ hm) (by decide)
    · exact absurd hm (by decide)
  have htext : ¬ "/**".toList <:+: text.toList := not_doc_of_not_comment ht.opensNone
  have hdoc : ¬ "/**".toList <:+: space ++ "//".toList ++ ' ' :: text.toList :=
    not_infix_append_cons (by decide) (not_infix_of_not_mem (by decide) hstar) htext
  have hline : lineComment? ("//".toList ++ ' ' :: text.toList) = some (' ' :: text.toList) := by
    refine firstMatch_of_some ?_
    rw [after?_append, Option.bind_some, nonempty?_of_ne_nil (List.cons_ne_nil _ _)]
  have hcomment := (h.lineComment?_append hs ("//".toList ++ ' ' :: text.toList)).trans hline
  have hsplit : e.declaration.toList ++ (space ++ "// ".toList ++ text.toList) =
      e.front ++ ';' :: (space ++ "//".toList ++ ' ' :: text.toList) := by
    simp [toList_declaration]
  rw [hsplit, sameLineComment?, docOnLine?_eq_none (h.noDoc hdoc), List.append_assoc]
  simp only [hcomment, Option.bind_some]
  rw [trim_cons_blank (by decide), trim_eq_self ht.trimmed, nonempty?_of_ne_nil ht.ne_nil]

theorem WellFormed.sameLineComment?_doc (h : e.WellFormed) {text : String} (ht : IsRemark text)
    {space : List Char} (hs : ∀ c ∈ space, isBlank c = true) :
    sameLineComment?
      (e.declaration.toList ++ (space ++ "/** ".toList ++ text.toList ++ " */".toList)) =
      some text.toList := by
  have hslash : '/' ∉ space := fun hm => absurd (hs _ hm) (by decide)
  have hstart : splitAt? ('/' :: ['*', '*'])
      ((e.front ++ ';' :: space) ++ ('/' :: ['*', '*'] ++ ' ' :: (text.toList ++ " */".toList))) =
      some (e.front ++ ';' :: space, ' ' :: (text.toList ++ " */".toList)) :=
    splitAt?_append (by decide) (h.noDoc (not_infix_of_not_mem (by decide) hslash))
  have hend : splitAt? commentEnd (' ' :: (text.toList ++ " */".toList)) =
      some (' ' :: (text.toList ++ [' ']), []) := ht.splitAt?_end List.not_mem_nil []
  have hsplit : e.declaration.toList ++ (space ++ "/** ".toList ++ text.toList ++ " */".toList) =
      (e.front ++ ';' :: space) ++ ('/' :: ['*', '*'] ++ ' ' :: (text.toList ++ " */".toList)) := by
    simp [toList_declaration]
  have hdoc : docOnLine?
      (e.declaration.toList ++ (space ++ "/** ".toList ++ text.toList ++ " */".toList)) =
      some (' ' :: (text.toList ++ [' '])) := by
    rw [hsplit, docOnLine?, show "/**".toList = '/' :: ['*', '*'] from rfl, hstart]
    simp only [Option.bind_eq_bind, Option.bind_some, hend]
    rfl
  rw [sameLineComment?, hdoc]
  simp only
  rw [trim_cons_blank (by decide), trim_append_blanks (by decide), trim_eq_self ht.trimmed,
    nonempty?_of_ne_nil ht.ne_nil]

theorem WellFormed.trimmed_declaration (h : e.WellFormed) : Trimmed e.declaration.toList := by
  have hword : ∀ c ∈ e.name.toList, isBlank c = false :=
    fun c hc => not_isBlank_of_isWord (h.name_word c hc)
  have hname : Trimmed e.name.toList :=
    ⟨fun c hc => hword c (List.mem_of_mem_head? hc), fun c hc => hword c (List.mem_of_getLast? hc)⟩
  have hend : Trimmed [';'] := by decide
  rw [toList_declaration, front, List.append_assoc]
  exact hname.append hend h.name_ne_nil (List.cons_ne_nil _ _) _

theorem WellFormed.next_declaration (h : e.WellFormed) {p : Pending} (hp : p.isOpen = false)
    (tail : List Char) : p.next (e.declaration.toList ++ tail) =
      (.empty, some ⟨e.name, e.type, e.required,
      (sameLineComment? (e.declaration.toList ++ tail) <|> p.text?).map .ofList⟩) := by
  obtain ⟨c, name, hname⟩ := List.exists_cons_of_ne_nil h.name_ne_nil
  have hc : isWord c = true := h.name_word c (hname ▸ .head name)
  have hline : e.declaration.toList ++ tail =
      c :: (name ++ (e.mark ++ ':' :: ' ' :: e.type.toList) ++ [';'] ++ tail) := by
    rw [toList_declaration, front, hname]
    rfl
  have hnext :=
    Pending.next_word hp hc (name ++ (e.mark ++ ':' :: ' ' :: e.type.toList) ++ [';'] ++ tail)
  rw [← hline] at hnext
  rw [hnext, propertyOf?_of_declared (h.declared?_append tail), String.ofList_toList,
    String.ofList_toList]
  rfl

theorem WellFormed.next_docBefore (h : e.WellFormed) {text : String} (ht : IsRemark text)
    {space : List Char} (hs : ∀ c ∈ space, isBlank c = true) {p : Pending} (hp : p.isOpen = false) :
    p.next ("/** ".toList ++ text.toList ++ " */".toList ++ space ++ e.declaration.toList) =
      (.empty, some ⟨e.name, e.type, e.required, some text⟩) := by
  have hline : "/** ".toList ++ text.toList ++ " */".toList ++ space ++ e.declaration.toList =
      commentStart ++ (['*'] ++
        ' ' :: (text.toList ++ ' ' :: '*' :: '/' :: (space ++ e.declaration.toList))) := by
    simp [commentStart]
  have hstars : '/' ∉ ['*'] := by decide
  have hdeclaration : trim (space ++ e.declaration.toList) = e.declaration.toList := by
    rw [trim_blanks_append hs, trim_eq_self h.trimmed_declaration]
  have hne : e.declaration.toList ≠ [] := by simp [toList_declaration]
  have hcomment : commentText (['*'] ++ ' ' :: (text.toList ++ [' '])) = text.toList :=
    ht.commentText_eq (by decide) (by decide)
  have hleading : leadingComment? (commentStart ++
      (['*'] ++ ' ' :: (text.toList ++ ' ' :: '*' :: '/' :: (space ++ e.declaration.toList)))) =
      some (text.toList, e.declaration.toList) := by
    rw [leadingComment?, after?_append, Option.bind_eq_bind, Option.bind_some,
      ht.splitAt?_end hstars]
    simp only [Option.bind_eq_bind, Option.bind_some, hdeclaration, nonempty?_of_ne_nil hne,
      hcomment]
    rfl
  have hdeclared := h.declared?_append []
  rw [List.append_nil] at hdeclared
  rw [hline, Pending.next, if_neg (by simp), if_neg (by simp [hp]), hleading]
  simp only [nonempty?_of_ne_nil ht.ne_nil]
  rw [propertyOf?_of_declared hdeclared, String.ofList_toList, String.ofList_toList]
  simp

/-- The line of an entry declares its property, and uses up the comment above. -/
theorem WellFormed.next_join (h : e.WellFormed) :
    Pending.next ⟨e.above.texts.map String.toList, false⟩ (e.beside.join e.declaration).toList =
      (.empty, some e.property) := by
  have hspace : ∀ c ∈ e.beside.space.toList, isBlank c = true := fun c hc => (h.space c hc).1
  have hbeside := h.beside
  have habove := Pending.text?_eq_joined? e.above.texts false
  rw [property, description]
  cases hb : e.beside with
  | nothing =>
    have hnext := h.next_declaration (p := ⟨e.above.texts.map String.toList, false⟩) rfl []
    rw [List.append_nil, h.sameLineComment?_nothing] at hnext
    rw [Beside.join, hnext, ← habove]
    rfl
  | docBefore text space =>
    rw [hb] at hbeside
    rw [hb, Beside.space] at hspace
    have hline : (Beside.join (.docBefore text space) e.declaration).toList =
        "/** ".toList ++ text.toList ++ " */".toList ++ space.toList ++ e.declaration.toList := by
      simp [Beside.join]
    rw [hline, h.next_docBefore (hbeside text rfl) hspace rfl]
    rfl
  | lineAfter space text =>
    rw [hb] at hbeside
    rw [hb, Beside.space] at hspace
    have hline : (Beside.join (.lineAfter space text) e.declaration).toList =
        e.declaration.toList ++ (space.toList ++ "// ".toList ++ text.toList) := by
      simp [Beside.join]
    rw [hline, h.next_declaration rfl, h.sameLineComment?_line (hbeside text rfl) hspace]
    simp [Beside.text?]
  | docAfter space text =>
    rw [hb] at hbeside
    rw [hb, Beside.space] at hspace
    have hline : (Beside.join (.docAfter space text) e.declaration).toList =
        e.declaration.toList ++ (space.toList ++ "/** ".toList ++ text.toList ++ " */".toList) := by
      simp [Beside.join]
    rw [hline, h.next_declaration rfl, h.sameLineComment?_doc (hbeside text rfl) hspace]
    simp [Beside.text?]

theorem WellFormed.propertiesAfter_lines (h : e.WellFormed) (rest : List (List Char)) :
    propertiesAfter .empty (e.lines.map String.toList ++ rest) =
      e.property :: propertiesAfter .empty rest := by
  have hlines : e.lines.map String.toList ++ rest = List.replicate e.gap [] ++
      (e.above.lines.map String.toList ++ (e.beside.join e.declaration).toList :: rest) := by
    simp [lines]
  rw [hlines, propertiesAfter_gap, propertiesAfter_above h.above, propertiesAfter_cons, h.next_join]
  rfl

end PropertyEntry

theorem propertiesAfter_entries {entries : List PropertyEntry} (h : ∀ e ∈ entries, e.WellFormed) :
    propertiesAfter .empty ((entries.flatMap PropertyEntry.lines).map String.toList) =
      entries.map PropertyEntry.property := by
  induction entries with
  | nil => rfl
  | cons e entries ih =>
    obtain ⟨he, hentries⟩ := List.forall_mem_cons.mp h
    rw [List.flatMap_cons, List.map_append, he.propertiesAfter_lines, ih hentries, List.map_cons]

end StyleGuide.Component
