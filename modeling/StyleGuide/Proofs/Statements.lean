import StyleGuide.Component.Source
import StyleGuide.Proofs.ByteOrder
import StyleGuide.Proofs.Catalog
import StyleGuide.Proofs.Descent
import StyleGuide.Proofs.Occurrence

namespace StyleGuide

namespace Text

theorem induction_on_lines {motive : List Char → Prop} (cs : List Char)
    (last : ∀ line, '\n' ∉ line → motive line)
    (more : ∀ line rest, '\n' ∉ line → motive rest → motive (line ++ '\n' :: rest)) :
    motive cs := by
  induction hlen : cs.length using Nat.strong_induction_on generalizing cs with
  | _ n ih =>
    by_cases hcs : '\n' ∈ cs
    · obtain ⟨line, rest, rfl, hline⟩ := List.eq_append_cons_of_mem hcs
      refine more line rest hline (ih rest.length ?_ rest rfl)
      rw [← hlen, List.length_append, List.length_cons]
      omega
    · exact last cs hcs

theorem splitOn_ofLines {ls : List (List Char)} (h : ∀ line ∈ ls, '\n' ∉ line) :
    splitOn '\n' (ofLines ls) = ls ++ [[]] := by
  induction ls with
  | nil => rfl
  | cons line ls ih =>
    obtain ⟨hline, hls⟩ := List.forall_mem_cons.mp h
    rw [ofLines, List.flatMap_cons, List.append_assoc, List.singleton_append, splitOn_append hline,
      ← ofLines, ih hls]
    rfl

end Text

namespace Component

open Text

/-- A statement on a line of its own: a keyword, a clause, a module between quotation marks, and
what follows. -/
structure Statement where
  clause : String
  quotes : Char × Char
  name : String
  tail : String

namespace Statement

def ending (s : Statement) : List Char :=
  ' ' :: ("from".toList ++ ' ' :: s.quotes.1 :: (s.name.toList ++ s.quotes.2 :: s.tail.toList))

def line (s : Statement) (keyword : String) : List Char :=
  keyword.toList ++ ' ' :: (s.clause.toList ++ s.ending)

/-- No part has a quotation mark in it, and the clause has no blank at either end. -/
@[mk_iff]
structure WellFormed (s : Statement) : Prop where
  clause_ne : s.clause ≠ ""
  trimmed : Trimmed s.clause.toList
  clause : ∀ c ∈ s.clause.toList, isQuote c = false
  quotes : isQuote s.quotes.1 = true ∧ isQuote s.quotes.2 = true
  name_ne : s.name ≠ ""
  name : ∀ c ∈ s.name.toList, isQuote c = false
  tail : ∀ c ∈ s.tail.toList, isQuote c = false

instance (s : Statement) : Decidable s.WellFormed := decidable_of_iff' _ (wellFormed_iff s)

end Statement

def Names (keyword : String) (line : List Char) (name : String) : Prop :=
  ∃ s : Statement, s.WellFormed ∧ s.line keyword = line ∧ s.name = name

/-- No line begins with the keyword but the statements. -/
def OnlyStatements (keyword : String) (ls : List (List Char)) : Prop :=
  ∀ line ∈ ls, keyword.toList <+: line → ∃ name, Names keyword line name

def linesOf (file : Option String) : List (List Char) :=
  file.elim [] fun text => splitOn '\n' text.toList

theorem linesOf_ofLines {ls : List (List Char)} (h : ∀ line ∈ ls, '\n' ∉ line) :
    linesOf (some (String.ofList (ofLines ls))) = ls ++ [[]] := by
  rw [linesOf, Option.elim_some, String.toList_ofList, splitOn_ofLines h]

section Ending

variable {s : Statement} {cs rest : List Char}

theorem head_of_quotedText? {found : List Char × List Char} (h : quotedText? cs = some found) :
    ∃ q r, isQuote q = true ∧ cs = q :: r := by
  obtain ⟨r, hr, -⟩ := Option.bind_eq_some_iff.mp h
  cases cs with
  | nil => cases hr
  | cons q cs =>
    rw [oneOf?] at hr
    split at hr
    · next hq => exact ⟨q, cs, hq, rfl⟩
    · cases hr

theorem exists_of_fromModule? {found : List Char × List Char} (h : fromModule? cs = some found) :
    ∃ front q rest, cs = front ++ q :: rest ∧ isQuote q = true ∧
      front.filter (!isBlank ·) = "from".toList := by
  obtain ⟨cs₁, h₁, hword⟩ := Option.bind_eq_some_iff.mp h
  obtain ⟨cs₂, h₂, hmark⟩ := Option.bind_eq_some_iff.mp hword
  obtain ⟨cs₃, h₃, hquoted⟩ := Option.bind_eq_some_iff.mp hmark
  obtain ⟨as, -, rfl, has, -⟩ := blanks?_eq_some_iff.mp h₁
  obtain rfl := after?_eq_some_iff.mp h₂
  obtain ⟨bs, -, rfl, hbs, -⟩ := blanks?_eq_some_iff.mp h₃
  obtain ⟨q, r, hq, rfl⟩ := head_of_quotedText? hquoted
  have hnone : ∀ {ds : List Char}, (∀ c ∈ ds, isBlank c = true) → ds.filter (!isBlank ·) = [] := by
    intro ds hds
    refine List.filter_eq_nil_iff.mpr fun c hc => ?_
    rw [hds c hc]
    decide
  refine ⟨as ++ ("from".toList ++ bs), q, r, by simp only [List.append_assoc], hq, ?_⟩
  rw [List.filter_append, List.filter_append, hnone has, hnone hbs, List.nil_append,
    List.append_nil]
  decide

theorem quotedText?_cons (h : s.WellFormed) :
    quotedText? (s.quotes.1 :: (s.name.toList ++ s.quotes.2 :: (s.tail.toList ++ rest))) =
      some (s.name.toList, s.tail.toList ++ rest) := by
  have hname : run? (!isQuote ·) (s.name.toList ++ s.quotes.2 :: (s.tail.toList ++ rest)) =
      some (s.name.toList, s.quotes.2 :: (s.tail.toList ++ rest)) := by
    refine run?_eq_some_iff.mpr ⟨fun he => h.name_ne (String.toList_eq_nil_iff.mp he),
      rfl, fun c hc => ?_, ?_⟩
    · rw [h.name c hc, Bool.not_false]
    · intro c hc
      obtain rfl := Option.some.inj hc
      rw [h.quotes.2, Bool.not_true]
  simp [quotedText?, oneOf?, h.quotes, hname]

theorem fromModule?_ending (h : s.WellFormed) (rest : List Char) :
    fromModule? (s.ending ++ rest) = some (s.name.toList, s.tail.toList ++ rest) := by
  have hword : ∀ r, blanks? (' ' :: ("from".toList ++ r)) = some ("from".toList ++ r) :=
    fun r => rfl
  have hmark :
      blanks? (' ' :: s.quotes.1 :: (s.name.toList ++ s.quotes.2 :: (s.tail.toList ++ rest))) =
      some (s.quotes.1 :: (s.name.toList ++ s.quotes.2 :: (s.tail.toList ++ rest))) := by
    refine congrArg some (skipBlanks_eq_self fun c hc => ?_)
    obtain rfl := Option.some.inj hc
    exact not_isBlank_of_isQuote h.quotes.1
  rw [Statement.ending, fromModule?]
  simp only [List.append_assoc, List.cons_append, hword, after?_append, hmark, Option.bind_eq_bind,
    Option.bind_some, quotedText?_cons h]

/-- No ending is read from within the clause: before the first quotation mark there would be more
than the word. -/
theorem fromModule?_clause (h : s.WellFormed) (hcs : ∀ c ∈ cs, isQuote c = false) (hne : cs ≠ [])
    (hlast : ∀ c, cs.getLast? = some c → isBlank c = false) (rest : List Char) :
    fromModule? (cs ++ (s.ending ++ rest)) = none := by
  rw [Option.eq_none_iff_forall_ne_some]
  intro found hfound
  obtain ⟨front, q, r, heq, hq, hfront⟩ := exists_of_fromModule? hfound
  have hplain : ∀ c ∈ front, isQuote c = false := by
    intro c hc
    rw [Bool.eq_false_iff]
    intro hquote
    have hmem : c ∈ "from".toList := by
      rw [← hfront, List.mem_filter, not_isBlank_of_isQuote hquote]
      exact ⟨hc, rfl⟩
    have hword : ∀ c ∈ "from".toList, isQuote c = false := by decide
    rw [hword c hmem] at hquote
    cases hquote
  have hword : ∀ c ∈ ' ' :: ("from".toList ++ [' ']), isQuote c = false := by decide
  have hparts : cs ++ (s.ending ++ rest) = (cs ++ ' ' :: ("from".toList ++ [' '])) ++
      s.quotes.1 :: (s.name.toList ++ s.quotes.2 :: (s.tail.toList ++ rest)) := by
    simp only [Statement.ending, List.append_assoc, List.cons_append, List.nil_append]
  -- Both readings see one text before the first quotation mark, and the second has no letters
  -- there but the word.
  obtain ⟨heq, -⟩ :=
    append_cons_inj_of (List.forall_mem_append.mpr ⟨hcs, hword⟩) h.quotes.1 hplain hq
    (hparts.symm.trans heq)
  rw [← heq, List.filter_append] at hfront
  have hempty : cs.filter (!isBlank ·) = [] := List.append_left_eq_self.mp hfront
  have hblank := List.filter_eq_nil_iff.mp hempty _ (List.getLast_mem hne)
  rw [hlast _ (List.getLast?_eq_some_getLast hne)] at hblank
  exact hblank rfl

theorem clause?_of_some {found : List Char × List Char} (h : fromModule? cs = some found) :
    clause? cs = some found := by
  cases cs with
  | nil => cases h
  | cons c r => rw [clause?, h]

theorem clause?_append (h : s.WellFormed) (hcs : ∀ c ∈ cs, isQuote c = false) (hline : '\n' ∉ cs)
    (hlast : ∀ c, cs.getLast? = some c → isBlank c = false) (rest : List Char) :
    clause? (cs ++ (s.ending ++ rest)) = some (s.name.toList, s.tail.toList ++ rest) := by
  induction cs with
  | nil => exact clause?_of_some (fromModule?_ending h rest)
  | cons c cs ih =>
    have hhere := fromModule?_clause h hcs (List.cons_ne_nil c cs) hlast rest
    have hc : isLineFeed c = false := beq_eq_false_iff_ne.mpr fun he => hline (he ▸ .head cs)
    rw [List.cons_append] at hhere ⊢
    simp only [clause?, hhere, hc, Bool.false_eq_true, if_false]
    refine ih (fun d hd => hcs d (.tail c hd)) (fun hd => hline (.tail c hd)) fun d hd => hlast d ?_
    rw [List.getLast?_cons, hd]
    rfl

theorem blanksClause?_cons {c : Char} (hc : isBlank c = true)
    (h : ∀ d, cs.head? = some d → isBlank d = false) : blanksClause? (c :: cs) = clause? cs := by
  have hnone : blanksClause? cs = none := by
    cases cs with
    | nil => rfl
    | cons d r => rw [blanksClause?, h d rfl, if_neg Bool.false_ne_true]
  simp only [blanksClause?, hc, if_true, hnone]

theorem statement?_line (h : s.WellFormed) (keyword : String) (hline : '\n' ∉ s.clause.toList)
    (rest : List Char) :
    statement? keyword.toList (s.line keyword ++ rest) =
      some (s.name.toList, s.tail.toList ++ rest) := by
  have hclause := clause?_append h h.clause hline h.trimmed.2 rest
  have hne : s.clause.toList ≠ [] := fun he => h.clause_ne (String.toList_eq_nil_iff.mp he)
  have hfirst : ∀ c, (s.clause.toList ++ (s.ending ++ rest)).head? = some c →
      isBlank c = false := by
    intro c hc
    rw [List.head?_append_of_ne_nil _ hne] at hc
    exact h.trimmed.1 c hc
  rw [statement?, Statement.line, List.append_assoc, after?_append, Option.bind_some,
    List.cons_append, List.append_assoc, blanksClause?_cons (by decide) hfirst, hclause]

end Ending

section Reading

variable {keyword : String} {s : Statement} {line cs rest : List Char} {name : List Char}

theorem modules_nil (keyword : List Char) (lineStart : Bool) :
    modules keyword lineStart [] = [] := by
  rw [modules]

theorem modules_line_feed (keyword rest : List Char) :
    modules keyword false ('\n' :: rest) = modules keyword true rest := by
  rw [modules]
  rfl

theorem modules_append (keyword : List Char) (hcs : '\n' ∉ cs) (rest : List Char) :
    modules keyword false (cs ++ rest) = modules keyword false rest := by
  induction cs with
  | nil => rfl
  | cons c cs ih =>
    have hc : isLineFeed c = false := beq_eq_false_iff_ne.mpr fun he => hcs (he ▸ .head cs)
    rw [List.cons_append, modules]
    simp only [Bool.false_eq_true, if_false, hc]
    exact ih fun hd => hcs (.tail c hd)

theorem modules_of_none {keyword : List Char} (h : statement? keyword cs = none) :
    modules keyword true cs = modules keyword false cs := by
  cases cs with
  | nil => rw [modules_nil, modules_nil]
  | cons c r =>
    rw [modules, modules]
    simp [h]

theorem modules_of_statement {keyword : List Char} (h : statement? keyword cs = some (name, rest))
    (hlen : rest.length < cs.length) :
    modules keyword true cs = name :: modules keyword false rest := by
  cases cs with
  | nil => cases hlen
  | cons c r =>
    rw [modules]
    simp only [if_true, h]
    exact if_pos (Nat.le_of_lt_succ hlen)

theorem modules_statement (h : s.WellFormed) (hline : '\n' ∉ s.line keyword) (rest : List Char) :
    modules keyword.toList true (s.line keyword ++ rest) =
      s.name.toList :: modules keyword.toList false rest := by
  simp only [Statement.line, Statement.ending, List.mem_append, List.mem_cons, not_or] at hline
  obtain ⟨-, -, hclause, -, -, -, -, -, -, htail⟩ := hline
  have hlen : (s.tail.toList ++ rest).length < (s.line keyword ++ rest).length := by
    simp only [Statement.line, Statement.ending, List.length_append, List.length_cons]
    omega
  rw [modules_of_statement (statement?_line h keyword hclause rest) hlen,
    modules_append keyword.toList htail]

theorem modules_other {keyword : List Char} (h : ¬ keyword <+: cs ++ rest) (hcs : '\n' ∉ cs) :
    modules keyword true (cs ++ rest) = modules keyword false rest := by
  have hnone : statement? keyword (cs ++ rest) = none := by
    rw [statement?, after?_eq_none_iff.mpr h, Option.bind_none]
  rw [modules_of_none hnone, modules_append keyword hcs]

theorem modules_statement_line (h : s.WellFormed) (hline : '\n' ∉ s.line keyword) :
    modules keyword.toList true (s.line keyword) = [s.name.toList] := by
  have hread := modules_statement h hline []
  rwa [List.append_nil, modules_nil] at hread

theorem modules_other_line {keyword : List Char} (h : ¬ keyword <+: cs) (hcs : '\n' ∉ cs) :
    modules keyword true cs = [] := by
  have hread : modules keyword true (cs ++ []) = modules keyword false [] :=
    modules_other (by rwa [List.append_nil]) hcs
  rwa [List.append_nil, modules_nil] at hread

/-- What a line gives is what it gives by itself: no statement reaches into the next line. -/
theorem modules_line (hfeed : '\n' ∉ keyword.toList) (hline : '\n' ∉ line)
    (h : keyword.toList <+: line → ∃ name, Names keyword line name) (rest : List Char) :
    modules keyword.toList true (line ++ '\n' :: rest) =
      modules keyword.toList true line ++ modules keyword.toList true rest := by
  by_cases hstart : keyword.toList <+: line
  · obtain ⟨-, s, hs, rfl, -⟩ := h hstart
    rw [modules_statement hs hline, modules_statement_line hs hline, modules_line_feed,
      List.singleton_append]
  · rw [modules_other (not_prefix_append_cons hfeed hstart) hline, modules_other_line hstart hline,
      modules_line_feed, List.nil_append]

theorem mem_modules_line (hline : '\n' ∉ line)
    (h : keyword.toList <+: line → ∃ name, Names keyword line name) (name : String) :
    name.toList ∈ modules keyword.toList true line ↔ Names keyword line name := by
  constructor
  · intro hname
    by_cases hstart : keyword.toList <+: line
    · obtain ⟨-, s, hs, rfl, -⟩ := h hstart
      rw [modules_statement_line hs hline, List.mem_singleton, String.toList_inj] at hname
      exact ⟨s, hs, rfl, hname.symm⟩
    · rw [modules_other_line hstart hline] at hname
      cases hname
  · rintro ⟨s, hs, rfl, rfl⟩
    rw [modules_statement_line hs hline]
    exact .head _

theorem mem_modules (hfeed : '\n' ∉ keyword.toList) (h : OnlyStatements keyword (splitOn '\n' cs))
    (name : String) :
    name.toList ∈ modules keyword.toList true cs ↔ ∃ line ∈ splitOn '\n' cs,
      Names keyword line name := by
  induction cs using induction_on_lines with
  | last line hline =>
    rw [splitOn_of_not_mem hline] at h ⊢
    rw [mem_modules_line hline (h line (.head _))]
    simp
  | more line rest hline ih =>
    rw [splitOn_append hline] at h ⊢
    have hhere := h line (.head _)
    rw [modules_line hfeed hline hhere, List.mem_append, mem_modules_line hline hhere,
      ih fun l hl => h l (.tail line hl)]
    simp

end Reading

theorem isExternal_iff {cs : List Char} :
    isExternal cs = true ↔ cs.head? ≠ some '.' ∧ cs.head? ≠ some '/' := by
  unfold isExternal
  split
  · simp
  · simp
  · cases cs <;> simp_all

section

variable {source : String} {index : Option String}

theorem pairwise_dependencies (source : String) (index : Option String) :
    (dependencies source index).Pairwise (· < ·) := by
  have hkeys (names : List String) : (ascending id names).Pairwise (· < ·) := by
    have hp := pairwise_ascending id names
    rwa [List.map_id] at hp
  exact hkeys _

theorem mem_dependencies {name : String} : name ∈ dependencies source index ↔
    (name.toList ∈ modules "import".toList true source.toList ∨
      ∃ text ∈ index, name.toList ∈ modules "export".toList true text.toList) ∧
      isExternal name.toList = true := by
  have hkeys (names : List (List Char)) :
      name ∈ ascending id ((names.filter isExternal).map String.ofList) ↔
      name.toList ∈ names ∧ isExternal name.toList = true := by
    have hmem : name ∈ (ascending id ((names.filter isExternal).map String.ofList)).map id ↔
        name ∈ ((names.filter isExternal).map String.ofList).map id := mem_keys_ascending
    rw [List.map_id, List.map_id] at hmem
    rw [hmem, List.mem_map, ← List.mem_filter]
    constructor
    · rintro ⟨cs, hcs, rfl⟩
      rwa [String.toList_ofList]
    · exact fun h => ⟨name.toList, h, String.ofList_toList⟩
  refine (hkeys _).trans ?_
  rw [List.mem_append]
  cases index <;> simp

theorem mem_dependencies_of_statements (hsource : OnlyStatements "import" (linesOf (some source)))
    (hindex : OnlyStatements "export" (linesOf index)) (name : String) :
    name ∈ dependencies source index ↔
    ((∃ line ∈ linesOf (some source), Names "import" line name) ∨
      ∃ line ∈ linesOf index, Names "export" line name) ∧
      name.toList.head? ≠ some '.' ∧ name.toList.head? ≠ some '/' := by
  rw [mem_dependencies, isExternal_iff, mem_modules (by decide) hsource]
  refine and_congr_left fun _ => or_congr_right ?_
  cases index with
  | none => simp [linesOf]
  | some text =>
    have htext := mem_modules (by decide) hindex name
    simp only [Option.mem_some_iff, exists_eq_left']
    exact htext

/-- The modules that the lines name, without those by a path, in the order of their bytes and each
once; hence only which lines there are matters. -/
theorem dependencies_of_statements (hsource : OnlyStatements "import" (linesOf (some source)))
    (hindex : OnlyStatements "export" (linesOf index)) :
    (dependencies source index).Pairwise (fun a b => bytes a < bytes b) ∧
    (∀ name, name ∈ dependencies source index ↔
      ((∃ line ∈ linesOf (some source), Names "import" line name) ∨
        ∃ line ∈ linesOf index, Names "export" line name) ∧
        name.toList.head? ≠ some '.' ∧ name.toList.head? ≠ some '/') ∧
    ∀ source' index', (∀ line, line ∈ linesOf (some source') ↔ line ∈ linesOf (some source)) →
      (∀ line, line ∈ linesOf index' ↔ line ∈ linesOf index) →
        dependencies source' index' = dependencies source index := by
  refine ⟨(pairwise_dependencies source index).imp lt_iff_bytes_lt.mp,
    mem_dependencies_of_statements hsource hindex, fun source' index' hs hi => ?_⟩
  have hsource' : OnlyStatements "import" (linesOf (some source')) :=
    fun line hline => hsource line ((hs line).mp hline)
  have hindex' : OnlyStatements "export" (linesOf index') :=
    fun line hline => hindex line ((hi line).mp hline)
  refine eq_of_ascending (pairwise_dependencies source' index')
    (pairwise_dependencies source index) fun name => ?_
  rw [mem_dependencies_of_statements hsource' hindex',
    mem_dependencies_of_statements hsource hindex]
  simp only [hs, hi]

end

def imports : List Statement :=
  [⟨"React, \x7b from \x7d", ('\x27', '\x27'), "react", ""⟩,
   ⟨"type from from", ('\x22', '\x60'), "@from/zod", "; // again\r"⟩,
   ⟨"\x7b b \x7d", ('\x60', '\x60'), "./b", " from here"⟩,
   ⟨"* as React", ('\x22', '\x22'), "react", ";"⟩]

def exports : List Statement :=
  [⟨"*", ('\x27', '\x22'), "clsx", ""⟩, ⟨"from", ('\x22', '\x22'), "../from", ""⟩]

theorem dependencies_of_statements_repeated :
    let others :=
      ["", "from 'late'", " import late from 'late'", "x = import y from 'y'"].map String.toList
    let ls := imports.map (·.line "import") ++ others
    let source := String.ofList (ofLines ls)
    let source' := String.ofList (ofLines (ls ++ ls).reverse)
    let index := String.ofList (ofLines (exports.map (·.line "export")))
    (OnlyStatements "import" (linesOf (some source)) ∧
      OnlyStatements "export" (linesOf (some index))) ∧
    "@from/zod" ∈ dependencies source (some index) ∧ "./b" ∉ dependencies source (some index) ∧
      dependencies source' (some index) = dependencies source (some index) := by
  intro others ls source source' index
  have hfeed : ∀ line ∈ ls, '\n' ∉ line := by decide
  have hlines : linesOf (some source) = ls ++ [[]] := linesOf_ofLines hfeed
  have hlines' : linesOf (some source') = (ls ++ ls).reverse ++ [[]] := by
    refine linesOf_ofLines fun line hline => hfeed line ?_
    rwa [List.mem_reverse, List.mem_append, or_self] at hline
  have hindex : linesOf (some index) = exports.map (·.line "export") ++ [[]] :=
    linesOf_ofLines (by decide)
  have hnames : ∀ {keyword : String} {ss : List Statement}, (∀ s ∈ ss, s.WellFormed) →
      OnlyStatements keyword (ss.map (·.line keyword)) := by
    intro keyword ss hss
    refine List.forall_mem_map.mpr fun s hs _ => ⟨s.name, s, hss s hs, rfl, rfl⟩
  have hothers : ∀ line ∈ others ++ [[]], ¬ "import".toList <+: line := by decide +kernel
  have hsource : OnlyStatements "import" (linesOf (some source)) := by
    rw [hlines, List.append_assoc]
    refine List.forall_mem_append.mpr ⟨hnames (by decide +kernel), fun line hline hstart => ?_⟩
    exact absurd hstart (hothers line hline)
  have hexports : OnlyStatements "export" (linesOf (some index)) := by
    rw [hindex]
    refine List.forall_mem_append.mpr ⟨hnames (by decide +kernel), fun line hline hstart => ?_⟩
    rw [List.mem_singleton.mp hline] at hstart
    exact absurd hstart (by decide)
  obtain ⟨-, hmem, hsame⟩ := dependencies_of_statements hsource hexports
  refine ⟨⟨hsource, hexports⟩, (hmem _).mpr ⟨.inl ?_, by decide, by decide⟩, fun hb => ?_, ?_⟩
  · rw [hlines]
    exact ⟨_,
      List.mem_append_left _ (List.mem_append_left _ (List.mem_map_of_mem (.tail _ (.head _)))),
      _, by decide +kernel, rfl, rfl⟩
  · exact ((hmem _).mp hb).2.1 (by decide)
  · refine hsame source' (some index) (fun line => ?_) fun line => Iff.rfl
    simp only [hlines, hlines', List.mem_append, List.mem_reverse, or_self]

end Component

end StyleGuide
