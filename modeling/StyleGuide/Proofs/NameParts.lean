import StyleGuide.Proofs.Catalog

namespace StyleGuide

namespace Text

open Lowercase

variable {seen outer cs later before part after : List Char}

/-- A sigma with `seen` before it, the nearest first, and `later` after it ends a word. -/
def endsWord (seen later : List Char) : Bool := touchesLetter seen && !touchesLetter later

def lowerAt (seen : List Char) (c : Char) (later : List Char) : List Char :=
  if c = 'Σ' then if endsWord seen later then ['ς'] else ['σ']
  else if c = 'İ' then ['i', '\u0307'] else [small c]

/-- What a part of a text becomes when the whole text is lowered. -/
def lowerWithin (seen : List Char) : List Char → List Char → List Char
  | [], _ => []
  | c :: r, later => lowerAt seen c (r ++ later) ++ lowerWithin (c :: seen) r later

theorem lowerAfter_append (seen cs later : List Char) :
    lowerAfter seen (cs ++ later) = lowerWithin seen cs later ++
      lowerAfter (cs.reverse ++ seen) later := by
  induction cs generalizing seen with
  | nil => rfl
  | cons c cs ih =>
    have hstep : lowerAfter seen (c :: cs ++ later) =
        lowerAt seen c (cs ++ later) ++ lowerAfter (c :: seen) (cs ++ later) := rfl
    rw [hstep, ih, lowerWithin, List.reverse_cons, List.append_assoc, List.append_assoc,
      List.singleton_append]

theorem lower_eq_lowerWithin (cs : List Char) : lower cs = lowerWithin [] cs [] := by
  have h := lowerAfter_append [] cs []
  rwa [List.append_nil, lowerAfter, List.append_nil] at h

theorem lowerWithin_infix (before part after : List Char) :
    lowerWithin before.reverse part after <:+: lower (before ++ (part ++ after)) := by
  rw [lower, lowerAfter_append, lowerAfter_append, List.append_nil]
  exact ⟨lowerWithin [] before (part ++ after), _, List.append_assoc _ _ _⟩

theorem length_lowerAt (seen outer : List Char) (c : Char) (rest later : List Char) :
    (lowerAt seen c rest).length = (lowerAt outer c later).length := by
  simp only [lowerAt]
  split
  · split <;> split <;> rfl
  · rfl

theorem touchesLetter_append (cs ds : List Char) :
    touchesLetter (cs ++ ds) = if cs.all isIgnorable then touchesLetter ds
      else touchesLetter cs := by
  induction cs with
  | nil => rfl
  | cons c cs ih =>
    by_cases hc : isIgnorable c = true
    · simpa [touchesLetter, hc] using ih
    · simp [touchesLetter, hc]

theorem not_touchesLetter (h : cs.all isIgnorable = true) : touchesLetter cs = false := by
  have happend := touchesLetter_append cs []
  rw [List.append_nil, if_pos h] at happend
  exact happend

/-- A part of a text cuts a capital sigma off: from the beginning of the word that it ends in the
text, or from the end of a word that it does not end there. -/
def CutsSigma (before part after : List Char) : Prop :=
  ∃ front back, part = front ++ 'Σ' :: back ∧
    (front.all isIgnorable = true ∧ touchesLetter before.reverse = true ∧
      touchesLetter (back ++ after) = false ∨
      back.all isIgnorable = true ∧ touchesLetter front.reverse = true ∧ touchesLetter after = true)

theorem endsWord_append_eq_iff : endsWord (seen ++ outer) (cs ++ later) = endsWord seen cs ↔
    ¬ (seen.all isIgnorable = true ∧ touchesLetter outer = true ∧
      touchesLetter (cs ++ later) = false ∨
      cs.all isIgnorable = true ∧ touchesLetter seen = true ∧ touchesLetter later = true) := by
  rw [endsWord, endsWord, touchesLetter_append seen]
  by_cases hseen : seen.all isIgnorable = true
  · have hnone := not_touchesLetter hseen
    simp [hseen, hnone]
  · by_cases hcs : cs.all isIgnorable = true
    · have hnone := not_touchesLetter hcs
      rw [touchesLetter_append cs]
      simp [hseen, hcs, hnone]
    · rw [touchesLetter_append cs]
      simp [hseen, hcs]

theorem lowerAt_eq_iff {c : Char} {rest : List Char} :
    lowerAt seen c rest = lowerAt outer c later ↔
    (c = 'Σ' → endsWord seen rest = endsWord outer later) := by
  by_cases hc : c = 'Σ'
  · subst hc
    simp only [lowerAt, ↓reduceIte, forall_const]
    cases endsWord seen rest <;> cases endsWord outer later <;> decide
  · simp [lowerAt, hc]

theorem lowerWithin_append_eq_iff : lowerWithin (seen ++ outer) cs later = lowerWithin seen cs [] ↔
    ∀ front back, cs = front ++ 'Σ' :: back →
      endsWord (front.reverse ++ (seen ++ outer)) (back ++ later) =
        endsWord (front.reverse ++ seen) back := by
  induction cs generalizing seen with
  | nil => simp [lowerWithin]
  | cons c cs ih =>
    have hlength := length_lowerAt (seen ++ outer) seen c (cs ++ later) cs
    have hih := @ih (c :: seen)
    rw [lowerWithin, lowerWithin, List.append_nil]
    constructor
    · intro h front back hsplit
      obtain ⟨hhere, hrest⟩ := List.append_inj h hlength
      have hinner := hih.mp hrest
      cases front with
      | nil =>
        obtain ⟨hc, rfl⟩ := List.cons.inj hsplit
        exact lowerAt_eq_iff.mp hhere hc
      | cons d front =>
        obtain ⟨rfl, rfl⟩ := List.cons.inj hsplit
        have hlater := hinner front back rfl
        simpa using hlater
    · intro h
      have hhere : lowerAt (seen ++ outer) c (cs ++ later) = lowerAt seen c cs := by
        refine lowerAt_eq_iff.mpr ?_
        rintro rfl
        exact h [] cs rfl
      have hrest : lowerWithin (c :: seen ++ outer) cs later = lowerWithin (c :: seen) cs [] := by
        refine hih.mpr fun front back hsplit => ?_
        have hlater := h (c :: front) back (congrArg _ hsplit)
        simpa using hlater
      rw [hhere]
      exact congrArg _ hrest

/-- A part is lowered as it is in the text just if it does not cut a sigma off from the letters that
decide on its form. -/
theorem lowerWithin_eq_lower_iff :
    lowerWithin before.reverse part after = lower part ↔ ¬ CutsSigma before part after := by
  have h := @lowerWithin_append_eq_iff [] before.reverse part after
  rw [List.nil_append] at h
  rw [lower_eq_lowerWithin, h, CutsSigma]
  simp only [List.append_nil, endsWord_append_eq_iff, List.all_reverse, not_exists, not_and]

theorem lower_infix_of_not_cutsSigma (h : ¬ CutsSigma before part after) :
    lower part <:+: lower (before ++ (part ++ after)) := by
  rw [← lowerWithin_eq_lower_iff.mpr h]
  exact lowerWithin_infix before part after

end Text

namespace Library

variable {lib : Library} {files : Files} {names : List String} {name : String}
    {info : Component.Info}

def Finds (lib : Library) (files : Files) (query : String) (category : Option String)
    (info : Component.Info) : Prop :=
  ∃ found, lib.search files query category = .ok found ∧ info ∈ found

theorem finds_iff (hnames : lib.components files = .ok names) (hname : name ∈ names)
    (hinfo : lib.info files name = .ok info) {query : String} {category : Option String} :
    lib.Finds files query category info ↔ Sought query category name := by
  have hmem : info ∈ lib.infos files names :=
    List.mem_filterMap.mpr ⟨name, hname, by rw [hinfo]; rfl⟩
  rw [Finds, search_eq_filter hnames]
  simp [hmem, name_of_info hinfo]

theorem sought_part_iff {query : String} : ∀ category ∈ [none, some name],
    (Sought query category name ↔ Text.lower query.toList <:+: Text.lower name.toList) := by
  simp [Sought]

/-- A component that can be read is found by a part of its name, alone and together with the name as
category, unless the part cuts a capital sigma off from the letters that decide on its small form.
In general it is found just if the small letters of the part stand in those of the name. -/
theorem finds_part_unless_sigma_cut (hnames : lib.components files = .ok names)
    (hname : name ∈ names) (hinfo : lib.info files name = .ok info) (query : String) :
    ∀ category ∈ [none, some name],
      (lib.Finds files query category info ↔ Text.lower query.toList <:+: Text.lower name.toList) ∧
      ∀ before after, name.toList = before ++ (query.toList ++ after) →
        (Text.CutsSigma before query.toList after ↔
          Text.lowerWithin before.reverse query.toList after ≠ Text.lower query.toList) ∧
        (¬ Text.CutsSigma before query.toList after → lib.Finds files query category info) := by
  intro category hcategory
  have hfinds : lib.Finds files query category info ↔
      Text.lower query.toList <:+: Text.lower name.toList :=
    (finds_iff hnames hname hinfo).trans (sought_part_iff category hcategory)
  refine ⟨hfinds, fun before after hsplit => ⟨?_, fun hcut => hfinds.mpr ?_⟩⟩
  · rw [Ne, Text.lowerWithin_eq_lower_iff, not_not]
  · rw [hsplit]
    exact Text.lower_infix_of_not_cutsSigma hcut

def cosmos : Files :=
  stocked [(.ofText "ΚΟΣΜΟΣ", Files.folder [(.ofText "ΚΟΣΜΟΣ.tsx", Files.textFile "x")])]

theorem components_cosmos : demo.components cosmos = .ok ["ΚΟΣΜΟΣ"] := by decide +kernel

theorem exists_info_cosmos : ∃ info, demo.info cosmos "ΚΟΣΜΟΣ" = .ok info := by
  have hok : (demo.info cosmos "ΚΟΣΜΟΣ").isOk = true := by decide +kernel
  cases hinfo : demo.info cosmos "ΚΟΣΜΟΣ" with
  | ok info => exact ⟨info, rfl⟩
  | error f =>
    rw [hinfo] at hok
    cases hok

theorem finds_part_unless_sigma_cut_cosmos : ∃ info, demo.info cosmos "ΚΟΣΜΟΣ" = .ok info ∧
    demo.Finds cosmos "ΜΟΣ" none info ∧ demo.Finds cosmos "ΟΣΜΟ" (some "ΚΟΣΜΟΣ") info ∧
      ¬ demo.Finds cosmos "ΚΟΣ" none info := by
  obtain ⟨info, hinfo⟩ := exists_info_cosmos
  have hfinds := finds_part_unless_sigma_cut components_cosmos List.mem_cons_self hinfo
  obtain ⟨-, hend⟩ := hfinds "ΜΟΣ" none List.mem_cons_self
  obtain ⟨-, hmiddle⟩ := hfinds "ΟΣΜΟ" (some "ΚΟΣΜΟΣ") (by simp)
  obtain ⟨hstart, -⟩ := hfinds "ΚΟΣ" none List.mem_cons_self
  have hsplitEnd : "ΚΟΣΜΟΣ".toList = ['Κ', 'Ο', 'Σ'] ++ ("ΜΟΣ".toList ++ []) := by decide
  have hsplitMiddle : "ΚΟΣΜΟΣ".toList = ['Κ'] ++ ("ΟΣΜΟ".toList ++ ['Σ']) := by decide
  refine ⟨info, hinfo, (hend _ _ hsplitEnd).2 ?_, (hmiddle _ _ hsplitMiddle).2 ?_,
    hstart.not.mpr ?_⟩
  · exact Text.lowerWithin_eq_lower_iff.mp (by decide +kernel)
  · exact Text.lowerWithin_eq_lower_iff.mp (by decide +kernel)
  · decide +kernel

/-- A name that goes on where a word ends in the query is not found. -/
theorem not_finds_each_part :
    ¬ ∀ (lib : Library) (files : Files) (names : List String) (name : String)
    (info : Component.Info), lib.components files = .ok names → name ∈ names →
    lib.info files name = .ok info →
    ∀ query : String, query.toList <:+: name.toList →
      lib.Finds files query none info ∧ lib.Finds files query (some name) info := by
  intro h
  obtain ⟨info, hinfo⟩ := exists_info_cosmos
  have hpart : "ΚΟΣ".toList <:+: "ΚΟΣΜΟΣ".toList := by decide
  obtain ⟨⟨found, hfound, hmem⟩, -⟩ :=
    h demo cosmos _ _ info components_cosmos List.mem_cons_self hinfo "ΚΟΣ" hpart
  have hnone : (demo.search cosmos "ΚΟΣ" none).map List.length = .ok 0 := by decide +kernel
  rw [hfound] at hnone
  rw [List.length_eq_zero_iff.mp (Except.ok.inj hnone)] at hmem
  exact List.not_mem_nil hmem

end Library

end StyleGuide
