import StyleGuide.Component.Source
import StyleGuide.Proofs.Nesting

namespace StyleGuide.Component

open Text Plan.Template

def variantsText (front : String) (groups : List InnerBlock) (back : String) : String :=
  front ++ "variants: \x7b\n" ++ text (groups.flatMap InnerBlock.lines) ++ "\x7d" ++ back

@[mk_iff]
structure IsGroup (g : InnerBlock) : Prop where
  wellFormed : g.WellFormed
  key_nonempty : g.key ≠ ""
  key_word : ∀ c ∈ g.key.toList, isWord c = true

instance (g : InnerBlock) : Decidable (IsGroup g) := decidable_of_iff' _ (isGroup_iff g)

variable {g : InnerBlock} {groups : List InnerBlock}

theorem groupName?_withoutReturn (line : List Char) :
    groupName? (withoutReturn line) = groupName? line := by
  rw [groupName?, trim_withoutReturn, ← groupName?]

theorem IsGroup.groupName?_heading (h : IsGroup g) :
    groupName? g.heading.toList = some g.key.toList := by
  have hindent := h.wellFormed.indent.isBlank
  have hword : ∀ c ∈ g.key.toList, isBlank c = false :=
    fun c hc => not_isBlank_of_isWord (h.key_word c hc)
  have hne : g.key.toList ≠ [] := fun he => h.key_nonempty (String.toList_eq_nil_iff.mp he)
  have hkey : Trimmed g.key.toList :=
    ⟨fun c hc => hword c (List.mem_of_mem_head? hc), fun c hc => hword c (List.mem_of_getLast? hc)⟩
  have hbrace : Trimmed ['{'] := by decide
  have htrim : trim g.heading.toList = g.key.toList ++ ([':', ' '] ++ ['{']) := by
    have hsplit : g.heading.toList = g.indent.toList ++
        (g.key.toList ++ ([':', ' '] ++ ['{'])) := by
      simp [InnerBlock.heading]
    rw [hsplit, trim_blanks_append hindent, trim_eq_self (hkey.append hbrace hne (by decide) _)]
  have hname : run? isWord (g.key.toList ++ ([':', ' '] ++ ['{'])) =
      some (g.key.toList, [':', ' '] ++ ['{']) := by
    refine run?_eq_some_iff.mpr ⟨hne, rfl, h.key_word, ?_⟩
    rintro c ⟨⟩
    decide
  rw [groupName?, htrim, hname]
  rfl

theorem filterMap_groupName? (h : ∀ g ∈ groups, IsGroup g) :
    (outermost 0 ((groups.flatMap InnerBlock.lines).map String.toList)).filterMap groupName? =
      groups.map fun g => g.key.toList := by
  induction groups with
  | nil => rfl
  | cons g groups ih =>
    obtain ⟨hg, hgroups⟩ := List.forall_mem_cons.mp h
    rw [List.flatMap_cons, List.map_append, hg.wellFormed.outermost_lines,
      List.filterMap_cons_some hg.groupName?_heading, ih hgroups, List.map_cons]

theorem firstBlock?_variants {front body : List Char} (hfront : ¬ "variants:".toList <:+: front)
    (hbody : Balanced body) (back : List Char) :
    firstBlock? variantsOpener?
      (front ++ ("variants:".toList ++ ' ' :: '{' :: (body ++ '}' :: back))) =
      some body := by
  have hopener : variantsOpener? ("variants:".toList ++ ' ' :: '{' :: (body ++ '}' :: back)) =
      some (body ++ '}' :: back) := by
    rw [variantsOpener?, after?_append]
    rfl
  have hsearch : firstMatch variantsOpener?
      (front ++ ("variants:".toList ++ ' ' :: '{' :: (body ++ '}' :: back))) =
        some (body ++ '}' :: back) := by
    rw [firstMatch_append, firstMatch_of_some hopener]
    intro a b hab hb
    have hnone : ¬ "variants".toList ++ [':'] <:+: b :=
      fun h => hfront (h.trans ⟨a, [], by simpa using hab⟩)
    have hafter : after? "variants:".toList
        (b ++ ("variants:".toList ++ ' ' :: '{' :: (body ++ '}' :: back))) =
        none := after?_eq_none_of_last (by decide) hnone hb
    rw [variantsOpener?, hafter]
    rfl
  rw [firstBlock?, hsearch, Option.bind_some, blockBody?, closing_of_balanced hbody]
  rfl

/-- The variants of a component are the keys of the groups in its literal, in order, and nothing
from inside a group. -/
theorem variants_eq_keys {front back : String} (hfront : ¬ "variants:".toList <:+: front.toList)
    (h : ∀ g ∈ groups, IsGroup g) :
    variants (variantsText front groups back) = groups.map InnerBlock.key := by
  let body := '\n' :: (text (groups.flatMap InnerBlock.lines)).toList
  have hfeed : Braceless ['\n'] := by decide
  have hgroups : Balanced (text (groups.flatMap InnerBlock.lines)).toList :=
    balanced_text_flatMap fun g hg => (h g hg).wellFormed.balanced_lines
  have hbody : Balanced body := hfeed.balanced.append hgroups
  have hlines : ∀ line ∈ groups.flatMap InnerBlock.lines, '\n' ∉ line.toList :=
    List.forall_mem_flatMap.mpr fun g hg => (h g hg).wellFormed.not_mem_lines
  have htext : (variantsText front groups back).toList =
      front.toList ++ ("variants:".toList ++ ' ' :: '{' :: (body ++ '}' :: back.toList)) := by
    simp [variantsText, body]
  have hnames : (topLevelLines body).filterMap groupName? = groups.map fun g => g.key.toList := by
    rw [topLevelLines_text hlines, List.filterMap_cons_none rfl, List.filterMap_map,
      ← filterMap_groupName? h]
    exact List.filterMap_congr fun line _ => groupName?_withoutReturn line
  rw [variants, htext, firstBlock?_variants hfront hbody]
  simp only [hnames, List.map_map]
  exact List.map_congr_left fun g _ => String.ofList_toList

def tangled : List InnerBlock :=
  [⟨"  ", "size", ["    sm: \x7b x: \x7b y: 1 \x7d \x7d,", "    lg: \x7b", "tone: \x7b",
    "  \x7d\x7d, md: \x7b", "\x7d"]⟩,
   ⟨"", "empty", []⟩,
   ⟨"\t", "größe_2", ["", "variants: \x7b", "weight: \x7b", "\x7d\x7d"]⟩]

theorem variants_eq_keys_tangled :
    (¬ "variants:".toList <:+: "variants = variants :".toList ∧ ∀ g ∈ tangled, IsGroup g) ∧
    variants (variantsText "variants = variants :" tangled "\nvariants: \x7b other: \x7b") =
      ["size", "empty", "größe_2"] := by
  have hfront : ¬ "variants:".toList <:+: "variants = variants :".toList := by decide
  have hgroups : ∀ g ∈ tangled, IsGroup g := by decide +kernel
  exact ⟨⟨hfront, hgroups⟩, variants_eq_keys hfront hgroups⟩

end StyleGuide.Component
