import StyleGuide.Proofs.Block
import StyleGuide.Proofs.SectionItem

namespace StyleGuide

namespace Text

variable {α : Type} {m : Option Char → List Char → Option α} {cs front rest : List Char}

theorem firstMatchAfter_of_some {a : α} {before : Option Char} (h : m before cs = some a) :
    firstMatchAfter m before cs = some a := by
  cases cs with
  | nil => exact h
  | cons c r => rw [firstMatchAfter, h]

theorem firstMatchAfter_append (h : ∀ a b before, a ++ b = front → b ≠ [] →
    m before (b ++ rest) = none)
    (before : Option Char) :
    firstMatchAfter m before (front ++ rest) =
      firstMatchAfter m (front.getLast?.or before) rest := by
  induction front generalizing before with
  | nil => rfl
  | cons c front ih =>
    have hhere : m before (c :: (front ++ rest)) = none :=
      h [] (c :: front) before rfl (List.cons_ne_nil c front)
    have hlast : (c :: front).getLast?.or before = front.getLast?.or (some c) := by
      rw [List.getLast?_cons]
      cases front.getLast? <;> rfl
    rw [List.cons_append, firstMatchAfter, hhere, hlast]
    refine ih (fun a b before hab hb => ?_) (some c)
    exact h (c :: a) b before (by rw [List.cons_append, hab]) hb

end Text

namespace Tailwind

open Text Plan.Template

inductive Section where
  | colors
  | spacing
  | borderRadius
  | animation
  | keyframes

namespace Section

def name : Section → String
  | colors => "colors"
  | spacing => "spacing"
  | borderRadius => "borderRadius"
  | animation => "animation"
  | keyframes => "keyframes"

def of : Section → Tailwind → OrderedMap String
  | colors => Tailwind.colors
  | spacing => Tailwind.spacing
  | borderRadius => Tailwind.borderRadius
  | animation => Tailwind.animation
  | keyframes => Tailwind.keyframes

theorem of_ofConfig (s : Section) (config : String) :
    s.of (ofConfig config) = themeSection s.name config.toList := by
  cases s <;> rfl

theorem colon_not_mem_name (s : Section) : ':' ∉ s.name.toList := by
  cases s <;> decide

end Section

def sectionText (front : String) (s : Section) (items : List Item) (back : String) : String :=
  front ++ s.name ++ ": \x7b\n" ++ text (items.flatMap Item.lines) ++ "\x7d" ++ back

theorem themeSection_of_block {front body : List Char} (s : Section)
    (hfront : ¬ (s.name ++ ":").toList <:+: front)
    (hword : ∀ c, front.getLast? = some c → isWord c = false) (hbody : Balanced body)
    (back : List Char) :
    themeSection s.name (front ++ (s.name.toList ++ ':' :: ' ' :: '{' :: (body ++ '}' :: back))) =
      entries body := by
  have hopener : opener? s.name.toList front.getLast?
      (s.name.toList ++ ':' :: ' ' :: '{' :: (body ++ '}' :: back)) =
        some (body ++ '}' :: back) := by
    have hbefore : front.getLast?.any isWord = false := by
      cases hlast : front.getLast? with
      | none => rfl
      | some c => exact hword c hlast
    have hafter : after? (s.name.toList ++ [':'])
        (s.name.toList ++ ':' :: ' ' :: '{' :: (body ++ '}' :: back)) =
        some (' ' :: '{' :: (body ++ '}' :: back)) := by
      rw [after?_eq_some_iff]
      simp
    rw [opener?, if_neg (by simp [hbefore]), hafter]
    rfl
  have hsearch : firstMatchAfter (opener? s.name.toList) none
      (front ++ (s.name.toList ++ ':' :: ' ' :: '{' :: (body ++ '}' :: back))) =
        some (body ++ '}' :: back) := by
    rw [firstMatchAfter_append, Option.or_none, firstMatchAfter_of_some hopener]
    intro a b before hab hb
    have hnone : ¬ s.name.toList ++ [':'] <:+: b :=
      fun h => hfront (by simpa using h.trans ⟨a, [], by simpa using hab⟩)
    have hafter : after? (s.name.toList ++ [':'])
        (b ++ (s.name.toList ++ ':' :: ' ' :: '{' :: (body ++ '}' :: back))) = none :=
      after?_eq_none_of_last s.colon_not_mem_name hnone hb
    rw [opener?, hafter]
    exact ite_self none
  rw [themeSection, hsearch, Option.bind_some, blockBody?, closing_of_balanced hbody]
  rfl

/-- A section has exactly the flat entries among its items, by their bare keys and values: each key
where it is first, with the value that it is given last. -/
theorem reads_flat_entries (s : Section) {front back : String} {items : List Item}
    (hfront : ¬ (s.name ++ ":").toList <:+: front.toList)
    (hword : ∀ c, front.toList.getLast? = some c → isWord c = false)
    (h : ∀ i ∈ items, i.WellFormed) :
    (s.of (ofConfig (sectionText front s items back))).keys =
        ((items.filterMap Item.assignment?).map Prod.fst).eraseDups ∧
      ∀ key, (s.of (ofConfig (sectionText front s items back))).find? key =
        (items.filterMap Item.assignment?).reverse.lookup key := by
  let body := '\n' :: (text (items.flatMap Item.lines)).toList
  have hfeed : Braceless ['\n'] := by decide
  have hitems : Balanced (text (items.flatMap Item.lines)).toList :=
    balanced_text_flatMap fun i hi => (h i hi).balanced_lines
  have hbody : Balanced body := hfeed.balanced.append hitems
  have hlines : ∀ line ∈ items.flatMap Item.lines, '\n' ∉ line.toList :=
    List.forall_mem_flatMap.mpr fun i hi => (h i hi).not_mem_lines
  have htext : (sectionText front s items back).toList =
      front.toList ++ (s.name.toList ++ ':' :: ' ' :: '{' :: (body ++ '}' :: back.toList)) := by
    simp [sectionText, body]
  have hentries : entries body = .ofList (items.filterMap Item.assignment?) := by
    rw [entries, topLevelLines_text hlines, List.filterMap_cons_none rfl, List.filterMap_map,
      ← Item.filterMap_entryOf? h]
    exact congrArg OrderedMap.ofList
      (List.filterMap_congr fun line _ => entryOf?_withoutReturn line)
  rw [Section.of_ofConfig, htext, themeSection_of_block s hfront hword hbody, hentries]
  exact ⟨OrderedMap.keys_ofList _, OrderedMap.find?_ofList _⟩

/-- Every kind of item: a comment that looks like an entry, a block with entries in it, a comma and
a colon in a value, and a key that is given twice. -/
def assorted : List Item :=
  [.blank " \t",
   .comment "  " " skipped: 'no',",
   .flat ⟨"  ", ⟨"spin-slow", none⟩, ('\x27', '\x27'), "spin 1s, // linear", true⟩,
   .nested "  " ⟨"1/2.5", some ('\x22', '\x22')⟩
     ["a: 'b',", "c: \x7b", "\x7d, d: \x7b e: 'f' \x7d"],
   .flat ⟨"", ⟨"x.y", some ('\x27', '\x27')⟩, ('\x60', '\x60'), "a: b", false⟩,
   .flat ⟨"\t", ⟨"spin-slow", some ('\x22', '\x22')⟩, ('\x22', '\x22'), "none", true⟩]

theorem reads_flat_entries_assorted :
    let front := "xanimation = animation :\n  "
    let back := "\nanimation: \x7b z: 'later' \x7d"
    let entries := Section.animation.of (ofConfig (sectionText front .animation assorted back))
    (¬ "animation:".toList <:+: front.toList ∧
      (∀ c, front.toList.getLast? = some c → isWord c = false) ∧
      ∀ i ∈ assorted, i.WellFormed) ∧
    entries.keys = ["spin-slow", "x.y"] ∧ entries.find? "spin-slow" = some "none" ∧
      entries.find? "x.y" = some "a: b" ∧ entries.find? "a" = none := by
  intro front back entries
  have hfront : ¬ "animation:".toList <:+: front.toList := by decide +kernel
  have hlast : front.toList.getLast? = some ' ' := by decide
  have hword : ∀ c, front.toList.getLast? = some c → isWord c = false := by
    intro c hc
    rw [hlast] at hc
    cases hc
    decide
  have hitems : ∀ i ∈ assorted, i.WellFormed := by decide +kernel
  obtain ⟨hkeys, hfind⟩ : entries.keys = _ ∧ ∀ key, entries.find? key = _ :=
    reads_flat_entries .animation hfront hword hitems
  exact ⟨⟨hfront, hword, hitems⟩, hkeys.trans (by decide), (hfind _).trans (by decide),
    (hfind _).trans (by decide),
    (hfind _).trans (by decide)⟩

end Tailwind

end StyleGuide
