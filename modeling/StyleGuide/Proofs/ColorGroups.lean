import Mathlib.Algebra.BigOperators.Group.List.Lemmas
import Mathlib.Algebra.Ring.Nat
import StyleGuide.Proofs.Confinement
import StyleGuide.Resource

namespace StyleGuide

def Token.family (t : Token) : String := colorGroup t.name

namespace Collection

open Token (family)

theorem keys_foldl_addToGroup (ts : List Token) :
    (ts.foldl addToGroup .empty).keys = (ts.map family).eraseDups := by
  induction ts using List.reverseRecOn with
  | nil => rfl
  | append_singleton ts t ih =>
    have hstep : ∀ groups, (addToGroup groups t).keys =
        if family t ∈ groups.keys then groups.keys else groups.keys ++ [family t] :=
      fun groups => groups.keys_insert _ _
    rw [List.foldl_append, List.foldl_cons, List.foldl_nil, hstep, ih, List.map_append,
      List.map_singleton, eraseDups_concat]
    simp only [List.mem_eraseDups]

theorem find?_foldl_addToGroup (ts : List Token) (g : String) :
    ((ts.foldl addToGroup .empty).find? g).getD [] = ts.filter fun t => family t = g := by
  induction ts using List.reverseRecOn generalizing g with
  | nil => rfl
  | append_singleton ts t ih =>
    have hstep : ∀ groups, (addToGroup groups t).find? g =
        if g = family t then some ((groups.find? (family t)).getD [] ++ [t]) else groups.find? g :=
      fun groups => OrderedMap.find?_insert
    rw [List.foldl_append, List.foldl_cons, List.foldl_nil, hstep, List.filter_append]
    split
    · next h => simp [ih, h]
    · next h => simp [ih, Ne.symm h]

section

variable (tokens : Collection)

/-- The tokens that are grouped: those of the light theme, and then those of the dark one. -/
def both : List Token := tokens.light.values ++ tokens.dark.values

theorem keys_colorGroups : tokens.colorGroups.keys = (tokens.both.map family).eraseDups :=
  keys_foldl_addToGroup tokens.both

theorem mem_keys_colorGroups {g : String} :
    g ∈ tokens.colorGroups.keys ↔ ∃ t ∈ tokens.both, family t = g := by
  rw [keys_colorGroups, List.mem_eraseDups, List.mem_map]

theorem find?_colorGroups {g : String} (h : g ∈ tokens.colorGroups.keys) :
    tokens.colorGroups.find? g = some ((tokens.light.values.filter fun t => family t = g) ++
      tokens.dark.values.filter fun t => family t = g) := by
  obtain ⟨group, hgroup⟩ := exists_lookup h
  have hfind : tokens.colorGroups.find? g = some group := hgroup
  have hfilter : (tokens.colorGroups.find? g).getD [] = tokens.both.filter fun t => family t = g :=
    find?_foldl_addToGroup tokens.both g
  rw [hfind, Option.getD_some, both, List.filter_append] at hfilter
  rw [hfind, hfilter]

theorem sum_length_colorGroups :
    (tokens.colorGroups.values.map List.length).sum = tokens.light.size + tokens.dark.size := by
  -- The families are the keys without repetition, and each group is as long as its family is
  -- often among the tokens.
  have hperm : tokens.colorGroups.keys.Perm (tokens.both.map family).dedup := by
    refine (List.perm_ext_iff_of_nodup tokens.colorGroups.nodup (List.nodup_dedup _)).mpr ?_
    intro g
    rw [← OrderedMap.keys, mem_keys_colorGroups, List.mem_dedup, List.mem_map]
  have hlength : ∀ g, ((tokens.colorGroups.find? g).getD []).length =
      (tokens.both.map family).count g := by
    intro g
    rw [colorGroups, find?_foldl_addToGroup, List.count_eq_countP, List.countP_map,
      List.countP_eq_length_filter]
    rfl
  calc (tokens.colorGroups.values.map List.length).sum
      = (tokens.colorGroups.keys.map fun g => (tokens.both.map family).count g).sum := by
        rw [tokens.colorGroups.values_eq_map [], List.map_map]
        simp only [Function.comp_def, hlength]
    _ = (tokens.both.map family).length := by
      rw [(hperm.map _).sum_eq, List.sum_map_count_dedup_eq_length]
    _ = tokens.light.size + tokens.dark.size := by simp [both, OrderedMap.values, OrderedMap.size]

end

end Collection

namespace Library

open Token (family)

variable {lib : Library} {files : Files} {now : String}

theorem read_of_text {path text : String} (h : files.text path = .ok text) :
    read files path = .ok text := by
  rw [read, h]
  rfl

theorem read_of_text_error {path : String} {cause : Files.Cause}
    (h : files.text path = .error cause) : read files path = .error (.unreadable path cause) := by
  rw [read, h]
  rfl

/-- A token as a client sees it: its texts, its category, and its colour if the value is one. -/
def described (t : Token) : Json :=
  .object <|
    [("name", .string t.name), ("value", .string t.value), ("category", .string t.category.name),
     ("description", .string t.description)] ++
      match t.hsl with
      | none => []
      | some c =>
        [("hsl",
          .object [("h", .number c.hue), ("s", .number c.saturation), ("l", .number c.lightness)])]

def describedTheme (theme : Theme) : Json :=
  .object (theme.entries.map fun e => (e.1, described e.2))

theorem toJson_eq_described (t : Token) : t.toJson = described t := by
  rw [Token.toJson, described]
  cases t.hsl <;> rfl

theorem body_colorTokens {tokens : Collection}
    (h : lib.tokens files now (some .color) = .ok tokens) :
    lib.body files now .colorTokens = .ok (.object
      [("light", describedTheme tokens.light), ("dark", describedTheme tokens.dark),
       ("categories", .array (tokens.categories.map fun c => .string c.name)),
       ("generatedAt", .string tokens.generatedAt),
       ("groups",
         .object (tokens.colorGroups.entries.map fun e =>
           (e.1, .array (e.2.map described))))]) := by
  have htoken : Token.toJson = described := funext toJson_eq_described
  rw [body, colorGroups, h, htoken]
  simp only [Collection.toJson, htoken]
  rfl

theorem body_colorTokens_error {f : Failure} (h : lib.tokens files now (some .color) = .error f) :
    lib.body files now .colorTokens = .error f := by
  rw [body, h]
  rfl

/-- The colours of a stylesheet are shown by family without loss and without repetition: the
families in the order in which they come first, and in each of them its light tokens and then its
dark ones, as they are declared. The resource has these groups beside the colours themselves. It
fails exactly where the stylesheet cannot be read. -/
theorem color_groups_lose_nothing (lib : Library) (files : Files) (now : String) :
    (∀ cause, files.text lib.stylesheetPath = .error cause →
      lib.tokens files now (some .color) = .error (.unreadable lib.stylesheetPath cause) ∧
      lib.colorGroups files now = .error (.unreadable lib.stylesheetPath cause) ∧
      lib.body files now .colorTokens = .error (.unreadable lib.stylesheetPath cause)) ∧
    ∀ css, files.text lib.stylesheetPath = .ok css →
      let tokens := (Collection.ofCss css now).ofCategory .color
      ∃ groups, lib.tokens files now (some .color) = .ok tokens ∧
      lib.colorGroups files now = .ok groups ∧
        (∀ g, g ∈ groups.keys ↔ ∃ t ∈ tokens.light.values ++ tokens.dark.values, family t = g) ∧
        groups.keys = ((tokens.light.values ++ tokens.dark.values).map family).eraseDups ∧
        (∀ g ∈ groups.keys, groups.find? g =
          some ((tokens.light.values.filter fun t => family t = g) ++
          tokens.dark.values.filter fun t => family t = g)) ∧
        (groups.values.map List.length).sum = tokens.light.size + tokens.dark.size ∧
        lib.body files now .colorTokens = .ok (.object
          [("light", describedTheme tokens.light), ("dark", describedTheme tokens.dark),
           ("categories", .array [.string "color"]), ("generatedAt", .string now),
           ("groups",
             .object (groups.entries.map fun e => (e.1, .array (e.2.map described))))]) := by
  constructor
  · intro cause h
    have htokens : lib.tokens files now (some .color) =
        .error (.unreadable lib.stylesheetPath cause) := by
      rw [tokens, read_of_text_error h]
      rfl
    refine ⟨htokens, ?_, body_colorTokens_error htokens⟩
    rw [colorGroups, htokens]
    rfl
  · intro css h tokens
    have htokens : lib.tokens files now (some .color) = .ok tokens := by
      rw [Library.tokens, read_of_text h]
      rfl
    refine ⟨tokens.colorGroups, htokens, ?_, fun g => tokens.mem_keys_colorGroups,
      tokens.keys_colorGroups, fun g hg => tokens.find?_colorGroups hg,
      tokens.sum_length_colorGroups, body_colorTokens htokens⟩
    rw [colorGroups, htokens]
    rfl

/-- A name that both themes declare, one that only the dark theme has, and one that ends like a
surface but is shown with its component. -/
def shadowed : String :=
  ":root \x7b --color-x: 1; --primary: 2; --gap: 4px; --card-background-color: 3; " ++
    "--background: 4; \x7d .dark \x7b --primary: 5; --ring-color: 6; --color-x: 7; \x7d"

def shadowedFiles : Files :=
  .holding [(.ofText "styles", Files.folder [(.ofText "globals.css", Files.textFile shadowed)])]

theorem color_groups_lose_nothing_shadowed :
    let lib : Library := ⟨"", "Demo"⟩
    shadowedFiles.text lib.stylesheetPath = .ok shadowed ∧
      Files.empty.text lib.stylesheetPath = .error .absent ∧
      (∃ light dark groups, lib.colorGroups shadowedFiles "noon" = .ok groups ∧
        lib.body shadowedFiles "noon" .colorTokens = .ok (.object
          [("light", describedTheme light), ("dark", describedTheme dark),
           ("categories", .array [.string "color"]), ("generatedAt", .string "noon"),
           ("groups", .object (groups.entries.map fun e => (e.1, .array (e.2.map described))))]) ∧
        light.values.map (fun t => (t.name, t.value)) =
          [("color-x", "1"), ("primary", "2"), ("card-background-color", "3"),
           ("background", "4")] ∧
        dark.values.map (fun t => (t.name, t.value)) =
          [("primary", "5"), ("ring-color", "6"), ("color-x", "7")] ∧
        groups.keys = ["system", "primary", "card", "base"] ∧
        (groups.values.map List.length).sum = 7) ∧
      lib.body .empty "noon" .colorTokens = .error (.unreadable lib.stylesheetPath .absent) := by
  intro lib
  have htext : shadowedFiles.text lib.stylesheetPath = .ok shadowed := by decide +kernel
  have habsent : Files.empty.text lib.stylesheetPath = .error .absent := by decide +kernel
  obtain ⟨groups, -, hgroups, -, hkeys, -, hsum, hbody⟩ :=
    (color_groups_lose_nothing lib shadowedFiles "noon").2 shadowed htext
  obtain ⟨-, -, hnone⟩ := (color_groups_lose_nothing lib .empty "noon").1 _ habsent
  refine ⟨htext, habsent,
    ⟨_, _, groups, hgroups, hbody, by decide +kernel, by decide +kernel, ?_, ?_⟩, hnone⟩
  · rw [hkeys]
    decide +kernel
  · rw [hsum]
    decide +kernel

end Library

end StyleGuide
