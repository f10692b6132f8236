import StyleGuide.Proofs.Placement

namespace StyleGuide

namespace Text

theorem sublist_of_mem_splitOn {mark : Char} {p cs : List Char} (h : p ∈ splitOn mark cs) :
    p.Sublist cs := by
  induction cs generalizing p with
  | nil =>
    obtain rfl := List.mem_singleton.mp h
    exact List.Sublist.refl []
  | cons c r ih =>
    rw [splitOn] at h
    split at h
    · obtain rfl | h := List.mem_cons.mp h
      · exact List.nil_sublist _
      · exact (ih h).cons c
    · obtain ⟨q, qs, hq⟩ := List.exists_cons_of_ne_nil (splitOn_ne_nil mark r)
      rw [hq] at h ih
      obtain rfl | h := List.mem_cons.mp h
      · exact (ih List.mem_cons_self).cons_cons c
      · exact (ih (List.mem_cons_of_mem q h)).cons c

theorem splitOn_flatMap {α : Type} (mark : Char) (f : α → List Char) (as : List α)
    (cs : List Char) :
    splitOn mark (as.flatMap (fun a => f a ++ [mark]) ++ cs) =
      as.flatMap (fun a => splitOn mark (f a)) ++ splitOn mark cs := by
  induction as with
  | nil => rfl
  | cons a as ih =>
    simp only [List.flatMap_cons, List.append_assoc, List.cons_append, List.nil_append]
    rw [splitOn_append_mark, ih]

end Text

namespace Plan

open StyleGuide.Path

def exportStart : String := "export * from './"

def lineOf (name : String) : List Char := exportStart.toList ++ name.toList ++ ['\x27']

def exported? (line : List Char) : Option String := do
  let rest ← Text.after? exportStart.toList line
  let name ← Text.before? ['\x27'] rest
  return .ofList name

def exports (module : String) : List String :=
  (Text.splitOn '\n' module.toList).filterMap exported?

/-- The places at which a module beside `src/components/index.ts` is looked for. -/
def modulePaths (name : String) : List String :=
  [".ts", ".tsx", "/index.ts", "/index.tsx"].map ("src/components/" ++ name ++ ·)

def Outcome.Resolves (outcome : Outcome) (name : String) : Prop :=
  ∃ f ∈ outcome.files, f.path ∈ modulePaths name

theorem exported?_eq_some_iff {line : List Char} {name : String} :
    exported? line = some name ↔ line = lineOf name := by
  simp only [exported?, lineOf, Option.bind_eq_bind, Option.bind_eq_some_iff,
    Text.after?_eq_some_iff, Text.before?_eq_some_iff]
  constructor
  · rintro ⟨rest, rfl, cs, rfl, hname⟩
    obtain rfl := Option.some.inj hname
    rw [String.toList_ofList, List.append_assoc]
  · rintro rfl
    exact ⟨_, (List.append_assoc _ _ _).symm, _, rfl, congrArg some String.ofList_toList⟩

theorem no_slash_of_exported {name x : String} {line : List Char} (hn : '/' ∉ name.toList)
    (hline : line ∈ Text.splitOn '\n' (lineOf name)) (hx : exported? line = some x) :
    '/' ∉ x.toList := by
  -- All lines together have a single slash, which is the one that any such line begins with.
  have hcount := (Text.sublist_of_mem_splitOn hline).count_le '/'
  have hzero := List.count_eq_zero_of_not_mem hn
  rw [exported?_eq_some_iff.mp hx] at hcount
  simp only [lineOf, List.count_append, hzero] at hcount
  exact List.count_eq_zero.mp (by omega)

theorem exports_of_lineOf {name : String} (h : '\n' ∉ name.toList) :
    (Text.splitOn '\n' (lineOf name)).filterMap exported? = [name] := by
  have hstart : '\n' ∉ exportStart.toList := by decide
  have hline : '\n' ∉ lineOf name := by simp [lineOf, h, hstart]
  rw [Text.splitOn_of_not_mem hline]
  exact List.filterMap_cons_some (exported?_eq_some_iff.mpr rfl)

theorem toList_exportLine (name : String) :
    (exportLine name).toList = lineOf (lowered name) ++ ['\n'] := by
  have hline : exportLine name = exportStart ++ lowered name ++ "'\n" := rfl
  rw [hline, lineOf]
  simp

theorem toList_exportLines (names : List String) : (String.join (names.map exportLine)).toList =
    names.flatMap fun n => lineOf (lowered n) ++ ['\n'] := by
  rw [String.toList_join, List.flatMap_map]
  exact List.flatMap_congr fun n _ => toList_exportLine n

theorem exports_mainIndex {library : String} (h : '\n' ∉ library.toList) (names : List String) :
    exports (mainIndex library names) =
      names.flatMap fun n => (Text.splitOn '\n' (lineOf (lowered n))).filterMap exported? := by
  let header := "// Auto-generated exports for " ++ library ++ " components"
  have htext : (mainIndex library names).toList = header.toList ++ '\n' ::
      (names.flatMap (fun n => lineOf (lowered n) ++ ['\n']) ++
        "export * from '../lib/utils'\n".toList) := by
    have hmain : mainIndex library names = "// Auto-generated exports for " ++ library ++
      " components\n" ++ String.join (names.map exportLine) ++ "export * from '../lib/utils'\n" :=
        rfl
    rw [hmain, ← toList_exportLines]
    simp [header]
  have hheader : '\n' ∉ header.toList := by simp [header, h]
  have hnone : exported? header.toList = none := by
    simp [header, exported?, exportStart, Text.after?_cons]
  have hutils : (Text.splitOn '\n' "export * from '../lib/utils'\n".toList).filterMap exported? =
      [] := by decide
  rw [exports, htext, Text.splitOn_append hheader, Text.splitOn_flatMap,
    List.filterMap_cons_none hnone, List.filterMap_append, hutils, List.append_nil,
    List.filterMap_flatMap]

theorem IsSource.code_index {name file text : String} {code : Component.Code} {storybook : Bool}
    (h : IsSource name code storybook file text) (hf : file = "index.ts") :
    code.index = some text := by
  cases h with
  | main => exact absurd hf (ne_index (by simp))
  | index h => exact h
  | stories => exact absurd hf (ne_index (by simp))

theorem IsSource.eq_index {name file text : String} {code : Component.Code} {storybook : Bool}
    (h : IsSource name code storybook file text) (hf : file = "index.tsx") :
    lowered name = "index" := by
  cases h with
  | main => exact (String.append_left_inj ".tsx").mp hf
  | index => exact absurd hf (by decide)
  | stories =>
    have hlength := congrArg String.length hf
    rw [String.length_append] at hlength
    have hending : ".stories.tsx".length = 12 ∧ "index.tsx".length = 9 := by decide
    omega

theorem segments_of_mem_modulePaths {x path : String} (hx : '/' ∉ x.toList)
    (h : path ∈ modulePaths x) :
    (∃ ending ∈ [".ts", ".tsx"], segments path = ["src", "components", x ++ ending]) ∨
      ∃ file ∈ ["index.ts", "index.tsx"], segments path = ["src", "components", x, file] := by
  have hbeside : ∀ ending : String, '/' ∉ ending.toList →
      segments ("src/components/" ++ x ++ ending) = ["src", "components", x ++ ending] := by
    intro ending he
    rw [String.append_assoc, segments_beside (by simp [hx, he])]
  have hbelow : ∀ file : String, '/' ∉ file.toList →
      segments ("src/components/" ++ x ++ ("/" ++ file)) = ["src", "components", x, file] := by
    intro file hf
    rw [← String.append_assoc, segments_place hx hf]
  simp only [modulePaths, List.map_cons, List.map_nil, List.mem_cons, List.not_mem_nil,
    or_false] at h
  obtain rfl | rfl | rfl | rfl := h
  · exact .inl ⟨".ts", by simp, hbeside ".ts" (by decide)⟩
  · exact .inl ⟨".tsx", by simp, hbeside ".tsx" (by decide)⟩
  · exact .inr ⟨"index.ts", by simp, hbelow "index.ts" (by decide)⟩
  · exact .inr ⟨"index.tsx", by simp, hbelow "index.tsx" (by decide)⟩

instance (outcome : Outcome) (name : String) : Decidable (outcome.Resolves name) :=
  inferInstanceAs (Decidable (∃ f ∈ outcome.files, f.path ∈ modulePaths name))

end Plan

namespace Library

open StyleGuide.Path Plan

variable {lib : Library} {files : Files} {r : Request} {f : OutputFile}

def Indexed (lib : Library) (files : Files) (name : String) : Prop :=
  ∃ text, files.text (lib.indexPath name) = .ok text

theorem indexed_iff {name : String} {code : Component.Code} {o : Options}
    (h : lib.code files name (siblings o) = .ok code) :
    lib.Indexed files name ↔ ∃ text, code.index = some text := by
  rw [(text_of_code h).2, Indexed, Files.text?]
  cases files.text (lib.indexPath name) <;> simp [Except.toOption]

theorem Planned.indexed_of_mem {x : String} (hf : lib.Planned files r f) (hx : '/' ∉ x.toList)
    (hp : f.path ∈ modulePaths x) :
    x = "index" ∨ ∃ m ∈ r.components, lowered m = x ∧ lib.Indexed files m := by
  -- A source lies one step deeper than the module with all exports, so the depth of the path
  -- tells them apart.
  have hsegments := segments_of_mem_modulePaths hx hp
  cases hf with
  | @source name file text code hm hn hc hs =>
    simp only [OutputFile.create, segments_source hn hs, List.cons.injEq, true_and,
      and_true] at hsegments
    obtain ⟨ending, -, -, hnil⟩ | ⟨file', hfile', hlow, rfl⟩ := hsegments
    · cases hnil
    · simp only [List.mem_cons, List.not_mem_nil, or_false] at hfile'
      obtain hfile | hfile := hfile'
      · exact .inr ⟨name, hm, hlow, (indexed_iff hc).mpr ⟨text, hs.code_index hfile⟩⟩
      · exact .inl (hlow.symm.trans (hs.eq_index hfile))
  | barrel =>
    simp only [OutputFile.create, segments_barrel, List.cons.injEq, true_and, and_true] at hsegments
    obtain ⟨ending, hending, heq⟩ | ⟨file', -, -, hnil⟩ := hsegments
    · simp only [List.mem_cons, List.not_mem_nil, or_false] at hending
      obtain rfl | rfl := hending
      · exact .inl ((String.append_left_inj ".ts").mp heq.symm)
      · exact absurd heq.symm (ne_index (by simp))
    · cases hnil

theorem resolves_iff (h : (lib.integrate files r).success = true) {x : String}
    (hx : '/' ∉ x.toList) :
    (lib.integrate files r).Resolves x ↔
      x = "index" ∨ ∃ m ∈ r.components, lowered m = x ∧ lib.Indexed files m := by
  constructor
  · rintro ⟨f, hf, hp⟩
    exact ((mem_integrate h).mp hf).indexed_of_mem hx hp
  · rintro (rfl | ⟨m, hm, rfl, hi⟩)
    · have hself : "src/components/index.ts" ∈ modulePaths "index" := by decide
      exact ⟨_, (mem_integrate h).mpr .barrel, hself⟩
    · obtain ⟨code, hn, hc⟩ := exists_code h hm
      obtain ⟨text, ht⟩ := (indexed_iff hc).mp hi
      refine ⟨_, (mem_integrate h).mpr (.source hm hn hc (.index ht)), ?_⟩
      have hfolder : componentFolder m = "src/components/" ++ lowered m := rfl
      have hend : "/" ++ "index.ts" = "/index.ts" := by decide
      rw [OutputFile.create, hfolder, String.append_assoc, hend]
      simp [modulePaths]

/-- Of what the module with all exports names, that is there which is a component with an index of
its own. What is named `index` is that module itself. -/
theorem exports_resolve_if_indexed (lib : Library) (files : Files) (r : Request)
    (h : (lib.integrate files r).success = true) (hl : '\n' ∉ lib.name.toList) :
    let outcome := lib.integrate files r
    ∃ barrel, (∀ f, f ∈ outcome.files ∧ f.path = "src/components/index.ts" ↔ f = barrel) ∧
      (∀ x ∈ exports barrel.content, outcome.Resolves x ↔
        x = "index" ∨ ∃ m ∈ r.components, lowered m = x ∧ lib.Indexed files m) ∧
      ((∀ n ∈ r.components, '\n' ∉ n.toList) →
        exports barrel.content = r.components.map lowered) := by
  intro outcome
  refine ⟨.create "src/components/index.ts" (mainIndex lib.name r.components), ?_, ?_, ?_⟩
  · intro f
    constructor
    · rintro ⟨hf, hp⟩
      cases (mem_integrate h).mp hf with
      | source hm hn hc hs =>
        have hsegments := congrArg segments hp
        simp [OutputFile.create, segments_source hn hs, segments_barrel] at hsegments
      | barrel => rfl
    · rintro rfl
      exact ⟨(mem_integrate h).mpr .barrel, rfl⟩
  · intro x hx
    rw [OutputFile.create, exports_mainIndex hl] at hx
    obtain ⟨n, hn, hx⟩ := List.mem_flatMap.mp hx
    obtain ⟨line, hline, hx⟩ := List.mem_filterMap.mp hx
    obtain ⟨code, hsegment, -⟩ := exists_code h hn
    have hslash := (isSegment_lowered hsegment).no_slash
    exact resolves_iff h (no_slash_of_exported hslash hline hx)
  · intro hnames
    rw [OutputFile.create, exports_mainIndex hl, List.map_eq_flatMap]
    refine List.flatMap_congr fun n hn => ?_
    exact exports_of_lineOf (not_mem_lowered (by decide) (hnames n hn))

open Files in
def drawer : Files :=
  holding [(.ofText "components", folder
    [(.ofText "Button",
      folder [(.ofText "Button.tsx", textFile "a"), (.ofText "index.ts", textFile "b")]),
     (.ofText "card", folder [(.ofText "card.tsx", textFile "c")])])]

theorem success_drawer : (demo.integrate drawer (asking ["Button", "card"])).success = true := by
  decide +kernel

theorem not_exports_resolve : ¬ ∀ (lib : Library) (files : Files) (r : Request),
    (lib.integrate files r).success = true → ∀ f ∈ (lib.integrate files r).files,
      f.path = "src/components/index.ts" →
        ∀ x ∈ exports f.content, (lib.integrate files r).Resolves x := by
  intro h
  let r := asking ["Button", "card"]
  have hsuccess := success_drawer
  have hbarrel := (mem_integrate hsuccess).mpr .barrel
  have hexport : "card" ∈ exports (mainIndex demo.name r.components) := by decide +kernel
  have hnot : ¬ (demo.integrate drawer r).Resolves "card" := by decide +kernel
  exact hnot (h demo drawer r hsuccess _ hbarrel rfl "card" hexport)

theorem exports_resolve_if_indexed_drawer :
    let r := asking ["Button", "card"]
    (demo.integrate drawer r).success = true ∧ '\n' ∉ demo.name.toList ∧
    ∃ barrel ∈ (demo.integrate drawer r).files, exports barrel.content = ["button", "card"] ∧
      (demo.integrate drawer r).Resolves "button" ∧
      ¬ (demo.integrate drawer r).Resolves "card" := by
  intro r
  have hsuccess := success_drawer
  have hname : '\n' ∉ demo.name.toList := by decide
  obtain ⟨barrel, hbarrel, hresolves, hexports⟩ :=
    exports_resolve_if_indexed demo drawer r hsuccess hname
  have hlowered : r.components.map lowered = ["button", "card"] := by decide +kernel
  have hlist := (hexports (by decide)).trans hlowered
  have hindex : demo.Indexed drawer "Button" := ⟨"b", by decide +kernel⟩
  have hnone : drawer.text (demo.indexPath "card") = .error .absent := by decide +kernel
  refine ⟨hsuccess, hname, barrel, ((hbarrel barrel).mpr rfl).1, hlist, ?_, ?_⟩
  · exact (hresolves "button" (by simp [hlist])).mpr
      (.inr ⟨"Button", by simp [r, asking], by decide +kernel, hindex⟩)
  · intro hcard
    obtain hcard | ⟨m, hm, hl, text, ht⟩ := (hresolves "card" (by simp [hlist])).mp hcard
    · exact absurd hcard (by decide)
    · simp only [r, asking, List.mem_cons, List.not_mem_nil, or_false] at hm
      obtain rfl | rfl := hm
      · exact absurd hl (by decide +kernel)
      · cases hnone.symm.trans ht

end Library

end StyleGuide
