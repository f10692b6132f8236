import StyleGuide.Proofs.Integration
import StyleGuide.Proofs.Lookup
import StyleGuide.Proofs.Lowered

namespace StyleGuide

namespace Path

/-- A name that leads from a folder to what is in it, and nowhere else. -/
structure IsSegment (name : String) : Prop where
  ne_empty : name ≠ ""
  ne_here : name ≠ "."
  ne_above : name ≠ ".."
  no_slash : '/' ∉ name.toList
  no_backslash : '\\' ∉ name.toList

theorem IsSegment.head_ne_slash {name : String} (h : IsSegment name) :
    name.toList.head? ≠ some '/' :=
  fun hc => h.no_slash (List.mem_of_mem_head? hc)

theorem isSegment_source {name ending : String} (h : IsSegment name)
    (he : ending ∈ [".tsx", ".stories.tsx", ".types.ts"]) : IsSegment (name ++ ending) := by
  have ht : ∀ e ∈ [".tsx", ".stories.tsx", ".types.ts"],
      't' ∈ e.toList ∧ '/' ∉ e.toList ∧ '\\' ∉ e.toList := by
    decide
  obtain ⟨hletter, hslash, hback⟩ := ht ending he
  have hmem : 't' ∈ (name ++ ending).toList := by simp [hletter]
  have hne : ∀ dots : String, 't' ∉ dots.toList → name ++ ending ≠ dots := by
    intro dots hd heq
    exact hd (heq ▸ hmem)
  constructor
  · exact hne "" (by decide)
  · exact hne "." (by decide)
  · exact hne ".." (by decide)
  · simp [h.no_slash, hslash]
  · simp [h.no_backslash, hback]

theorem isSegment_index : IsSegment "index.ts" := by
  constructor <;> decide

theorem join_of_segment {base name : String} (hb : base ≠ "") (hl : base.toList.getLast? ≠ some '/')
    (hn : name.toList.head? ≠ some '/') : join base name = base ++ "/" ++ name := by
  have he : base.isEmpty = false := by simpa using hb
  rw [join, if_neg hn, if_neg (by simp [he, hl])]

theorem isSegment_lowered {name : String} (h : IsSegment name) : IsSegment (Plan.lowered name) := by
  have hmarks : ∀ marks : String, (∀ c ∈ marks.toList, Text.isLow c = true) → name ≠ marks →
      Plan.lowered name ≠ marks := by
    intro marks hm hne he
    have hchars := Plan.toList_lowered name
    rw [he] at hchars
    rw [hchars] at hm
    rw [Text.lowerAfter_low hm] at hchars
    exact hne (String.toList_inj.mp hchars.symm)
  constructor
  · exact hmarks "" (by simp) h.ne_empty
  · exact hmarks "." (by simp [Text.isLow]) h.ne_here
  · exact hmarks ".." (by simp [Text.isLow]) h.ne_above
  · exact Plan.not_mem_lowered (by decide) h.no_slash
  · exact Plan.not_mem_lowered (by decide) h.no_backslash

end Path

namespace Library

open StyleGuide.Path

variable {lib : Library}

theorem isComponentName_iff {name : String} : isComponentName name = true ↔ IsSegment name := by
  simp only [isComponentName, Bool.and_eq_true, Bool.not_eq_true', bne_iff_ne, List.all_eq_true]
  constructor
  · rintro ⟨⟨⟨he, h1⟩, h2⟩, hc⟩
    refine ⟨by simpa using he, h1, h2, fun hm => (hc _ hm).1 rfl, fun hm => (hc _ hm).2 rfl⟩
  · intro h
    refine ⟨⟨⟨by simpa using h.ne_empty, h.ne_here⟩, h.ne_above⟩, fun c hm => ⟨?_, ?_⟩⟩
    · exact fun he => h.no_slash (he ▸ hm)
    · exact fun he => h.no_backslash (he ▸ hm)

def ownPaths (lib : Library) (name : String) : List String :=
  [name ++ ".tsx", name ++ ".stories.tsx", name ++ ".types.ts", "index.ts"].map
    (lib.componentsPath ++ "/" ++ name ++ "/" ++ ·)

theorem componentsPath_getLast? : lib.componentsPath.toList.getLast? = some 's' := by
  rw [componentsPath, join, if_neg (by decide)]
  split <;> simp

theorem componentPath_eq {name file : String} (hn : IsSegment name) (hf : IsSegment file) :
    lib.componentPath name file = lib.componentsPath ++ "/" ++ name ++ "/" ++ file := by
  have hlast := lib.componentsPath_getLast?
  have hfolder : join lib.componentsPath name = lib.componentsPath ++ "/" ++ name := by
    apply join_of_segment
    · intro he
      simp [he] at hlast
    · simp [hlast]
    · exact hn.head_ne_slash
  rw [componentPath, hfolder]
  apply join_of_segment
  · simp
  · intro he
    have hne : name.toList ≠ [] := by simpa using hn.ne_empty
    rw [String.toList_append, List.getLast?_append_of_ne_nil _ hne] at he
    exact hn.no_slash (List.mem_of_getLast? he)
  · exact hf.head_ne_slash

theorem ownPaths_eq {name : String} (h : IsSegment name) : lib.ownPaths name =
    [lib.mainPath name, lib.storiesPath name, lib.typesPath name, lib.indexPath name] := by
  rw [mainPath, storiesPath, typesPath, indexPath]
  rw [componentPath_eq h (isSegment_source h (by simp)),
    componentPath_eq h (isSegment_source h (by simp)),
    componentPath_eq h (isSegment_source h (by simp)), componentPath_eq h isSegment_index]
  rfl

theorem not_found_of_not_segment {name : String} (h : ¬ IsSegment name) (files : Files)
    (siblings : Component.Siblings) : lib.info files name = .error (.componentNotFound name) ∧
      lib.code files name siblings = .error (.componentNotFound name) := by
  have hn : isComponentName name = false := by
    rw [Bool.eq_false_iff]
    exact fun hc => h (isComponentName_iff.mp hc)
  constructor
  · rw [info, if_neg (by simp [hn])]
    rfl
  · rw [code, if_neg (by simp [hn])]
    rfl

section Agreement

variable {files files' : Files} {name : String}
  (hn : IsSegment name) (h : ∀ path ∈ lib.ownPaths name, files.seen path = files'.seen path)

include hn h

theorem seen_own : files.seen (lib.mainPath name) = files'.seen (lib.mainPath name) ∧
    files.seen (lib.storiesPath name) = files'.seen (lib.storiesPath name) ∧
    files.seen (lib.typesPath name) = files'.seen (lib.typesPath name) ∧
    files.seen (lib.indexPath name) = files'.seen (lib.indexPath name) := by
  simpa [ownPaths_eq hn] using h

theorem info_congr : lib.info files name = lib.info files' name := by
  obtain ⟨hmain, hstories, htypes, hindex⟩ := seen_own hn h
  rw [info, info, read, read, Files.isFile_congr hmain, Files.text_congr hmain,
    Files.isFile_congr hstories, Files.isFile_congr htypes, Files.text?_congr hindex]

theorem code_congr (siblings : Component.Siblings) :
    lib.code files name siblings = lib.code files' name siblings := by
  obtain ⟨hmain, hstories, htypes, hindex⟩ := seen_own hn h
  have hsource : lib.mainSource files name = lib.mainSource files' name := by
    rw [mainSource, mainSource, Files.text_congr hmain]
  simp only [code, hsource, Files.text?_congr hindex, Files.text?_congr hstories,
    Files.text?_congr htypes]

end Agreement

end Library

namespace Plan

open StyleGuide.Path

/-- A place for a source of a component, two steps below the folder of all components. -/
def IsComponentPlace (path : String) : Prop :=
  ∃ folder file, IsSegment folder ∧ IsSegment file ∧
    path = "src/components/" ++ folder ++ "/" ++ file

/-- What a component has in its folder in the project: the names of the files, with their contents.
-/
inductive IsSource (name : String) (code : Component.Code) (storybook : Bool) :
    String → String → Prop where
  | main : IsSource name code storybook (lowered name ++ ".tsx") code.main
  | index {text : String} (h : code.index = some text) :
      IsSource name code storybook "index.ts" text
  | stories {text : String} (hs : storybook = true) (h : code.stories = some text) :
    IsSource name code storybook (lowered name ++ ".stories.tsx") text

variable {name : String} {code : Component.Code} {storybook : Bool} {f : OutputFile}

theorem mem_componentFiles : f ∈ componentFiles name code storybook ↔
    ∃ file text, IsSource name code storybook file text ∧
      f = .create (componentFolder name ++ "/" ++ file) text := by
  have hsibling : ∀ (file : String) (source : Option String),
      f ∈ (source.map (OutputFile.create (componentFolder name ++ "/" ++ file))).toList ↔
        ∃ text, source = some text ∧ f = .create (componentFolder name ++ "/" ++ file) text := by
    intro file source
    cases source <;> simp
  rw [componentFiles, List.mem_append, List.mem_cons, hsibling, String.append_assoc]
  constructor
  · rintro ((rfl | ⟨text, h, rfl⟩) | hf)
    · exact ⟨_, _, .main, rfl⟩
    · exact ⟨_, text, .index h, rfl⟩
    · cases storybook with
      | false => cases hf
      | true =>
        obtain ⟨text, h, rfl⟩ := (hsibling _ _).mp hf
        exact ⟨_, text, .stories rfl h, rfl⟩
  · rintro ⟨file, text, hs, rfl⟩
    cases hs with
    | main => exact .inl (.inl rfl)
    | index h => exact .inl (.inr ⟨text, h, rfl⟩)
    | stories hb h =>
      rw [if_pos hb]
      exact .inr ((hsibling _ _).mpr ⟨text, h, rfl⟩)

theorem IsSource.isSegment {file text : String} (hn : IsSegment name)
    (h : IsSource name code storybook file text) : IsSegment file := by
  have hl := isSegment_lowered hn
  cases h with
  | main => exact isSegment_source hl (by simp)
  | index => exact isSegment_index
  | stories => exact isSegment_source hl (by simp)

end Plan

namespace Library

open StyleGuide.Path Plan

/-- What a plan with components has for files: the sources of each of them, and the module that
exports them all. -/
inductive Planned (lib : Library) (files : Files) (r : Request) : OutputFile → Prop where
  | source {name file text : String} {code : Component.Code} (hm : name ∈ r.components)
    (hn : IsSegment name) (hc : lib.code files name (siblings r.options) = .ok code)
    (hs : IsSource name code r.options.storybook file text) :
    lib.Planned files r (.create (componentFolder name ++ "/" ++ file) text)
  | barrel : lib.Planned files r
      (.create "src/components/index.ts" (mainIndex lib.name r.components))

variable {lib : Library} {files : Files} {r : Request} {f : OutputFile}

theorem mem_integrate (h : (lib.integrate files r).success = true) :
    f ∈ (lib.integrate files r).files ↔ lib.Planned files r f := by
  obtain ⟨-, -, parts, hparts, heq⟩ := tryComponents_eq_ok.mp (integrate_success.mp h)
  rw [heq, integrated, List.mem_append, List.mem_singleton, List.mem_flatMap]
  constructor
  · rintro (⟨part, hpart, hf⟩ | rfl)
    · obtain ⟨name, hm, hname⟩ := exists_of_forall₂ hparts hpart
      obtain ⟨info, code, hinfo, hcode, rfl⟩ := component_eq_ok.mp hname
      have hn := isComponentName_iff.mp (isComponentName_of_info hinfo)
      obtain ⟨file, text, hs, rfl⟩ := mem_componentFiles.mp hf
      exact .source hm hn hcode hs
    · exact .barrel
  · rintro (⟨hm, hn, hcode, hs⟩ | _)
    · obtain ⟨part, hpart, hname⟩ := exists_of_forall₂ hparts.flip hm
      obtain ⟨info, code, hinfo, hcode', rfl⟩ := component_eq_ok.mp hname
      obtain rfl := Except.ok.inj (hcode.symm.trans hcode')
      exact .inl ⟨_, hpart, mem_componentFiles.mpr ⟨_, _, hs, rfl⟩⟩
    · exact .inr rfl

theorem exists_code (h : (lib.integrate files r).success = true) {name : String}
    (hm : name ∈ r.components) :
    ∃ code, IsSegment name ∧ lib.code files name (siblings r.options) = .ok code := by
  obtain ⟨-, -, parts, hparts, -⟩ := tryComponents_eq_ok.mp (integrate_success.mp h)
  obtain ⟨part, -, hname⟩ := exists_of_forall₂ hparts.flip hm
  obtain ⟨info, code, hinfo, hcode, -⟩ := component_eq_ok.mp hname
  exact ⟨code, isComponentName_iff.mp (isComponentName_of_info hinfo), hcode⟩

theorem text_of_code {name : String} {code : Component.Code} {o : Options}
    (h : lib.code files name (siblings o) = .ok code) :
    files.text (lib.mainPath name) = .ok code.main ∧
      code.index = files.text? (lib.indexPath name) := by
  rw [Library.code] at h
  split at h
  · obtain ⟨source, hsource, hcode⟩ := bind_eq_ok.mp h
    rw [← Except.ok.inj hcode]
    simp only [siblings, if_true, and_true]
    rw [mainSource] at hsource
    split at hsource
    · next text ht =>
      rw [ht, Except.ok.inj hsource]
    · cases hsource
    · cases hsource
  · cases h

theorem place_of_mem_integrate (h : (lib.integrate files r).success = true) :
    ∀ f ∈ (lib.integrate files r).files,
      f.path = "src/components/index.ts" ∨ IsComponentPlace f.path := by
  intro f hf
  cases (mem_integrate h).mp hf with
  | @source name file text code hm hn hc hs =>
    exact .inr ⟨lowered name, file, isSegment_lowered hn, hs.isSegment hn, rfl⟩
  | barrel => exact .inl rfl

/-- A name can make a component be read only from its own folder, and written only into one below
the folder of all components. -/
theorem component_confined (lib : Library) :
    (∀ name, ¬ IsSegment name → ∀ (files : Files) (siblings : Component.Siblings),
      lib.info files name = .error (.componentNotFound name) ∧
        lib.code files name siblings = .error (.componentNotFound name)) ∧
    (∀ name, IsSegment name → ∀ files files' : Files,
      (∀ path ∈ lib.ownPaths name, files.seen path = files'.seen path) →
        lib.info files name = lib.info files' name ∧
          ∀ siblings, lib.code files name siblings = lib.code files' name siblings) ∧
    ∀ (files : Files) (r : Request), (lib.integrate files r).success = true →
      ∀ f ∈ (lib.integrate files r).files,
        f.path = "src/components/index.ts" ∨ IsComponentPlace f.path := by
  refine ⟨?_, ?_, ?_⟩
  · intro name hn files siblings
    exact not_found_of_not_segment hn files siblings
  · intro name hn files files' h
    exact ⟨info_congr hn h, code_congr hn h⟩
  · intro files r h
    exact place_of_mem_integrate h

def demo : Library := ⟨"", "Demo"⟩

def shelf (components : Files.Node) : Files :=
  .holding [(.ofText "components", components)]

open Files in
def closeName : Node := folder
  [(.ofText "..Σ.tsx", textFile "a"), (.ofText "..Σ.stories.tsx", textFile "b")]

def closeCall : Request := ⟨["..Σ"], ⟨"app", .vite, true, true, true⟩⟩

theorem component_confined_closeCall :
    let alone := shelf (Files.folder [(.ofText "..Σ", closeName)])
    let crowded :=
      shelf (Files.folder [(.ofText "secret.tsx", Files.textFile "c"), (.ofText "..Σ", closeName)])
    demo.info crowded ".." = .error (.componentNotFound "..") ∧
      demo.info alone "..Σ" = demo.info crowded "..Σ" ∧
      ∀ f ∈ (demo.integrate crowded closeCall).files,
        f.path = "src/components/index.ts" ∨ IsComponentPlace f.path := by
  have habove : ¬ IsSegment ".." := fun h => h.ne_above rfl
  have hname : IsSegment "..Σ" := isComponentName_iff.mp (by decide)
  obtain ⟨hnone, hsame, hplace⟩ := component_confined demo
  refine ⟨?_, ?_, ?_⟩
  · exact (hnone ".." habove _ ⟨false, false, false⟩).1
  · exact (hsame "..Σ" hname _ _ (by decide +kernel)).1
  · exact hplace _ closeCall (by decide +kernel)

end Library

end StyleGuide
