import Mathlib.Logic.Function.Basic
import StyleGuide.Proofs.Descent

namespace StyleGuide

namespace Path

theorem segments_beside {name : String} (h : '/' ∉ name.toList) :
    segments ("src/components/" ++ name) = ["src", "components", name] := by
  have hpath : "src/components/" ++ name = "src" ++ "/" ++ ("components" ++ "/" ++ name) := by
    rw [← String.append_assoc, ← String.append_assoc]
    rfl
  rw [hpath, segments_below, segments_below, segments_of_no_slash h]
  rfl

theorem segments_place {folder file : String} (hfolder : '/' ∉ folder.toList)
    (hfile : '/' ∉ file.toList) :
    segments ("src/components/" ++ folder ++ "/" ++ file) =
      ["src", "components", folder, file] := by
  rw [segments_below, segments_beside hfolder, segments_of_no_slash hfile]
  rfl

end Path

namespace Plan

open StyleGuide.Path

variable {name : String} {code : Component.Code} {storybook : Bool}

theorem ne_index {base ending : String} (h : ending ∈ [".tsx", ".stories.tsx"]) :
    base ++ ending ≠ "index.ts" := by
  intro heq
  have hlast : (base ++ ending).toList.getLast? = some 'x' := by
    simp only [List.mem_cons, List.not_mem_nil, or_false] at h
    obtain rfl | rfl := h <;> simp
  rw [heq] at hlast
  exact absurd hlast (by decide)

theorem IsSource.unique {file file' text text' : String}
    (h : IsSource name code storybook file text) (h' : IsSource name code storybook file' text')
    (he : file = file') : text = text' := by
  have hstories : lowered name ++ ".tsx" ≠ lowered name ++ ".stories.tsx" := by
    intro heq
    have hending : ".tsx".length = ".stories.tsx".length := by
      simpa using congrArg String.length heq
    exact absurd hending (by decide)
  cases h with
  | main =>
    cases h' with
    | main => rfl
    | index => exact absurd he (ne_index (by simp))
    | stories => exact absurd he hstories
  | index h =>
    cases h' with
    | main => exact absurd he.symm (ne_index (by simp))
    | index h' => exact Option.some.inj (h.symm.trans h')
    | stories => exact absurd he.symm (ne_index (by simp))
  | stories _ h =>
    cases h' with
    | main => exact absurd he.symm hstories
    | index => exact absurd he (ne_index (by simp))
    | stories _ h' => exact Option.some.inj (h.symm.trans h')

theorem segments_source {file text : String} (hn : IsSegment name)
    (h : IsSource name code storybook file text) :
    segments (componentFolder name ++ "/" ++ file) = ["src", "components", lowered name, file] :=
  segments_place (isSegment_lowered hn).no_slash (h.isSegment hn).no_slash

theorem segments_barrel :
    segments "src/components/index.ts" = ["src", "components", "index.ts"] := by
  have hpath : "src/components/index.ts" = "src/components/" ++ "index.ts" := by decide
  rw [hpath, segments_beside isSegment_index.no_slash]

/-- A project, by the contents at its paths, after files have been written to it one after the
other. -/
def written (project : String → Option String) (fs : List OutputFile) : String → Option String :=
  fs.foldl (fun project f => Function.update project f.path (some f.content)) project

variable {fs gs : List OutputFile}

theorem written_of_not_mem {path : String} (h : ∀ f ∈ fs, f.path ≠ path)
    (project : String → Option String) : written project fs path = project path := by
  induction fs generalizing project with
  | nil => rfl
  | cons f fs ih =>
    obtain ⟨hf, hfs⟩ := List.forall_mem_cons.mp h
    have hrest := ih hfs (Function.update project f.path (some f.content))
    rw [Function.update_of_ne (Ne.symm hf)] at hrest
    exact hrest

theorem written_of_mem (h : ∀ f ∈ fs, ∀ g ∈ fs, f.path = g.path → f.content = g.content)
    {f : OutputFile} (hf : f ∈ fs) (project : String → Option String) :
    written project fs f.path = some f.content := by
  induction fs generalizing project f with
  | nil => cases hf
  | cons g fs ih =>
    have hrest := fun f hf g hg =>
      h f (List.mem_cons_of_mem _ hf) g (List.mem_cons_of_mem _ hg)
    by_cases hlater : ∃ f' ∈ fs, f'.path = f.path
    · obtain ⟨f', hf', hpath⟩ := hlater
      have hcontent := h f' (List.mem_cons_of_mem _ hf') f hf hpath
      rw [← hpath, ← hcontent]
      exact ih hrest hf' _
    · -- The last file for this path is the first of all.
      have hnot : ∀ f' ∈ fs, f'.path ≠ f.path := fun f' hf' hpath => hlater ⟨f', hf', hpath⟩
      obtain rfl : f = g := (List.mem_cons.mp hf).resolve_right fun hm => hnot f hm rfl
      have hkept := written_of_not_mem hnot (Function.update project f.path (some f.content))
      rw [Function.update_self] at hkept
      exact hkept

theorem written_perm (hp : gs.Perm fs)
    (h : ∀ f ∈ fs, ∀ g ∈ fs, f.path = g.path → f.content = g.content)
    (project : String → Option String) : written project gs = written project fs := by
  have hgs : ∀ f ∈ gs, ∀ g ∈ gs, f.path = g.path → f.content = g.content :=
    fun f hf g hg => h f (hp.mem_iff.mp hf) g (hp.mem_iff.mp hg)
  funext path
  by_cases hpath : ∃ f ∈ fs, f.path = path
  · obtain ⟨f, hf, rfl⟩ := hpath
    rw [written_of_mem h hf, written_of_mem hgs (hp.mem_iff.mpr hf)]
  · have hnot : ∀ f ∈ fs, f.path ≠ path := fun f hf he => hpath ⟨f, hf, he⟩
    rw [written_of_not_mem hnot, written_of_not_mem fun f hf => hnot f (hp.mem_iff.mp hf)]

end Plan

namespace Library

open StyleGuide.Path Plan

variable {lib : Library} {files : Files} {r : Request} {f g : OutputFile}

/-- Two files of a plan are for one path only if they are the same, or if they are sources of two
components whose names differ by nothing but case. -/
theorem Planned.eq_of_path (hf : lib.Planned files r f) (hg : lib.Planned files r g)
    (hp : f.path = g.path) : f = g ∨ ∃ n ∈ r.components, ∃ m ∈ r.components,
      n ≠ m ∧ lowered n = lowered m ∧ ∃ file, f.path = componentFolder n ++ "/" ++ file := by
  have hsegments := congrArg segments hp
  cases hf with
  | @source name file text code hm hn hc hs =>
    cases hg with
    | @source name' file' text' code' hm' hn' hc' hs' =>
      simp only [OutputFile.create, segments_source hn hs, segments_source hn' hs',
        List.cons.injEq, and_true, true_and] at hsegments
      obtain ⟨hfolder, hfile⟩ := hsegments
      by_cases hname : name = name'
      · subst hname
        obtain rfl := Except.ok.inj (hc.symm.trans hc')
        obtain rfl := hs.unique hs' hfile
        rw [hfile]
        exact .inl rfl
      · exact .inr ⟨name, hm, name', hm', hname, hfolder, file, rfl⟩
    | barrel =>
      simp [OutputFile.create, segments_source hn hs, segments_barrel] at hsegments
  | barrel =>
    cases hg with
    | source hm hn hc hs =>
      simp [OutputFile.create, segments_source hn hs, segments_barrel] at hsegments
    | barrel => exact .inl rfl

theorem Planned.eq_of_below (hf : lib.Planned files r f) (hg : lib.Planned files r g)
    {rest : String} (hp : g.path = f.path ++ "/" ++ rest) :
    f.path = "src/components/index.ts" ∧ ∃ n ∈ r.components, lowered n = "index.ts" := by
  have hsegments := congrArg segments hp
  obtain ⟨s, ss, hrest⟩ := List.exists_cons_of_ne_nil (segments_ne_nil rest)
  rw [segments_below, hrest] at hsegments
  cases hf with
  | source hm hn hc hs =>
    cases hg with
    | source hm' hn' hc' hs' =>
      simp [OutputFile.create, segments_source hn hs, segments_source hn' hs'] at hsegments
    | barrel =>
      simp [OutputFile.create, segments_source hn hs, segments_barrel] at hsegments
  | barrel =>
    cases hg with
    | @source name file text code hm hn hc hs =>
      simp only [OutputFile.create, segments_source hn hs, segments_barrel, List.cons_append,
        List.cons.injEq, true_and] at hsegments
      exact ⟨rfl, name, hm, hsegments.1⟩
    | barrel => simp [OutputFile.create, segments_barrel] at hsegments

/-- A plan has two contents for one path only where two of its components differ by nothing but the
case of their names. Otherwise its files can be written in any order and all of them stay, the
source of each component among them. -/
theorem collide_only_by_case (lib : Library) (files : Files) (r : Request)
    (h : (lib.integrate files r).success = true) :
    let fs := (lib.integrate files r).files
    (∀ f ∈ fs, ∀ g ∈ fs, f.path = g.path → f.content ≠ g.content →
      ∃ n ∈ r.components, ∃ m ∈ r.components,
        n ≠ m ∧ lowered n = lowered m ∧ ∃ file, f.path = componentFolder n ++ "/" ++ file) ∧
    (∀ f ∈ fs, ∀ g ∈ fs, ∀ rest, g.path = f.path ++ "/" ++ rest →
      f.path = "src/components/index.ts" ∧ ∃ n ∈ r.components, lowered n = "index.ts") ∧
    (∀ n ∈ r.components, ∃ f ∈ fs, f.path = componentFolder n ++ "/" ++ (lowered n ++ ".tsx") ∧
      files.text (lib.mainPath n) = .ok f.content) ∧
    ((∀ n ∈ r.components, ∀ m ∈ r.components, lowered n = lowered m → n = m) →
      ∀ gs : List OutputFile, gs.Perm fs → ∀ project,
        written project gs = written project fs ∧
          ∀ f ∈ fs, written project gs f.path = some f.content) := by
  intro fs
  have hplanned : ∀ f ∈ fs, lib.Planned files r f := fun f hf => (mem_integrate h).mp hf
  refine ⟨?_, ?_, ?_, ?_⟩
  · intro f hf g hg hp hne
    obtain rfl | hcollide := (hplanned f hf).eq_of_path (hplanned g hg) hp
    · exact absurd rfl hne
    · exact hcollide
  · intro f hf g hg rest hp
    exact (hplanned f hf).eq_of_below (hplanned g hg) hp
  · intro n hn
    obtain ⟨code, hsegment, hcode⟩ := exists_code h hn
    exact ⟨_, (mem_integrate h).mpr (.source hn hsegment hcode .main), rfl, (text_of_code hcode).1⟩
  · intro hnames gs hgs project
    have hone : ∀ f ∈ fs, ∀ g ∈ fs, f.path = g.path → f.content = g.content := by
      intro f hf g hg hp
      obtain rfl | ⟨n, hn, m, hm, hne, hl, -⟩ := (hplanned f hf).eq_of_path (hplanned g hg) hp
      · rfl
      · exact absurd (hnames n hn m hm hl) hne
    have hwritten := written_perm hgs hone project
    refine ⟨hwritten, fun f hf => ?_⟩
    rw [hwritten, written_of_mem hone hf]

open Files in
def cabinet : Files :=
  holding [(.ofText "components", folder
    [(.ofText "Button", folder [(.ofText "Button.tsx", textFile "A")]),
     (.ofText "button", folder [(.ofText "button.tsx", textFile "b")]),
     (.ofText "card", folder [(.ofText "card.tsx", textFile "c")]),
     (.ofText "index.ts", folder [(.ofText "index.ts.tsx", textFile "d")])])]

def asking (names : List String) : Request := ⟨names, ⟨"app", .vite, true, true, false⟩⟩

theorem exists_entry (fs : List OutputFile) (path content : String)
    (h : (path, content) ∈ fs.map fun f => (f.path, f.content)) :
    ∃ f ∈ fs, f.path = path ∧ f.content = content := by
  obtain ⟨f, hf, he⟩ := List.mem_map.mp h
  obtain ⟨hpath, hcontent⟩ := Prod.mk.inj he
  exact ⟨f, hf, hpath, hcontent⟩

theorem success_both : (demo.integrate cabinet (asking ["Button", "button"])).success = true := by
  decide +kernel

theorem exists_collision :
    let fs := (demo.integrate cabinet (asking ["Button", "button"])).files
    ∃ f ∈ fs, ∃ g ∈ fs, f.path = g.path ∧ f.content ≠ g.content := by
  intro fs
  obtain ⟨f, hf, hpath, hcontent⟩ :=
    exists_entry fs "src/components/button/button.tsx" "A" (by decide +kernel)
  obtain ⟨g, hg, hpath', hcontent'⟩ :=
    exists_entry fs "src/components/button/button.tsx" "b" (by decide +kernel)
  refine ⟨f, hf, g, hg, hpath.trans hpath'.symm, ?_⟩
  rw [hcontent, hcontent']
  decide

theorem not_free_of_collisions : ¬ ∀ (lib : Library) (files : Files) (r : Request),
    (lib.integrate files r).success = true → ∀ f ∈ (lib.integrate files r).files,
      ∀ g ∈ (lib.integrate files r).files, f.path = g.path → f.content = g.content := by
  intro h
  obtain ⟨f, hf, g, hg, hp, hne⟩ := exists_collision
  exact hne (h demo cabinet (asking ["Button", "button"]) success_both f hf g hg hp)

theorem collide_only_by_case_cabinet :
    let fs := fun names => (demo.integrate cabinet (asking names)).files
    (∃ f ∈ fs ["Button", "button"], ∃ g ∈ fs ["Button", "button"],
      f.path = g.path ∧ f.content ≠ g.content ∧
        ∃ n ∈ ["Button", "button"], ∃ m ∈ ["Button", "button"], n ≠ m ∧ lowered n = lowered m) ∧
    (∃ f ∈ fs ["index.ts"], ∃ g ∈ fs ["index.ts"], g.path = f.path ++ "/" ++ "index.ts.tsx" ∧
      f.path = "src/components/index.ts") ∧
    ∀ project, written project (fs ["button", "card", "button"]).reverse =
      written project (fs ["button", "card", "button"]) := by
  intro fs
  refine ⟨?_, ?_, fun project => ?_⟩
  · obtain ⟨f, hf, g, hg, hp, hne⟩ := exists_collision
    obtain ⟨hcollide, -, -, -⟩ :=
      collide_only_by_case demo cabinet (asking ["Button", "button"]) success_both
    obtain ⟨n, hn, m, hm, hnames, hl, -⟩ := hcollide f hf g hg hp hne
    exact ⟨f, hf, g, hg, hp, hne, n, hn, m, hm, hnames, hl⟩
  · have hsuccess : (demo.integrate cabinet (asking ["index.ts"])).success = true := by
      decide +kernel
    have hf := (mem_integrate hsuccess).mpr .barrel
    obtain ⟨g, hg, hpath, -⟩ :=
      exists_entry (fs ["index.ts"]) "src/components/index.ts/index.ts.tsx" "d" (by decide +kernel)
    have hp : g.path = "src/components/index.ts" ++ "/" ++ "index.ts.tsx" := by
      rw [hpath]
      decide
    obtain ⟨-, hbelow, -, -⟩ := collide_only_by_case demo cabinet (asking ["index.ts"]) hsuccess
    exact ⟨_, hf, g, hg, hp, (hbelow _ hf g hg _ hp).1⟩
  · obtain ⟨-, -, -, hwritten⟩ :=
      collide_only_by_case demo cabinet (asking ["button", "card", "button"]) (by decide +kernel)
    exact (hwritten (by decide +kernel) _ (List.reverse_perm _) project).1

end Library

end StyleGuide
