import Mathlib.Data.List.Induction
import StyleGuide.Proofs.Confinement

namespace StyleGuide

theorem nodup_eraseDups {α : Type} [BEq α] [LawfulBEq α] (xs : List α) : xs.eraseDups.Nodup := by
  classical
  induction xs using List.reverseRecOn with
  | nil => simp
  | append_singleton xs x ih =>
    rw [eraseDups_concat]
    split
    · exact ih
    · next h =>
      have hnew : ∀ y ∈ xs.eraseDups, y ≠ x := fun y hy heq => h (heq ▸ List.mem_eraseDups.mp hy)
      simpa [List.nodup_append, ih] using hnew

namespace Plan

/-- What is added one by one where it is not there yet stands in the order in which it comes first.
-/
theorem addNew_eraseDups (known new : List String) :
    addNew known.eraseDups new = (known ++ new).eraseDups := by
  induction new using List.reverseRecOn with
  | nil => rw [List.append_nil]; rfl
  | append_singleton new p ih =>
    have hstep : addNew known.eraseDups (new ++ [p]) =
        if (addNew known.eraseDups new).contains p then addNew known.eraseDups new
        else addNew known.eraseDups new ++ [p] := List.foldl_append
    rw [hstep, ih, ← List.append_assoc, eraseDups_concat]
    simp only [List.contains_iff_mem, List.mem_eraseDups]

theorem addNew_componentPackages (new : List String) :
    addNew componentPackages new = (componentPackages ++ new).eraseDups :=
  addNew_eraseDups componentPackages new

theorem mainIndex_eq (library : String) (names : List String) : mainIndex library names =
    "// Auto-generated exports for " ++ library ++ " components\n" ++
      String.join
        (names.map fun name => "export * from './" ++ .ofList (Text.lower name.toList) ++ "'\n") ++
      "export * from '../lib/utils'\n" := rfl

end Plan

namespace Library

open Plan

/-- A file of the library as it is copied to a place in a project, if it can be read. -/
def copied (files : Files) (source place : String) : List OutputFile :=
  match files.text source with
  | .ok text => [{ path := place, content := text, action := .create }]
  | .error _ => []

def copies (lib : Library) (files : Files) (storybook : Bool) (name : String) : List OutputFile :=
  let small := String.ofList (Text.lower name.toList)
  let folder := "src/components/" ++ small ++ "/"
  copied files (lib.mainPath name) (folder ++ small ++ ".tsx") ++
    copied files (lib.indexPath name) (folder ++ "index.ts") ++
    if storybook then copied files (lib.storiesPath name) (folder ++ small ++ ".stories.tsx")
    else []

variable {lib : Library} {files : Files} {o : Options} {name : String}

theorem stories_of_code {code : Component.Code} (h : lib.code files name (siblings o) = .ok code) :
    code.stories = if o.storybook then files.text? (lib.storiesPath name) else none := by
  rw [Library.code] at h
  split at h
  · obtain ⟨source, -, hcode⟩ := bind_eq_ok.mp h
    rw [← Except.ok.inj hcode]
    rfl
  · cases h

theorem copied_eq (files : Files) (source place : String) :
    copied files source place = ((files.text? source).map (OutputFile.create place)).toList := by
  rw [copied, Files.text?]
  cases files.text source <;> rfl

theorem componentFiles_of_code {code : Component.Code}
    (h : lib.code files name (siblings o) = .ok code) :
    componentFiles name code o.storybook = lib.copies files o.storybook name := by
  obtain ⟨hmain, hindex⟩ := text_of_code h
  have hstories := stories_of_code h
  have htext : files.text? (lib.mainPath name) = some code.main := by
    rw [Files.text?, hmain]
    rfl
  simp only [copies, copied_eq, htext, ← hindex]
  cases hs : o.storybook with
  | false => simp [componentFiles, componentFolder, lowered, String.append_assoc]
  | true => simp [componentFiles, componentFolder, lowered, String.append_assoc, hstories, hs]

theorem part_of_component {part : List OutputFile × List String}
    (h : lib.component files o name = .ok part) :
    (∃ source, files.text (lib.mainPath name) = .ok source) ∧
    part.1 = lib.copies files o.storybook name ∧
      ∃ info, lib.info files name = .ok info ∧ part.2 = info.dependencies := by
  obtain ⟨info, code, hinfo, hcode, rfl⟩ := component_eq_ok.mp h
  exact ⟨⟨code.main, (text_of_code hcode).1⟩, componentFiles_of_code hcode, info, hinfo, rfl⟩

theorem parts_of_components {names : List String} {parts : List (List OutputFile × List String)}
    (h : List.Forall₂ (fun name part => lib.component files o name = .ok part) names parts) :
    (∀ name ∈ names, ∃ source, files.text (lib.mainPath name) = .ok source) ∧
      parts.flatMap Prod.fst = names.flatMap (lib.copies files o.storybook) ∧
      ∃ infos, List.Forall₂ (fun name info => lib.info files name = .ok info) names infos ∧
        parts.flatMap Prod.snd = infos.flatMap Component.Info.dependencies := by
  induction h with
  | nil => exact ⟨nofun, rfl, [], .nil, rfl⟩
  | cons hpart _ ih =>
    obtain ⟨hsource, hfiles, info, hinfo, hpackages⟩ := part_of_component hpart
    obtain ⟨hsources, hfiles', infos, hinfos, hpackages'⟩ := ih
    refine ⟨List.forall_mem_cons.mpr ⟨hsource, hsources⟩, ?_, info :: infos, .cons hinfo hinfos, ?_⟩
    · rw [List.flatMap_cons, List.flatMap_cons, hfiles, hfiles']
    · rw [List.flatMap_cons, List.flatMap_cons, hpackages, hpackages']

/-- A plan with components has their sources in the order in which they are asked for, unchanged,
and the module that exports them in that order. It needs each package once: those that all
components share, those of each component and those of the workshop if that is wanted, and it begins
with installing them. -/
theorem integration_exact (lib : Library) (files : Files) (r : Request)
    (h : (lib.integrate files r).success = true) :
    let outcome := lib.integrate files r
    (∀ name ∈ r.components, ∃ source, files.text (lib.mainPath name) = .ok source) ∧
      outcome.files = r.components.flatMap (lib.copies files r.options.storybook) ++
        [{ path := "src/components/index.ts"
           content := "// Auto-generated exports for " ++ lib.name ++ " components\n" ++
             String.join (r.components.map fun name =>
               "export * from './" ++ .ofList (Text.lower name.toList) ++ "'\n") ++
             "export * from '../lib/utils'\n"
           action := .create }] ∧
      outcome.dependencies.Nodup ∧
      (∃ infos, List.Forall₂ (fun name info => lib.info files name = .ok info) r.components infos ∧
        outcome.dependencies =
          (["@radix-ui/react-slot", "class-variance-authority", "clsx", "tailwind-merge"] ++
            infos.flatMap Component.Info.dependencies ++
            if r.options.storybook then ["@storybook/react", "storybook"] else []).eraseDups) ∧
      outcome.instructions.head? =
        some ("1. Install dependencies: npm install " ++ " ".intercalate outcome.dependencies) := by
  intro outcome
  obtain ⟨-, -, parts, hparts, heq⟩ := tryComponents_eq_ok.mp (integrate_success.mp h)
  obtain ⟨hsources, hfiles, infos, hinfos, hpackages⟩ := parts_of_components hparts
  have hdependencies : outcome.dependencies =
      (componentPackages ++ infos.flatMap Component.Info.dependencies ++
      if r.options.storybook then storybookPackages else []).eraseDups := by
    rw [List.append_assoc, ← addNew_componentPackages, ← hpackages]
    exact congrArg Outcome.dependencies heq
  refine ⟨hsources, ?_, ?_, ⟨infos, hinfos, hdependencies⟩, ?_⟩
  · rw [← hfiles, ← mainIndex_eq]
    exact congrArg Outcome.files heq
  · rw [hdependencies]
    exact nodup_eraseDups _
  · have hsteps : outcome.instructions =
        componentSteps outcome.dependencies r.options.storybook := by
      simp only [outcome, heq, integrated]
    rw [hsteps]
    rfl

open Files in
/-- Two components that share packages with each other, with all components and with the workshop.
One of them has an index and the other one stories. -/
def overlapping : Files :=
  holding [(.ofText "components", folder
    [(.ofText "Dialog", folder
      [(.ofText "Dialog.tsx",
        textFile "import a from 'vaul'\nimport b from 'clsx'\nimport c from 'storybook'\n"),
       (.ofText "index.ts", textFile "export * from './Dialog'\n")]),
     (.ofText "card", folder
      [(.ofText "card.tsx", textFile "import a from 'vaul'\nimport b from 'cmdk'\n"),
       (.ofText "card.stories.tsx", textFile "s")])])]

def bothComponents : Request := ⟨["card", "Dialog"], ⟨"app", .vite, true, true, true⟩⟩

theorem integration_exact_overlapping :
    let outcome := demo.integrate overlapping bothComponents
    outcome.success = true ∧
      outcome.files.map (fun f => (f.path, f.content, f.action)) =
        [("src/components/card/card.tsx", "import a from 'vaul'\nimport b from 'cmdk'\n", .create),
         ("src/components/card/card.stories.tsx", "s", .create),
         ("src/components/dialog/dialog.tsx",
          "import a from 'vaul'\nimport b from 'clsx'\nimport c from 'storybook'\n", .create),
         ("src/components/dialog/index.ts", "export * from './Dialog'\n", .create),
         ("src/components/index.ts", "// Auto-generated exports for Demo components\n" ++
           "export * from './card'\nexport * from './dialog'\nexport * from '../lib/utils'\n",
           .create)] ∧
      outcome.dependencies =
        ["@radix-ui/react-slot", "class-variance-authority", "clsx", "tailwind-merge",
        "cmdk", "vaul", "storybook", "@storybook/react"] ∧ outcome.dependencies.Nodup := by
  intro outcome
  have hsuccess : outcome.success = true := by decide +kernel
  obtain ⟨-, hfiles, hnodup, -, -⟩ := integration_exact demo overlapping bothComponents hsuccess
  refine ⟨hsuccess, ?_, by decide +kernel, hnodup⟩
  rw [hfiles]
  decide +kernel

end Library

end StyleGuide
