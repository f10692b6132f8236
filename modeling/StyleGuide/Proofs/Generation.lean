import StyleGuide.Proofs.Readers

namespace StyleGuide

namespace Plan

def Options.HasTarget (o : Options) : Prop := ∃ c ∈ o.target.toList, Text.isBlank c = false

theorem checkTarget_eq_ok {o : Options} : checkTarget o = .ok () ↔ o.HasTarget := by
  have hb : Text.isAllBlank o.target.toList = false ↔ o.HasTarget := by
    simp [Text.isAllBlank, Options.HasTarget]
  rw [checkTarget, ← hb]
  cases Text.isAllBlank o.target.toList <;> simp

def Outcome.IsBare (outcome : Outcome) : Prop :=
  outcome.files = [] ∧ outcome.instructions = [] ∧ outcome.dependencies = []

theorem Outcome.isBare_failure (message : String) : (failure message).IsBare := ⟨rfl, rfl, rfl⟩

end Plan

namespace Library

open Plan

variable {lib : Library} {files : Files} {now : String}

theorem themeTokens_eq_ok {o : Options} : (∃ tokens, lib.themeTokens files now o = .ok tokens) ↔
    o.tailwind = false ∨ ∃ css, files.text lib.stylesheetPath = .ok css := by
  rw [themeTokens, tokens, read]
  cases o.tailwind with
  | false => exact iff_of_true ⟨none, rfl⟩ (.inl rfl)
  | true =>
    cases files.text lib.stylesheetPath with
    | ok css => exact iff_of_true ⟨_, rfl⟩ (.inr ⟨css, rfl⟩)
    | error cause =>
      refine iff_of_false ?_ ?_
      · rintro ⟨tokens, h⟩
        cases h
      · rintro (h | ⟨css, h⟩) <;> cases h

theorem success_of_tryTheme {o : Options} {outcome : Outcome}
    (h : lib.tryTheme files now o = .ok outcome) : outcome.success = true := by
  simp only [tryTheme, bind_eq_ok] at h
  obtain ⟨-, -, tokens, -, h⟩ := h
  cases Except.ok.inj h
  rfl

theorem tryTheme_eq_ok {o : Options} : (∃ outcome, lib.tryTheme files now o = .ok outcome) ↔
    o.HasTarget ∧ (o.tailwind = false ∨ ∃ css, files.text lib.stylesheetPath = .ok css) := by
  simp only [tryTheme, bind_eq_ok, ← checkTarget_eq_ok]
  constructor
  · rintro ⟨outcome, ⟨⟩, ht, tokens, hk, -⟩
    exact ⟨ht, themeTokens_eq_ok.mp ⟨tokens, hk⟩⟩
  · rintro ⟨ht, hcss⟩
    obtain ⟨tokens, hk⟩ := themeTokens_eq_ok.mpr hcss
    exact ⟨_, (), ht, tokens, hk, rfl⟩

theorem theme_success {o : Options} : (lib.theme files now o).success = true ↔
    ∃ outcome, lib.tryTheme files now o = .ok outcome := by
  rw [theme]
  cases h : lib.tryTheme files now o with
  | ok outcome => exact ⟨fun _ => ⟨outcome, rfl⟩, fun _ => success_of_tryTheme h⟩
  | error failure => exact ⟨nofun, nofun⟩

theorem isBare_theme {o : Options} (h : (lib.theme files now o).success = false) :
    (lib.theme files now o).IsBare := by
  rw [theme]
  cases hp : lib.tryTheme files now o with
  | ok outcome => cases (theme_success.mpr ⟨outcome, hp⟩).symm.trans h
  | error failure => exact Outcome.isBare_failure _

/-- Both readers give the component, with its index, and with its stories where they are wanted. -/
def Copyable (lib : Library) (files : Files) (o : Options) (name : String) : Prop :=
  (∃ info, lib.info files name = .ok info) ∧
    ∃ code, lib.code files name ⟨o.storybook, false, true⟩ = .ok code

/-- What keeps a component from being copied. That it cannot be described counts first. -/
def Uncopyable (lib : Library) (files : Files) (o : Options) (name : String) (f : Failure) : Prop :=
  lib.info files name = .error f ∨
    (∃ info, lib.info files name = .ok info) ∧
      lib.code files name ⟨o.storybook, false, true⟩ = .error f

theorem exists_component_eq_ok {o : Options} {name : String} :
    (∃ part, lib.component files o name = .ok part) ↔ lib.Copyable files o name := by
  constructor
  · rintro ⟨part, h⟩
    obtain ⟨info, code, hi, hc, -⟩ := component_eq_ok.mp h
    exact ⟨⟨info, hi⟩, code, hc⟩
  · rintro ⟨⟨info, hi⟩, code, hc⟩
    exact ⟨_, component_eq_ok.mpr ⟨info, code, hi, hc, rfl⟩⟩

/-- Of the names, the first one that cannot be copied fails so. -/
def FirstFailure (lib : Library) (files : Files) (o : Options) (names : List String) (f : Failure) :
    Prop :=
  ∃ before name after, names = before ++ name :: after ∧ (∀ n ∈ before, lib.Copyable files o n) ∧
    lib.Uncopyable files o name f

theorem mapM_component_eq_error {o : Options} {names : List String} {f : Failure} :
    names.mapM (lib.component files o) = .error f ↔ lib.FirstFailure files o names f := by
  simp only [mapM_eq_error, exists_component_eq_ok, component_eq_error]
  rfl

theorem exists_tryComponents_eq_ok {r : Request} :
    (∃ outcome, lib.tryComponents files r = .ok outcome) ↔ r.options.HasTarget ∧ r.components ≠ [] ∧
      ∀ name ∈ r.components, lib.Copyable files r.options name := by
  simp only [tryComponents_eq_ok, checkTarget_eq_ok, ← exists_component_eq_ok, ← exists_mapM_eq_ok,
    mapM_eq_ok]
  constructor
  · rintro ⟨outcome, ht, hc, parts, hp, -⟩
    exact ⟨ht, hc, parts, hp⟩
  · rintro ⟨ht, hc, parts, hp⟩
    exact ⟨_, ht, hc, parts, hp, rfl⟩

theorem tryComponents_eq_error {r : Request} {failure : Plan.Failure} (ht : r.options.HasTarget)
    (hc : r.components ≠ []) : lib.tryComponents files r = .error failure ↔
      ∃ f, lib.FirstFailure files r.options r.components f ∧ .library f = failure := by
  -- Past the checks only the components themselves can fail.
  have hn : ¬ r.components.isEmpty = true := by simp [hc]
  have hp : lib.tryComponents files r =
      ((r.components.mapM (lib.component files r.options)).mapError Plan.Failure.library >>=
        fun parts => .ok (lib.integrated r parts)) := by
    rw [tryComponents, checkTarget_eq_ok.mpr ht, if_neg hn]
    rfl
  rw [hp, bind_eq_error, mapError_eq_error]
  simp only [mapM_component_eq_error]
  refine or_iff_left ?_
  rintro ⟨parts, -, h⟩
  cases h

theorem integrate_success_iff {r : Request} : (lib.integrate files r).success = true ↔
    ∃ outcome, lib.tryComponents files r = .ok outcome := by
  refine integrate_success.trans ⟨fun h => ⟨_, h⟩, ?_⟩
  rintro ⟨outcome, h⟩
  rw [integrate, h]

theorem exists_tryComponents_eq_error {r : Request}
    (h : (lib.integrate files r).success = false) :
    ∃ failure, lib.tryComponents files r = .error failure := by
  cases hp : lib.tryComponents files r with
  | ok outcome => cases (integrate_success_iff.mpr ⟨outcome, hp⟩).symm.trans h
  | error failure => exact ⟨failure, rfl⟩

theorem isBare_integrate {r : Request} (h : (lib.integrate files r).success = false) :
    (lib.integrate files r).IsBare := by
  obtain ⟨failure, hp⟩ := exists_tryComponents_eq_error h
  rw [integrate, hp]
  exact Outcome.isBare_failure _

/-- A plan is made exactly if the target is named and all that it draws on can be read. If it is
not, there is nothing but a message, and for components the message tells the failure of the first
of them that cannot be copied. -/
theorem generation_all_or_nothing (lib : Library) (files : Files) (now : String) :
    (∀ o : Options,
      ((lib.theme files now o).success = true ↔ o.HasTarget ∧
        (o.tailwind = false ∨ ∃ css, files.text lib.stylesheetPath = .ok css)) ∧
      ((lib.theme files now o).success = false → (lib.theme files now o).IsBare)) ∧
    ∀ r : Request,
      ((lib.integrate files r).success = true ↔ r.options.HasTarget ∧ r.components ≠ [] ∧
        ∀ name ∈ r.components, lib.Copyable files r.options name) ∧
      ((lib.integrate files r).success = false → (lib.integrate files r).IsBare) ∧
      (r.options.HasTarget → r.components ≠ [] →
        ((lib.integrate files r).success = false ↔
          ∃ f, lib.FirstFailure files r.options r.components f) ∧
        ∀ f, lib.FirstFailure files r.options r.components f →
          (lib.integrate files r).message = "Failed to integrate components: " ++ f.detailed) := by
  refine ⟨fun o => ⟨theme_success.trans tryTheme_eq_ok, isBare_theme⟩, fun r => ⟨?_, ?_, ?_⟩⟩
  · exact integrate_success_iff.trans exists_tryComponents_eq_ok
  · exact isBare_integrate
  · intro ht hc
    have hfail : ∀ f, lib.FirstFailure files r.options r.components f → lib.integrate files r =
        .failure ("Failed to integrate components: " ++ f.detailed) := by
      intro f hf
      rw [integrate, (tryComponents_eq_error ht hc).mpr ⟨f, hf, rfl⟩]
      rfl
    refine ⟨⟨fun h => ?_, ?_⟩, fun f hf => by rw [hfail f hf]; rfl⟩
    · obtain ⟨failure, hp⟩ := exists_tryComponents_eq_error h
      obtain ⟨f, hf, -⟩ := (tryComponents_eq_error ht hc).mp hp
      exact ⟨f, hf⟩
    · rintro ⟨f, hf⟩
      rw [hfail f hf]
      rfl

def themed (lib : Library) (files : Files) (now : String) (o : Options) : List OutputFile :=
  match files.text lib.stylesheetPath with
  | .ok css =>
    [{ path := "src/styles/globals.css"
       content := Template.globalCss (.ofCss css now)
       action := .create },
     { path := "tailwind.config.ts"
       content := Template.tailwindConfig o.framework o.storybook
       action := .create }]
  | .error _ => []

theorem cases_of_themeTokens {o : Options} {tokens : Option Collection}
    (h : lib.themeTokens files now o = .ok tokens) :
    o.tailwind = false ∧ tokens = none ∨
      o.tailwind = true ∧ ∃ css, files.text lib.stylesheetPath = .ok css ∧
      tokens = some (.ofCss css now) := by
  rw [themeTokens, Library.tokens, read] at h
  cases ht : o.tailwind with
  | false =>
    rw [ht] at h
    exact .inl ⟨rfl, (Except.ok.inj h).symm⟩
  | true =>
    rw [ht] at h
    cases htext : files.text lib.stylesheetPath with
    | ok css =>
      rw [htext] at h
      exact .inr ⟨rfl, css, rfl, (Except.ok.inj h).symm⟩
    | error cause =>
      rw [htext] at h
      cases h

/-- A theme has the stylesheet and its config, the compiler settings and the config of the framework
as far as they are wanted, and the helper. The steps begin with the installation of Tailwind if that
is wanted. -/
theorem theme_exact {o : Options} (h : (lib.theme files now o).success = true) :
    let outcome := lib.theme files now o
    outcome.message = "Theme setup generated for " ++ o.target ∧
      outcome.files =
        (if o.tailwind then lib.themed files now o else []) ++
        (if o.typescript then
          [{ path := "tsconfig.json", content := (Template.tsconfig o.framework).pretty,
             action := .create }]
        else []) ++
        (match o.framework with
        | .vite => [{ path := "vite.config.ts", content := Template.viteConfig, action := .create }]
        | .next => [{ path := "next.config.js", content := Template.nextConfig, action := .create }]
        | .react => []) ++
        [{ path := "src/lib/utils.ts", content := Template.utilsModule, action := .create }] ∧
      outcome.instructions =
        (if o.tailwind then
          ["npm install @tailwindcss/vite@4.0.0-beta.7 tailwindcss@4.0.0-beta.7"]
        else []) ++
        ["1. Install the dependencies", "2. Import globals.css as the main stylesheet",
         "3. Configure the Tailwind CSS v4 Vite plugin",
         "4. Enable dark mode by toggling the .dark class"] ∧
      outcome.dependencies =
        (if o.tailwind then ["@tailwindcss/vite@4.0.0-beta.7", "tailwindcss@4.0.0-beta.7"]
        else []) ++
        (match o.framework with
        | .vite => ["@vitejs/plugin-react", "vite"]
        | .next => ["next", "react", "react-dom"]
        | .react => []) ++
        ["clsx", "tailwind-merge", "class-variance-authority"] := by
  intro outcome
  obtain ⟨plan, hplan⟩ := theme_success.mp h
  have houtcome : outcome = plan := by simp only [outcome, theme, hplan]
  rw [houtcome]
  simp only [tryTheme, bind_eq_ok] at hplan
  obtain ⟨-, -, tokens, htokens, hplan⟩ := hplan
  obtain ⟨ht, rfl⟩ | ⟨ht, css, hcss, rfl⟩ := cases_of_themeTokens htokens
  · cases Except.ok.inj hplan
    rw [ht]
    exact ⟨rfl, by cases o.framework <;> rfl, rfl, by cases o.framework <;> rfl⟩
  · cases Except.ok.inj hplan
    have hinstall : words tailwindPackages =
        "@tailwindcss/vite@4.0.0-beta.7 tailwindcss@4.0.0-beta.7" := by
      decide
    rw [ht, themed, hcss, hinstall]
    exact ⟨rfl, by cases o.framework <;> rfl, rfl, by cases o.framework <;> rfl⟩

theorem nodup_theme {o : Options} (h : (lib.theme files now o).success = true) :
    ((lib.theme files now o).files.map OutputFile.path).Nodup ∧
    (lib.theme files now o).dependencies.Nodup := by
  obtain ⟨-, hfiles, -, hdependencies⟩ := theme_exact h
  rw [hfiles, hdependencies, themed]
  constructor
  · cases files.text lib.stylesheetPath <;> cases o.tailwind <;> cases o.typescript <;>
      cases o.framework <;> simp
  · cases o.tailwind <;> cases o.framework <;> decide

open Files in
def halfReadable : Files :=
  holding [(.ofText "components", folder
    [(.ofText "card", folder [(.ofText "card.tsx", textFile "x")]),
     (.ofText "input", folder [(.ofText "input.tsx", .file ⟨#[0xFF]⟩ true)])])]

def threeComponents : Request := ⟨["card", "input", "gone"], ⟨"app", .vite, true, true, false⟩⟩

theorem generation_all_or_nothing_halfReadable :
    let lib : Library := ⟨"", "Demo"⟩
    let o := threeComponents.options
    let outcome := lib.integrate halfReadable threeComponents
    (o.HasTarget ∧ threeComponents.components ≠ [] ∧
      lib.FirstFailure halfReadable o threeComponents.components
        (.unreadable "components/input/input.tsx" .notText)) ∧
    (outcome.success = false ∧ outcome.IsBare ∧
      outcome.message = "Failed to integrate components: " ++
      "Failed to read file: components/input/input.tsx (stream did not contain valid UTF-8)") ∧
    (lib.theme halfReadable "" o).success = false ∧ (lib.theme halfReadable "" o).IsBare := by
  intro lib o outcome
  obtain ⟨htheme, hintegrate⟩ := generation_all_or_nothing lib halfReadable ""
  obtain ⟨-, hbare, hfails⟩ := hintegrate threeComponents
  have htarget : o.HasTarget := ⟨'a', by decide, by decide⟩
  have hcard : lib.Copyable halfReadable o "card" := by
    have hn : Path.IsSegment "card" := isComponentName_iff.mp (by decide)
    have ht : halfReadable.text (lib.mainPath "card") = .ok "x" := by decide +kernel
    exact ⟨info_of_text hn ht, code_of_text hn ht _⟩
  have hinput : lib.Uncopyable halfReadable o "input"
      (.unreadable "components/input/input.tsx" .notText) := by
    have hn : Path.IsSegment "input" := isComponentName_iff.mp (by decide)
    have hp : lib.mainPath "input" = "components/input/input.tsx" := by decide +kernel
    have ht : halfReadable.text (lib.mainPath "input") = .error .notText := by decide +kernel
    have hi := info_of_text_error hn ht
    rw [hp] at hi
    exact .inl hi
  have hfirst : lib.FirstFailure halfReadable o threeComponents.components
      (.unreadable "components/input/input.tsx" .notText) :=
    ⟨["card"], "input", ["gone"], rfl, by simpa using hcard, hinput⟩
  obtain ⟨hiff, hmessage⟩ := hfails htarget (by decide)
  have hfalse : outcome.success = false := hiff.mpr ⟨_, hfirst⟩
  have hnone : (lib.theme halfReadable "" o).success = false := by decide +kernel
  refine ⟨⟨htarget, by decide, hfirst⟩, ⟨hfalse, hbare hfalse, ?_⟩, hnone, (htheme o).2 hnone⟩
  rw [hmessage _ hfirst]
  decide

end Library

end StyleGuide
