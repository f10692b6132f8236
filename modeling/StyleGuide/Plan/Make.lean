import StyleGuide.Library
import StyleGuide.Plan.Basic
import StyleGuide.Plan.Template

namespace StyleGuide

namespace Plan

inductive Failure where
  | emptyTarget
  | noComponents
  | library (failure : Library.Failure)
  deriving DecidableEq

def Failure.message : Failure → String
  | emptyTarget => "targetPath must not be empty"
  | noComponents => "at least one component is required"
  | library failure => failure.detailed

def tailwindPackages : List String := ["@tailwindcss/vite@4.0.0-beta.7", "tailwindcss@4.0.0-beta.7"]

def utilityPackages : List String := ["clsx", "tailwind-merge", "class-variance-authority"]

def componentPackages : List String :=
  ["@radix-ui/react-slot", "class-variance-authority", "clsx", "tailwind-merge"]

def storybookPackages : List String := ["@storybook/react", "storybook"]

def frameworkPackages : Framework → List String
  | .vite => ["@vitejs/plugin-react", "vite"]
  | .next => ["next", "react", "react-dom"]
  | .react => []

def frameworkFiles : Framework → List OutputFile
  | .vite => [.create "vite.config.ts" Template.viteConfig]
  | .next => [.create "next.config.js" Template.nextConfig]
  | .react => []

def words (packages : List String) : String := " ".intercalate packages

def themeSteps : List String :=
  ["1. Install the dependencies", "2. Import globals.css as the main stylesheet",
   "3. Configure the Tailwind CSS v4 Vite plugin",
   "4. Enable dark mode by toggling the .dark class"]

def componentSteps (packages : List String) (storybook : Bool) : List String :=
  ["1. Install dependencies: npm install " ++ words packages,
   "2. Import globals.css to apply Tailwind CSS v4",
   "3. Use components via: import \x7b ComponentName \x7d from \"./components\"",
   "4. Control dark mode with the .dark class"] ++
    if storybook then ["5. Initialise Storybook with: npx storybook init"] else []

/-- Adds what is not there yet, in order. -/
def addNew (known new : List String) : List String :=
  new.foldl (fun known p => if known.contains p then known else known ++ [p]) known

def checkTarget (o : Options) : Except Failure Unit :=
  if Text.isAllBlank o.target.toList then .error .emptyTarget else .ok ()

def siblings (o : Options) : Component.Siblings := ⟨o.storybook, false, true⟩

end Plan

namespace Library

open Plan

variable (lib : Library) (files : Files) (now : String)

def themeTokens (o : Options) : Except Plan.Failure (Option Collection) :=
  if o.tailwind then ((lib.tokens files now none).mapError .library).map some else .ok none

def tryTheme (o : Options) : Except Plan.Failure Outcome := do
  checkTarget o
  let tokens ← lib.themeTokens files now o
  let (themeFiles, packages, steps) := match tokens with
    | some tokens =>
      ([OutputFile.create "src/styles/globals.css" (Template.globalCss tokens),
        OutputFile.create "tailwind.config.ts" (Template.tailwindConfig o.framework o.storybook)],
       tailwindPackages, ["npm install " ++ words tailwindPackages])
    | none => ([], [], [])
  let compilerFiles :=
    if o.typescript then [OutputFile.create "tsconfig.json" (Template.tsconfig o.framework).pretty]
    else []
  return {
    success := true
    message := "Theme setup generated for " ++ o.target
    files := themeFiles ++ compilerFiles ++ frameworkFiles o.framework ++
      [.create "src/lib/utils.ts" Template.utilsModule]
    instructions := steps ++ themeSteps
    dependencies := packages ++ frameworkPackages o.framework ++ utilityPackages }

def component (o : Options) (name : String) :
    Except Library.Failure (List OutputFile × List String) := do
  let info ← lib.info files name
  let code ← lib.code files name (siblings o)
  return (componentFiles name code o.storybook, info.dependencies)

/-- The outcome for a request all of whose components are there, each with what it adds. -/
def integrated (r : Request) (parts : List (List OutputFile × List String)) : Outcome :=
  let o := r.options
  let packages := addNew componentPackages
    (parts.flatMap Prod.snd ++ if o.storybook then storybookPackages else [])
  let count := String.ofList (Decimal.digits r.components.length)
  { success := true
    message := s!"Integrated {count} component(s) into {o.target}"
    files := parts.flatMap Prod.fst ++
      [.create "src/components/index.ts" (mainIndex lib.name r.components)]
    instructions := componentSteps packages o.storybook
    dependencies := packages }

/-- The files with some components for a project. One component that cannot be read leaves no plan.
-/
def tryComponents (r : Request) : Except Plan.Failure Outcome := do
  checkTarget r.options
  if r.components.isEmpty then throw .noComponents
  let parts ← (r.components.mapM (lib.component files r.options)).mapError Plan.Failure.library
  return lib.integrated r parts

def theme (o : Options) : Outcome :=
  match lib.tryTheme files now o with
  | .ok outcome => outcome
  | .error failure => .failure ("Failed to generate theme setup: " ++ failure.message)

def integrate (r : Request) : Outcome :=
  match lib.tryComponents files r with
  | .ok outcome => outcome
  | .error failure => .failure ("Failed to integrate components: " ++ failure.message)

end Library

end StyleGuide
