import StyleGuide.Plan.Basic
import StyleGuide.Text.Search
import StyleGuide.Token.Collection

namespace StyleGuide.Plan.Template

def text (lines : List String) : String := String.join (lines.map (· ++ "\n"))

theorem toList_text (lines : List String) :
    (text lines).toList = Text.ofLines (lines.map String.toList) := by
  simp [text, Text.ofLines, String.toList_join, List.flatMap_map]

def baseRules : List String :=
  ["* \x7b",
   "  border-color: hsl(var(--border));",
   "\x7d",
   "",
   "body \x7b",
   "  background-color: hsl(var(--background));",
   "  color: hsl(var(--foreground));",
   "\x7d"]

def globalCss (tokens : Collection) : String :=
  "@import \"tailwindcss\";\n\n" ++ tokens.css ++ "\n" ++ text baseRules

def contentGlobs (framework : Framework) (storybook : Bool) : List String :=
  ["'./src/**/*.\x7bts,tsx\x7d',"] ++
    (if storybook then ["'./stories/**/*.\x7bts,tsx\x7d',"] else []) ++
    (if framework = .next then
      ["'./app/**/*.\x7bts,tsx\x7d',", "'./pages/**/*.\x7bts,tsx\x7d',"] else [])

def flatColors : List String := ["border", "input", "ring", "background", "foreground"]

/-- Colours with a colour for text on them. -/
def pairedColors : List String :=
  ["primary", "secondary", "destructive", "muted", "accent", "popover", "card"]

def flatColor (name : String) : String := s!"        {name}: 'hsl(var(--{name}))',"

def pairedColor (name : String) : List String :=
  [s!"        {name}: \x7b", s!"          DEFAULT: 'hsl(var(--{name}))',",
   s!"          foreground: 'hsl(var(--{name}-foreground))',", "        \x7d,"]

def tailwindConfig (framework : Framework) (storybook : Bool) : String :=
  text <|
    ["import type \x7b Config \x7d from 'tailwindcss'",
     "",
     "const config: Config = \x7b",
     "  darkMode: ['class'],",
     "  content: ["] ++
    (contentGlobs framework storybook).map ("    " ++ ·) ++
    ["  ],",
     "  theme: \x7b",
     "    extend: \x7b",
     "      colors: \x7b"] ++
    flatColors.map flatColor ++ pairedColors.flatMap pairedColor ++
    ["      \x7d,",
     "      borderRadius: \x7b",
     "        lg: 'var(--radius)',",
     "        md: 'calc(var(--radius) - 2px)',",
     "        sm: 'calc(var(--radius) - 4px)',",
     "      \x7d,",
     "    \x7d,",
     "  \x7d,",
     "  plugins: [],",
     "\x7d",
     "",
     "export default config"]

def viteConfig : String := text
  ["import \x7b defineConfig \x7d from 'vite'",
   "import react from '@vitejs/plugin-react'",
   "import tailwindcss from '@tailwindcss/vite'",
   "import \x7b resolve \x7d from 'path'",
   "",
   "export default defineConfig(\x7b",
   "  plugins: [",
   "    react(),",
   "    tailwindcss(),",
   "  ],",
   "  resolve: \x7b",
   "    alias: \x7b",
   "      '@': resolve(__dirname, './src'),",
   "    \x7d,",
   "  \x7d,",
   "\x7d)"]

def nextConfig : String := text
  ["/** @type \x7bimport('next').NextConfig\x7d */",
   "const nextConfig = \x7b",
   "  experimental: \x7b",
   "    optimizePackageImports: ['@radix-ui/react-slot'],",
   "  \x7d,",
   "\x7d",
   "",
   "module.exports = nextConfig"]

def tsconfig (framework : Framework) : Json :=
  .object
    [("compilerOptions", .object
      [("target", .string "ES2020"), ("useDefineForClassFields", .bool true),
       ("lib", .strings ["ES2020", "DOM", "DOM.Iterable"]), ("module", .string "ESNext"),
       ("skipLibCheck", .bool true), ("moduleResolution", .string "bundler"),
       ("allowImportingTsExtensions", .bool true), ("resolveJsonModule", .bool true),
       ("isolatedModules", .bool true), ("noEmit", .bool true), ("jsx", .string "react-jsx"),
       ("strict", .bool true), ("noUnusedLocals", .bool true), ("noUnusedParameters", .bool true),
       ("noFallthroughCasesInSwitch", .bool true), ("baseUrl", .string "."),
       ("paths", .object [("@/*", .strings ["./src/*"])])]),
     ("include", .strings <|
       "src" :: if framework = .next then ["next-env.d.ts", "**/*.ts", "**/*.tsx"] else []),
     ("references", .array [])]

def utilsModule : String := text
  ["import \x7b type ClassValue, clsx \x7d from 'clsx'",
   "import \x7b twMerge \x7d from 'tailwind-merge'",
   "",
   "export function cn(...inputs: ClassValue[]) \x7b",
   "  return twMerge(clsx(inputs))",
   "\x7d"]

end StyleGuide.Plan.Template
