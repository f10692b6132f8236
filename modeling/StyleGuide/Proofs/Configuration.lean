import Mathlib.Tactic.MkIffOfInductiveProp
import StyleGuide.Config
import StyleGuide.Proofs.Descent
import StyleGuide.Proofs.RecordEvents

namespace StyleGuide

namespace Level

theorem ofName?_eq_some {s : String} {l : Level} :
    ofName? s = some l ↔ String.ofList (Text.lower s.toList) = l.name := by
  rw [ofName?]
  constructor
  · intro h
    split at h <;> cases h <;> assumption
  · intro h
    rw [h]
    cases l <;> rfl

end Level

namespace Config

open Json EventReader

def Logging (j : Json) (level : String) : Prop :=
  ∃ ms, Gives logging.names j ms ∧ Given ms "level" IsText "warn" level

/-- What the settings of a config make of another one. Schema and comment change nothing, but must
be texts. -/
@[mk_iff]
structure Settings (ms : List (String × Json)) (start c : Config) : Prop where
  schema : ∃ text, Given ms "$schema" IsTextOrNull none text
  comment : ∃ text, Given ms "_comment" IsTextOrNull none text
  path : Given ms "design_system_path" IsTextOrNull start.path c.path
  library : Given ms "library_name" IsText start.library c.library
  level : Given ms "logging" Logging start.level c.level

/-- A text in the form of a config file: JSON that gives settings that there are, each in its form.
-/
def Describes (text : String) (c : Config) : Prop :=
  ∃ j ms, Writes text.toList j ∧ Gives shape.names j ms ∧ Settings ms default c

section Reading

theorem fills_level {ms : List (String × Json)}
    (hknown : ∀ name ∈ ms.map Prod.fst, name ∈ logging.names) (honce : (ms.map Prod.fst).Nodup)
    {start level : String} :
    Fills (fun _ _ => IsText) ms start level ↔ Given ms "level" IsText start level := by
  induction ms generalizing start with
  | nil =>
    rw [fills_nil]
    exact eq_comm
  | cons m ms ih =>
    obtain ⟨name, x⟩ := m
    obtain ⟨hname, hrestKnown⟩ := List.forall_mem_cons.mp hknown
    obtain ⟨hnew, hrestOnce⟩ := List.nodup_cons.mp honce
    obtain rfl : name = "level" := List.mem_singleton.mp hname
    simp only [fills_cons, ih hrestKnown hrestOnce, given_of_notMem hnew, given_cons_self,
      exists_eq_right']

theorem reads_logging : Reads (record logging default.level) Logging where
  run_eq_ok j level back fault rest := by
    rw [(reads_record (fun _ _ => reads_string "a string") default.level).run_eq_ok]
    refine and_congr_left fun _ => exists_congr fun ms => and_congr_right fun hgives => ?_
    exact fills_level hgives.known (hgives.once (by decide))
  keepsFault := (reads_record (fun _ _ => reads_string "a string") default.level).keepsFault

def Takes (name : String) (c : Config) (x : Json) (c' : Config) : Prop :=
  if name = "design_system_path" then ∃ o, IsTextOrNull x o ∧ { c with path := o } = c'
  else if name = "library_name" then ∃ s, IsText x s ∧ { c with library := s } = c'
  else if name = "logging" then ∃ l, Logging x l ∧ { c with level := l } = c'
  else ∃ o, IsTextOrNull x o ∧ c = c'

theorem reads_assign (name : String) (c : Config) : Reads (shape.assign name c) (Takes name c) := by
  simp only [shape]
  unfold Takes
  split
  · exact (reads_optionalString "path string").map fun o => { c with path := o }
  · split
    · exact (reads_string "a string").map fun s => { c with library := s }
    · split
      · exact reads_logging.map fun l => { c with level := l }
      · exact (reads_optionalString "a string").map fun _ => c

theorem fills_iff_settings {ms : List (String × Json)}
    (hknown : ∀ name ∈ ms.map Prod.fst, name ∈ shape.names) (honce : (ms.map Prod.fst).Nodup)
    {start c : Config} : Fills Takes ms start c ↔ Settings ms start c := by
  induction ms generalizing start with
  | nil =>
    rw [fills_nil]
    constructor
    · rintro rfl
      exact ⟨⟨none, rfl⟩, ⟨none, rfl⟩, rfl, rfl, rfl⟩
    · rintro ⟨-, -, hpath, hlibrary, hlevel⟩
      obtain ⟨path, library, level⟩ := c
      cases hpath
      cases hlibrary
      cases hlevel
      rfl
  | cons m ms ih =>
    obtain ⟨name, x⟩ := m
    obtain ⟨hname, hrestKnown⟩ := List.forall_mem_cons.mp hknown
    obtain ⟨hnew, hrestOnce⟩ := List.nodup_cons.mp honce
    have hnames : name = "$schema" ∨ name = "_comment" ∨ name = "design_system_path" ∨
        name = "library_name" ∨ name = "logging" := by
      simpa [shape] using hname
    simp only [fills_cons, ih hrestKnown hrestOnce]
    obtain rfl | rfl | rfl | rfl | rfl := hnames
    all_goals
      simp (disch := decide) [settings_iff, Takes, given_cons_self, given_cons_of_ne,
        given_of_notMem hnew, and_assoc, and_left_comm, and_comm]

theorem read_eq_ok {text : String} {c : Config} : read text = .ok c ↔ Describes text c := by
  rw [read, (reads_record reads_assign default).ofChars_eq_ok]
  constructor
  · rintro ⟨j, hj, ms, hgives, hfills⟩
    exact ⟨j, ms, hj, hgives, (fills_iff_settings hgives.known (hgives.once (by decide))).mp hfills⟩
  · rintro ⟨j, ms, hj, hgives, hsettings⟩
    exact ⟨j, hj, ms, hgives,
      (fills_iff_settings hgives.known (hgives.once (by decide))).mpr hsettings⟩

end Reading

/-- A small letter of ASCII and then only small letters, digits and hyphens. -/
def IsName (name : String) : Prop :=
  ∃ first rest, name.toList = first :: rest ∧ ('a' ≤ first ∧ first ≤ 'z') ∧
    ∀ c ∈ rest, ('a' ≤ c ∧ c ≤ 'z') ∨ ('0' ≤ c ∧ c ≤ '9') ∨ c = '-'

theorem isDigit_iff {c : Char} : Decimal.isDigit c = true ↔ '0' ≤ c ∧ c ≤ '9' := by
  rw [Decimal.isDigit, Bool.and_eq_true, decide_eq_true_eq, decide_eq_true_eq]
  exact Iff.rfl

theorem isLower_iff {c : Char} : isLower c = true ↔ 'a' ≤ c ∧ c ≤ 'z' := by
  rw [isLower, Bool.and_eq_true, decide_eq_true_eq, decide_eq_true_eq]

theorem isLibraryName_iff {name : String} : isLibraryName name = true ↔ IsName name := by
  rw [isLibraryName, IsName]
  obtain _ | ⟨first, rest⟩ := name.toList
  · exact iff_of_false nofun nofun
  · simp only [List.head?_cons, Option.any_some, List.all_cons, Bool.and_eq_true, Bool.or_eq_true,
      List.all_eq_true, isLower_iff, isDigit_iff, beq_iff_eq, or_assoc]
    constructor
    · rintro ⟨hfirst, -, hrest⟩
      exact ⟨first, rest, rfl, hfirst, hrest⟩
    · rintro ⟨_, _, ⟨⟩, hfirst, hrest⟩
      exact ⟨hfirst, .inl hfirst, hrest⟩

theorem mem_levelNames {name : String} : name ∈ levelNames ↔ ∃ l : Level, name = l.name := by
  constructor
  · intro h
    simp only [levelNames, List.mem_cons, List.not_mem_nil, or_false] at h
    obtain rfl | rfl | rfl | rfl | rfl := h
    exacts [⟨.trace, rfl⟩, ⟨.debug, rfl⟩, ⟨.info, rfl⟩, ⟨.warn, rfl⟩, ⟨.error, rfl⟩]
  · rintro ⟨l, rfl⟩
    cases l <;> decide

theorem isLevelName_iff {name : String} :
    isLevelName name = true ↔ ∃ l, Level.ofName? name = some l := by
  simp only [isLevelName, Level.ofName?_eq_some, List.contains_iff_mem, mem_levelNames]

/-- What is wrong with a config. Of two such things the name is the one that counts. -/
inductive Faulty (c : Config) : Invalid → Prop
  | library (h : ¬ IsName c.library) : Faulty c (.libraryName c.library)
  | level (hlibrary : IsName c.library)
      (h : ∀ l : Level, l.name.toList ≠ Text.lower c.level.toList) :
    Faulty c (.level c.level)

structure Usable (c : Config) : Prop where
  library : IsName c.library
  level : ∃ l : Level, l.name.toList = Text.lower c.level.toList

theorem level_iff {c : Config} :
    isLevelName c.level = true ↔ ∃ l : Level, l.name.toList = Text.lower c.level.toList := by
  rw [isLevelName_iff]
  refine exists_congr fun l => ?_
  rw [Level.ofName?_eq_some, ← String.toList_inj, String.toList_ofList, eq_comm]

theorem validate_cases (c : Config) :
    Usable c ∧ c.validate = .ok () ∨ ∃ reason, Faulty c reason ∧ c.validate = .error reason := by
  rw [validate]
  by_cases hlibrary : isLibraryName c.library = true
  · have hname := isLibraryName_iff.mp hlibrary
    by_cases hlevel : isLevelName c.level = true
    · exact .inl ⟨⟨hname, level_iff.mp hlevel⟩, by simp [hlibrary, hlevel]⟩
    · exact .inr
        ⟨_, .level hname (not_exists.mp (level_iff.not.mp hlevel)), by simp [hlibrary, hlevel]⟩
  · exact .inr ⟨_, .library (isLibraryName_iff.not.mp hlibrary), by simp [hlibrary]⟩

theorem Faulty.not_usable {c : Config} {reason : Invalid} (h : Faulty c reason) : ¬ Usable c := by
  intro hc
  cases h with
  | library h => exact h hc.library
  | level _ h =>
    obtain ⟨l, hl⟩ := hc.level
    exact h l hl

theorem Faulty.unique {c : Config} {reason reason' : Invalid} (h : Faulty c reason)
    (h' : Faulty c reason') : reason = reason' := by
  cases h with
  | library h =>
    cases h' with
    | library => rfl
    | level hlibrary => exact absurd hlibrary h
  | level hlibrary =>
    cases h' with
    | library h => exact absurd hlibrary h
    | level => rfl

theorem validate_eq_ok {c : Config} {u : Unit} : c.validate = .ok u ↔ Usable c := by
  obtain ⟨hc, hv⟩ | ⟨reason, hf, hv⟩ := validate_cases c
  · exact iff_of_true hv hc
  · rw [hv]
    exact iff_of_false nofun hf.not_usable

theorem validate_eq_error {c : Config} {reason : Invalid} :
    c.validate = .error reason ↔ Faulty c reason := by
  obtain ⟨hc, hv⟩ | ⟨actual, hf, hv⟩ := validate_cases c
  · rw [hv]
    exact iff_of_false nofun fun h => h.not_usable hc
  · rw [hv, Except.error.injEq]
    constructor
    · rintro rfl
      exact hf
    · exact hf.unique

/-- The place of the file that is to be read. A file that is asked for need not be there. -/
inductive Place (files : Files) : Option String → Option String → String → Prop
  | asked (home : Option String) (place : String) : Place files home (some place) place
  | usual {home : String} {node : Files.Node} (h : files.Visible (defaultPath home) node) :
    Place files (some home) none (defaultPath home)

/-- What comes of a file that is to be read: each failure just in its case, and a config just in the
case that is left. A file that cannot be seen counts as one that is not there. -/
structure Outcome (files : Files) (path : Option String) (place : String)
    (r : Except Failure Config) : Prop where
  notFound : ∀ p, r = .error (.notFound p) ↔
    p = place ∧ path = some place ∧ ∀ node, ¬ files.Visible place node
  unreadable : ∀ p, (∃ cause, r = .error (.unreadable p cause)) ↔
    p = place ∧ (∃ node, files.Visible place node) ∧ ∀ text, ¬ files.Holds place text
  unparsable : ∀ p, (∃ e, r = .error (.unparsable p e)) ↔
    p = place ∧ ∃ text, files.Holds place text ∧ ∀ c, ¬ Describes text c
  invalid : ∀ reason, r = .error (.invalid reason) ↔
    ∃ text c, files.Holds place text ∧ Describes text c ∧ Faulty c reason
  ok : ∀ c, r = .ok c ↔ ∃ text, files.Holds place text ∧ Describes text c ∧ Usable c

section Load

variable {files : Files} {place : String}

theorem loadFrom_eq_ok {c : Config} : loadFrom files place = .ok c ↔
    ∃ text, files.Holds place text ∧ Describes text c ∧ Usable c := by
  simp only [loadFrom, bind_eq_ok, mapError_eq_ok, Files.text_eq_ok, read_eq_ok, validate_eq_ok,
    pure, Except.pure, Except.ok.injEq, exists_const, exists_eq_right_right]

theorem loadFrom_eq_error {f : Failure} : loadFrom files place = .error f ↔
    (∃ cause, files.text place = .error cause ∧ .unreadable place cause = f) ∨
      ∃ text, files.Holds place text ∧
        ((∃ e, read text = .error e ∧ .unparsable place e = f) ∨
          ∃ c, Describes text c ∧ ∃ reason, Faulty c reason ∧ .invalid reason = f) := by
  simp only [loadFrom, bind_eq_error, mapError_eq_ok, mapError_eq_error, Files.text_eq_ok,
    read_eq_ok, validate_eq_error, pure, Except.pure, reduceCtorEq, and_false, exists_false,
    or_false]

theorem outcome_loadFrom {path : Option String} {node : Files.Node} (h : files.Visible place node) :
    Outcome files path place (loadFrom files place) where
  notFound p := by
    refine iff_of_false ?_ fun hmissing => hmissing.2.2 node h
    simp [loadFrom_eq_error]
  unreadable p := by
    have hcause :
        (∃ cause, files.text place = .error cause) ↔ ∀ text, ¬ files.Holds place text := by
      simp only [exists_eq_error, ne_eq, Files.text_eq_ok]
    constructor
    · rintro ⟨cause, hload⟩
      obtain ⟨_, htext, ⟨⟩⟩ | ⟨_, _, ⟨_, _, ⟨⟩⟩ | ⟨_, _, _, _, ⟨⟩⟩⟩ := loadFrom_eq_error.mp hload
      exact ⟨rfl, ⟨node, h⟩, hcause.mp ⟨cause, htext⟩⟩
    · rintro ⟨rfl, -, hnone⟩
      obtain ⟨cause, htext⟩ := hcause.mpr hnone
      exact ⟨cause, loadFrom_eq_error.mpr (.inl ⟨cause, htext, rfl⟩)⟩
  unparsable p := by
    have herror (text : String) : (∃ e, read text = .error e) ↔ ∀ c, ¬ Describes text c := by
      simp only [exists_eq_error, ne_eq, read_eq_ok]
    constructor
    · rintro ⟨e, hload⟩
      obtain ⟨_, _, ⟨⟩⟩ | ⟨text, hholds, ⟨_, hread, ⟨⟩⟩ | ⟨_, _, _, _, ⟨⟩⟩⟩ :=
        loadFrom_eq_error.mp hload
      exact ⟨rfl, text, hholds, (herror text).mp ⟨e, hread⟩⟩
    · rintro ⟨rfl, text, hholds, hnone⟩
      obtain ⟨e, hread⟩ := (herror text).mpr hnone
      exact ⟨e, loadFrom_eq_error.mpr (.inr ⟨text, hholds, .inl ⟨e, hread, rfl⟩⟩)⟩
  invalid reason := by
    simp [loadFrom_eq_error]
  ok c := loadFrom_eq_ok

theorem outcome_missing (h : ∀ node, ¬ files.Visible place node) :
    Outcome files (some place) place (.error (.notFound place)) where
  notFound p := by
    rw [Except.error.injEq, Failure.notFound.injEq, and_iff_right rfl, and_iff_left h, eq_comm]
  unreadable p := by
    refine iff_of_false nofun ?_
    rintro ⟨-, ⟨node, hseen⟩, -⟩
    exact h node hseen
  unparsable p := by
    refine iff_of_false nofun ?_
    rintro ⟨-, text, hholds, -⟩
    exact h _ hholds
  invalid reason := by
    refine iff_of_false nofun ?_
    rintro ⟨text, c, hholds, -⟩
    exact h _ hholds
  ok c := by
    refine iff_of_false nofun ?_
    rintro ⟨text, hholds, -⟩
    exact h _ hholds

variable {home path : Option String}

theorem visible_or_not (files : Files) (place : String) :
    files.exists? place = true ∧ (∃ node, files.Visible place node) ∨
      files.exists? place = false ∧ ∀ node, ¬ files.Visible place node := by
  cases hthere : files.exists? place with
  | true => exact .inl ⟨rfl, Files.exists?_eq_true.mp hthere⟩
  | false =>
    refine .inr ⟨rfl, fun node hseen => ?_⟩
    rw [Files.exists?_eq_true.mpr ⟨node, hseen⟩] at hthere
    cases hthere

theorem outcome_load (h : Place files home path place) :
    Outcome files path place (load files home path) := by
  cases h with
  | asked =>
    obtain ⟨hthere, node, hseen⟩ | ⟨hthere, hnone⟩ := visible_or_not files place
    · simp only [load, hthere, if_true]
      exact outcome_loadFrom hseen
    · simp only [load, hthere, Bool.false_eq_true, if_false]
      exact outcome_missing hnone
  | usual hseen =>
    simp only [load, Option.map_some, Files.exists?_eq_true.mpr ⟨_, hseen⟩, if_true]
    exact outcome_loadFrom hseen

def Placeless (files : Files) (home : Option String) : Prop :=
  ∀ folder, home = some folder → ∀ node, ¬ files.Visible (defaultPath folder) node

theorem load_placeless (h : Placeless files home) : load files home none = .ok default := by
  cases home with
  | none => rfl
  | some folder =>
    obtain ⟨-, node, hseen⟩ | ⟨hthere, -⟩ := visible_or_not files (defaultPath folder)
    · exact absurd hseen (h folder rfl node)
    · simp [load, hthere]

theorem placeless_or_place (files : Files) (home path : Option String) :
    path = none ∧ Placeless files home ∨ ∃ place, Place files home path place := by
  cases path with
  | some place => exact .inr ⟨place, .asked home place⟩
  | none =>
    cases home with
    | none => exact .inl ⟨rfl, nofun⟩
    | some folder =>
      obtain ⟨-, node, hseen⟩ | ⟨-, hnone⟩ := visible_or_not files (defaultPath folder)
      · exact .inr ⟨_, .usual hseen⟩
      · refine .inl ⟨rfl, ?_⟩
        rintro _ ⟨⟩
        exact hnone

theorem usable_default : Usable default where
  library := ⟨'d', _, rfl, by decide, by decide⟩
  level := ⟨.warn, by decide⟩

theorem usable_of_load {c : Config} (h : load files home path = .ok c) : Usable c := by
  obtain ⟨rfl, hnone⟩ | ⟨place, hplace⟩ := placeless_or_place files home path
  · rw [load_placeless hnone] at h
    cases h
    exact usable_default
  · obtain ⟨text, -, -, hc⟩ := ((outcome_load hplace).ok c).mp h
    exact hc

end Load

/-- Without a file that can be seen the usual config applies; otherwise there is a file to be read,
which settles what comes of it. The name of any config can stand in an address, and its level is one
that the program knows. -/
theorem load_settled (files : Files) (home path : Option String) :
    ((path = none ∧ Placeless files home) ∧ load files home path = .ok default ∨
      ∃ place, Place files home path place ∧ Outcome files path place (load files home path)) ∧
    ∀ c, load files home path = .ok c → IsName c.library ∧
      ∃ l, Level.ofName? c.level = some l ∧ Level.choose 0 false c.level = l ∧
        l.name.toList = Text.lower c.level.toList := by
  refine ⟨?_, fun c hload => ?_⟩
  · obtain ⟨rfl, hnone⟩ | ⟨place, hplace⟩ := placeless_or_place files home path
    · exact .inl ⟨⟨rfl, hnone⟩, load_placeless hnone⟩
    · exact .inr ⟨place, hplace, outcome_load hplace⟩
  · have hc : Usable c := usable_of_load hload
    obtain ⟨l, hl⟩ := hc.level
    have hname : Level.ofName? c.level = some l := by
      rw [Level.ofName?_eq_some, ← hl, String.ofList_toList]
    refine ⟨hc.library, l, hname, ?_, hl⟩
    rw [Level.choose, if_neg nofun, hname, Option.getD_some]

section Homes

open Files

def around (name : Name) (node : Node) (searchable : Bool) : Node :=
  .ofEntries [(name, node)] (by simp) true searchable

def furnished (text : String) (searchable : Bool) : Files :=
  let settings := around (.ofText "config.json") (textFile text) searchable
  ⟨around (.ofText "home") (around (.ofText ".design-system-mcp") settings true) true, []⟩

def placed (text : String) : Files := ⟨around (.ofText "c.json") (textFile text) true, []⟩

end Homes

theorem load_settled_furnished :
    let place := defaultPath "/home"
    let files := furnished "\x7b\"library_name\": \"acme-2\", \"logging\": [\"WARN\"]\x7d" true
    let misspelt := furnished "\x7b\"library\": \"acme-2\"\x7d" true
    (∃ text, files.Holds place text ∧ Describes text ⟨none, "acme-2", "WARN"⟩ ∧
      Usable ⟨none, "acme-2", "WARN"⟩) ∧
    (∃ l, Level.ofName? "WARN" = some l ∧ Level.choose 0 false "WARN" = l ∧
      l.name.toList = Text.lower "WARN".toList) ∧
    (∃ text, misspelt.Holds place text ∧ ∀ c, ¬ Describes text c) ∧
    load .empty (some "/home") none = .ok default ∧
    load .empty none (some place) = .error (.notFound place) := by
  intro place files misspelt
  have hload : load files (some "/home") none = .ok ⟨none, "acme-2", "WARN"⟩ := by
    have hvalue : (load files (some "/home") none).toOption = some ⟨none, "acme-2", "WARN"⟩ := by
      decide +kernel
    cases hresult : load files (some "/home") none with
    | ok c =>
      rw [hresult] at hvalue
      exact congrArg Except.ok (Option.some.inj hvalue)
    | error f =>
      rw [hresult] at hvalue
      cases hvalue
  have hfailed : ∃ e, load misspelt (some "/home") none = .error (.unparsable place e) := by
    have hkind : (match load misspelt (some "/home") none with
        | .error (.unparsable p _) => decide (p = place)
        | _ => false) = true := by
      decide +kernel
    split at hkind
    · next p e hresult => exact ⟨e, of_decide_eq_true hkind ▸ hresult⟩
    · cases hkind
  obtain ⟨node, hseen⟩ : ∃ node, files.Visible place node :=
    Files.exists?_eq_true.mp (by decide +kernel)
  obtain ⟨other, hother⟩ : ∃ node, misspelt.Visible place node :=
    Files.exists?_eq_true.mp (by decide +kernel)
  have hnowhere : ∀ node, ¬ Files.empty.Visible place node := by
    intro node hvisible
    have habsent : Files.empty.exists? place = false := by decide +kernel
    cases habsent.symm.trans (Files.exists?_eq_true.mpr ⟨node, hvisible⟩)
  obtain ⟨hwritten, hknown⟩ := load_settled files (some "/home") none
  obtain ⟨hmisspelt, -⟩ := load_settled misspelt (some "/home") none
  obtain ⟨habsent, -⟩ := load_settled .empty (some "/home") none
  obtain ⟨hmissing, -⟩ := load_settled .empty none (some place)
  refine ⟨?_, (hknown _ hload).2, ?_, ?_, ?_⟩
  · obtain ⟨⟨-, hnone⟩, -⟩ | ⟨_, ⟨⟩, houtcome⟩ := hwritten
    · exact absurd hseen (hnone _ rfl node)
    · exact (houtcome.ok _).mp hload
  · obtain ⟨⟨-, hnone⟩, -⟩ | ⟨_, ⟨⟩, houtcome⟩ := hmisspelt
    · exact absurd hother (hnone _ rfl other)
    · exact ((houtcome.unparsable place).mp hfailed).2
  · obtain ⟨-, hdefault⟩ | ⟨_, ⟨⟩, -⟩ := habsent
    · exact hdefault
    · next h => exact absurd h (hnowhere _)
  · obtain ⟨⟨⟨⟩, -⟩, -⟩ | ⟨_, ⟨⟩, houtcome⟩ := hmissing
    exact (houtcome.notFound place).mpr ⟨rfl, rfl, hnowhere⟩

/-- A path to a name here that takes steps on the spot first. -/
def delayed (name : String) : Nat → String
  | 0 => name
  | steps + 1 => "." ++ "/" ++ delayed name steps

theorem segments_delayed {name : String} (hname : '/' ∉ name.toList) (steps : Nat) :
    Path.segments (delayed name steps) = List.replicate steps "." ++ [name] := by
  induction steps with
  | zero => exact Path.segments_of_no_slash hname
  | succ steps ih =>
    rw [delayed, Path.segments_below, Path.segments_of_no_slash (by decide), ih]
    rfl

theorem utf8ByteSize_delayed (name : String) (steps : Nat) :
    (delayed name steps).utf8ByteSize = 2 * steps + name.utf8ByteSize := by
  induction steps with
  | zero => rw [delayed, Nat.mul_zero, Nat.zero_add]
  | succ steps ih =>
    have hstep : ("." ++ "/").utf8ByteSize = 2 := rfl
    rw [delayed, String.utf8ByteSize_append, ih, hstep]
    omega

theorem isAbsolute_delayed (steps : Nat) : Path.isAbsolute (delayed "c.json" steps) = false := by
  cases steps with
  | zero => rfl
  | succ steps => exact Path.isAbsolute_below (by decide) _

theorem leads_delayed {may : Files.Node → Prop} {passed : List Files.Node}
    {node target : Files.Node} {rest : List String} (hfolder : node.isFolder = true)
    (hmay : may node) (h : Files.Leads may passed node rest target) (steps : Nat) :
    Files.Leads may passed node (List.replicate steps "." ++ rest) target := by
  induction steps with
  | zero => exact h
  | succ steps ih => exact .here hfolder hmay ih

theorem entry_around {step : String} {h : (Files.Name.ofText? step).isSome} (node : Files.Node)
    (searchable : Bool) : (around (.ofText step h) node searchable).child? step = some node := by
  have hname : Files.Name.ofText? step = some (.ofText step h) := (Option.some_get h).symm
  rw [Files.Node.child?, around, Files.Node.entries_ofEntries, hname]
  exact List.lookup_cons_self

theorem present_furnished (text : String) (searchable : Bool) :
    (furnished text searchable).Present (defaultPath "/home") (Files.textFile text) := by
  refine ⟨by decide, [], _, rfl, ?_⟩
  have hsegments : Path.segments (defaultPath "/home") =
      ["", "home", ".design-system-mcp", "config.json"] := by
    decide
  rw [hsegments]
  refine .empty rfl (.down trivial (entry_around _ _) ?_)
  exact .down trivial (entry_around _ _) (.down trivial (entry_around _ _) (.arrived _ _))

theorem present_delayed (text : String) (steps : Nat) :
    (placed text).Present (delayed "c.json" steps) (Files.textFile text) := by
  refine ⟨fun hempty => ?_, [], (placed text).root, ?_, ?_⟩
  · have hsize : (delayed "c.json" steps).utf8ByteSize = 2 * steps + 6 := utf8ByteSize_delayed _ _
    have hnone : "".utf8ByteSize = 0 := rfl
    rw [hempty] at hsize
    omega
  · rw [Files.start, isAbsolute_delayed]
    rfl
  · rw [segments_delayed (by decide)]
    exact leads_delayed rfl trivial (.down trivial (entry_around _ _) (.arrived _ _)) steps

/-- A file that is there is passed over if the folder that it is in may not be searched, and is not
found by a path that is too long. -/
theorem present_not_read :
    let written := "\x7b\"library_name\": \"acme-2\"\x7d"
    let longPath := delayed "c.json" 2048
    ((furnished written false).Present (defaultPath "/home") (Files.textFile written) ∧
      load (furnished written false) (some "/home") none = .ok default) ∧
    (placed written).Present longPath (Files.textFile written) ∧
      load (placed written) none (some longPath) = .error (.notFound longPath) := by
  intro written longPath
  refine ⟨⟨present_furnished _ _, ?_⟩, present_delayed _ _, ?_⟩
  · have hhidden : (furnished written false).exists? (defaultPath "/home") = false := by
      decide +kernel
    simp [load, hhidden]
  · obtain ⟨-, node, hseen⟩ | ⟨hthere, -⟩ := visible_or_not (placed written) longPath
    · have hlong : longPath.utf8ByteSize = 4102 := utf8ByteSize_delayed _ _
      have hsize := hseen.2
      rw [hlong] at hsize
      exact absurd hsize (by decide)
    · simp [load, hthere]

end Config

end StyleGuide
