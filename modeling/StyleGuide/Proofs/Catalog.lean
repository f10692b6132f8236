import Mathlib.Logic.Relation
import Mathlib.Data.List.Infix
import Mathlib.Data.List.Nodup
import StyleGuide.Library
import StyleGuide.Proofs.ByteOrder
import StyleGuide.Proofs.Descent

namespace StyleGuide.Library

open Component

variable {lib : Library} {files : Files}

theorem infos_cons (lib : Library) (files : Files) (name : String) (names : List String) :
    lib.infos files (name :: names) = (lib.info files name).toOption.toList ++
      lib.infos files names := by
  rw [infos, List.filterMap_cons]
  cases lib.info files name <;> rfl

structure Task where
  name : String
  result : Option (Except Failure Info)

/-- Components that are read at once: what has been gathered, and the tasks that are still waited
for, in the order of their names. -/
structure Gathering where
  infos : List Info
  tasks : List Task

def Gathering.start (names : List String) : Gathering := ⟨[], names.map (⟨·, none⟩)⟩

/-- Any task may end at any time. Results are taken in the order of the tasks, and failures are
dropped. -/
inductive Gathers (lib : Library) (files : Files) : Gathering → Gathering → Prop where
  | ends (infos : List Info) (before : List Task) (name : String) (after : List Task) :
    Gathers lib files ⟨infos, before ++ ⟨name, none⟩ :: after⟩
      ⟨infos, before ++ ⟨name, some (lib.info files name)⟩ :: after⟩
  | takes (infos : List Info) (name : String) (result : Except Failure Info) (rest : List Task) :
    Gathers lib files ⟨infos, ⟨name, some result⟩ :: rest⟩ ⟨infos ++ result.toOption.toList, rest⟩

/-- What is found in the end if components are read at once, in whatever order their tasks end. -/
def Gathered (lib : Library) (files : Files) (names : List String) (found : List Info) : Prop :=
  Relation.ReflTransGen (Gathers lib files) (.start names) ⟨found, []⟩

/-- A result that is there is the component's own, and what is gathered and what is still to come
are together what the names give. -/
structure Gathering.Sound (lib : Library) (files : Files) (names : List String) (g : Gathering) :
    Prop where
  result : ∀ t ∈ g.tasks, ∀ r, t.result = some r → r = lib.info files t.name
  infos : g.infos ++ lib.infos files (g.tasks.map Task.name) = lib.infos files names

theorem sound_start (names : List String) : (Gathering.start names).Sound lib files names := by
  constructor
  · intro t ht r hr
    obtain ⟨name, -, rfl⟩ := List.mem_map.mp ht
    cases hr
  · simp [Gathering.start, Function.comp_def]

theorem sound_gathers {names : List String} {g g' : Gathering} (h : Gathers lib files g g')
    (hs : g.Sound lib files names) : g'.Sound lib files names := by
  obtain ⟨hresult, hinfos⟩ := hs
  cases h with
  | ends infos before name after =>
    constructor
    · intro t ht r hr
      obtain ht | ht := List.mem_append.mp ht
      · exact hresult t (List.mem_append_left _ ht) r hr
      · obtain rfl | ht := List.mem_cons.mp ht
        · exact (Option.some.inj hr).symm
        · exact hresult t (List.mem_append_right _ (List.mem_cons_of_mem _ ht)) r hr
    · simpa using hinfos
  | takes infos name result rest =>
    have hr : result = lib.info files name := hresult _ List.mem_cons_self _ rfl
    constructor
    · exact fun t ht => hresult t (List.mem_cons_of_mem _ ht)
    · rw [List.map_cons, infos_cons, ← hr] at hinfos
      rw [List.append_assoc]
      exact hinfos

theorem sound_of_run {names : List String} {g : Gathering}
    (h : Relation.ReflTransGen (Gathers lib files) (.start names) g) : g.Sound lib files names := by
  induction h with
  | refl => exact sound_start names
  | tail _ hstep ih => exact sound_gathers hstep ih

theorem exists_end (lib : Library) (files : Files) (g : Gathering) :
    ∃ found, Relation.ReflTransGen (Gathers lib files) g ⟨found, []⟩ := by
  obtain ⟨infos, tasks⟩ := g
  induction tasks generalizing infos with
  | nil => exact ⟨infos, .refl⟩
  | cons t rest ih =>
    obtain ⟨name, result⟩ := t
    cases result with
    | some r =>
      obtain ⟨found, hrun⟩ := ih (infos ++ r.toOption.toList)
      exact ⟨found, .head (.takes infos name r rest) hrun⟩
    | none =>
      obtain ⟨found, hrun⟩ := ih (infos ++ (lib.info files name).toOption.toList)
      refine ⟨found, .head (.ends infos [] name rest) (.head ?_ hrun)⟩
      exact .takes infos name (lib.info files name) rest

theorem gathered_iff {names : List String} {found : List Info} :
    lib.Gathered files names found ↔ found = lib.infos files names := by
  -- What is sound tells what an end has gathered; that there is an end gives the converse.
  have hsound : ∀ found, lib.Gathered files names found → found = lib.infos files names := by
    intro found h
    have hinfos := (sound_of_run h).infos
    rwa [List.map_nil, infos, List.filterMap_nil, List.append_nil] at hinfos
  refine ⟨hsound found, ?_⟩
  rintro rfl
  obtain ⟨found, h⟩ := exists_end lib files (.start names)
  exact hsound found h ▸ h

end StyleGuide.Library

namespace StyleGuide

theorem Text.occursIn_iff {part whole : List Char} :
    occursIn part whole = true ↔ part <:+: whole := by
  have hafter : ∀ cs, (after? part cs).isSome = true ↔ part <+: cs := by
    intro cs
    simp [Option.isSome_iff_exists, after?_eq_some_iff, List.IsPrefix]
  induction whole with
  | nil => rw [occursIn, firstMatch, hafter, List.prefix_nil, List.infix_nil]
  | cons c r ih =>
    have hcons : occursIn part (c :: r) = true ↔
        (after? part (c :: r)).isSome = true ∨ occursIn part r = true := by
      rw [occursIn, occursIn, firstMatch]
      cases after? part (c :: r) <;> simp
    exact hcons.trans ((or_congr (hafter _) ih).trans List.infix_cons_iff.symm)

theorem eq_of_ascending {xs ys : List String} (hx : xs.Pairwise (· < ·)) (hy : ys.Pairwise (· < ·))
    (h : ∀ k, k ∈ xs ↔ k ∈ ys) : xs = ys := by
  refine List.Perm.eq_of_pairwise (fun a b _ _ hab hba => ?_) hx hy ?_
  · exact absurd hba (String.lt_asymm hab)
  · exact (List.perm_ext_iff_of_nodup (hx.imp String.ne_of_lt) (hy.imp String.ne_of_lt)).mpr h

theorem eq_of_sorted {xs ys : List String} (hx : xs.Pairwise (· ≤ ·)) (hy : ys.Pairwise (· ≤ ·))
    (h : xs.Perm ys) : xs = ys :=
  h.eq_of_pairwise (fun _ _ _ _ hab hba => String.le_antisymm hab hba) hx hy

section Lookup

variable {κ α : Type} [DecidableEq κ] {es es' : List (κ × α)}

theorem lookup_eq_some_iff_mem (h : (es.map Prod.fst).Nodup) {key : κ} {a : α} :
    es.lookup key = some a ↔ (key, a) ∈ es := by
  refine ⟨mem_of_lookup, fun hmem => ?_⟩
  induction es with
  | nil => cases hmem
  | cons e es ih =>
    obtain ⟨hfirst, hrest⟩ := List.nodup_cons.mp h
    obtain rfl | hmem := List.mem_cons.mp hmem
    · exact List.lookup_cons_self
    · have hne : key ≠ e.1 := fun he => hfirst (he ▸ List.mem_map_of_mem hmem)
      rw [List.lookup_cons, beq_false_of_ne hne]
      exact ih hrest hmem

theorem perm_filter_of_lookup (h : (es.map Prod.fst).Nodup) (h' : (es'.map Prod.fst).Nodup)
    {changed : List κ} (hl : ∀ key, key ∉ changed → es'.lookup key = es.lookup key) :
    (es'.filter (·.1 ∉ changed)).Perm (es.filter (·.1 ∉ changed)) := by
  refine (List.perm_ext_iff_of_nodup (h'.of_map.filter _) (h.of_map.filter _)).mpr fun e => ?_
  simp only [List.mem_filter, decide_eq_true_eq]
  refine and_congr_left fun hc => ?_
  rw [← lookup_eq_some_iff_mem h', ← lookup_eq_some_iff_mem h, hl e.1 hc]

end Lookup

namespace Files

variable {files : Files} {path : String}

def Name.IsText (name : Name) : Prop := ofText? name.shown = some name

def isSearchable (files : Files) (path : String) : Bool :=
  (files.find path).toOption.any Node.searchable

theorem find_of_entriesAt {es : List (Name × Node)} (h : files.entriesAt path = .ok es) :
    ∃ folder, files.find path = .ok folder ∧ folder.isFolder = true ∧ folder.entries = es := by
  rw [entriesAt] at h
  generalize files.find path = found at h
  obtain _ | (_ | ⟨names, distinct, nodes, _ | _, searchable⟩) := found
  case ok.folder.true => exact ⟨_, rfl, rfl, Except.ok.inj h⟩
  all_goals cases h

theorem nodup_entriesAt {es : List (Name × Node)} (h : files.entriesAt path = .ok es) :
    (es.map Prod.fst).Nodup := by
  obtain ⟨folder, -, -, rfl⟩ := find_of_entriesAt h
  exact folder.nodup_entries

def folderNames (es : List (Name × Node)) : List String :=
  (es.filter fun e => e.2.isFolder).map fun e => e.1.shown

theorem subfolders_of_entries {es : List (Name × Node)} (h : files.entriesAt path = .ok es) :
    files.subfolders path = .ok (sorted (folderNames es)) := by
  rw [subfolders, h]
  rfl

theorem nodup_folderNames {es : List (Name × Node)} (h : (es.map Prod.fst).Nodup)
    (htext : ∀ e ∈ es, e.2.isFolder = true → e.1.IsText) : (folderNames es).Nodup := by
  have hnames : ((es.filter fun e => e.2.isFolder).map Prod.fst).Nodup :=
    (List.filter_sublist.map _).nodup h
  have hshown : folderNames es =
      ((es.filter fun e => e.2.isFolder).map Prod.fst).map Name.shown := by
    rw [folderNames, List.map_map]
    rfl
  rw [hshown]
  refine hnames.map_on fun name hname other hother heq => ?_
  obtain ⟨e, he, rfl⟩ := List.mem_map.mp hname
  obtain ⟨e', he', rfl⟩ := List.mem_map.mp hother
  obtain ⟨hmem, hfolder⟩ := List.mem_filter.mp he
  obtain ⟨hmem', hfolder'⟩ := List.mem_filter.mp he'
  have ht : Name.ofText? e.1.shown = some e.1 := htext e hmem hfolder
  have ht' : Name.ofText? e'.1.shown = some e'.1 := htext e' hmem' hfolder'
  rw [heq, ht'] at ht
  exact (Option.some.inj ht).symm

/-- Of the folders whose names are shown unlike those of the changed entries none comes or goes. -/
theorem perm_folderNames {es es' : List (Name × Node)} {changed : List Name}
    (h : (es'.filter (·.1 ∉ changed)).Perm (es.filter (·.1 ∉ changed))) :
    ((folderNames es').filter (· ∉ changed.map Name.shown)).Perm
      ((folderNames es).filter (· ∉ changed.map Name.shown)) := by
  have hsplit : ∀ es : List (Name × Node), (folderNames es).filter (· ∉ changed.map Name.shown) =
      (folderNames (es.filter (·.1 ∉ changed))).filter (· ∉ changed.map Name.shown) := by
    intro es
    simp only [folderNames, List.filter_map, List.filter_filter]
    refine congrArg _ (List.filter_congr fun e _ => ?_)
    by_cases hc : e.1 ∈ changed
    · simp only [List.mem_map, hc, not_true, decide_false, Bool.and_false, Function.comp_apply]
      simpa using fun hshown => absurd rfl (hshown e.1 hc)
    · simp [hc]
  rw [hsplit es, hsplit es']
  exact ((h.filter _).map _).filter _

end Files

namespace Library

open StyleGuide.Path

variable {lib : Library} {files files' : Files}

/-- The name holds the query and is the category, all in small letters. -/
def Sought (query : String) (category : Option String) (name : String) : Prop :=
  Text.lower query.toList <:+: Text.lower name.toList ∧
    ∀ c, category = some c → Text.lower name.toList = Text.lower c.toList

theorem isSought_iff {query : String} {category : Option String} {name : String} :
    isSought query category name = true ↔ Sought query category name := by
  rw [isSought, Bool.and_eq_true, Text.occursIn_iff, Sought, and_comm]
  cases category <;> simp

instance (query : String) (category : Option String) (name : String) :
    Decidable (Sought query category name) := decidable_of_iff _ isSought_iff

theorem isSought_empty (name : String) : isSought "" none name = true := by
  rw [isSought_iff]
  refine ⟨List.nil_infix, ?_⟩
  rintro c ⟨⟩

theorem name_of_info {name : String} {info : Component.Info} (h : lib.info files name = .ok info) :
    info.name = name := by
  rw [Library.info] at h
  split at h
  · obtain ⟨source, -, h⟩ := bind_eq_ok.mp h
    rw [← Except.ok.inj h]
  · cases h

theorem infos_filter (lib : Library) (files : Files) (p : String → Bool) (names : List String) :
    lib.infos files (names.filter p) = (lib.infos files names).filter fun i => p i.name := by
  induction names with
  | nil => rfl
  | cons name names ih =>
    rw [infos_cons, List.filter_append, ← ih]
    cases hi : lib.info files name with
    | error f =>
      cases hp : p name <;> simp [hp, infos_cons, hi, Except.toOption]
    | ok info =>
      have hn := name_of_info hi
      cases hp : p name <;> simp [hp, hn, infos_cons, hi, Except.toOption]

theorem forall₂_infos (lib : Library) (files : Files) (names : List String) :
    List.Forall₂ (fun n i => lib.info files n = .ok i)
      (names.filter fun n => (lib.info files n).isOk) (lib.infos files names) := by
  induction names with
  | nil => exact .nil
  | cons name names ih =>
    rw [infos_cons]
    cases hi : lib.info files name with
    | error f =>
      simpa [hi, Except.isOk, Except.toBool, Except.toOption] using ih
    | ok info =>
      simpa [hi, Except.isOk, Except.toBool, Except.toOption] using ih

theorem exists_of_mem_ownPaths {name path : String} (hn : IsSegment name)
    (h : path ∈ lib.ownPaths name) :
    ∃ file, IsSegment file ∧ path = lib.componentsPath ++ "/" ++ name ++ "/" ++ file := by
  obtain ⟨file, hfile, rfl⟩ := List.mem_map.mp h
  refine ⟨file, ?_, rfl⟩
  simp only [List.mem_cons, List.not_mem_nil, or_false] at hfile
  obtain rfl | rfl | rfl | rfl := hfile
  · exact isSegment_source hn (by simp)
  · exact isSegment_source hn (by simp)
  · exact isSegment_source hn (by simp)
  · exact isSegment_index

theorem components_of_unlistable {cause : Files.Cause}
    (h : files.entriesAt lib.componentsPath = .error cause) :
    lib.components files = .error (.unlistable lib.componentsPath cause) := by
  rw [components, Files.subfolders, h]
  rfl

section Entries

variable {es es' : List (Files.Name × Files.Node)} {changed : List Files.Name}
  (h : files.entriesAt lib.componentsPath = .ok es)

include h

theorem components_of_entries : lib.components files = .ok (sorted (Files.folderNames es)) := by
  rw [components, Files.subfolders_of_entries h]
  rfl

variable (h' : files'.entriesAt lib.componentsPath = .ok es')
  (hsearch : files'.isSearchable lib.componentsPath = files.isSearchable lib.componentsPath)

include h' hsearch

/-- The description of a component depends on nothing that the folder of components holds but the
component's own entry. -/
theorem info_congr_entry {name : String}
    (hl : ∀ n, Files.Name.ofText? name = some n → es'.lookup n = es.lookup n) :
    lib.info files' name = lib.info files name := by
  obtain ⟨folder, hfind, hfolder, rfl⟩ := Files.find_of_entriesAt h
  obtain ⟨folder', hfind', hfolder', rfl⟩ := Files.find_of_entriesAt h'
  have hway : Files.SameWay folder' folder name := by
    refine ⟨hfolder'.trans hfolder.symm, ?_, Option.bind_congr hl⟩
    rw [Files.isSearchable, Files.isSearchable, hfind, hfind'] at hsearch
    simpa [Except.toOption] using hsearch
  by_cases hn : IsSegment name
  · refine info_congr hn fun path hpath => ?_
    obtain ⟨file, hf, rfl⟩ := exists_of_mem_ownPaths hn hpath
    rw [Files.seen, Files.seen, Files.find_two_congr hfind' hfind hn hf hway]
  · rw [(not_found_of_not_segment hn files' ⟨false, false, false⟩).1,
      (not_found_of_not_segment hn files ⟨false, false, false⟩).1]

variable (hl : ∀ n, n ∉ changed → es'.lookup n = es.lookup n)

include hl

omit hsearch in
theorem filter_names_congr :
    (sorted (Files.folderNames es')).filter (· ∉ changed.map Files.Name.shown) =
    (sorted (Files.folderNames es)).filter (· ∉ changed.map Files.Name.shown) := by
  have hrest := perm_filter_of_lookup (Files.nodup_entriesAt h) (Files.nodup_entriesAt h') hl
  refine eq_of_sorted ((pairwise_sorted _).filter _) ((pairwise_sorted _).filter _) ?_
  calc (sorted (Files.folderNames es')).filter (· ∉ changed.map Files.Name.shown)
    List.Perm _ ((Files.folderNames es').filter (· ∉ changed.map Files.Name.shown)) :=
      (perm_sorted _).filter _
    List.Perm _ ((Files.folderNames es).filter (· ∉ changed.map Files.Name.shown)) :=
      Files.perm_folderNames hrest
    List.Perm _ _ := ((perm_sorted _).filter _).symm

theorem filter_infos_congr :
    (lib.infos files' (sorted (Files.folderNames es'))).filter
      (·.name ∉ changed.map Files.Name.shown) =
      (lib.infos files (sorted (Files.folderNames es))).filter
        (·.name ∉ changed.map Files.Name.shown) := by
  have hinfo : ∀ n ∈ (sorted (Files.folderNames es)).filter (· ∉ changed.map Files.Name.shown),
      (lib.info files' n).toOption = (lib.info files n).toOption := by
    intro n hn
    obtain ⟨-, hc⟩ := List.mem_filter.mp hn
    rw [decide_eq_true_eq] at hc
    refine congrArg _ (info_congr_entry h h' hsearch fun m hm => hl m fun hmem => hc ?_)
    rw [← Files.Name.shown_of_ofText? hm]
    exact List.mem_map_of_mem hmem
  rw [← infos_filter lib files' (· ∉ changed.map Files.Name.shown),
    ← infos_filter lib files (· ∉ changed.map Files.Name.shown), filter_names_congr h h' hl]
  exact List.filterMap_congr hinfo

end Entries

section Views

variable {names : List String} (hn : lib.components files = .ok names)

include hn

theorem catalog_of_components : lib.catalog files = .ok (lib.infos files names) := by
  rw [catalog, hn]
  rfl

theorem search_of_components (query : String) (category : Option String) :
    lib.search files query category =
      .ok (lib.infos files (names.filter (isSought query category))) := by
  rw [search, hn]
  rfl

theorem search_eq_filter (query : String) (category : Option String) :
    lib.search files query category =
      .ok ((lib.infos files names).filter fun i => Sought query category i.name) := by
  rw [search_of_components hn, infos_filter]
  refine congrArg _ (List.filter_congr fun i _ => ?_)
  rw [Bool.eq_iff_iff, decide_eq_true_iff, isSought_iff]

theorem search_empty : lib.search files "" none = lib.catalog files := by
  have hall : ∀ n ∈ names, isSought "" none n = true := fun n _ => isSought_empty n
  rw [search_of_components hn, catalog_of_components hn, List.filter_eq_self.mpr hall]

end Views

/-- The catalog and the results of a search are views of what the components themselves tell: a
search is a part of the catalog, the catalog has what can be told of each folder of components, and
no order in which folders are enumerated or read makes a difference. Names that are names of texts
are listed once each. -/
theorem catalog_and_search_are_views (lib : Library) (files : Files) :
    (∀ cause, files.entriesAt lib.componentsPath = .error cause → ∀ query category,
      lib.components files = .error (.unlistable lib.componentsPath cause) ∧
      lib.catalog files = .error (.unlistable lib.componentsPath cause) ∧
      lib.search files query category = .error (.unlistable lib.componentsPath cause)) ∧
    ∀ es, files.entriesAt lib.componentsPath = .ok es → ∃ names infos,
      (lib.components files = .ok names ∧
        names.Perm ((es.filter fun e => e.2.isFolder).map fun e => e.1.shown) ∧
        names.Pairwise (fun a b => Text.bytes a ≤ Text.bytes b) ∧
        ((∀ e ∈ es, e.2.isFolder = true → e.1.IsText) →
          names.Pairwise (fun a b => Text.bytes a < Text.bytes b))) ∧
      (lib.catalog files = .ok infos ∧
        List.Forall₂ (fun n i => lib.info files n = .ok i)
          (names.filter fun n => (lib.info files n).isOk) infos ∧
        ∀ found, lib.Gathered files names found ↔ found = infos) ∧
      (∀ query category,
        lib.search files query category = .ok (infos.filter fun i => Sought query category i.name) ∧
        ∀ found, lib.Gathered files (names.filter (isSought query category)) found ↔
          lib.search files query category = .ok found) ∧
      lib.search files "" none = lib.catalog files ∧
      ∀ (files' : Files) (es' : List (Files.Name × Files.Node)) (changed : List Files.Name),
        files'.entriesAt lib.componentsPath = .ok es' →
        files'.isSearchable lib.componentsPath = files.isSearchable lib.componentsPath →
        (∀ n, n ∉ changed → es'.lookup n = es.lookup n) →
        ∃ names' infos', lib.components files' = .ok names' ∧ lib.catalog files' = .ok infos' ∧
          names'.filter (· ∉ changed.map Files.Name.shown) =
            names.filter (· ∉ changed.map Files.Name.shown) ∧
          infos'.filter (·.name ∉ changed.map Files.Name.shown) =
            infos.filter (·.name ∉ changed.map Files.Name.shown) := by
  refine ⟨fun cause h query category => ?_, fun es h => ?_⟩
  · have hc := components_of_unlistable h
    refine ⟨hc, ?_, ?_⟩
    · rw [catalog, hc]
      rfl
    · rw [search, hc]
      rfl
  · have hn := components_of_entries h
    have horder := pairwise_sorted (Files.folderNames es)
    refine ⟨sorted (Files.folderNames es), lib.infos files (sorted (Files.folderNames es)), ?_, ?_,
      ?_, ?_, ?_⟩
    · refine ⟨hn, perm_sorted _, horder.imp Text.le_iff_bytes_le.mp, fun htext => ?_⟩
      have hnodup := Files.nodup_folderNames (Files.nodup_entriesAt h) htext
      refine (horder.and ((perm_sorted _).nodup_iff.mpr hnodup)).imp fun ⟨hle, hne⟩ => ?_
      exact Text.lt_iff_bytes_lt.mp (lt_of_le_of_ne hle hne)
    · exact ⟨catalog_of_components hn, forall₂_infos lib files _, fun found => gathered_iff⟩
    · refine fun query category => ⟨search_eq_filter hn query category, fun found => ?_⟩
      rw [search_of_components hn, gathered_iff, Except.ok.injEq, eq_comm]
    · exact search_empty hn
    · intro files' es' changed h' hsearch hl
      have hn' := components_of_entries h'
      refine ⟨_, _, hn', catalog_of_components hn', ?_, ?_⟩
      · exact filter_names_congr h h' hl
      · exact filter_infos_congr h h' hsearch hl

section Shelves

open Files

def tidy : List (Name × Node) :=
  [(.ofText "input", folder [(.ofText "input.tsx", textFile "x")]),
   (.ofText "notes.md", textFile "y"),
   (.ofText "card", folder [(.ofText "card.tsx", textFile "z")]), (.ofText "Stub", folder [])]

def spoiled : List (Name × Node) :=
  [(.ofText "Stub", folder []),
   (.ofText "card", folder [(.ofText "card.tsx", .file ⟨#[0xFF]⟩ true)]),
   (.ofText "input", folder [(.ofText "input.tsx", textFile "x")]),
   (.ofText "notes.md", textFile "y")]

end Shelves

def stocked (es : List (Files.Name × Files.Node))
    (h : Files.distinct es = true := by exact Eq.refl true) : Files :=
  shelf (Files.folder es h)

theorem entriesAt_tidy : (stocked tidy).entriesAt demo.componentsPath = .ok tidy := by
  with_unfolding_all rfl

theorem entriesAt_spoiled : (stocked spoiled).entriesAt demo.componentsPath = .ok spoiled := by
  with_unfolding_all rfl

theorem lookup_spoiled (n : Files.Name) (hn : n ∉ [.ofText "card"]) :
    spoiled.lookup n = tidy.lookup n := by
  have hcard : (n == .ofText "card") = false := by simpa using hn
  simp only [spoiled, tidy, List.lookup_cons, hcard]
  by_cases hs : n = .ofText "Stub"
  · subst hs
    rfl
  · rw [beq_false_of_ne hs]

theorem catalog_and_search_are_views_spoiled :
    demo.catalog .empty = .error (.unlistable "components" .absent) ∧
      demo.components (stocked tidy) = .ok ["Stub", "card", "input"] ∧
      ∃ infos infos', demo.catalog (stocked tidy) = .ok infos ∧
        infos.map (·.name) = ["card", "input"] ∧
        demo.search (stocked tidy) "CA" none = .ok (infos.filter fun i => Sought "CA" none i.name) ∧
        demo.catalog (stocked spoiled) = .ok infos' ∧
        infos'.filter (·.name ∉ ["card"]) = infos.filter (·.name ∉ ["card"]) := by
  have hempty : Files.empty.entriesAt demo.componentsPath = .error .absent := by
    with_unfolding_all rfl
  obtain ⟨hnone, -⟩ := catalog_and_search_are_views demo .empty
  obtain ⟨-, hviews⟩ := catalog_and_search_are_views demo (stocked tidy)
  obtain ⟨names, infos, -, ⟨hc, -⟩, hs, -, hrest⟩ := hviews tidy entriesAt_tidy
  obtain ⟨-, infos', -, hc', -, hi⟩ := hrest (stocked spoiled) spoiled [.ofText "card"]
    entriesAt_spoiled (by decide +kernel) lookup_spoiled
  have hnames : (demo.catalog (stocked tidy)).map (List.map (·.name)) = .ok ["card", "input"] := by
    decide +kernel
  rw [hc] at hnames
  refine ⟨(hnone _ hempty "" none).2.1, by decide +kernel, infos, infos', hc, ?_, (hs "CA" none).1,
    hc', hi⟩
  exact Except.ok.inj hnames

section Counterexamples

open Files

def alike : List (Name × Node) :=
  [(⟨[0xFF], by decide⟩, folder []), (⟨[0xFE], by decide⟩, folder [])]

/-- A library that is reached through one of its own components. -/
def inward : Library := ⟨"components/a/sub/../../..", "Demo"⟩

def beside (inner : List (Name × Node)) (h : distinct inner = true := by exact Eq.refl true) :
    List (Name × Node) :=
  [(.ofText "a", folder inner h), (.ofText "b", folder [(.ofText "b.tsx", textFile "x")])]

end Counterexamples

/-- Folders can be listed under one name, and a component that loses a folder on the way to the
library takes the whole catalog with it. -/
theorem names_repeated_and_catalog_lost :
    demo.components (stocked alike) = .ok ["\uFFFD", "\uFFFD"] ∧
      ¬ ["\uFFFD", "\uFFFD"].Pairwise (fun a b => Text.bytes a < Text.bytes b) ∧
      (inward.catalog (stocked (beside [(.ofText "sub", Files.folder [])]))).map
        (List.map (·.name)) = .ok ["b"] ∧
      (inward.catalog (stocked (beside []))).map (List.map (·.name)) =
        .error (.unlistable "components/a/sub/../../../components" .absent) := by
  refine ⟨?_, ?_, ?_, ?_⟩ <;> decide +kernel

end Library

end StyleGuide
