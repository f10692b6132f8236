import StyleGuide.Files
import StyleGuide.Proofs.ByteOrder

namespace StyleGuide

namespace Text

theorem exists_mem_splitOn {mark c : Char} {cs : List Char} (hc : c ∈ cs) (hne : c ≠ mark) :
    ∃ p ∈ splitOn mark cs, c ∈ p := by
  induction cs with
  | nil => cases hc
  | cons d r ih =>
    by_cases hd : d = mark
    · obtain ⟨p, hp, hcp⟩ := ih ((List.mem_cons.mp hc).resolve_left fun h => hne (h.trans hd))
      exact ⟨p, by rw [splitOn, if_pos hd]; exact List.mem_cons_of_mem _ hp, hcp⟩
    · rw [splitOn, if_neg hd]
      obtain rfl | hc := List.mem_cons.mp hc
      · split <;> exact ⟨_, List.mem_cons_self, List.mem_cons_self⟩
      · obtain ⟨p, hp, hcp⟩ := ih hc
        split
        · next hnil =>
          rw [hnil] at hp
          cases hp
        · next q qs hq =>
          rw [hq] at hp
          obtain rfl | hp := List.mem_cons.mp hp
          · exact ⟨_, List.mem_cons_self, List.mem_cons_of_mem _ hcp⟩
          · exact ⟨p, List.mem_cons_of_mem _ hp, hcp⟩

theorem length_utf8 (s : String) : (utf8 s.toList).length = s.utf8ByteSize := by
  rw [utf8, ← bytes_eq, bytes]
  rfl

end Text

namespace Files

namespace Name

variable {step : String} {name : Name}

theorem proper_of_ofText? (h : ofText? step = some name) : IsEntryName (Text.utf8 step.toList) := by
  rw [ofText?] at h
  split at h
  · next hproper => exact hproper
  · cases h

theorem ne_of_ofText? (h : ofText? step = some name) : step ≠ "" ∧ step ≠ "." ∧ step ≠ ".." := by
  obtain ⟨hempty, hhere, habove, -⟩ := proper_of_ofText? h
  refine ⟨?_, ?_, ?_⟩ <;> rintro rfl
  · exact hempty (by decide)
  · exact hhere (by decide)
  · exact habove (by decide)

theorem size_of_ofText? (h : ofText? step = some name) : step.utf8ByteSize ≤ 255 := by
  obtain ⟨-, -, -, -, -, hsize⟩ := proper_of_ofText? h
  rwa [Text.length_utf8] at hsize

theorem no_nul_of_ofText? (h : ofText? step = some name) : '\x00' ∉ step.toList := by
  obtain ⟨-, -, -, hnul, -⟩ := proper_of_ofText? h
  intro hmem
  exact hnul (List.mem_flatMap.mpr ⟨'\x00', hmem, by decide⟩)

end Name

/-- Steps lead from a folder, below those that have been passed, to something, and a folder is left
by no step but if it `may` be. -/
inductive Leads (may : Node → Prop) : List Node → Node → List String → Node → Prop where
  | arrived (passed : List Node) (node : Node) : Leads may passed node [] node
  | empty {passed : List Node} {node target : Node} {steps : List String}
    (hfolder : node.isFolder = true) (h : Leads may passed node steps target) :
    Leads may passed node ("" :: steps) target
  | here {passed : List Node} {node target : Node} {steps : List String}
    (hfolder : node.isFolder = true) (hmay : may node) (h : Leads may passed node steps target) :
    Leads may passed node ("." :: steps) target
  | up {passed : List Node} {outer node target : Node} {steps : List String}
    (hfolder : node.isFolder = true) (hmay : may node) (h : Leads may passed outer steps target) :
    Leads may (outer :: passed) node (".." :: steps) target
  | top {node target : Node} {steps : List String} (hfolder : node.isFolder = true)
    (hmay : may node) (h : Leads may [] node steps target) :
    Leads may [] node (".." :: steps) target
  | down {passed : List Node} {node inner target : Node} {step : String} {steps : List String}
    (hmay : may node) (hchild : node.child? step = some inner)
    (h : Leads may (node :: passed) inner steps target) :
    Leads may passed node (step :: steps) target

def LeadsTo (files : Files) (may : Node → Prop) (path : String) (target : Node) : Prop :=
  path ≠ "" ∧ ∃ passed node, files.start path = some (passed, node) ∧
    Leads may passed node (Path.segments path) target

/-- Something is at a path, whether or not a program can see it. -/
def Present (files : Files) (path : String) (node : Node) : Prop :=
  files.LeadsTo (fun _ => True) path node

/-- Something can be seen at a path: the path is not too long, and each folder that it leaves may be
searched. -/
def Visible (files : Files) (path : String) (node : Node) : Prop :=
  files.LeadsTo (·.searchable = true) path node ∧ path.utf8ByteSize ≤ longestPath

theorem Node.isFolder_of_child {node inner : Node} {step : String}
    (h : node.child? step = some inner) : node.isFolder = true := by
  cases node with
  | file =>
    rw [child?] at h
    obtain ⟨name, -, hnone⟩ := Option.bind_eq_some_iff.mp h
    cases hnone
  | folder => rfl

theorem Leads.no_nul {may : Node → Prop} {passed : List Node} {node target : Node}
    {steps : List String} (h : Leads may passed node steps target) :
    ∀ step ∈ steps, '\x00' ∉ step.toList := by
  induction h with
  | arrived => exact nofun
  | empty _ _ ih | here _ _ _ ih | up _ _ _ ih | top _ _ _ ih =>
    exact List.forall_mem_cons.mpr ⟨by decide, ih⟩
  | down _ hchild _ ih =>
    obtain ⟨name, hname, -⟩ := Option.bind_eq_some_iff.mp hchild
    exact List.forall_mem_cons.mpr ⟨Name.no_nul_of_ofText? hname, ih⟩

theorem walk_eq_ok {passed : List Node} {node target : Node} {steps : List String} :
    node.walk passed steps = .ok target ↔ Leads (·.searchable = true) passed node steps target := by
  constructor
  · intro h
    fun_induction Node.walk passed node steps with
    | case1 passed node =>
      obtain rfl := Except.ok.inj h
      exact .arrived passed node
    | case2 | case4 | case8 | case9 => cases h
    | case3 passed node steps hfolder ih => exact .empty (by simpa using hfolder) (ih h)
    | case5 passed node steps hfolder hsearch _ ih =>
      exact .here (by simpa using hfolder) (by simpa using hsearch) (ih h)
    | case6 node steps hfolder hsearch _ _ ih =>
      exact .top (by simpa using hfolder) (by simpa using hsearch) (ih h)
    | case7 node steps hfolder hsearch outer passed _ _ ih =>
      exact .up (by simpa using hfolder) (by simpa using hsearch) (ih h)
    | case10 passed node step steps _ _ hsearch _ _ _ inner hchild ih =>
      exact .down (by simpa using hsearch) hchild (ih h)
  · intro h
    induction h with
    | arrived => rw [Node.walk]
    | empty hfolder _ ih => simp [Node.walk, hfolder, ih]
    | here hfolder hmay _ ih => simp [Node.walk, hfolder, hmay, ih]
    | up hfolder hmay _ ih => simp [Node.walk, hfolder, hmay, ih]
    | top hfolder hmay _ ih => simp [Node.walk, hfolder, hmay, ih]
    | down hmay hchild _ ih =>
      obtain ⟨name, hname, -⟩ := Option.bind_eq_some_iff.mp hchild
      obtain ⟨hempty, hhere, habove⟩ := Name.ne_of_ofText? hname
      have hsize := Nat.not_lt.mpr (Name.size_of_ofText? hname)
      simp [Node.walk, Node.isFolder_of_child hchild, hempty, hmay, hhere, habove, hsize, hchild,
        ih]

theorem find_eq_ok {files : Files} {path : String} {node : Node} :
    files.find path = .ok node ↔ files.Visible path node := by
  have hnul : files.LeadsTo (·.searchable = true) path node → '\x00' ∉ path.toList := by
    rintro ⟨-, passed, first, -, h⟩ hmem
    obtain ⟨p, hp, hcp⟩ := Text.exists_mem_splitOn hmem (by decide : '\x00' ≠ '/')
    exact h.no_nul _ (List.mem_map_of_mem hp) (by rwa [String.toList_ofList])
  rw [find, Visible]
  split
  · next h => exact iff_of_false nofun fun hv => hnul hv.1 (List.contains_iff_mem.mp h)
  · split
    · next h => exact iff_of_false nofun fun hv => hv.1.1 (by simpa using h)
    · next hne =>
      split
      · next h => exact iff_of_false nofun fun hv => absurd hv.2 (Nat.not_le.mpr h)
      · next hsize =>
        rw [and_iff_left (Nat.not_lt.mp hsize), LeadsTo, and_iff_right (by simpa using hne)]
        split
        · next h => exact iff_of_false nofun fun ⟨_, _, hs, _⟩ => by cases h.symm.trans hs
        · next passed first h =>
          rw [walk_eq_ok, h]
          simp

theorem exists?_eq_true {files : Files} {path : String} :
    files.exists? path = true ↔ ∃ node, files.Visible path node := by
  simp only [← find_eq_ok]
  rw [exists?]
  cases files.find path <;> simp [Except.isOk, Except.toBool]

/-- A file is at a path, can be seen and read there, and its bytes are those of a text. -/
def Holds (files : Files) (path text : String) : Prop := files.Visible path (.file text.toUTF8 true)

theorem text_eq_ok {files : Files} {path s : String} :
    files.text path = .ok s ↔ files.Holds path s := by
  rw [Holds, ← find_eq_ok, text]
  obtain _ | (⟨content, _ | _⟩ | ⟨_, _, _, _ | _, _⟩) := files.find path
  case ok.file.true =>
    simp only [Except.bind, Node.text, Except.ok.injEq, Node.file.injEq, and_true]
    rw [← Text.fromUTF8?_eq_some_iff]
    cases String.fromUTF8? content <;> simp
  all_goals simp [Except.bind, Node.text]

/-- What there is to be seen at a path: why nothing is, or the content of a file, and whether it can
be read. -/
def seen (files : Files) (path : String) : Except Cause (Option ByteArray × Bool) :=
  (files.find path).map fun
    | .file content readable => (some content, readable)
    | .folder _ _ _ readable _ => (none, readable)

theorem isFile_eq (files : Files) (path : String) :
    files.isFile path = (files.seen path).toOption.any fun s => s.1.isSome := by
  rw [isFile, seen]
  obtain _ | (_ | _) := files.find path <;> rfl

theorem text_eq (files : Files) (path : String) :
    files.text path = (files.seen path).bind fun
      | (_, false) => .error .denied
      | (none, true) => .error .isFolder
      | (some content, true) => (String.fromUTF8? content).elim (.error .notText) .ok := by
  rw [text, seen]
  obtain _ | (⟨content, _ | _⟩ | ⟨_, _, _, _ | _, _⟩) := files.find path
  case ok.file.true =>
    simp only [Except.map, Except.bind, Node.text]
    cases String.fromUTF8? content <;> rfl
  all_goals rfl

section Agreement

variable {files files' : Files} {path : String} (h : files.seen path = files'.seen path)

include h

theorem isFile_congr : files.isFile path = files'.isFile path := by
  rw [isFile_eq, isFile_eq, h]

theorem text_congr : files.text path = files'.text path := by
  rw [text_eq, text_eq, h]

theorem text?_congr : files.text? path = files'.text? path := by
  rw [text?, text?, text_congr h]

end Agreement

section Text

variable {files : Files} {path : String}

theorem isFile_of_text {source : String} (h : files.text path = .ok source) :
    files.isFile path = true := by
  rw [isFile, find_eq_ok.mpr (text_eq_ok.mp h)]
  rfl

theorem walk_ne_notText (passed : List Node) (node : Node) (steps : List String) :
    node.walk passed steps ≠ .error .notText := by
  fun_induction Node.walk passed node steps with
  | case1 | case2 | case4 | case8 | case9 => exact nofun
  | case3 _ _ _ _ ih => exact ih
  | case5 _ _ _ _ _ _ ih => exact ih
  | case6 _ _ _ _ _ _ ih => exact ih
  | case7 _ _ _ _ _ _ _ _ ih => exact ih
  | case10 _ _ _ _ _ _ _ _ _ _ _ _ ih => exact ih

theorem find_ne_notText (files : Files) (path : String) : files.find path ≠ .error .notText := by
  rw [find]
  split
  · exact nofun
  · split
    · exact nofun
    · split
      · exact nofun
      · split
        · exact nofun
        · exact walk_ne_notText _ _ _

theorem cause_of_isFile {cause : Cause} (h : files.text path = .error cause)
    (hf : files.isFile path = true) : cause = .notText ∨ cause = .denied := by
  rw [text] at h
  rw [isFile] at hf
  generalize files.find path = found at h hf
  obtain other | (⟨content, _ | _⟩ | _) := found
  · cases hf
  · cases h
    exact .inr rfl
  · simp only [Except.bind, Node.text] at h
    split at h <;> cases h
    exact .inl rfl
  · cases hf

theorem cause_of_not_isFile {cause : Cause} (h : files.text path = .error cause)
    (hf : files.isFile path = false) : cause ≠ .notText := by
  rintro rfl
  have hfind := find_ne_notText files path
  rw [text] at h
  rw [isFile] at hf
  generalize files.find path = found at h hf hfind
  obtain other | (_ | ⟨_, _, _, _ | _, _⟩) := found
  · cases h
    exact hfind rfl
  · cases hf
  · cases h
  · cases h

end Text

-- What makes a name or a folder well formed is computed here, so a tree is written by its entries.

def Name.ofText (s : String) (h : (ofText? s).isSome = true := by exact Eq.refl true) : Name :=
  (ofText? s).get h

def distinct (es : List (Name × Node)) : Bool := decide (es.map Prod.fst).Nodup

def textFile (s : String) : Node := .file s.toUTF8 true

def folder (es : List (Name × Node)) (h : distinct es = true := by exact Eq.refl true) : Node :=
  .ofEntries es (of_decide_eq_true h) true true

def holding (es : List (Name × Node)) (h : distinct es = true := by exact Eq.refl true) : Files :=
  ⟨folder es h, []⟩

end Files

end StyleGuide
