import StyleGuide.Proofs.Confinement

namespace StyleGuide

namespace Text

theorem splitOn_ne_nil (mark : Char) (cs : List Char) : splitOn mark cs ≠ [] := by
  cases cs with
  | nil => exact List.cons_ne_nil _ _
  | cons c r =>
    rw [splitOn]
    split
    · exact List.cons_ne_nil _ _
    · split <;> exact List.cons_ne_nil _ _

theorem splitOn_append_mark (mark : Char) (cs ds : List Char) :
    splitOn mark (cs ++ mark :: ds) = splitOn mark cs ++ splitOn mark ds := by
  induction cs with
  | nil => simp [splitOn]
  | cons c r ih =>
    obtain ⟨p, ps, hp⟩ := List.exists_cons_of_ne_nil (splitOn_ne_nil mark r)
    by_cases hc : c = mark
    · simp [splitOn, hc, ih]
    · simp [splitOn, hc, ih, hp]

theorem splitOn_of_not_mem {mark : Char} {cs : List Char} (h : mark ∉ cs) :
    splitOn mark cs = [cs] := by
  induction cs with
  | nil => rfl
  | cons c r ih =>
    simp only [List.mem_cons, not_or] at h
    rw [splitOn, if_neg (Ne.symm h.1), ih h.2]

end Text

namespace Path

theorem segments_below (base rest : String) :
    segments (base ++ "/" ++ rest) = segments base ++ segments rest := by
  have hchars : (base ++ "/" ++ rest).toList = base.toList ++ '/' :: rest.toList := by simp
  rw [segments, hchars, Text.splitOn_append_mark, List.map_append, segments, segments]

theorem segments_ne_nil (path : String) : segments path ≠ [] :=
  fun h => Text.splitOn_ne_nil '/' path.toList (List.map_eq_nil_iff.mp h)

theorem segments_of_no_slash {name : String} (h : '/' ∉ name.toList) : segments name = [name] := by
  rw [segments, Text.splitOn_of_not_mem h]
  simp

theorem isAbsolute_below {base : String} (hb : base ≠ "") (rest : String) :
    isAbsolute (base ++ "/" ++ rest) = isAbsolute base := by
  have hne : base.toList ≠ [] := by simpa using hb
  simp [isAbsolute, List.head?_append, List.head?_eq_some_head hne]

end Path

namespace Files

open StyleGuide.Path

variable {files files' : Files} {folder folder' : Node} {base : String}

theorem walk_cons (passed : List Node) (node : Node) (step : String) (rest : List String) :
    node.walk passed (step :: rest) =
      if !node.isFolder then .error .notFolder
      else if step = "" then node.walk passed rest
      else if !node.searchable then .error .denied
      else if step = "." then node.walk passed rest
      else if step = ".." then
        match passed with
        | [] => node.walk [] rest
        | outer :: passed => outer.walk passed rest
      else if 255 < step.utf8ByteSize then .error .nameTooLong
      else match node.child? step with
        | none => .error .absent
        | some inner => inner.walk (node :: passed) rest :=
  Node.walk.eq_def passed node (step :: rest)

theorem walk_through {passed : List Node} {node : Node} {names : List String}
    (h : node.walk passed names = .ok folder) :
    ∃ outer, ∀ rest, node.walk passed (names ++ rest) = folder.walk outer rest := by
  -- The way may lead up again, so the folders above its end are found along with it.
  fun_induction Node.walk passed node names with
  | case1 passed node =>
    obtain rfl := Except.ok.inj h
    exact ⟨passed, fun rest => rfl⟩
  | case2 | case4 | case8 | case9 => cases h
  | case3 passed node names hfolder ih =>
    obtain ⟨outer, ho⟩ := ih h
    refine ⟨outer, fun rest => ?_⟩
    rw [List.cons_append, walk_cons, if_neg hfolder, if_pos rfl, ho]
  | case5 passed node names hfolder hsearch hname ih =>
    obtain ⟨outer, ho⟩ := ih h
    refine ⟨outer, fun rest => ?_⟩
    rw [List.cons_append, walk_cons, if_neg hfolder, if_neg hname, if_neg hsearch, if_pos rfl, ho]
  | case6 node names hfolder hsearch hname hhere ih
  | case7 node names hfolder hsearch above passed hname hhere ih =>
    obtain ⟨outer, ho⟩ := ih h
    refine ⟨outer, fun rest => ?_⟩
    rw [List.cons_append, walk_cons, if_neg hfolder, if_neg hname, if_neg hsearch, if_neg hhere,
      if_pos rfl]
    exact ho rest
  | case10 passed node name names hfolder hname hsearch hhere habove hlong inner hinner ih =>
    obtain ⟨outer, ho⟩ := ih h
    refine ⟨outer, fun rest => ?_⟩
    rw [List.cons_append, walk_cons, if_neg hfolder, if_neg hname, if_neg hsearch, if_neg hhere,
      if_neg habove, if_neg hlong, hinner]
    exact ho rest

theorem walk_segment {passed : List Node} {node : Node} {name : String} (h : IsSegment name)
    (rest : List String) : node.walk passed (name :: rest) =
      if !node.isFolder then .error .notFolder
      else if !node.searchable then .error .denied
      else if 255 < name.utf8ByteSize then .error .nameTooLong
      else match node.child? name with
        | none => .error .absent
        | some inner => inner.walk (node :: passed) rest := by
  rw [walk_cons, if_neg h.ne_empty, if_neg h.ne_here, if_neg h.ne_above]

/-- A path goes down from one of two folders as from the other if they differ in nothing but other
entries. -/
structure SameWay (folder folder' : Node) (name : String) : Prop where
  isFolder : folder.isFolder = folder'.isFolder
  searchable : folder.searchable = folder'.searchable
  child : folder.child? name = folder'.child? name

theorem walk_two_congr {outer outer' : List Node} {a b : String} (ha : IsSegment a)
    (hb : IsSegment b) (h : SameWay folder folder' a) :
    folder.walk outer [a, b] = folder'.walk outer' [a, b] := by
  rw [walk_segment ha, walk_segment ha, h.isFolder, h.searchable, h.child]
  cases folder'.child? a with
  | none => rfl
  | some inner =>
    simp only [walk_segment hb]
    simp only [Node.walk]

/-- A path is looked at as a whole before anything of it is followed. -/
theorem find_below (h : files.find base = .ok folder) : ∃ outer, ∀ rest : String,
    files.find (base ++ "/" ++ rest) =
      if rest.toList.contains '\x00' then .error .nulInPath
      else if longestPath < (base ++ "/" ++ rest).utf8ByteSize then .error .nameTooLong
      else folder.walk outer (segments rest) := by
  rw [find] at h
  split at h
  · cases h
  · next hnul =>
    split at h
    · cases h
    · next hempty =>
      split at h
      · cases h
      · split at h
        · cases h
        · next passed node hstart =>
          have hb : base ≠ "" := by simpa using hempty
          obtain ⟨outer, ho⟩ := walk_through h
          refine ⟨outer, fun rest => ?_⟩
          have hc : (base ++ "/" ++ rest).toList.contains '\x00' = rest.toList.contains '\x00' := by
            simp at hnul
            simp [hnul]
          have he : (base ++ "/" ++ rest).isEmpty = false := by simp
          have hs : files.start (base ++ "/" ++ rest) = some (passed, node) := by
            rw [← hstart, start, start, isAbsolute_below hb]
          rw [find, hc, he, hs, segments_below]
          simp only [ho, Bool.false_eq_true, if_false]

theorem find_two_congr (h : files.find base = .ok folder) (h' : files'.find base = .ok folder')
    {a b : String} (ha : IsSegment a) (hb : IsSegment b) (hw : SameWay folder folder' a) :
    files.find (base ++ "/" ++ a ++ "/" ++ b) = files'.find (base ++ "/" ++ a ++ "/" ++ b) := by
  obtain ⟨outer, ho⟩ := find_below h
  obtain ⟨outer', ho'⟩ := find_below h'
  have hsegments : segments (a ++ "/" ++ b) = [a, b] := by
    rw [segments_below, segments_of_no_slash ha.no_slash, segments_of_no_slash hb.no_slash]
    rfl
  have hpath : base ++ "/" ++ a ++ "/" ++ b = base ++ "/" ++ (a ++ "/" ++ b) := by
    simp [String.append_assoc]
  rw [hpath, ho, ho', hsegments, walk_two_congr ha hb hw]

end Files

end StyleGuide
