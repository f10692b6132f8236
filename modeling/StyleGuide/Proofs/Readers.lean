import StyleGuide.Proofs.Confinement
import StyleGuide.Tool.Call

namespace StyleGuide

namespace Library

open StyleGuide.Path

variable {lib : Library} {files : Files} {name : String}

theorem info_of_text {source : String} (hn : IsSegment name)
    (h : files.text (lib.mainPath name) = .ok source) : ∃ info, lib.info files name = .ok info := by
  have hc : isComponentName name = true := isComponentName_iff.mpr hn
  rw [info, Files.isFile_of_text h, hc, read, h]
  exact ⟨_, rfl⟩

theorem code_of_text {source : String} (hn : IsSegment name)
    (h : files.text (lib.mainPath name) = .ok source) (siblings : Component.Siblings) :
    ∃ code, lib.code files name siblings = .ok code := by
  have hc : isComponentName name = true := isComponentName_iff.mpr hn
  rw [code, hc, mainSource, h]
  exact ⟨_, rfl⟩

theorem info_of_text_error {cause : Files.Cause} (hn : IsSegment name)
    (h : files.text (lib.mainPath name) = .error cause) : lib.info files name =
      .error (if files.isFile (lib.mainPath name) then .unreadable (lib.mainPath name) cause
        else .componentNotFound name) := by
  have hc : isComponentName name = true := isComponentName_iff.mpr hn
  rw [info, hc]
  cases files.isFile (lib.mainPath name) with
  | true =>
    rw [read, h]
    rfl
  | false => rfl

theorem code_of_text_error {cause : Files.Cause} (hn : IsSegment name)
    (h : files.text (lib.mainPath name) = .error cause) (siblings : Component.Siblings) :
    lib.code files name siblings =
      .error (if cause = .absent then .componentNotFound name
        else .unreadable (lib.mainPath name) cause) := by
  have hc : isComponentName name = true := isComponentName_iff.mpr hn
  rw [code, hc, mainSource, h]
  cases cause <;> rfl

theorem codeWithInfo_eq_error {args : Tool.CodeQuery} {f : Failure} :
    lib.codeWithInfo files args = .error f ↔
      lib.code files args.component args.siblings = .error f ∨
        (∃ code, lib.code files args.component args.siblings = .ok code) ∧
          lib.info files args.component = .error f := by
  simp only [codeWithInfo, bind_eq_error]
  constructor
  · rintro (h | ⟨code, hc, h | ⟨info, -, h⟩⟩)
    · exact .inl h
    · exact .inr ⟨⟨code, hc⟩, h⟩
    · cases h
  · rintro (h | ⟨⟨code, hc⟩, h⟩)
    · exact .inl h
    · exact .inr ⟨code, hc, .inl h⟩

/-- What comes of describing a component and of reading its sources. The name and what is at the
place of the main source settle which of the four it is. -/
inductive Readings (lib : Library) (files : Files) (name : String) (siblings : Component.Siblings) :
    Prop where
  | read (source : String) (info : Component.Info) (code : Component.Code) (hn : IsSegment name)
    (ht : files.text (lib.mainPath name) = .ok source) (hi : lib.info files name = .ok info)
    (hc : lib.code files name siblings = .ok code)
  | absent (h : ¬ IsSegment name ∨ files.text (lib.mainPath name) = .error .absent)
    (hi : lib.info files name = .error (.componentNotFound name))
    (hc : lib.code files name siblings = .error (.componentNotFound name))
  | unreadable (cause : Files.Cause) (hn : IsSegment name)
      (hf : files.isFile (lib.mainPath name) = true)
    (ht : files.text (lib.mainPath name) = .error cause) (hx : cause = .notText ∨ cause = .denied)
    (hi : lib.info files name = .error (.unreadable (lib.mainPath name) cause))
    (hc : lib.code files name siblings = .error (.unreadable (lib.mainPath name) cause))
  | obstructed (cause : Files.Cause) (hn : IsSegment name)
      (hf : files.isFile (lib.mainPath name) = false)
    (ht : files.text (lib.mainPath name) = .error cause) (ha : cause ≠ .absent)
    (hx : cause ≠ .notText) (hi : lib.info files name = .error (.componentNotFound name))
    (hc : lib.code files name siblings = .error (.unreadable (lib.mainPath name) cause))

theorem readings (lib : Library) (files : Files) (name : String) (siblings : Component.Siblings) :
    lib.Readings files name siblings := by
  by_cases hn : IsSegment name
  · cases ht : files.text (lib.mainPath name) with
    | ok source =>
      obtain ⟨info, hi⟩ := info_of_text hn ht
      obtain ⟨code, hc⟩ := code_of_text hn ht siblings
      exact .read source info code hn ht hi hc
    | error cause =>
      have hi := info_of_text_error hn ht
      have hc := code_of_text_error hn ht siblings
      cases hf : files.isFile (lib.mainPath name) with
      | true =>
        have hx := Files.cause_of_isFile ht hf
        have ha : cause ≠ .absent := by rintro rfl; simp at hx
        rw [hf, if_pos rfl] at hi
        rw [if_neg ha] at hc
        exact .unreadable cause hn hf ht hx hi hc
      | false =>
        rw [hf, if_neg nofun] at hi
        by_cases ha : cause = .absent
        · subst ha
          exact .absent (.inr ht) hi hc
        · rw [if_neg ha] at hc
          exact .obstructed cause hn hf ht ha (Files.cause_of_not_isFile ht hf) hi hc
  · obtain ⟨hi, hc⟩ := not_found_of_not_segment hn files siblings
    exact .absent (.inl hn) hi hc

theorem info_ok_iff_code_ok (siblings : Component.Siblings) :
    (∃ info, lib.info files name = .ok info) ↔ ∃ code, lib.code files name siblings = .ok code := by
  cases readings lib files name siblings with
  | read _ info code _ _ hi hc => exact ⟨fun _ => ⟨code, hc⟩, fun _ => ⟨info, hi⟩⟩
  | absent _ hi hc | unreadable _ _ _ _ _ hi hc | obstructed _ _ _ _ _ _ hi hc => simp [hi, hc]

theorem codeWithInfo_error_iff (siblings : Component.Siblings) (f : Failure) :
    lib.codeWithInfo files ⟨name, siblings⟩ = .error f ↔
      lib.code files name siblings = .error f := by
  refine codeWithInfo_eq_error.trans ⟨fun h => h.resolve_right ?_, .inl⟩
  rintro ⟨hc, hi⟩
  obtain ⟨info, ho⟩ := (info_ok_iff_code_ok siblings).mpr hc
  cases hi.symm.trans ho

theorem component_error_iff (o : Plan.Options) (f : Failure) :
    lib.component files o name = .error f ↔ lib.info files name = .error f := by
  refine component_eq_error.trans ⟨fun h => h.resolve_right ?_, .inl⟩
  rintro ⟨hi, hc⟩
  obtain ⟨code, ho⟩ := (info_ok_iff_code_ok (Plan.siblings o)).mp hi
  cases hc.symm.trans ho

/-- To describe a component and to read its sources come to the same, but where something else than
an absent file keeps the way to the source: there it is not found for the one and unreadable for the
other. A client that asks for the sources is told the one, a client that has them integrated the
other. -/
theorem readers_agree_unless_obstructed (lib : Library) (files : Files) (name : String)
    (siblings : Component.Siblings) (o : Plan.Options) :
    lib.Readings files name siblings ∧
    ((∃ info, lib.info files name = .ok info) ↔ ∃ code, lib.code files name siblings = .ok code) ∧
    (∀ f, lib.codeWithInfo files ⟨name, siblings⟩ = .error f ↔
      lib.code files name siblings = .error f) ∧
    ∀ f, lib.component files o name = .error f ↔ lib.info files name = .error f := by
  refine ⟨readings lib files name siblings, info_ok_iff_code_ok siblings, ?_, ?_⟩
  · exact codeWithInfo_error_iff siblings
  · exact component_error_iff o

def stump : Files :=
  .holding [(.ofText "components", Files.folder [(.ofText "button", Files.textFile "x")])]

/-- The two do not fail alike everywhere. -/
theorem not_readers_fail_alike : ¬ ∀ (lib : Library) (files : Files) (name : String)
    (siblings : Component.Siblings) (f g : Failure), lib.info files name = .error f →
      lib.code files name siblings = .error g → f.isNotFound = g.isNotFound := by
  intro h
  have hn : IsSegment "button" := isComponentName_iff.mp (by decide)
  have ht : stump.text (mainPath ⟨"", "Demo"⟩ "button") = .error .notFolder := by decide +kernel
  have hi := info_of_text_error hn ht
  have hc := code_of_text_error hn ht ⟨false, false, true⟩
  exact absurd (h _ _ _ _ _ _ hi hc) (by decide)

end Library

end StyleGuide
