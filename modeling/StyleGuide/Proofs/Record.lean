import StyleGuide.Json.Decode
import StyleGuide.Proofs.Integration

namespace StyleGuide.Json

structure Entry where
  Value : Type
  field : Field Value
  value : Value

def Entry.name (e : Entry) : String := e.field.name

section Names

variable {α : Type} (name : String) (d : Decoder α)

@[simp]
theorem Entry.name_required (a : α) : Entry.name ⟨α, .required name d, a⟩ = name := rfl

@[simp]
theorem Entry.name_withDefault (default a : α) :
    Entry.name ⟨α, .withDefault name d default, a⟩ = name := rfl

@[simp]
theorem Entry.name_optional (o : Option α) : Entry.name ⟨Option α, .optional name d, o⟩ = name :=
  rfl

end Names

/-- The members that a record has for its entries, in order: each one is there in a form that its
field reads, or it is left out because its value is the one that the field has then. -/
inductive Written : List Entry → List (String × Json) → Prop where
  | nil : Written [] []
  | given {α : Type} {f : Field α} {a : α} {j : Json} {es : List Entry} {ms : List (String × Json)}
    (h : f.decode j = .ok a) (hr : Written es ms) : Written (⟨α, f, a⟩ :: es) ((f.name, j) :: ms)
  | absent {α : Type} {f : Field α} {a : α} {es : List Entry} {ms : List (String × Json)}
    (h : f.absent = some a) (hr : Written es ms) : Written (⟨α, f, a⟩ :: es) ms

variable {α β : Type} {es : List Entry} {ms : List (String × Json)}

theorem Written.optional_append {name : String} {f : α → Json} {d : Decoder α} {o : Option α}
    (h : ∀ a, o = some a → d.option (f a) = .ok (some a)) (hr : Written es ms) :
    Written (⟨_, .optional name d, o⟩ :: es) (member? name f o ++ ms) := by
  cases o with
  | none => exact .absent rfl hr
  | some a => exact .given (f := .optional name d) (h a rfl) hr

theorem Written.optional {name : String} {f : α → Json} {d : Decoder α} {o : Option α}
    (h : ∀ a, o = some a → d.option (f a) = .ok (some a)) :
    Written [⟨_, .optional name d, o⟩] (member? name f o) := by
  rw [← List.append_nil (member? name f o)]
  exact .optional_append h .nil

theorem Written.lookup_eq_none {name : String} (h : Written es ms) (hn : name ∉ es.map Entry.name) :
    ms.lookup name = none := by
  induction h with
  | nil => rfl
  | @given α f a j es ms h hr ih =>
    simp only [List.map_cons, List.mem_cons, not_or] at hn
    have hne : (name == f.name) = false := beq_false_of_ne hn.1
    rw [List.lookup_cons, hne]
    exact ih hn.2
  | absent h hr ih =>
    simp only [List.map_cons, List.mem_cons, not_or] at hn
    exact ih hn.2

theorem Written.get_eq (h : Written es ms) (hn : (es.map Entry.name).Nodup)
    (missing : String → DecodeError) :
    ∀ e ∈ es, Record.get ⟨ms, missing⟩ e.field = .ok e.value := by
  induction h with
  | nil => exact nofun
  | @given α f a j es ms h hr ih =>
    simp only [List.map_cons, List.nodup_cons] at hn
    refine List.forall_mem_cons.mpr ⟨?_, fun e he => ?_⟩
    · simp [Record.get, h]
    · have hne : (e.field.name == f.name) = false :=
        beq_false_of_ne fun heq => hn.1 (List.mem_map.mpr ⟨e, he, heq⟩)
      have hrest := ih hn.2 e he
      rw [Record.get, List.lookup_cons, hne]
      exact hrest
  | @absent α f a es ms h hr ih =>
    simp only [List.map_cons, List.nodup_cons] at hn
    refine List.forall_mem_cons.mpr ⟨?_, ih hn.2⟩
    have hnone : ms.lookup f.name = none := hr.lookup_eq_none hn.1
    rw [Record.get, hnone, h]

theorem find?_any (hn : (es.map Entry.name).Nodup) {e : Entry} (he : e ∈ es) :
    (es.map fun e => e.field.any).find? (·.name = e.name) = some e.field.any := by
  induction es with
  | nil => cases he
  | cons x es ih =>
    simp only [List.map_cons, List.nodup_cons] at hn
    obtain rfl | he := List.mem_cons.mp he
    · simp [Field.any, Entry.name]
    · have hne : ¬ x.field.any.name = e.name :=
        fun heq => hn.1 (List.mem_map.mpr ⟨e, he, heq.symm⟩)
      rw [List.map_cons, List.find?_cons_of_neg (by simpa using hne)]
      exact ih hn.2 he

theorem Written.firstFault_append {fields : List AnyField} (h : Written es ms)
    (hf : ∀ e ∈ es, fields.find? (·.name = e.name) = some e.field.any)
    (rest : List (String × Json)) :
    firstFault fields (ms ++ rest) = firstFault fields rest := by
  induction h with
  | nil => rfl
  | @given α f a j es ms h hr ih =>
    obtain ⟨hhead, htail⟩ := List.forall_mem_cons.mp hf
    have hfind : fields.find? (·.name = f.name) = some f.any := hhead
    have hfault : f.any.fault j = none := by simp [Field.any, h]
    rw [firstFault, List.cons_append, List.findSome?_cons, hfind, Option.bind_some, hfault]
    exact ih htail
  | absent h hr ih => exact ih (List.forall_mem_cons.mp hf).2

theorem firstFault_cons {fields : List AnyField} {f : Field α} {j : Json} {e : DecodeError}
    (hfind : fields.find? (·.name = f.name) = some f.any) (hf : f.decode j = .error e)
    (rest : List (String × Json)) : firstFault fields ((f.name, j) :: rest) = some e := by
  have hfault : f.any.fault j = some e := by simp [Field.any, hf]
  rw [firstFault, List.findSome?_cons, hfind, Option.bind_some, hfault]

theorem record_of_written {title : String} {build : Record → Except DecodeError α} {a : α}
    (h : Written es ms) (hn : (es.map Entry.name).Nodup)
    (hb : (∀ e ∈ es, Record.get ⟨ms, .missingField⟩ e.field = .ok e.value) →
      build ⟨ms, .missingField⟩ = .ok a) :
    record title (es.map fun e => e.field.any) build (.object ms) = .ok a := by
  have hfault := h.firstFault_append (fun e he => find?_any hn he) []
  rw [List.append_nil] at hfault
  rw [record, ofMembers, hfault]
  exact hb (h.get_eq hn _)

theorem record_of_fault {title : String} {build : Record → Except DecodeError α} {f : Field β}
    {b : β} {j : Json} {e : DecodeError} {before after : List Entry} {rest : List (String × Json)}
    (h : Written before ms) (hn : ((before ++ ⟨β, f, b⟩ :: after).map Entry.name).Nodup)
    (hf : f.decode j = .error e) :
    record title ((before ++ ⟨β, f, b⟩ :: after).map fun e => e.field.any) build
      (.object (ms ++ (f.name, j) :: rest)) = .error e := by
  have hbefore := h.firstFault_append (fun x hx => find?_any hn (List.mem_append_left _ hx))
    ((f.name, j) :: rest)
  have hfind := find?_any hn (e := ⟨β, f, b⟩) (List.mem_append_right _ List.mem_cons_self)
  rw [record, ofMembers, hbefore, firstFault_cons hfind hf]

theorem list_map {f : α → Json} {d : Decoder α} {as : List α} (h : ∀ a ∈ as, d (f a) = .ok a) :
    Decoder.list d (.array (as.map f)) = .ok as := by
  rw [Decoder.list, mapM_eq_ok, List.forall₂_map_left_iff, List.forall₂_same]
  exact h

theorem list_strings (ss : List String) : Decoder.list Decoder.string (strings ss) = .ok ss :=
  list_map fun _ _ => rfl

theorem map_ofMap {f : α → Json} {d : Decoder α} {m : OrderedMap α}
    (h : ∀ a ∈ m.values, d (f a) = .ok a) : Decoder.map d (ofMap f m) = .ok m := by
  have hentries : (m.map f).entries.mapM (fun x => (d x.2).map fun a => (x.1, a)) =
      .ok m.entries := by
    rw [mapM_eq_ok, OrderedMap.map, List.forall₂_map_left_iff, List.forall₂_same]
    intro x hx
    rw [h x.2 (List.mem_map_of_mem hx)]
    rfl
  rw [ofMap, Decoder.map, hentries, Except.map, OrderedMap.ofList_entries]

theorem map_ofMap_error {f : α → Json} {d : Decoder α} {m : OrderedMap α} {e : DecodeError}
    (h : ∀ a ∈ m.values, d (f a) = .ok a ∨ d (f a) = .error e)
    (hf : ∃ a ∈ m.values, d (f a) = .error e) : Decoder.map d (ofMap f m) = .error e := by
  obtain ⟨a, ha, he⟩ := hf
  obtain ⟨x, hx, rfl⟩ := List.mem_map.mp ha
  cases hm : (m.map f).entries.mapM (fun x => (d x.2).map fun a => (x.1, a)) with
  | ok es =>
    obtain ⟨y, hy⟩ := exists_mapM_eq_ok.mp ⟨es, hm⟩ (x.1, f x.2) (List.mem_map_of_mem hx)
    rw [he] at hy
    cases hy
  | error e' =>
    obtain ⟨before, y, after, heq, -, hy⟩ := mapM_eq_error.mp hm
    obtain ⟨x', hx', rfl⟩ := List.mem_map.mp (heq ▸ List.mem_append_right _ List.mem_cons_self)
    rw [ofMap, Decoder.map, hm]
    obtain hok | herr := h x'.2 (List.mem_map_of_mem hx')
    · rw [hok] at hy
      cases hy
    · rw [herr] at hy
      cases hy
      rfl

end StyleGuide.Json
