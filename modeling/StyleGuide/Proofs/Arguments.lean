import Mathlib.Data.List.Nodup
import Mathlib.Data.Set.List
import StyleGuide.Proofs.Record
import StyleGuide.Proofs.Service

namespace StyleGuide

namespace Json

def typeName : Json → String
  | null => "null"
  | bool _ => "boolean"
  | int _ => "integer"
  | float _ => "number"
  | string _ => "string"
  | array _ => "array"
  | object _ => "object"

theorem string_of_typeName {v : Json} (h : v.typeName = "string") : ∃ s, v = .string s := by
  rcases v with (_ | _ | _ | _ | s) | _ | _
  case scalar.string => exact ⟨s, rfl⟩
  all_goals simp [typeName] at h

theorem bool_of_typeName {v : Json} (h : v.typeName = "boolean") : ∃ b, v = .bool b := by
  rcases v with (_ | b | _ | _ | _) | _ | _
  case scalar.bool => exact ⟨b, rfl⟩
  all_goals simp [typeName] at h

theorem array_of_typeName {v : Json} (h : v.typeName = "array") : ∃ items, v = .array items := by
  rcases v with (_ | _ | _ | _ | _) | items | _
  case array => exact ⟨items, rfl⟩
  all_goals simp [typeName] at h

/-- A value that a schema describes: it is of the schema's type, one of the listed values if any
are, and has items that the schema for them describes. -/
inductive Describes : Json → Json → Prop where
  | intro {schema value : Json}
    (type : ∀ t, schema.get? "type" = some (.string t) → value.typeName = t)
    (listed : ∀ values, schema.get? "enum" = some (.array values) → value ∈ values)
    (items : ∀ s xs, schema.get? "items" = some s → value = .array xs → ∀ x ∈ xs, Describes s x) :
    Describes schema value

def property? (schema : Json) (name : String) : Option Json :=
  (schema.get? "properties").bind (·.get? name)

/-- The members of an object that a schema describes: they are properties of the schema, each as the
schema has it, and what is required is there. -/
structure DescribesMembers (schema : Json) (members : List (String × Json)) : Prop where
  known : ∀ m ∈ members, ∃ property, schema.property? m.1 = some property ∧ Describes property m.2
  required : ∀ names name, schema.get? "required" = some (.array names) → .string name ∈ names →
    name ∈ members.map Prod.fst

variable {α : Type} {members : List (String × Json)}

theorem firstFault_eq_none {fields : List AnyField}
    (h : ∀ f ∈ fields, ∀ v, (f.name, v) ∈ members → f.fault v = none) :
    firstFault fields members = none := by
  rw [firstFault, List.findSome?_eq_none_iff]
  intro m hm
  rw [Option.bind_eq_none_iff]
  intro f hf
  have hname : f.name = m.1 := by simpa using List.find?_some hf
  exact h f (List.mem_of_find?_eq_some hf) m.2 (by rw [hname]; exact hm)

theorem ofMembers_eq {fields : List AnyField} {build : Record → Except DecodeError α}
    (h : ∀ f ∈ fields, ∀ v, (f.name, v) ∈ members → f.fault v = none) :
    ofMembers fields build members = build ⟨members, .missingField⟩ := by
  rw [ofMembers, firstFault_eq_none h]

theorem build_of_ofMembers {fields : List AnyField} {build : Record → Except DecodeError α} {a : α}
    (h : ofMembers fields build members = .ok a) : build ⟨members, .missingField⟩ = .ok a := by
  rw [ofMembers] at h
  split at h
  · cases h
  · exact h

theorem mem_keys_of_get {f : Field α} {a : α} {missing : String → DecodeError}
    (h : Record.get ⟨members, missing⟩ f = .ok a) (hf : f.absent = none) :
    f.name ∈ members.map Prod.fst := by
  rw [Record.get] at h
  cases hl : members.lookup f.name with
  | some v => exact List.mem_map_of_mem (mem_of_lookup hl)
  | none =>
    rw [hl, hf] at h
    cases h

end Json

def Collection.Format.name : Collection.Format → String
  | json => "json"
  | css => "css"
  | js => "js"

namespace Tool

open Json (Describes DescribesMembers Decoder)

def Call.argument? : Call → String → Option Json
  | .search args, "query" => args.query.map .string
  | .search args, "category" => args.category.map .string
  | .code args, "componentName" => some (.string args.component)
  | .code args, "includeStories" => some (.bool args.siblings.stories)
  | .code args, "includeTypes" => some (.bool args.siblings.types)
  | .code args, "includeIndex" => some (.bool args.siblings.index)
  | .tokens args, "category" => args.category.map Category.toJson
  | .tokens args, "format" => some (.string args.format.name)
  | .theme options, name => options.toJson.get? name
  | .integrate request, "components" => some (.strings request.components)
  | .integrate request, name => request.options.toJson.get? name
  | _, _ => none

/-- What an argument has of the members: a value that is given for it, or else its default. -/
def Argument.valueIn (a : Argument) (members : List (String × Json)) : Option Json :=
  (members.lookup a.name).or a.absent

structure Schema.Takes (s : Schema) (members : List (String × Json)) : Prop where
  known : ∀ m ∈ members, m.1 ∈ s.arguments.map Argument.name
  admitted : ∀ a ∈ s.arguments, ∀ v, (a.name, v) ∈ members → a.kind.admits v = true
  required : ∀ name ∈ s.required, name ∈ members.map Prod.fst

section Schema

variable {a : Argument} {s : Schema} {members : List (String × Json)}

theorem get?_type (a : Argument) : a.toJson.get? "type" = some (.string a.kind.typeName) := rfl

theorem get?_default (a : Argument) : a.toJson.get? "default" = a.absent := by
  obtain ⟨name, kind, description, absent⟩ := a
  cases kind <;> cases absent <;> rfl

theorem get?_enum {names : List String} (h : a.kind = .choice names) :
    a.toJson.get? "enum" = some (.array (names.map .string)) := by
  obtain ⟨name, kind, description, absent⟩ := a
  subst h
  rfl

theorem get?_items (h : a.kind = .texts) :
    a.toJson.get? "items" = some (.object [("type", .string "string")]) := by
  obtain ⟨name, kind, description, absent⟩ := a
  subst h
  rfl

theorem get?_required (h : s.required ≠ []) :
    s.toJson.get? "required" = some (.array (s.required.map .string)) := by
  obtain ⟨arguments, _ | ⟨name, required⟩⟩ := s
  · exact absurd rfl h
  · rfl

theorem mem_required {names : List Json} {name : String}
    (h : s.toJson.get? "required" = some (.array names)) (hn : .string name ∈ names) :
    name ∈ s.required := by
  have hne : s.required ≠ [] := by
    intro hnil
    rw [Schema.toJson, hnil] at h
    cases h
  rw [get?_required hne] at h
  cases h
  obtain ⟨name', hmem, heq⟩ := List.mem_map.mp hn
  cases heq
  exact hmem

theorem property?_toJson (s : Schema) (name : String) :
    s.toJson.property? name = (s.arguments.map fun a => (a.name, a.toJson)).lookup name := rfl

theorem exists_of_property? {name : String} {property : Json}
    (h : s.toJson.property? name = some property) :
    ∃ a ∈ s.arguments, a.name = name ∧ property = a.toJson := by
  rw [property?_toJson] at h
  obtain ⟨a, ha, heq⟩ := List.mem_map.mp (mem_of_lookup h)
  obtain ⟨rfl, rfl⟩ := Prod.mk.inj heq
  exact ⟨a, ha, rfl, rfl⟩

theorem admits_of_describes {v : Json} (h : Describes a.toJson v) : a.kind.admits v = true := by
  obtain ⟨htype, hlisted, hitems⟩ := h
  have hv : v.typeName = a.kind.typeName := htype _ (get?_type a)
  cases hk : a.kind with
  | text =>
    rw [hk] at hv
    obtain ⟨s, rfl⟩ := Json.string_of_typeName hv
    rfl
  | choice names =>
    rw [hk] at hv
    obtain ⟨s, rfl⟩ := Json.string_of_typeName hv
    obtain ⟨name, hn, heq⟩ := List.mem_map.mp (hlisted _ (get?_enum hk))
    cases heq
    exact List.contains_iff_mem.mpr hn
  | flag =>
    rw [hk] at hv
    obtain ⟨b, rfl⟩ := Json.bool_of_typeName hv
    rfl
  | texts =>
    rw [hk] at hv
    obtain ⟨items, rfl⟩ := Json.array_of_typeName hv
    refine List.all_eq_true.mpr fun x hx => ?_
    obtain ⟨hitem, -, -⟩ := hitems _ items (get?_items hk) rfl x hx
    obtain ⟨s, rfl⟩ := Json.string_of_typeName (hitem _ rfl)
    rfl

theorem takes_of_describesMembers (hn : (s.arguments.map Argument.name).Nodup)
    (h : DescribesMembers s.toJson members) : s.Takes members where
  known m hm := by
    obtain ⟨property, hp, -⟩ := h.known m hm
    obtain ⟨a, ha, heq, -⟩ := exists_of_property? hp
    exact heq ▸ List.mem_map_of_mem ha
  admitted a ha v hv := by
    obtain ⟨property, hp, hd⟩ := h.known _ hv
    obtain ⟨b, hb, heq, rfl⟩ := exists_of_property? hp
    obtain rfl : b = a := List.inj_on_of_nodup_map hn hb ha heq
    exact admits_of_describes hd
  required name hr := by
    have hne : s.required ≠ [] := List.ne_nil_of_mem hr
    exact h.required _ name (get?_required hne) (List.mem_map_of_mem hr)

end Schema

section Read

variable {α : Type} {k : Kind} {d : Decoder α} {write : α → Option Json}

/-- A decoder reads all that a kind admits, and nothing of it is lost. -/
def Kind.ReadBy (k : Kind) (d : Decoder α) (write : α → Option Json) : Prop :=
  ∀ v, k.admits v = true → ∃ x, d v = .ok x ∧ write x = some v

theorem exists_of_admits_choice {names : List String} {v : Json}
    (h : (Kind.choice names).admits v = true) : ∃ name ∈ names, v = .string name := by
  rcases v with (_ | _ | _ | _ | s) | _ | _
  case scalar.string => exact ⟨s, List.contains_iff_mem.mp h, rfl⟩
  all_goals cases h

theorem readBy_text : Kind.ReadBy .text Decoder.string fun s => some (.string s) := by
  rintro ((_ | _ | _ | _ | s) | _ | _) hv
  case scalar.string => exact ⟨s, rfl, rfl⟩
  all_goals cases hv

theorem readBy_choice (names : List String) :
    Kind.ReadBy (.choice names) Decoder.string fun s => some (.string s) := by
  intro v hv
  obtain ⟨name, -, rfl⟩ := exists_of_admits_choice hv
  exact ⟨name, rfl, rfl⟩

theorem readBy_flag : Kind.ReadBy .flag Decoder.bool fun b => some (.bool b) := by
  rintro ((_ | b | _ | _ | _) | _ | _) hv
  case scalar.bool => exact ⟨b, rfl, rfl⟩
  all_goals cases hv

theorem readBy_texts :
    Kind.ReadBy .texts (Decoder.list Decoder.string) fun ss => some (.strings ss) := by
  rintro ((_ | _ | _ | _ | _) | items | _) hv
  case array =>
    have hitems : items ∈ Set.range (List.map Json.string) := by
      rw [Set.range_list_map]
      intro x hx
      have hx := List.all_eq_true.mp hv x hx
      rcases x with (_ | _ | _ | _ | s) | _ | _
      case scalar.string => exact ⟨s, rfl⟩
      all_goals cases hx
    obtain ⟨ss, rfl⟩ := hitems
    exact ⟨ss, Json.list_strings ss, rfl⟩
  all_goals cases hv

theorem readBy_variant (known : List (String × α)) {name : α → String}
    (hw : ∀ m ∈ known, name m.2 = m.1) (empty : Json → Bool) :
    Kind.ReadBy (.choice (known.map Prod.fst)) (Decoder.variant known empty)
      fun x => some (.string (name x)) := by
  intro v hv
  obtain ⟨s, hs, rfl⟩ := exists_of_admits_choice hv
  obtain ⟨x, hx⟩ := exists_lookup hs
  have hname : name x = s := hw _ (mem_of_lookup hx)
  refine ⟨x, ?_, congrArg (fun n => some (Json.string n)) hname⟩
  rw [Decoder.variant, Decoder.named, hx]

theorem readBy_category : Kind.ReadBy (.choice (Category.all.map Category.name)) Category.decoder
    fun c => some (.string c.name) := readBy_variant Category.named (by decide) _

theorem readBy_format : Kind.ReadBy
    (.choice (Collection.Format.named.map Prod.fst)) Collection.Format.decoder
    fun f => some (.string f.name) := readBy_variant _ (by decide) _

theorem readBy_framework (empty : Json → Bool) :
    Kind.ReadBy (.choice (Plan.Framework.named.map Prod.fst))
      (Decoder.variant Plan.Framework.named empty)
      fun f => some (.string f.name) := readBy_variant _ (by decide) _

/-- A field that is read as an argument is advertised: what the argument admits is read, and if it
is left out the field has the argument's default. -/
structure Argument.ReadAs (a : Argument) (f : Json.Field α) (write : α → Option Json) : Prop where
  name : f.name = a.name
  given : a.kind.ReadBy f.decode write
  absent : ∀ x, f.absent = some x → write x = a.absent

section ReadAs

variable {name description : String} {default : Option Json}

theorem readAs_required (h : k.ReadBy d write) :
    Argument.ReadAs ⟨name, k, description, default⟩ (.required name d) write := ⟨rfl, h, nofun⟩

theorem readAs_withDefault (h : k.ReadBy d write) {x : α} (hx : write x = default) :
    Argument.ReadAs ⟨name, k, description, default⟩ (.withDefault name d x) write :=
  ⟨rfl, h, fun _ heq => Option.some.inj heq ▸ hx⟩

theorem readAs_optional (h : k.ReadBy d write) :
    Argument.ReadAs ⟨name, k, description, none⟩ (.optional name d) (·.bind write) := by
  refine ⟨rfl, fun v hv => ?_, fun _ heq => Option.some.inj heq ▸ rfl⟩
  obtain ⟨x, hx, hw⟩ := h v hv
  refine ⟨some x, ?_, hw⟩
  -- An optional field takes null for nothing, but no kind admits null.
  have hnull : v ≠ .null := by
    rintro rfl
    cases k <;> cases hv
  have hoption : d.option v = (d v).map some := by
    rcases v with (_ | _ | _ | _ | _) | _ | _
    case scalar.null => exact absurd rfl hnull
    all_goals rfl
  show d.option v = .ok (some x)
  rw [hoption, hx]
  rfl

end ReadAs

variable {a : Argument} {s : Schema} {f : Json.Field α} {members : List (String × Json)}

theorem Schema.Takes.read (h : s.Takes members) (ha : a ∈ s.arguments) (hf : a.ReadAs f write)
    (hr : f.absent.isSome ∨ a.name ∈ s.required) :
    (∀ v, (f.any.name, v) ∈ members → f.any.fault v = none) ∧
      ∃ x, Json.Record.get ⟨members, .missingField⟩ f = .ok x ∧ write x = a.valueIn members := by
  refine ⟨fun v hv => ?_, ?_⟩
  · obtain ⟨x, hx, -⟩ := hf.given v (h.admitted a ha v (hf.name ▸ hv))
    simp [Json.Field.any, hx]
  · rw [Json.Record.get, hf.name, Argument.valueIn]
    cases hl : members.lookup a.name with
    | some v => exact hf.given v (h.admitted a ha v (mem_of_lookup hl))
    | none =>
      cases hx : f.absent with
      | some x => exact ⟨x, rfl, hf.absent x hx⟩
      | none =>
        have hr : a.name ∈ s.required := hr.resolve_left (by simp [hx])
        obtain ⟨v, hv⟩ := exists_lookup (h.required _ hr)
        cases hl.symm.trans hv

theorem Schema.Takes.passed (h : s.Takes members) (hf : f.name ∉ s.arguments.map Argument.name)
    {x : α} (hx : f.absent = some x) :
    (∀ v, (f.any.name, v) ∈ members → f.any.fault v = none) ∧
      Json.Record.get ⟨members, .missingField⟩ f = .ok x := by
  refine ⟨fun v hv => absurd (h.known _ hv) hf, ?_⟩
  have hl : members.lookup f.name = none := by
    refine List.lookup_eq_none_iff.mpr fun m hm => bne_iff_ne.mpr ?_
    rintro heq
    exact hf (heq ▸ h.known m hm)
  rw [Json.Record.get, hl, hx]

end Read

section Decode

variable {members : List (String × Json)}

/-- The members are a call of the tool, which has for each argument the value that is given or the
default. -/
def Reads (t : Tool) (members : List (String × Json)) : Prop :=
  ∃ call, decode (.object members) t = .ok call ∧ call.tool = t ∧
    ∀ a ∈ t.schema.arguments, call.argument? a.name = a.valueIn members

theorem reads_search (h : searchComponents.schema.Takes members) :
    searchComponents.Reads members := by
  obtain ⟨fquery, query, hquery, wquery⟩ :=
    h.read (.head _) (readAs_optional readBy_text) (.inl rfl)
  obtain ⟨fcategory, category, hcategory, wcategory⟩ :=
    h.read (.tail _ (.head _)) (readAs_optional (readBy_choice _)) (.inl rfl)
  refine ⟨.search ⟨query, category⟩, ?_, rfl, ?_⟩
  · rw [decode, Search.decoder, Json.record, Json.ofMembers_eq]
    · simp only [hquery, hcategory, bind, Except.bind]
      rfl
    · simp only [List.forall_mem_cons]
      exact ⟨fquery, fcategory, List.forall_mem_nil _⟩
  · simp only [schema, List.forall_mem_cons]
    refine ⟨?_, ?_, List.forall_mem_nil _⟩
    · rw [← wquery]
      cases query <;> rfl
    · rw [← wcategory]
      cases category <;> rfl

theorem reads_code (h : getComponentCode.schema.Takes members) :
    getComponentCode.Reads members := by
  obtain ⟨fcomponent, component, hcomponent, wcomponent⟩ :=
    h.read (.head _) (readAs_required readBy_text) (.inr (.head _))
  obtain ⟨fstories, stories, hstories, wstories⟩ :=
    h.read (.tail _ (.head _)) (readAs_withDefault readBy_flag rfl) (.inl rfl)
  obtain ⟨ftypes, types, htypes, wtypes⟩ :=
    h.read (.tail _ (.tail _ (.head _))) (readAs_withDefault readBy_flag rfl) (.inl rfl)
  obtain ⟨findex, index, hindex, windex⟩ :=
    h.read (.tail _ (.tail _ (.tail _ (.head _)))) (readAs_withDefault readBy_flag rfl) (.inl rfl)
  refine ⟨.code ⟨component, ⟨stories, types, index⟩⟩, ?_, rfl, ?_⟩
  · rw [decode, CodeQuery.decoder, Json.record, Json.ofMembers_eq]
    · simp only [hcomponent, hstories, htypes, hindex, bind, Except.bind]
      rfl
    · simp only [List.forall_mem_cons]
      exact ⟨fcomponent, fstories, ftypes, findex, List.forall_mem_nil _⟩
  · simp only [schema, List.forall_mem_cons]
    exact ⟨wcomponent, wstories, wtypes, windex, List.forall_mem_nil _⟩

theorem reads_tokens (h : getDesignTokens.schema.Takes members) :
    getDesignTokens.Reads members := by
  obtain ⟨fcategory, category, hcategory, wcategory⟩ :=
    h.read (.head _) (readAs_optional readBy_category) (.inl rfl)
  obtain ⟨fformat, format, hformat, wformat⟩ :=
    h.read (.tail _ (.head _)) (readAs_withDefault (x := .json) readBy_format rfl) (.inl rfl)
  refine ⟨.tokens ⟨category, format⟩, ?_, rfl, ?_⟩
  · rw [decode, TokenQuery.decoder, Json.record, Json.ofMembers_eq]
    · simp only [hcategory, hformat, bind, Except.bind]
      rfl
    · simp only [List.forall_mem_cons]
      exact ⟨fcategory, fformat, List.forall_mem_nil _⟩
  · simp only [schema, List.forall_mem_cons]
    refine ⟨?_, wformat, List.forall_mem_nil _⟩
    rw [← wcategory]
    cases category <;> rfl

theorem reads_theme (h : applyThemeSetup.schema.Takes members) : applyThemeSetup.Reads members := by
  obtain ⟨ftarget, target, htarget, wtarget⟩ :=
    h.read (f := Plan.Options.target?) (.head _) (readAs_required readBy_text) (.inr (.head _))
  obtain ⟨fframework, framework, hframework, wframework⟩ :=
    h.read (f := Plan.Options.framework? Decoder.isNull) (.tail _ (.head _))
      (readAs_withDefault (readBy_framework _) rfl) (.inl rfl)
  obtain ⟨ftypescript, typescript, htypescript, wtypescript⟩ :=
    h.read (f := Plan.Options.typescript?) (.tail _ (.tail _ (.head _)))
      (readAs_withDefault readBy_flag rfl) (.inl rfl)
  obtain ⟨ftailwind, tailwind, htailwind, wtailwind⟩ :=
    h.read (f := Plan.Options.tailwind?) (.tail _ (.tail _ (.tail _ (.head _))))
      (readAs_withDefault readBy_flag rfl) (.inl rfl)
  -- There is a field that the schema does not tell of.
  obtain ⟨fstorybook, hstorybook⟩ := h.passed (f := Plan.Options.storybook?) (by decide) rfl
  refine ⟨.theme ⟨target, framework, typescript, tailwind, false⟩, ?_, rfl, ?_⟩
  · rw [decode, Plan.Options.decoder, Json.record, Json.ofMembers_eq]
    · simp only [Plan.Options.ofRecord, htarget, hframework, htypescript, htailwind, hstorybook,
        bind, Except.bind]
      rfl
    · simp only [Plan.Options.fields, List.forall_mem_cons]
      exact ⟨ftarget, fframework, ftypescript, ftailwind, fstorybook, List.forall_mem_nil _⟩
  · simp only [schema, List.forall_mem_cons]
    exact ⟨wtarget, wframework, wtypescript, wtailwind, List.forall_mem_nil _⟩

theorem reads_integrate (h : integrateComponents.schema.Takes members) :
    integrateComponents.Reads members := by
  obtain ⟨fcomponents, components, hcomponents, wcomponents⟩ :=
    h.read (f := Plan.Request.components?) (.head _) (readAs_required readBy_texts) (.inr (.head _))
  obtain ⟨ftarget, target, htarget, wtarget⟩ :=
    h.read (f := Plan.Options.target?) (.tail _ (.head _)) (readAs_required readBy_text)
      (.inr (.tail _ (.head _)))
  obtain ⟨fframework, framework, hframework, wframework⟩ :=
    h.read (f := Plan.Options.framework? Plan.Request.isEmpty) (.tail _ (.tail _ (.head _)))
      (readAs_withDefault (readBy_framework _) rfl) (.inl rfl)
  obtain ⟨fstorybook, storybook, hstorybook, wstorybook⟩ :=
    h.read (f := Plan.Options.storybook?) (.tail _ (.tail _ (.tail _ (.head _))))
      (readAs_withDefault readBy_flag rfl) (.inl rfl)
  -- The options have two fields that the schema does not tell of.
  obtain ⟨ftypescript, htypescript⟩ := h.passed (f := Plan.Options.typescript?) (by decide) rfl
  obtain ⟨ftailwind, htailwind⟩ := h.passed (f := Plan.Options.tailwind?) (by decide) rfl
  refine ⟨.integrate ⟨components, ⟨target, framework, true, true, storybook⟩⟩, ?_, rfl, ?_⟩
  · rw [decode, Plan.Request.decoder, Json.ofMembers_eq, Json.ofMembers_eq]
    · simp only [hcomponents, Plan.Options.ofRecord, htarget, hframework, htypescript, htailwind,
        hstorybook, bind, Except.bind]
      rfl
    · simp only [Plan.Options.fields, List.forall_mem_cons]
      exact ⟨ftarget, fframework, ftypescript, ftailwind, fstorybook, List.forall_mem_nil _⟩
    · simp only [List.forall_mem_cons]
      exact ⟨fcomponents, List.forall_mem_nil _⟩
  · simp only [schema, List.forall_mem_cons]
    exact ⟨wcomponents, wtarget, wframework, wstorybook, List.forall_mem_nil _⟩

theorem reads_of_takes {t : Tool} (h : t.schema.Takes members) : t.Reads members := by
  cases t with
  | searchComponents => exact reads_search h
  | getComponentCode => exact reads_code h
  | getDesignTokens => exact reads_tokens h
  | applyThemeSetup => exact reads_theme h
  | integrateComponents => exact reads_integrate h

theorem mem_keys_of_decode {t : Tool} {call : Call} (h : decode (.object members) t = .ok call) :
    ∀ name ∈ t.schema.required, name ∈ members.map Prod.fst := by
  cases t with
  | searchComponents => exact List.forall_mem_nil _
  | getDesignTokens => exact List.forall_mem_nil _
  | getComponentCode =>
    obtain ⟨args, hargs, -⟩ := map_eq_ok.mp h
    rw [CodeQuery.decoder, Json.record] at hargs
    obtain ⟨component, hcomponent, -⟩ := bind_eq_ok.mp (Json.build_of_ofMembers hargs)
    exact List.forall_mem_singleton.mpr (Json.mem_keys_of_get hcomponent rfl)
  | applyThemeSetup =>
    obtain ⟨options, hoptions, -⟩ := map_eq_ok.mp h
    rw [Plan.Options.decoder, Json.record] at hoptions
    obtain ⟨target, htarget, -⟩ := bind_eq_ok.mp (Json.build_of_ofMembers hoptions)
    exact List.forall_mem_singleton.mpr (Json.mem_keys_of_get htarget rfl)
  | integrateComponents =>
    obtain ⟨request, hrequest, -⟩ := map_eq_ok.mp h
    obtain ⟨components, hcomponents, hrest⟩ := bind_eq_ok.mp hrequest
    obtain ⟨options, hoptions, -⟩ := bind_eq_ok.mp hrest
    obtain ⟨target, htarget, -⟩ := bind_eq_ok.mp (Json.build_of_ofMembers hoptions)
    refine List.forall_mem_cons.mpr ⟨?_, List.forall_mem_singleton.mpr ?_⟩
    · exact Json.mem_keys_of_get (Json.build_of_ofMembers hcomponents) rfl
    · exact Json.mem_keys_of_get htarget rfl

/-- What a client is told of the arguments of a tool is what is read. An object that the schema
describes is a call of the tool: it has the values that are given as they are, and for the others
the defaults that the schema tells. An object without a member that the schema asks for is no call.
-/
theorem schema_sound (t : Tool) :
    ∃ schema, t.definition.get? "name" = some (.string t.name) ∧
      t.definition.get? "inputSchema" = some schema ∧
      (∀ members, DescribesMembers schema members →
        ∃ call, Tool.call t.name (.object members) = .ok call ∧ call.tool = t ∧
          ∀ name property, schema.property? name = some property →
            call.argument? name = (members.lookup name).or (property.get? "default")) ∧
      (∀ members names name, schema.get? "required" = some (.array names) → .string name ∈ names →
        name ∉ members.map Prod.fst →
          ∃ e, Tool.call t.name (.object members) = .error (.invalidArguments t e)) ∧
      Tool.call t.name .null = Tool.call t.name (.object []) := by
  have hcall (members) : Tool.call t.name (.object members) =
      (decode (.object members) t).mapError (.invalidArguments t) := by
    rw [Tool.call, ofName?_eq_some_iff.mpr rfl]
    rfl
  refine ⟨t.schema.toJson, rfl, rfl, fun members hm => ?_, fun members names name hr hname hmem =>
    ?_, ?_⟩
  · have hnames : (t.schema.arguments.map Argument.name).Nodup := by
      cases t <;> decide
    obtain ⟨call, hdecode, htool, hvalues⟩ := reads_of_takes (takes_of_describesMembers hnames hm)
    refine ⟨call, ?_, htool, fun name property hp => ?_⟩
    · rw [hcall, hdecode]
      rfl
    · obtain ⟨a, ha, rfl, rfl⟩ := exists_of_property? hp
      rw [get?_default]
      exact hvalues a ha
  · cases hdecode : decode (.object members) t with
    | ok call => exact absurd (mem_keys_of_decode hdecode name (mem_required hr hname)) hmem
    | error e =>
      refine ⟨e, ?_⟩
      rw [hcall, hdecode]
      rfl
  · rfl

theorem schema_sound_partial :
    let members : List (String × Json) :=
      [("targetPath", .string "app"), ("components", .strings ["card"])]
    DescribesMembers integrateComponents.schema.toJson members ∧
    (∃ call, Tool.call "integrate_components" (.object members) = .ok call ∧
      call.argument? "components" = some (.strings ["card"]) ∧
      call.argument? "targetPath" = some (.string "app") ∧
      call.argument? "framework" = some (.string "vite") ∧
      call.argument? "setupStorybook" = some (.bool false)) ∧
    ∃ e, Tool.call "integrate_components" (.object members.tail) =
      .error (.invalidArguments integrateComponents e) := by
  intro members
  obtain ⟨schema, -, hschema, hcalls, hmissing, -⟩ := schema_sound integrateComponents
  obtain rfl : integrateComponents.schema.toJson = schema := Option.some.inj hschema
  have htext (s : String) (p : Json) (htype : p.get? "type" = some (.string "string"))
      (hlisted : p.get? "enum" = none) : Describes p (.string s) := by
    refine .intro (fun t ht => ?_) (fun values hv => ?_) nofun
    · cases htype.symm.trans ht
      rfl
    · cases hlisted.symm.trans hv
  have hknown : ∀ m ∈ members, ∃ property,
      integrateComponents.schema.toJson.property? m.1 = some property ∧
      Describes property m.2 := by
    refine List.forall_mem_cons.mpr ⟨⟨_, rfl, htext _ _ rfl rfl⟩, ?_⟩
    refine List.forall_mem_singleton.mpr
      ⟨_, rfl, .intro (fun t ht => ?_) nofun fun s xs hs hxs => ?_⟩
    · cases ht
      rfl
    · cases hs
      cases hxs
      exact List.forall_mem_singleton.mpr (htext _ _ rfl rfl)
  have hrequired : ∀ name ∈ integrateComponents.schema.required, name ∈ members.map Prod.fst := by
    change ∀ name ∈ ["components", "targetPath"], name ∈ ["targetPath", "components"]
    decide
  have hm : DescribesMembers integrateComponents.schema.toJson members :=
    ⟨hknown, fun names name hr hn => hrequired name (mem_required hr hn)⟩
  obtain ⟨call, hcall, -, hvalues⟩ := hcalls members hm
  refine ⟨hm, ⟨call, hcall, ?_, ?_, ?_, ?_⟩, ?_⟩
  · exact hvalues "components" _ rfl
  · exact hvalues "targetPath" _ rfl
  · exact hvalues "framework" _ rfl
  · exact hvalues "setupStorybook" _ rfl
  · exact hmissing members.tail _ "targetPath" rfl (.tail _ (.head _)) (by decide)

end Decode

end Tool

end StyleGuide
