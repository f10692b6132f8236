import StyleGuide.Proofs.Lifecycle
import StyleGuide.Proofs.Readers

namespace StyleGuide

def Json.texts (j : Json) (list name : String) : List String :=
  match j.get? list with
  | some (.array items) => items.filterMap fun item => match item.get? name with
    | some (.string s) => some s
    | _ => none
  | _ => []

def Rpc.Reply.faultCode? : Rpc.Reply → Option Int
  | .result _ _ => none
  | .fault _ f => some f.code

namespace Tool

theorem ofName?_eq_some_iff {name : String} {t : Tool} : ofName? name = some t ↔ t.name = name := by
  constructor
  · intro h
    simpa using List.find?_some h
  · rintro rfl
    cases t <;> rfl

theorem ofName?_eq_none_iff {name : String} : ofName? name = none ↔ name ∉ all.map Tool.name := by
  simp [ofName?, List.find?_eq_none]

theorem name_mem (t : Tool) : t.name ∈ all.map Tool.name := by
  cases t <;> decide

namespace Answer

theorem get?_content (a : Answer) : a.toJson.get? "content" =
    some (.array [.object [("type", .string "text"), ("text", .string a.text)]]) := rfl

theorem get?_isError (a : Answer) :
    a.toJson.get? "isError" = some (.bool true) ↔ a.isError = true := by
  rw [toJson]
  cases a.isError with
  | true => exact ⟨fun _ => rfl, fun _ => rfl⟩
  | false => exact ⟨nofun, nofun⟩

theorem isError_ofResult {α : Type} {doing : String} {g : α → Answer} {x : Except Library.Failure α}
    (hg : ∀ a, (g a).isError = false) :
    (ofResult doing g x).isError = true ↔ ∃ f, x = .error f := by
  cases x with
  | ok a => simp [ofResult, hg a]
  | error f => simp [ofResult, ofFailure]

end Answer

end Tool

namespace Resource

theorem find?_path (r : Resource) :
    all.find? (fun q => q.path.toList = r.path.toList) = some r := by
  cases r <;> rfl

theorem ofUri?_eq_some_iff {uri library : String} {r : Resource} :
    ofUri? uri library = some r ↔ r.uri library = uri := by
  simp only [ofUri?, Option.bind_eq_bind, Option.bind_eq_some_iff, Text.after?_eq_some_iff]
  constructor
  · rintro ⟨_, huri, path, rfl, hr⟩
    have hp : r.path.toList = path := by simpa using List.find?_some hr
    rw [← String.toList_inj, ← huri, ← hp]
    simp [Resource.uri]
  · rintro rfl
    refine ⟨"://".toList ++ r.path.toList, ?_, r.path.toList, rfl, find?_path r⟩
    simp [Resource.uri]

theorem uri_mem (r : Resource) (library : String) : r.uri library ∈ all.map (·.uri library) := by
  have hall : r ∈ all := by cases r <;> decide
  exact List.mem_map_of_mem hall

theorem uri_injective {r r' : Resource} {library : String} (h : r.uri library = r'.uri library) :
    r = r' := by
  have hr : ofUri? (r.uri library) library = some r := ofUri?_eq_some_iff.mpr rfl
  have hr' : ofUri? (r.uri library) library = some r' := ofUri?_eq_some_iff.mpr h.symm
  exact Option.some.inj (hr.symm.trans hr')

theorem ofUri?_eq_none_iff {uri library : String} :
    ofUri? uri library = none ↔ uri ∉ all.map (·.uri library) := by
  rw [Option.eq_none_iff_forall_ne_some]
  simp only [ne_eq, ofUri?_eq_some_iff]
  constructor
  · intro h hm
    obtain ⟨r, -, hr⟩ := List.mem_map.mp hm
    exact h r hr
  · rintro h r rfl
    exact h (uri_mem r library)

end Resource

namespace Library

variable {lib : Library} {files : Files} {now : String}

/-- The reader behind a call fails. A plan that cannot be made is no failure of a reader. -/
def CallFails (lib : Library) (files : Files) (now : String) : Tool.Call → Prop
  | .search args => ∃ f, lib.search files (args.query.getD "") args.category = .error f
  | .code args => (∃ f, lib.code files args.component args.siblings = .error f) ∨
      ∃ f, lib.info files args.component = .error f
  | .tokens args => ∃ f, lib.tokens files now args.category = .error f
  | .theme _ => False
  | .integrate _ => False

theorem codeWithInfo_fails {args : Tool.CodeQuery} : (∃ f, lib.codeWithInfo files args = .error f) ↔
    (∃ f, lib.code files args.component args.siblings = .error f) ∨
      ∃ f, lib.info files args.component = .error f := by
  simp only [codeWithInfo_eq_error]
  cases lib.code files args.component args.siblings with
  | error f => simp
  | ok code => simp

theorem isError_answer (call : Tool.Call) :
    (lib.answer files now call).isError = true ↔ lib.CallFails files now call := by
  cases call with
  | search args => exact Tool.Answer.isError_ofResult fun _ => rfl
  | code args => exact (Tool.Answer.isError_ofResult fun _ => rfl).trans codeWithInfo_fails
  | tokens args => exact Tool.Answer.isError_ofResult fun _ => rfl
  | theme o | integrate r => exact ⟨nofun, nofun⟩

def ResourceFails (lib : Library) (files : Files) (now : String) : Resource → Prop
  | .componentCatalog => ∃ f, lib.catalog files = .error f
  | .colorTokens => (∃ f, lib.tokens files now (some .color) = .error f) ∨
      ∃ f, lib.colorGroups files now = .error f
  | .tailwindConfig => ∃ f, lib.tailwind files = .error f

theorem body_fails (r : Resource) :
    (∃ f, lib.body files now r = .error f) ↔ lib.ResourceFails files now r := by
  cases r with
  | componentCatalog | tailwindConfig => simp only [body, ResourceFails, map_eq_error]
  | colorTokens =>
    simp only [body, ResourceFails, bind_eq_error]
    cases lib.tokens files now (some .color) with
    | error f => simp
    | ok tokens => cases lib.colorGroups files now <;> simp [pure, Except.pure]

end Library

namespace Server

open Rpc

variable {s : Server} {w : World}

/-- There is nothing to decode, or it does not decode. -/
def Undecodable {α : Type} (d : Json.Decoder α) (p : Option Json) : Prop :=
  p = none ∨ ∃ j e, p = some j ∧ d j = .error e

theorem params_eq_ok {α : Type} {d : Json.Decoder α} {what : String} {p : Option Json} {a : α} :
    params d what p = .ok a ↔ ∃ j, p = some j ∧ d j = .ok a := by
  cases p with
  | none => simp [params]
  | some j => simp [params, mapError_eq_ok]

theorem params_eq_error {α : Type} {d : Json.Decoder α} {what : String} {p : Option Json}
    {f : Fault} (h : params d what p = .error f) : f.code = -32602 ∧ Undecodable d p := by
  cases p with
  | none =>
    cases h
    exact ⟨rfl, .inl rfl⟩
  | some j =>
    obtain ⟨e, he, rfl⟩ := mapError_eq_error.mp h
    exact ⟨rfl, .inr ⟨j, e, rfl, he⟩⟩

theorem texts_toolList : toolList.texts "tools" "name" = Tool.all.map Tool.name := rfl

theorem texts_resourceList (s : Server) :
    s.resourceList.texts "resources" "uri" = Resource.all.map (·.uri s.library.name) := rfl

inductive CallOutcome (s : Server) (w : World) (p : Option Json) : Prop where
  | undecodable (f : Fault) (hp : Undecodable ToolParams.decoder p) (hf : f.code = -32602)
    (h : s.callTool w p = .error f)
  | unlisted (j : Json) (c : ToolParams) (f : Fault) (hp : p = some j)
    (hj : ToolParams.decoder j = .ok c) (hn : c.name ∉ Tool.all.map Tool.name)
    (hf : f.code = -32602) (h : s.callTool w p = .error f)
  | answered (j : Json) (c : ToolParams) (t : Tool) (answer : Tool.Answer) (hp : p = some j)
    (hj : ToolParams.decoder j = .ok c) (ht : t.name = c.name)
    (ha : answer.isError = true ↔ (∃ e, Tool.decode (Tool.given c.arguments) t = .error e) ∨
      ∃ call, Tool.decode (Tool.given c.arguments) t = .ok call ∧
        s.library.CallFails w.files w.now call)
    (h : s.callTool w p = .ok answer.toJson)

theorem callOutcome (s : Server) (w : World) (p : Option Json) : CallOutcome s w p := by
  cases hp : params ToolParams.decoder "tool call" p with
  | error f =>
    obtain ⟨hf, hu⟩ := params_eq_error hp
    refine .undecodable f hu hf ?_
    rw [callTool, hp]
    rfl
  | ok c =>
    obtain ⟨j, rfl, hj⟩ := params_eq_ok.mp hp
    cases ht : Tool.ofName? c.name with
    | none =>
      have hn := Tool.ofName?_eq_none_iff.mp ht
      let f : Fault := .invalidParams (Tool.Refusal.unknownTool c.name).message
      refine .unlisted j c f rfl hj hn rfl ?_
      rw [callTool, hp]
      simp only [bind, Except.bind, Tool.call, ht]
      rfl
    | some t =>
      have hname : t.name = c.name := Tool.ofName?_eq_some_iff.mp ht
      cases hd : Tool.decode (Tool.given c.arguments) t with
      | error e =>
        let answer : Tool.Answer := ⟨(Tool.Refusal.invalidArguments t e).message, true⟩
        refine .answered j c t answer rfl hj hname ⟨fun _ => .inl ⟨e, hd⟩, fun _ => rfl⟩ ?_
        rw [callTool, hp]
        simp only [bind, Except.bind, Tool.call, ht, hd, Except.mapError]
        rfl
      | ok call =>
        let answer := s.library.answer w.files w.now call
        have ha : answer.isError = true ↔
            (∃ e, Tool.decode (Tool.given c.arguments) t = .error e) ∨
            ∃ call, Tool.decode (Tool.given c.arguments) t = .ok call ∧
              s.library.CallFails w.files w.now call := by
          rw [Library.isError_answer]
          simp [hd]
        refine .answered j c t answer rfl hj hname ha ?_
        rw [callTool, hp]
        simp only [bind, Except.bind, Tool.call, ht, hd, Except.mapError]
        rfl

inductive ReadOutcome (s : Server) (w : World) (p : Option Json) : Prop where
  | undecodable (f : Fault) (hp : Undecodable uriDecoder p) (hf : f.code = -32602)
    (h : s.readResource w p = .error f)
  | unlisted (j : Json) (uri : String) (hp : p = some j) (hj : uriDecoder j = .ok uri)
    (hn : uri ∉ Resource.all.map (·.uri s.library.name))
    (h : s.readResource w p = .error (.unknownResource uri))
  | failed (j : Json) (r : Resource) (f : Library.Failure) (hp : p = some j)
    (hj : uriDecoder j = .ok (r.uri s.library.name))
    (hf : s.library.body w.files w.now r = .error f)
    (h : s.readResource w p = .error (.internal f.detailed))
  | given (j : Json) (r : Resource) (body : Json) (hp : p = some j)
    (hj : uriDecoder j = .ok (r.uri s.library.name))
    (hb : s.library.body w.files w.now r = .ok body)
    (h : s.readResource w p = .ok (.object
      [("contents", .array [Resource.contents (r.uri s.library.name) body])]))

theorem readOutcome (s : Server) (w : World) (p : Option Json) : ReadOutcome s w p := by
  cases hp : params uriDecoder "resource read" p with
  | error f =>
    obtain ⟨hf, hu⟩ := params_eq_error hp
    refine .undecodable f hu hf ?_
    rw [readResource, hp]
    rfl
  | ok uri =>
    obtain ⟨j, rfl, hj⟩ := params_eq_ok.mp hp
    cases hr : Resource.ofUri? uri s.library.name with
    | none =>
      refine .unlisted j uri rfl hj (Resource.ofUri?_eq_none_iff.mp hr) ?_
      rw [readResource, hp]
      simp only [bind, Except.bind, hr]
      rfl
    | some r =>
      obtain rfl := Resource.ofUri?_eq_some_iff.mp hr
      cases hb : s.library.body w.files w.now r with
      | error f =>
        refine .failed j r f rfl hj hb ?_
        rw [readResource, hp]
        simp only [bind, Except.bind, hr, hb, Except.mapError]
      | ok body =>
        refine .given j r body rfl hj hb ?_
        rw [readResource, hp]
        simp only [bind, Except.bind, hr, hb, Except.mapError]
        rfl

theorem not_undecodable {α : Type} {d : Json.Decoder α} {j : Json} {a : α} (h : d j = .ok a) :
    ¬ Undecodable d (some j) := by
  rintro (hp | ⟨_, e, ⟨⟩, he⟩)
  · cases hp
  · cases h.symm.trans he

theorem decoded_unique {α : Type} {d : Json.Decoder α} {p : Option Json} {j j' : Json} {a a' : α}
    (hp : p = some j) (hj : d j = .ok a) (hp' : p = some j') (hj' : d j' = .ok a') :
    j = j' ∧ a = a' := by
  obtain rfl := Option.some.inj (hp.symm.trans hp')
  exact ⟨rfl, Except.ok.inj (hj.symm.trans hj')⟩

theorem request_running (h : s.phase = .running) {method : String} (hm : method ≠ "initialize")
    (id : Id) (p : Option Json) {r : Except Fault Json}
    (hr : s.respond w method p = s.whileRunning r) :
    s.request w ⟨id, method, p⟩ = (s, replyTo id r) := by
  have hrun : s.whileRunning r = r := if_pos h
  rw [s.request_of_ne w hm]
  simp only [hr, hrun]

/-- A call is a fault exactly if it is not one of a tool that `tools` lists. Any other call is
answered by one text, which tells of an error exactly if the arguments are not the tool's or its
reader fails. -/
def CallsListed (s : Server) (w : World) (tools : Json) : Prop :=
  ∀ (id : Id) (p : Option Json),
    let reply := (s.request w ⟨id, "tools/call", p⟩).2
    (reply.faultCode? = some (-32602) ↔ Undecodable ToolParams.decoder p ∨ ∃ j c, p = some j ∧
      ToolParams.decoder j = .ok c ∧ c.name ∉ tools.texts "tools" "name") ∧
    ∀ j c, p = some j → ToolParams.decoder j = .ok c → c.name ∈ tools.texts "tools" "name" →
      ∃ (t : Tool) (value : Json) (text : String), t.name = c.name ∧ reply = .result id value ∧
        value.get? "content" =
          some (.array [.object [("type", .string "text"), ("text", .string text)]]) ∧
        (value.get? "isError" = some (.bool true) ↔
          (∃ e, Tool.decode (Tool.given c.arguments) t = .error e) ∨
          ∃ call, Tool.decode (Tool.given c.arguments) t = .ok call ∧
            s.library.CallFails w.files w.now call)

/-- A resource is read exactly if `resources` lists it and its reader does not fail; the three ways
in which it is not read are told apart. -/
def ReadsListed (s : Server) (w : World) (resources : Json) : Prop :=
  ∀ (id : Id) (p : Option Json),
    let reply := (s.request w ⟨id, "resources/read", p⟩).2
    (reply.faultCode? = some (-32602) ↔ Undecodable uriDecoder p) ∧
    ∀ j uri, p = some j → uriDecoder j = .ok uri →
      (reply.faultCode? = some (-32002) ↔ uri ∉ resources.texts "resources" "uri") ∧
      (uri ∉ resources.texts "resources" "uri" → ∃ f : Fault, reply = .fault (some id) f ∧
        f.data? = some (.object [("uri", .string uri)])) ∧
      ∀ r : Resource, r.uri s.library.name = uri →
        (reply.faultCode? = some (-32603) ↔ s.library.ResourceFails w.files w.now r) ∧
        (¬ s.library.ResourceFails w.files w.now r →
          ∃ value item : Json, reply = .result id value ∧
            value.get? "contents" = some (.array [item]) ∧ item.get? "uri" = some (.string uri))

theorem callsListed (h : s.phase = .running) : s.CallsListed w toolList := by
  intro id p
  rw [request_running h (by decide) id p (r := s.callTool w p) rfl, texts_toolList]
  cases callOutcome s w p with
  | undecodable f hp hf hr =>
    rw [hr]
    refine ⟨⟨fun _ => .inl hp, fun _ => congrArg some hf⟩, ?_⟩
    rintro j c rfl hj
    exact absurd hp (not_undecodable hj)
  | unlisted j c f hp hj hn hf hr =>
    rw [hr]
    refine ⟨⟨fun _ => .inr ⟨j, c, hp, hj, hn⟩, fun _ => congrArg some hf⟩, ?_⟩
    intro j' c' hp' hj' hm
    obtain ⟨rfl, rfl⟩ := decoded_unique hp hj hp' hj'
    exact absurd hm hn
  | answered j c t answer hp hj ht ha hr =>
    rw [hr]
    refine ⟨⟨nofun, ?_⟩, ?_⟩
    · rintro (hu | ⟨j', c', hp', hj', hn⟩)
      · exact absurd hu (hp ▸ not_undecodable hj)
      · obtain ⟨rfl, rfl⟩ := decoded_unique hp hj hp' hj'
        exact absurd (ht ▸ Tool.name_mem t) hn
    · intro j' c' hp' hj' _
      obtain ⟨rfl, rfl⟩ := decoded_unique hp hj hp' hj'
      exact ⟨t, answer.toJson, answer.text, ht, rfl, answer.get?_content,
        answer.get?_isError.trans ha⟩

theorem readsListed (h : s.phase = .running) : s.ReadsListed w s.resourceList := by
  intro id p
  rw [request_running h (by decide) id p (r := s.readResource w p) rfl, texts_resourceList]
  cases readOutcome s w p with
  | undecodable f hp hf hr =>
    rw [hr]
    refine ⟨⟨fun _ => hp, fun _ => congrArg some hf⟩, ?_⟩
    rintro j uri rfl hj
    exact absurd hp (not_undecodable hj)
  | unlisted j uri hp hj hn hr =>
    rw [hr]
    have hcode : (-32002 : Int) ≠ -32602 := by decide
    refine ⟨iff_of_false (mt Option.some.inj hcode) (hp ▸ not_undecodable hj), ?_⟩
    intro j' uri' hp' hj'
    obtain ⟨rfl, rfl⟩ := decoded_unique hp hj hp' hj'
    refine ⟨⟨fun _ => hn, fun _ => rfl⟩, fun _ => ⟨.unknownResource uri, rfl, rfl⟩, ?_⟩
    rintro r rfl
    exact absurd (Resource.uri_mem r s.library.name) hn
  | failed j r f hp hj hf hr =>
    rw [hr]
    have hm := Resource.uri_mem r s.library.name
    have hcode : (-32603 : Int) ≠ -32602 ∧ (-32603 : Int) ≠ -32002 := by decide
    refine ⟨iff_of_false (mt Option.some.inj hcode.1) (hp ▸ not_undecodable hj), ?_⟩
    intro j' uri' hp' hj'
    obtain ⟨rfl, rfl⟩ := decoded_unique hp hj hp' hj'
    refine ⟨iff_of_false (mt Option.some.inj hcode.2) (absurd hm), fun hn => absurd hm hn, ?_⟩
    intro r' hr'
    obtain rfl := Resource.uri_injective hr'
    have hfails := (Library.body_fails r').mp ⟨f, hf⟩
    exact ⟨⟨fun _ => hfails, fun _ => rfl⟩, fun hok => absurd hfails hok⟩
  | given j r body hp hj hb hr =>
    rw [hr]
    have hm := Resource.uri_mem r s.library.name
    refine ⟨iff_of_false nofun (hp ▸ not_undecodable hj), ?_⟩
    intro j' uri' hp' hj'
    obtain ⟨rfl, rfl⟩ := decoded_unique hp hj hp' hj'
    refine ⟨iff_of_false nofun (absurd hm), fun hn => absurd hm hn, ?_⟩
    intro r' hr'
    obtain rfl := Resource.uri_injective hr'
    have hok : ¬ s.library.ResourceFails w.files w.now r' := by
      rw [← Library.body_fails]
      rintro ⟨f, hf⟩
      cases hf.symm.trans hb
    exact ⟨iff_of_false nofun hok, fun _ => ⟨_, _, rfl, rfl, rfl⟩⟩

/-- A tool can be called exactly if it is listed, and a resource can be read exactly if it is. What
is wrong with the arguments of a tool, or with its reader, is told in its answer; what is wrong with
the reader of a resource is a fault. -/
theorem serves_what_it_lists (s : Server) (w : World) (h : s.phase = .running) :
    ∃ tools resources : Json,
      (∀ w' id p, s.request w' ⟨id, "tools/list", p⟩ = (s, .result id tools)) ∧
      (∀ w' id p, s.request w' ⟨id, "resources/list", p⟩ = (s, .result id resources)) ∧
      s.CallsListed w tools ∧ s.ReadsListed w resources := by
  refine ⟨toolList, s.resourceList, ?_, ?_, callsListed h, readsListed h⟩
  · intro w' id p
    exact request_running h (by decide) id p (r := .ok toolList) rfl
  · intro w' id p
    exact request_running h (by decide) id p (r := .ok s.resourceList) rfl

theorem serves_what_it_lists_empty :
    let s : Server := ⟨⟨"src", "acme-ui"⟩, .running, some protocolVersion⟩
    let w : World := ⟨.empty, ""⟩
    let call := fun name => (s.request w
      ⟨.number 1, "tools/call", some (.object [("name", .string name)])⟩).2
    let reading := fun uri => (s.request w
      ⟨.number 2, "resources/read", some (.object [("uri", .string uri)])⟩).2
    s.phase = .running ∧ (call "remove_components").faultCode? = some (-32602) ∧
    (∃ value, call "search_components" = .result (.number 1) value ∧
      value.get? "isError" = some (.bool true)) ∧
    (reading "acme-ui://config").faultCode? = some (-32002) ∧
    (reading "acme-ui://config/tailwind").faultCode? = some (-32603) := by
  intro s w call reading
  obtain ⟨tools, resources, htools, hresources, hcalls, hreads⟩ := serves_what_it_lists s w rfl
  -- What the theorem calls the lists is what the session answers when it is asked for them.
  obtain rfl : tools = toolList := by
    injection congrArg Prod.snd (htools w (.number 0) none) with _ hvalue
    exact hvalue.symm
  obtain rfl : resources = s.resourceList := by
    injection congrArg Prod.snd (hresources w (.number 0) none) with _ hvalue
    exact hvalue.symm
  have hsearch : s.library.search w.files "" none =
      .error (.unlistable "src/components" .absent) := by
    have hc : s.library.components w.files = .error (.unlistable "src/components" .absent) := by
      decide +kernel
    rw [Library.search, hc]
    rfl
  have htailwind : s.library.tailwind w.files =
      .error (.unreadable "src/../tailwind.config.ts" .absent) := by
    have hr : Library.read w.files s.library.tailwindPath =
        .error (.unreadable "src/../tailwind.config.ts" .absent) := by
      decide +kernel
    rw [Library.tailwind, hr]
    rfl
  refine ⟨rfl, ?_, ?_, ?_, ?_⟩
  · refine ((hcalls _ _).1).mpr (.inr ⟨_, ⟨"remove_components", .null⟩, rfl, rfl, ?_⟩)
    rw [texts_toolList]
    decide
  · obtain ⟨t, value, text, ht, hr, -, he⟩ :=
      (hcalls (.number 1) _).2 (.object [("name", .string "search_components")])
        ⟨"search_components", .null⟩ rfl rfl (Tool.name_mem .searchComponents)
    obtain rfl : t = .searchComponents := by
      have hs : Tool.ofName? "search_components" = some t := Tool.ofName?_eq_some_iff.mpr ht
      exact (Option.some.inj hs).symm
    exact ⟨value, hr, he.mpr (.inr ⟨.search ⟨none, none⟩, rfl, _, hsearch⟩)⟩
  · refine ((hreads _ _).2 _ "acme-ui://config" rfl rfl).1.mpr ?_
    rw [texts_resourceList]
    decide
  · obtain ⟨-, -, hlisted⟩ :=
      (hreads (.number 2) _).2 (.object [("uri", .string "acme-ui://config/tailwind")]) _ rfl rfl
    exact (hlisted .tailwindConfig (by decide)).1.mpr ⟨_, htailwind⟩

end Server

end StyleGuide
