import StyleGuide.Proofs.Envelope

namespace StyleGuide.Rpc.Message

/-- A line is an object in which this id can be read: a text, or a whole number of 64 bits. -/
def HasId (line : String) (id : Id) : Prop :=
  ∃ members, Json.readText line = .ok (.object members) ∧
    members.lookup "id" = some id.toJson ∧ id.Fits

def HasVersion (line : String) : Prop :=
  ∃ members, Json.readText line = .ok (.object members) ∧
    members.lookup "jsonrpc" = some (.string "2.0")

variable {line : String} {refusal : Refusal} {members : List (String × Json)}

theorem hasId_iff (h : Json.readText line = .ok (.object members)) {id : Id} :
    HasId line id ↔ (members.lookup "id").bind Id.ofJson? = some id := by
  have hlookup : (members.lookup "id").bind Id.ofJson? = some id ↔
      members.lookup "id" = some id.toJson ∧ id.Fits := by
    rw [Option.bind_eq_some_iff]
    constructor
    · rintro ⟨j, hj, hid⟩
      obtain ⟨rfl, hfits⟩ := Id.ofJson?_eq_some_iff.mp hid
      exact ⟨hj, hfits⟩
    · rintro ⟨hj, hfits⟩
      exact ⟨_, hj, Id.ofJson?_eq_some_iff.mpr ⟨rfl, hfits⟩⟩
  rw [hlookup]
  constructor
  · rintro ⟨ms, hms, hid⟩
    obtain rfl := Json.object.inj (Except.ok.inj (hms.symm.trans h))
    exact hid
  · exact fun hid => ⟨members, h, hid⟩

theorem hasVersion_iff (h : Json.readText line = .ok (.object members)) :
    HasVersion line ↔ isCurrent members = true := by
  rw [isCurrent_iff]
  constructor
  · rintro ⟨ms, hms, hv⟩
    obtain rfl := Json.object.inj (Except.ok.inj (hms.symm.trans h))
    exact hv
  · exact fun hv => ⟨members, h, hv⟩

theorem id_of_ofMembers (h : ofMembers members = .error refusal) :
    refusal.id = if isCurrent members then (members.lookup "id").bind Id.ofJson? else none := by
  rw [ofMembers] at h
  cases hc : isCurrent members with
  | false =>
    rw [hc] at h
    rw [← Except.error.inj h]
    rfl
  | true =>
    simp only [hc, Bool.not_true, Bool.false_eq_true, if_false] at h
    rw [if_pos rfl]
    cases hid : members.lookup "id" with
    | none =>
      rw [hid] at h
      cases hm : method? members with
      | some m => simp [hm] at h
      | none =>
        simp only [hm] at h
        rw [← Except.error.inj h]
        rfl
    | some j =>
      rw [hid] at h
      rw [Option.bind_some]
      cases hj : Id.ofJson? j with
      | none =>
        simp only [hj] at h
        rw [← Except.error.inj h]
      | some id =>
        cases hm : method? members with
        | some m => simp [hj, hm] at h
        | none =>
          simp only [hj, hm] at h
          rw [← Except.error.inj h]

/-- A line that is refused for its version is refused without an id. For any other reason the
refusal goes under the id of the line, and is without one only if the line has none that can be
read. -/
theorem refused_under_id_iff_version (h : ofLine line = .error refusal) :
    (∀ id, HasId line id → (refusal.reply.id? = some id ↔ HasVersion line)) ∧
    (refusal.reply.id? = none ↔ (∀ id, ¬ HasId line id) ∨ ¬ HasVersion line) := by
  have hreply : refusal.reply.id? = refusal.id := rfl
  rw [hreply]
  by_cases hobject : ∃ members, Json.readText line = .ok (.object members)
  · obtain ⟨members, hread⟩ := hobject
    rw [ofLine_of_object hread] at h
    rw [hasVersion_iff hread, id_of_ofMembers h]
    simp only [hasId_iff hread]
    cases isCurrent members with
    | false => simp
    | true =>
      simp only [if_true, iff_true, not_true, or_false]
      exact ⟨fun id hid => hid, Option.eq_none_iff_forall_ne_some⟩
  · have hno : ∀ id, ¬ HasId line id := fun id ⟨members, hread, _⟩ => hobject ⟨members, hread⟩
    rw [ofLine_of_not_object fun members hread => hobject ⟨members, hread⟩] at h
    rw [← Except.error.inj h]
    exact ⟨fun id hid => absurd hid (hno id), iff_of_true rfl (.inl hno)⟩

theorem refused_under_id_iff_version_nameless :
    let ms : List (String × Json) :=
      [("id", .int 7), ("jsonrpc", .string "2.0"), ("id", .string "call-7"), ("method", .string "")]
    ∃ refusal, ofLine (Json.object ms).compact = .error refusal ∧
      HasId (Json.object ms).compact (.string "call-7") ∧ HasVersion (Json.object ms).compact ∧
      refusal.reply.id? = some (.string "call-7") := by
  intro ms
  have hplain : ∀ m ∈ ms, Json.Plain (Json.Events.deepest - 1) m.2 := by
    simp only [ms, List.forall_mem_cons]
    exact ⟨.int (by decide) (by decide), .string _, .string _, .string _, nofun⟩
  obtain ⟨members, hread, hlookup⟩ := Json.lookup_of_readText hplain
  have hid : HasId (Json.object ms).compact (.string "call-7") :=
    ⟨members, hread, hlookup "id", trivial⟩
  have hversion : HasVersion (Json.object ms).compact := ⟨members, hread, hlookup "jsonrpc"⟩
  have hrefused : ofLine (Json.object ms).compact =
      .error ⟨some (.string "call-7"), .invalidRequest⟩ := by
    rw [ofLine_of_object hread, ofMembers, isCurrent, method?, hlookup "jsonrpc", hlookup "id",
      hlookup "method"]
    rfl
  exact ⟨_, hrefused, hid, hversion, ((refused_under_id_iff_version hrefused).1 _ hid).mpr hversion⟩

/-- The version is missing, and the id is not given back although it can be read. -/
theorem not_refused_under_its_id :
    HasId "\x7b\"id\":1,\"method\":\"ping\"\x7d" (.number 1) ∧
      ofLine "\x7b\"id\":1,\"method\":\"ping\"\x7d" = .error ⟨none, .invalidRequest⟩ := by
  have hline : "\x7b\"id\":1,\"method\":\"ping\"\x7d" =
      (Json.object [("id", .int 1), ("method", .string "ping")]).compact := by
    decide +kernel
  have hplain : ∀ m ∈ [("id", Json.int 1), ("method", Json.string "ping")],
      Json.Plain (Json.Events.deepest - 1) m.2 := by
    simp only [List.forall_mem_cons]
    exact ⟨.int (by decide) (by decide), .string _, nofun⟩
  obtain ⟨members, hread, hlookup⟩ := Json.lookup_of_readText hplain
  rw [← hline] at hread
  refine ⟨⟨members, hread, hlookup "id", by decide, by decide⟩, ?_⟩
  have hversion : isCurrent members = false := by
    rw [isCurrent, hlookup "jsonrpc"]
    rfl
  rw [ofLine_of_object hread, ofMembers, hversion]
  rfl

end StyleGuide.Rpc.Message
