import StyleGuide.Proofs.Reading
import StyleGuide.Rpc

namespace StyleGuide

namespace Json

/-- No key stands twice in an object, its parts aside. -/
def Keyed : Json → Prop
  | .object members => (members.map Prod.fst).Nodup
  | _ => True

namespace Builder

def Keyed (b : Builder) : Prop :=
  b.result.Keyed ∧ ∀ members name, .object members name ∈ b.frames → (members.map Prod.fst).Nodup

theorem keyed_place {v : Json} {fs : List Frame} (hv : v.Keyed)
    (hfs : ∀ members name, .object members name ∈ fs → (members.map Prod.fst).Nodup) :
    (place v fs).Keyed := by
  cases fs with
  | nil => exact ⟨hv, nofun⟩
  | cons f fs =>
    cases f with
    | array items =>
      refine ⟨trivial, fun members name hm => ?_⟩
      obtain hm | hm := List.mem_cons.mp hm
      · cases hm
      · exact hfs members name (.tail _ hm)
    | object old key =>
      refine ⟨trivial, fun members name hm => ?_⟩
      obtain hm | hm := List.mem_cons.mp hm
      · cases hm
        exact nodup_keys_put (hfs old _ (.head _))
      · exact hfs members name (.tail _ hm)

theorem keyed_add {b : Builder} (h : b.Keyed) (e : Event) : (b.add e).Keyed := by
  obtain ⟨fs, result⟩ := b
  obtain ⟨hresult, hfs⟩ := h
  have hclose : ∀ {f : Frame} {fs : List Frame},
      (∀ members name, .object members name ∈ f :: fs → (members.map Prod.fst).Nodup) →
      ∀ members name, .object members name ∈ fs → (members.map Prod.fst).Nodup :=
    fun h members name hm => h members name (.tail _ hm)
  cases e with
  | scalar s => exact keyed_place trivial hfs
  | comma => exact ⟨hresult, hfs⟩
  | openArray =>
    refine ⟨hresult, fun members name hm => ?_⟩
    obtain hm | hm := List.mem_cons.mp hm
    · cases hm
    · exact hfs members name hm
  | openObject =>
    refine ⟨hresult, fun members name hm => ?_⟩
    obtain hm | hm := List.mem_cons.mp hm
    · cases hm
      exact .nil
    · exact hfs members name hm
  | key name =>
    match fs with
    | [] => exact ⟨hresult, hfs⟩
    | .array _ :: _ => exact ⟨hresult, hfs⟩
    | .object old _ :: fs =>
      refine ⟨hresult, fun members name hm => ?_⟩
      obtain hm | hm := List.mem_cons.mp hm
      · cases hm
        exact hfs old _ (.head _)
      · exact hfs members name (.tail _ hm)
  | closeArray | closeObject =>
    match fs with
    | [] => exact ⟨hresult, hfs⟩
    | .array _ :: _ => exact keyed_place trivial (hclose hfs)
    | .object members name :: _ => exact keyed_place (hfs members name (.head _)) (hclose hfs)

theorem keyed_start : Builder.start.Keyed := ⟨trivial, nofun⟩

theorem keyed_foldl {b : Builder} (h : b.Keyed) (es : List Event) : (es.foldl add b).Keyed := by
  induction es generalizing b with
  | nil => exact h
  | cons e es ih => exact ih (keyed_add h e)

end Builder

theorem keyed_of_readText {text : String} {j : Json} (h : readText text = .ok j) : j.Keyed := by
  rw [readText, read] at h
  split at h
  · next es _ =>
    rw [← Except.ok.inj h]
    exact (Builder.keyed_foldl Builder.keyed_start es).1
  · cases h

theorem lookup_of_readText {ms : List (String × Json)}
    (h : ∀ m ∈ ms, Plain (Events.deepest - 1) m.2) :
    ∃ members, readText (object ms).compact = .ok (.object members) ∧
      ∀ name, members.lookup name = ms.reverse.lookup name := by
  have hread := read_of_reads (Events.reads_object fun m hm => Events.readable_of_plain (h m hm))
  refine ⟨(OrderedMap.ofList ms).entries, ?_, fun name => OrderedMap.find?_ofList ms name⟩
  rw [readText, compact, String.toList_ofList]
  exact hread

end Json

namespace Rpc

open Decimal (two)

/-- A number of 64 bits with sign; any text. -/
def Id.Fits : Id → Prop
  | number n => -(two 63 : Int) ≤ n ∧ n < two 63
  | string _ => True

theorem Id.ofJson?_eq_some_iff {j : Json} {id : Id} :
    ofJson? j = some id ↔ j = id.toJson ∧ id.Fits := by
  have hgreatest : greatestId = (two 63 : Int) - 1 := rfl
  have hnumber : ∀ n : Int, ofJson? (.int n) = some id ↔ .int n = id.toJson ∧ id.Fits := by
    intro n
    cases id with
    | number m =>
      simp only [ofJson?, toJson, Fits, Option.ite_none_right_eq_some, Option.some.injEq,
        number.injEq, Json.scalar.injEq, Scalar.int.injEq]
      constructor
      · rintro ⟨hn, rfl⟩
        exact ⟨rfl, by omega⟩
      · rintro ⟨rfl, hn⟩
        exact ⟨by omega, rfl⟩
    | string s => simp [ofJson?, toJson]
  cases j with
  | scalar s =>
    cases s with
    | int n => exact hnumber n
    | string s => cases id <;> simp [ofJson?, toJson, Fits, eq_comm]
    | null | bool b | float x => cases id <;> simp [ofJson?, toJson]
  | array items | object members => cases id <;> simp [ofJson?, toJson]

namespace Message

variable {members : List (String × Json)}

/-- What every message has among its members: the version, a method with a name, and its parameters.
There are none exactly if the member is not there or null. -/
structure Carries (members : List (String × Json)) (method : String) (params : Option Json) :
    Prop where
  version : members.lookup "jsonrpc" = some (.string "2.0")
  called : members.lookup "method" = some (.string method)
  named : method ≠ ""
  given : ∀ j, params = some j ↔ members.lookup "params" = some j ∧ j ≠ .null
  absent : params = none ↔ members.lookup "params" = none ∨ members.lookup "params" = some .null

structure IsRequest (members : List (String × Json)) (r : Request) : Prop where
  carries : Carries members r.method r.params
  id : members.lookup "id" = some r.id.toJson
  fits : r.id.Fits

structure IsNotification (members : List (String × Json)) (n : Notification) : Prop where
  carries : Carries members n.method n.params
  id : members.lookup "id" = none

theorem isCurrent_iff :
    isCurrent members = true ↔ members.lookup "jsonrpc" = some (.string "2.0") := by
  rw [isCurrent]
  split
  · next v hv => simp [hv]
  · next hv => simpa using hv "2.0"

theorem method?_eq_some_iff {m : String} :
    method? members = some m ↔ members.lookup "method" = some (.string m) ∧ m ≠ "" := by
  rw [method?]
  split
  · next v hv =>
    rw [hv]
    by_cases he : v = ""
    · have hempty : v.isEmpty = true := String.isEmpty_iff.mpr he
      rw [if_pos hempty]
      refine ⟨nofun, fun h => absurd ?_ h.2⟩
      rw [← he]
      injection Option.some.inj h.1 with hv
      injection hv with hv
      exact hv.symm
    · simp only [String.isEmpty_iff, if_neg he, Option.some.injEq, Json.scalar.injEq,
        Scalar.string.injEq]
      exact ⟨fun h => ⟨h, h ▸ he⟩, fun h => h.1⟩
  · next hv => exact ⟨nofun, fun h => absurd h.1 (hv m)⟩

theorem params?_eq_some_iff {j : Json} :
    params? members = some j ↔ members.lookup "params" = some j ∧ j ≠ .null := by
  rw [params?]
  split
  · next hv =>
    rw [hv]
    exact ⟨nofun, fun h => absurd (Option.some.inj h.1).symm h.2⟩
  · next hv =>
    refine ⟨fun h => ⟨h, ?_⟩, fun h => h.1⟩
    rintro rfl
    exact hv h

theorem params?_eq_none_iff : params? members = none ↔
    members.lookup "params" = none ∨ members.lookup "params" = some .null := by
  rw [params?]
  split
  · next hv => exact ⟨fun _ => .inr hv, fun _ => rfl⟩
  · next hv => exact ⟨.inl, fun h => h.resolve_right hv⟩

theorem carries_iff {method : String} {params : Option Json} : Carries members method params ↔
    isCurrent members = true ∧ method? members = some method ∧ params? members = params := by
  rw [isCurrent_iff, method?_eq_some_iff]
  constructor
  · intro h
    refine ⟨h.version, ⟨h.called, h.named⟩, Option.ext fun j => ?_⟩
    rw [params?_eq_some_iff, h.given]
  · rintro ⟨hv, ⟨hm, hn⟩, rfl⟩
    exact ⟨hv, hm, hn, fun j => params?_eq_some_iff, params?_eq_none_iff⟩

/-- What becomes of the members of an object. -/
inductive Outcome (members : List (String × Json)) : Except Refusal Message → Prop where
  | request (r : Request) (h : IsRequest members r) : Outcome members (.ok (.request r))
  | notification (n : Notification) (h : IsNotification members n) :
      Outcome members (.ok (.notification n))
  | refused (id : Option Id) : Outcome members (.error ⟨id, .invalidRequest⟩)

theorem outcome (members : List (String × Json)) : Outcome members (ofMembers members) := by
  rw [ofMembers]
  cases hc : isCurrent members with
  | false => exact .refused none
  | true =>
    have hcarries : ∀ {m}, method? members = some m → Carries members m (params? members) :=
      fun hm => carries_iff.mpr ⟨hc, hm, rfl⟩
    cases hid : members.lookup "id" with
    | none =>
      cases hm : method? members with
      | none => exact .refused none
      | some m => exact .notification _ ⟨hcarries hm, hid⟩
    | some j =>
      simp only [Bool.not_true, Bool.false_eq_true, if_false]
      cases hj : Id.ofJson? j with
      | none => exact .refused none
      | some id =>
        obtain ⟨rfl, hfits⟩ := Id.ofJson?_eq_some_iff.mp hj
        cases hm : method? members with
        | none => exact .refused (some id)
        | some m => exact .request _ ⟨hcarries hm, hid, hfits⟩

theorem ofMembers_eq_request_iff {r : Request} :
    ofMembers members = .ok (.request r) ↔ IsRequest members r := by
  constructor
  · intro h
    have ho := outcome members
    rw [h] at ho
    cases ho with
    | request _ hr => exact hr
  · intro h
    obtain ⟨hc, hm, hp⟩ := carries_iff.mp h.carries
    have hid : Id.ofJson? r.id.toJson = some r.id := Id.ofJson?_eq_some_iff.mpr ⟨rfl, h.fits⟩
    simp [ofMembers, hc, h.id, hid, hm, hp]

theorem ofMembers_eq_notification_iff {n : Notification} :
    ofMembers members = .ok (.notification n) ↔ IsNotification members n := by
  constructor
  · intro h
    have ho := outcome members
    rw [h] at ho
    cases ho with
    | notification _ hn => exact hn
  · intro h
    obtain ⟨hc, hm, hp⟩ := carries_iff.mp h.carries
    simp [ofMembers, hc, h.id, hm, hp]

theorem ofMembers_eq_error_iff : (∃ refusal, ofMembers members = .error refusal ∧
      refusal.fault.code = -32600) ↔
    (∀ r, ¬ IsRequest members r) ∧ ∀ n, ¬ IsNotification members n := by
  constructor
  · rintro ⟨refusal, h, -⟩
    refine ⟨fun r hr => ?_, fun n hn => ?_⟩
    · rw [ofMembers_eq_request_iff.mpr hr] at h
      cases h
    · rw [ofMembers_eq_notification_iff.mpr hn] at h
      cases h
  · rintro ⟨hr, hn⟩
    generalize ho : ofMembers members = o
    have h := outcome members
    rw [ho] at h
    cases h with
    | request r h => exact absurd h (hr r)
    | notification n h => exact absurd h (hn n)
    | refused id => exact ⟨_, rfl, rfl⟩

theorem code_of_ofMembers {refusal : Refusal} (h : ofMembers members = .error refusal) :
    refusal.fault.code = -32600 := by
  have ho := outcome members
  rw [h] at ho
  cases ho with
  | refused id => rfl

theorem ofLine_of_object {line : String} (h : Json.readText line = .ok (.object members)) :
    ofLine line = ofMembers members := by
  rw [ofLine, h]

theorem ofLine_of_not_object {line : String}
    (h : ∀ members, Json.readText line ≠ .ok (.object members)) :
    ofLine line = .error ⟨none, .notAnObject⟩ := by
  rw [ofLine]
  split
  · next members hm => exact absurd hm (h members)
  · rfl

/-- A line is a request, a notification or neither, and which of them its JSON tells. The members of
an object are told by their names, the last one if a name is repeated. -/
theorem ofLine_classifies (line : String) :
    (∀ r, ofLine line = .ok (.request r) ↔
      ∃ members, Json.readText line = .ok (.object members) ∧ IsRequest members r) ∧
    (∀ n, ofLine line = .ok (.notification n) ↔
      ∃ members, Json.readText line = .ok (.object members) ∧ IsNotification members n) ∧
    ((∃ refusal, ofLine line = .error refusal ∧ refusal.fault.code = -32700) ↔
      ∀ members, Json.readText line ≠ .ok (.object members)) ∧
    ((∃ refusal, ofLine line = .error refusal ∧ refusal.fault.code = -32600) ↔
      ∃ members, Json.readText line = .ok (.object members) ∧
        (∀ r, ¬ IsRequest members r) ∧ ∀ n, ¬ IsNotification members n) ∧
    (∀ members, Json.readText line = .ok (.object members) → (members.map Prod.fst).Nodup) ∧
    ∀ ms : List (String × Json), (∀ m ∈ ms, Json.Plain (Json.Events.deepest - 1) m.2) →
      line = (Json.object ms).compact → ∃ members, Json.readText line = .ok (.object members) ∧
        ∀ name, members.lookup name = ms.reverse.lookup name := by
  have hkeyed : ∀ members, Json.readText line = .ok (.object members) →
      (members.map Prod.fst).Nodup :=
    fun members h => Json.keyed_of_readText h
  have hlast : ∀ ms : List (String × Json), (∀ m ∈ ms, Json.Plain (Json.Events.deepest - 1) m.2) →
      line = (Json.object ms).compact → ∃ members, Json.readText line = .ok (.object members) ∧
        ∀ name, members.lookup name = ms.reverse.lookup name := by
    rintro ms h rfl
    exact Json.lookup_of_readText h
  by_cases hobject : ∃ members, Json.readText line = .ok (.object members)
  · obtain ⟨members, hread⟩ := hobject
    have hmembers : ∀ {p : List (String × Json) → Prop},
        (∃ ms, Json.readText line = .ok (.object ms) ∧ p ms) ↔ p members := by
      intro p
      constructor
      · rintro ⟨ms, hms, hp⟩
        rw [hread] at hms
        cases hms
        exact hp
      · exact fun hp => ⟨members, hread, hp⟩
    refine ⟨fun r => ?_, fun n => ?_, ?_, ?_, hkeyed, hlast⟩
    · rw [hmembers, ofLine_of_object hread, ofMembers_eq_request_iff]
    · rw [hmembers, ofLine_of_object hread, ofMembers_eq_notification_iff]
    · refine iff_of_false ?_ fun h => h members hread
      rintro ⟨refusal, h, hcode⟩
      rw [ofLine_of_object hread] at h
      rw [code_of_ofMembers h] at hcode
      cases hcode
    · rw [hmembers, ofLine_of_object hread, ofMembers_eq_error_iff]
  · have hnone : ∀ members, Json.readText line ≠ .ok (.object members) :=
      fun members h => hobject ⟨members, h⟩
    have hno : ∀ {p : List (String × Json) → Prop},
        ¬ ∃ ms, Json.readText line = .ok (.object ms) ∧ p ms :=
      fun ⟨ms, h, _⟩ => hnone ms h
    have hrefused := ofLine_of_not_object hnone
    refine ⟨fun r => ?_, fun n => ?_, ?_, ?_, hkeyed, hlast⟩
    · exact iff_of_false (by rw [hrefused]; nofun) hno
    · exact iff_of_false (by rw [hrefused]; nofun) hno
    · exact iff_of_true ⟨_, hrefused, rfl⟩ hnone
    · refine iff_of_false ?_ hno
      rintro ⟨refusal, h, hcode⟩
      rw [hrefused] at h
      cases h
      cases hcode

theorem ofLine_classifies_repeated :
    let ms : List (String × Json) :=
      [("jsonrpc", .string "1.0"), ("id", .int 7), ("method", .string "ping"),
      ("jsonrpc", .string "2.0"), ("params", .null)]
    (∀ m ∈ ms, Json.Plain (Json.Events.deepest - 1) m.2) ∧
      ofLine (Json.object ms).compact = .ok (.request ⟨.number 7, "ping", none⟩) := by
  intro ms
  have hplain : ∀ m ∈ ms, Json.Plain (Json.Events.deepest - 1) m.2 := by
    simp only [ms, List.forall_mem_cons]
    exact ⟨.string _, .int (by decide) (by decide), .string _, .string _, .null, nofun⟩
  obtain ⟨hrequest, -, -, -, -, hlast⟩ := ofLine_classifies (Json.object ms).compact
  obtain ⟨members, hread, hlookup⟩ := hlast ms hplain rfl
  have hparams : members.lookup "params" = some .null := hlookup "params"
  have hcarries : Carries members "ping" none := by
    refine ⟨hlookup "jsonrpc", hlookup "method", by decide, fun j => ?_,
      iff_of_true rfl (.inr hparams)⟩
    rw [hparams]
    exact ⟨nofun, fun h => absurd (Option.some.inj h.1).symm h.2⟩
  exact ⟨hplain, (hrequest _).mpr ⟨members, hread, hcarries, hlookup "id", by decide, by decide⟩⟩

end Message

end Rpc

end StyleGuide
