import StyleGuide.Proofs.Lifecycle
import StyleGuide.Proofs.Service

namespace StyleGuide.Server

open Rpc

variable (s : Server)

/-- The requests for which a session looks into its files. -/
def readingMethods : List String := ["tools/call", "resources/read"]

def readsFor : Message → Bool
  | .request r => s.phase == .running && readingMethods.contains r.method
  | .notification _ => false

theorem respond_world {method : String} (h : ¬ (s.phase = .running ∧ method ∈ readingMethods))
    (p : Option Json) (w w' : World) : s.respond w method p = s.respond w' method p := by
  by_cases hm : method ∈ readingMethods
  · have hserved : method ∈ servedMethods := by
      simp only [readingMethods, List.mem_cons, List.not_mem_nil, or_false] at hm
      obtain rfl | rfl := hm <;> decide
    have hp : s.phase ≠ .running := fun hp => h ⟨hp, hm⟩
    rw [s.respond_of_not_running w hserved hp, s.respond_of_not_running w' hserved hp]
  · simp only [readingMethods, List.mem_cons, List.not_mem_nil, or_false, not_or] at hm
    obtain ⟨hcall, hread⟩ := hm
    -- Only the answers of these two methods look at the world.
    rw [respond.eq_def, respond.eq_def]
    split
    · rfl
    · rfl
    · exact absurd rfl hcall
    · rfl
    · exact absurd rfl hread
    · rfl

theorem request_initialize_world {r : Request} (h : r.method = "initialize") (w w' : World) :
    s.request w r = s.request w' r := by
  rw [request, request, if_pos h, if_pos h]

theorem process_reply_world {m : Message} (h : s.readsFor m = false) (w w' : World) :
    (s.process w m).2 = (s.process w' m).2 := by
  cases m with
  | notification n => rfl
  | request r =>
    by_cases hm : r.method = "initialize"
    · rw [process, process, s.request_initialize_world hm w w']
    · have hr : ¬ (s.phase = .running ∧ r.method ∈ readingMethods) := by simpa [readsFor] using h
      have hresult := s.respond_world hr r.params w w'
      rw [process, process, s.request_of_ne w hm, s.request_of_ne w' hm, hresult]

variable (world world' : Nat → World)

theorem process_server_world (m : Message) (w w' : World) :
    (s.process w m).1 = (s.process w' m).1 := by
  rw [process_server, process_server]

theorem after_world (ms : List Message) : after world s ms = after world' s ms := by
  induction ms generalizing world world' s with
  | nil => rfl
  | cons m ms ih =>
    rw [after, after, s.process_server_world m (world 0) (world' 0)]
    exact ih _ _ _

/-- Each message is answered by the session that those before it have led to, from the world as it
is then. -/
theorem getElem?_repliesTo (ms : List Message) (n : Nat) :
    (repliesTo world s ms)[n]? =
      ms[n]?.map fun m => ((after world s (ms.take n)).process (world n) m).2 := by
  induction ms generalizing world s n with
  | nil => rfl
  | cons m ms ih =>
    cases n with
    | zero => rfl
    | succ n => exact ih _ _ n

/-- Two runs of a session over whatever files go through the same states, and a client can tell them
apart by nothing but the answers that it reads from the files while the session runs. -/
theorem files_told_by_reads_alone (library : Library) (world world' : Nat → World)
    (ms : List Message) :
    (∀ n, after world (new library) (ms.take n) = after world' (new library) (ms.take n)) ∧
    ∀ n m, ms[n]? = some m → (after world (new library) (ms.take n)).readsFor m = false →
      (repliesTo world (new library) ms)[n]? = (repliesTo world' (new library) ms)[n]? := by
  have hstate (n : Nat) := after_world (new library) world world' (ms.take n)
  refine ⟨hstate, fun n m hm h => ?_⟩
  have hreply := process_reply_world _ h (world n) (world' n)
  rw [getElem?_repliesTo, getElem?_repliesTo, hm, ← hstate n, Option.map_some, Option.map_some,
    hreply]

def reader : List Message :=
  [.request introduction, .notification ⟨"notifications/initialized", none⟩,
   .request ⟨.number 2, "tools/list", none⟩,
   .request ⟨.number 3, "resources/read",
     some (.object [("uri", .string "acme://components/catalog")])⟩,
   .request ⟨.number 4, "tools/list", none⟩]

def opening (n : Nat) : World :=
  if n < 3 then ⟨.empty, ""⟩ else ⟨.holding [(.ofText "components", .empty)], "later"⟩

theorem files_told_by_reads_alone_opening :
    let library : Library := ⟨"", "acme"⟩
    let shut : Nat → World := fun _ => ⟨.empty, ""⟩
    let code := fun world n =>
      ((repliesTo world (new library) reader)[n]?.join).map Reply.faultCode?
    (∀ n ∈ [2, 4], ∃ m, reader[n]? = some m ∧
      (after shut (new library) (reader.take n)).readsFor m = false ∧
      (repliesTo shut (new library) reader)[n]? = (repliesTo opening (new library) reader)[n]?) ∧
    code shut 3 = some (some (-32603)) ∧ code opening 3 = some none := by
  intro library shut code
  obtain ⟨-, hreply⟩ := files_told_by_reads_alone library shut opening reader
  refine ⟨fun n hn => ?_, by decide +kernel, by decide +kernel⟩
  simp only [List.mem_cons, List.not_mem_nil, or_false] at hn
  obtain rfl | rfl := hn
  · exact ⟨_, rfl, rfl, hreply 2 _ rfl rfl⟩
  · exact ⟨_, rfl, rfl, hreply 4 _ rfl rfl⟩

end StyleGuide.Server
