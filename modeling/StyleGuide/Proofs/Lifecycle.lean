import StyleGuide.Server.Basic

namespace StyleGuide

open Rpc

def Rpc.Message.introduces : Message → Bool
  | .request r => r.method == "initialize" &&
      (Server.params Server.Introduction.decoder "initialize" r.params).isOk
  | .notification _ => false

def Rpc.Message.announces : Message → Bool
  | .request _ => false
  | .notification n => n.method == "notifications/initialized"

namespace Phase

def next : Phase → Message → Phase
  | awaitingInit, m => if m.introduces then initialising else awaitingInit
  | initialising, m => if m.announces then running else initialising
  | p, _ => p

/-- The phase that a history of messages leads to: the first introduction counts, and the first
announcement after it. -/
def ofHistory (ms : List Message) : Phase :=
  match ms.dropWhile (!·.introduces) with
  | [] => awaitingInit
  | _ :: later => if later.any Message.announces then running else initialising

theorem foldl_next_running (ms : List Message) : ms.foldl next running = running := by
  induction ms with
  | nil => rfl
  | cons m ms ih => exact ih

theorem foldl_next_initialising (ms : List Message) :
    ms.foldl next initialising = if ms.any Message.announces then running else initialising := by
  induction ms with
  | nil => rfl
  | cons m ms ih =>
    by_cases h : m.announces = true
    · simp [next, h, foldl_next_running]
    · simp [next, h, ih]

theorem foldl_next (ms : List Message) : ms.foldl next awaitingInit = ofHistory ms := by
  induction ms with
  | nil => rfl
  | cons m ms ih =>
    by_cases h : m.introduces = true
    · simp [next, ofHistory, h, foldl_next_initialising]
    · simpa [next, ofHistory, h] using ih

def rank : Phase → Nat
  | awaitingInit => 0
  | initialising => 1
  | running => 2
  | shuttingDown => 3

theorem rank_le_next (p : Phase) (m : Message) : p.rank ≤ (p.next m).rank := by
  cases p with
  | awaitingInit => exact Nat.zero_le _
  | initialising =>
    by_cases h : m.announces = true
    · simp [next, h, rank]
    · simp [next, h]
  | running | shuttingDown => exact Nat.le_refl _

theorem next_request {p : Phase} {r : Request}
    (h : ¬ (p = awaitingInit ∧ (Message.request r).introduces = true)) :
    p.next (.request r) = p := by
  cases p with
  | awaitingInit =>
    have hi : ¬ (Message.request r).introduces = true := fun hi => h ⟨rfl, hi⟩
    simp [next, hi]
  | initialising | running | shuttingDown => rfl

theorem eq_awaitingInit_of_next {p : Phase} {m : Message} (h : p.next m = awaitingInit) :
    p = awaitingInit := by
  have hr := rank_le_next p m
  rw [h] at hr
  cases p with
  | awaitingInit => rfl
  | initialising | running | shuttingDown => exact absurd hr (by decide)

theorem ofHistory_ne_shuttingDown (ms : List Message) : ofHistory ms ≠ shuttingDown := by
  rw [ofHistory]
  split
  · exact nofun
  · split <;> exact nofun

end Phase

namespace Server

variable (s : Server) (w : World)

theorem request_initialize {r : Request} (h : r.method = "initialize") :
    (s.phase = .awaitingInit ∧ (Message.request r).introduces = true ∧
      s.request w r = ({ s with phase := .initialising, version := some protocolVersion },
        .result r.id welcome)) ∨
    (¬ (s.phase = .awaitingInit ∧ (Message.request r).introduces = true) ∧
      ∃ f, s.request w r = (s, .fault (some r.id) f)) := by
  by_cases hp : s.phase = .awaitingInit
  · cases hd : params Introduction.decoder "initialize" r.params with
    | ok i =>
      refine .inl ⟨hp, by simp [Message.introduces, h, hd, Except.isOk, Except.toBool], ?_⟩
      simp [request, h, introduce, hp, hd]
    | error f =>
      refine .inr ⟨fun hi => ?_, f, ?_⟩
      · simp [Message.introduces, hd, Except.isOk, Except.toBool] at hi
      · simp [request, h, introduce, hp, hd]
  · exact .inr ⟨fun hi => hp hi.1, .alreadyInitialised, by simp [request, h, introduce, hp]⟩

theorem request_of_ne {r : Request} (h : r.method ≠ "initialize") :
    s.request w r = (s, replyTo r.id (s.respond w r.method r.params)) := by
  rw [request, if_neg h]

theorem notify_eq (n : Notification) :
    s.notify n = { s with phase := s.phase.next (.notification n) } := by
  obtain ⟨library, phase, version⟩ := s
  cases phase with
  | initialising =>
    by_cases h : n.method = "notifications/initialized"
    · simp [notify, Phase.next, Message.announces, h]
    · simp [notify, Phase.next, Message.announces, h]
  | awaitingInit | running | shuttingDown => simp [notify, Phase.next, Message.introduces]

theorem process_server (m : Message) : (s.process w m).1 =
    { s with
      phase := s.phase.next m
      version := if s.phase = .awaitingInit ∧ m.introduces = true then some protocolVersion
        else s.version } := by
  cases m with
  | notification n =>
    rw [process, notify_eq]
    simp [Message.introduces]
  | request r =>
    rw [process]
    by_cases h : r.method = "initialize"
    · obtain ⟨hp, hi, he⟩ | ⟨hn, f, he⟩ := s.request_initialize w h
      · simp [he, hp, hi, Phase.next]
      · rw [he, if_neg hn, Phase.next_request hn]
    · have hi : (Message.request r).introduces = false := by simp [Message.introduces, h]
      have hn : ¬ (s.phase = .awaitingInit ∧ (Message.request r).introduces = true) := by simp [hi]
      rw [s.request_of_ne w h, if_neg hn, Phase.next_request hn]

/-- The version is settled as soon as the introduction is made, and not before. -/
def Settled : Prop := s.version = if s.phase = .awaitingInit then none else some protocolVersion

theorem settled_new (library : Library) : (new library).Settled := rfl

theorem settled_process {s : Server} (h : s.Settled) (m : Message) : (s.process w m).1.Settled := by
  rw [Settled, process_server]
  cases hp : s.phase with
  | awaitingInit =>
    have hv : s.version = none := by rw [h, if_pos hp]
    by_cases hi : m.introduces = true
    · simp [Phase.next, hi]
    · simp [Phase.next, hi, hv]
  | initialising =>
    have hv : s.version = some protocolVersion := by rw [h, hp]; rfl
    by_cases ha : m.announces = true
    · simp [Phase.next, ha, hv]
    · simp [Phase.next, ha, hv]
  | running | shuttingDown =>
    have hv : s.version = some protocolVersion := by rw [h, hp]; rfl
    simp [Phase.next, hv]

variable (world : Nat → World)

/-- The session after some messages, the world being as `world` says at each of them. -/
def after (world : Nat → World) (s : Server) : List Message → Server
  | [] => s
  | m :: ms => after (fun n => world (n + 1)) (s.process (world 0) m).1 ms

/-- What the messages get in reply, one after the other. -/
def repliesTo (world : Nat → World) (s : Server) : List Message → List (Option Reply)
  | [] => []
  | m :: ms =>
    (s.process (world 0) m).2 :: repliesTo (fun n => world (n + 1)) (s.process (world 0) m).1 ms

theorem phase_after (ms : List Message) :
    (after world s ms).phase = ms.foldl Phase.next s.phase := by
  induction ms generalizing world s with
  | nil => rfl
  | cons m ms ih => rw [after, ih, process_server, List.foldl_cons]

theorem settled_after {s : Server} (h : s.Settled) (ms : List Message) :
    (after world s ms).Settled := by
  induction ms generalizing world s with
  | nil => exact h
  | cons m ms ih => exact ih _ (settled_process (world 0) h m)

def isWelcomed : Message × Option Reply → Bool
  | (.request r, some (.result _ _)) => r.method == "initialize"
  | _ => false

theorem phase_of_isWelcomed {m : Message} (h : isWelcomed (m, (s.process w m).2) = true) :
    s.phase = .awaitingInit ∧ m.introduces = true := by
  cases m with
  | notification n => cases h
  | request r =>
    by_cases hm : r.method = "initialize"
    · obtain ⟨hp, hi, -⟩ | ⟨-, f, he⟩ := s.request_initialize w hm
      · exact ⟨hp, hi⟩
      · simp [process, he, isWelcomed] at h
    · rw [process] at h
      cases hr : (s.request w r).2 <;> simp [hr, isWelcomed, hm] at h

theorem countP_isWelcomed (ms : List Message) :
    (ms.zip (repliesTo world s ms)).countP isWelcomed ≤
      if s.phase = .awaitingInit then 1 else 0 := by
  induction ms generalizing world s with
  | nil => exact Nat.zero_le _
  | cons m ms ih =>
    have hrest := ih (s.process (world 0) m).1 (fun n => world (n + 1))
    have hphase : (s.process (world 0) m).1.phase = s.phase.next m := by rw [process_server]
    rw [hphase] at hrest
    rw [repliesTo, List.zip_cons_cons, List.countP_cons]
    by_cases hw : isWelcomed (m, (s.process (world 0) m).2) = true
    · obtain ⟨hp, hi⟩ := s.phase_of_isWelcomed (world 0) hw
      have hn : s.phase.next m = .initialising := by simp [hp, Phase.next, hi]
      rw [hn] at hrest
      rw [if_pos hw, if_pos hp]
      exact Nat.succ_le_succ hrest
    · rw [if_neg hw]
      refine Nat.le_trans hrest ?_
      by_cases hn : s.phase.next m = .awaitingInit
      · exact Nat.le_of_eq (by rw [if_pos hn, if_pos (Phase.eq_awaitingInit_of_next hn)])
      · rw [if_neg hn]
        exact Nat.zero_le _

/-- The requests that are served only while a session runs. -/
def servedMethods : List String := ["tools/list", "tools/call", "resources/list", "resources/read"]

theorem respond_of_not_running {method : String} (hm : method ∈ servedMethods)
    (hp : s.phase ≠ .running) (p : Option Json) :
    s.respond w method p = .error .notInitialised := by
  simp only [servedMethods, List.mem_cons, List.not_mem_nil, or_false] at hm
  obtain rfl | rfl | rfl | rfl := hm <;> exact if_neg hp

/-- A session goes through its phases in order, whatever its messages are and whatever it finds in
its files: the first introduction that can be read settles the version, the first announcement after
it starts the service, and nothing leads back. -/
theorem follows_lifecycle (library : Library) (ms : List Message) :
    let s := after world (new library) ms
    s.phase = Phase.ofHistory ms ∧ s.phase ≠ .shuttingDown ∧
    s.version = (if s.phase = .awaitingInit then none else some protocolVersion) ∧
    (ms.zip (repliesTo world (new library) ms)).countP isWelcomed ≤ 1 ∧
    ∀ w : World,
      (∀ m, s.phase.rank ≤ (s.process w m).1.phase.rank) ∧
      (∀ r : Request, r.method = "initialize" →
        (s.phase = .awaitingInit ∧ (Message.request r).introduces = true ∧
          (s.process w (.request r)).2 = some (.result r.id welcome)) ∨
        (¬ (s.phase = .awaitingInit ∧ (Message.request r).introduces = true) ∧
          ∃ f, s.process w (.request r) = (s, some (.fault (some r.id) f)))) ∧
      (∀ r : Request, r.method ∈ servedMethods → s.phase ≠ .running →
        ∃ f, f.code = -32600 ∧ s.process w (.request r) = (s, some (.fault (some r.id) f))) ∧
      (∀ r : Request, r.method = "ping" →
        s.process w (.request r) = (s, some (.result r.id (.object [])))) ∧
      ∀ n, (s.process w (.notification n)).2 = none := by
  intro s
  have hphase : s.phase = Phase.ofHistory ms := by
    rw [phase_after, ← Phase.foldl_next]
    rfl
  refine ⟨hphase, ?_, settled_after world (settled_new library) ms,
    ?_, fun w => ⟨?_, ?_, ?_, ?_, ?_⟩⟩
  · rw [hphase]
    exact Phase.ofHistory_ne_shuttingDown ms
  · exact countP_isWelcomed (new library) world ms
  · intro m
    rw [process_server]
    exact Phase.rank_le_next s.phase m
  · intro r hr
    obtain ⟨hp, hi, he⟩ | ⟨hn, f, he⟩ := s.request_initialize w hr
    · exact .inl ⟨hp, hi, by rw [process, he]⟩
    · exact .inr ⟨hn, f, by rw [process, he]⟩
  · intro r hr hp
    have hm : r.method ≠ "initialize" := by
      intro he
      rw [he] at hr
      exact absurd hr (by decide)
    refine ⟨.notInitialised, rfl, ?_⟩
    rw [process, s.request_of_ne w hm, s.respond_of_not_running w hr hp]
    rfl
  · intro r hr
    have hm : r.method ≠ "initialize" := by
      rw [hr]
      decide
    rw [process, s.request_of_ne w hm, hr]
    rfl
  · exact fun n => rfl

def introduction : Request :=
  ⟨.number 1, "initialize", some (.object [("protocolVersion", .string "2025-06-18")])⟩

def hasty : List Message :=
  [.request ⟨.number 0, "tools/call", none⟩, .notification ⟨"notifications/initialized", none⟩,
   .request introduction]

theorem follows_lifecycle_hasty :
    let w : World := ⟨.empty, ""⟩
    let s := after (fun _ => w) (new ⟨"src", "acme-ui"⟩) hasty
    (introduction.method = "initialize" ∧ "tools/list" ∈ servedMethods ∧ s.phase ≠ .running ∧
      "ping" = "ping") ∧
    s.phase = .initialising ∧
    (∃ f, s.process w (.request introduction) = (s, some (.fault (some (.number 1)) f))) ∧
    (∃ f, f.code = -32600 ∧
      s.process w (.request ⟨.number 2, "tools/list", none⟩) =
        (s, some (.fault (some (.number 2)) f))) ∧
    s.process w (.request ⟨.number 3, "ping", none⟩) =
      (s, some (.result (.number 3) (.object []))) := by
  intro w s
  obtain ⟨hphase, -, -, -, hstep⟩ := follows_lifecycle (fun _ => w) ⟨"src", "acme-ui"⟩ hasty
  obtain ⟨-, hinit, hserved, hping, -⟩ := hstep w
  have hp : s.phase = .initialising := hphase
  have hr : s.phase ≠ .running := by
    rw [hp]
    decide
  refine ⟨⟨rfl, by decide, hr, rfl⟩, hp, ?_, hserved _ (by decide) hr, hping _ rfl⟩
  obtain ⟨ha, -⟩ | ⟨-, hf⟩ := hinit introduction rfl
  · exact absurd (hp.symm.trans ha) (by decide)
  · exact hf

end Server

end StyleGuide
