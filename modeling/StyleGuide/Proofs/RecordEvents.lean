import Mathlib.Data.List.Perm.Subperm
import StyleGuide.Json.EventReader
import StyleGuide.Proofs.EventTree
import StyleGuide.Proofs.Integration

namespace StyleGuide.Json.EventReader

variable {α β σ : Type} {es : List Event} {fault : Option Fault} {rest : Events}

theorem run_bind_eq_ok {r : EventReader α} {f : α → EventReader β} {es : Events} {b : β} :
    (r >>= f).run es = .ok (b, rest) ↔
      ∃ a mid, r.run es = .ok (a, mid) ∧ (f a).run mid = .ok (b, rest) := by
  rw [StateT.run_bind, bind_eq_ok]
  exact ⟨fun ⟨(a, mid), h⟩ => ⟨a, mid, h⟩, fun ⟨a, mid, h⟩ => ⟨(a, mid), h⟩⟩

theorem run_pure_eq_ok {a b : α} {es : Events} :
    (pure a : EventReader α).run es = .ok (b, rest) ↔ a = b ∧ rest = es := by
  constructor
  · rintro ⟨⟩
    exact ⟨rfl, rfl⟩
  · rintro ⟨rfl, rfl⟩
    rfl

section Fault

/-- Whatever a reader takes in, what is wrong further on stays wrong. -/
def KeepsFault (r : EventReader α) : Prop :=
  ∀ ⦃es a rest⦄, r.run es = .ok (a, rest) → rest.fault = es.fault

theorem keepsFault_pure (a : α) : KeepsFault (pure a) := by
  rintro es _ _ ⟨⟩
  rfl

theorem keepsFault_throw (e : TextError) : KeepsFault (throw e : EventReader α) := nofun

theorem KeepsFault.bind {r : EventReader α} {f : α → EventReader β} (hr : KeepsFault r)
    (hf : ∀ a, KeepsFault (f a)) : KeepsFault (r >>= f) := by
  intro es b rest h
  obtain ⟨a, mid, hmid, hrest⟩ := run_bind_eq_ok.mp h
  exact (hf a hrest).trans (hr hmid)

theorem keepsFault_peek : KeepsFault peek := by
  rintro ⟨_ | ⟨e, es⟩, fault⟩ a rest h
  · cases fault <;> cases h
  · cases h
    rfl

theorem keepsFault_skip : KeepsFault skip := by
  rintro es a rest ⟨⟩
  rfl

theorem keepsFault_next : KeepsFault next :=
  keepsFault_peek.bind fun e => keepsFault_skip.bind fun _ => keepsFault_pure e

theorem keepsFault_skipComma : KeepsFault skipComma := by
  refine keepsFault_peek.bind fun e => ?_
  split
  · exact keepsFault_skip
  · exact keepsFault_pure _

theorem keepsFault_string (expected : String) : KeepsFault (string expected) := by
  refine keepsFault_next.bind fun e => ?_
  split
  · exact keepsFault_pure _
  · exact keepsFault_throw _

theorem keepsFault_optionalString (expected : String) : KeepsFault (optionalString expected) := by
  refine keepsFault_peek.bind fun e => ?_
  split
  · exact keepsFault_skip.bind fun _ => keepsFault_pure _
  · exact (keepsFault_string expected).bind fun _ => keepsFault_pure _

variable {shape : Shape σ} (hshape : ∀ name s, KeepsFault (shape.assign name s))
include hshape

theorem keepsFault_members (n : Nat) (seen : List String) (s : σ) :
    KeepsFault (members shape n seen s) := by
  induction n generalizing seen s with
  | zero => exact keepsFault_throw _
  | succ n ih =>
    refine keepsFault_skipComma.bind fun _ => keepsFault_next.bind fun e => ?_
    split
    · split
      · exact keepsFault_throw _
      · split
        · exact keepsFault_throw _
        · exact (hshape _ s).bind fun t => ih _ t
    · exact keepsFault_pure s
    · exact keepsFault_throw _

theorem keepsFault_items (names : List String) (s : σ) : KeepsFault (items shape names s) := by
  induction names generalizing s with
  | nil =>
    refine keepsFault_next.bind fun e => ?_
    split
    · exact keepsFault_pure s
    · exact keepsFault_throw _
  | cons name names ih =>
    refine keepsFault_skipComma.bind fun _ => keepsFault_peek.bind fun e => ?_
    split
    · exact keepsFault_skip.bind fun _ => keepsFault_pure s
    · exact (hshape name s).bind fun t => ih t

theorem keepsFault_record (absent : σ) : KeepsFault (record shape absent) := by
  refine keepsFault_next.bind fun e => ?_
  split
  · exact keepsFault_members hshape _ _ absent
  · exact keepsFault_items hshape _ absent
  · exact keepsFault_throw _

end Fault

/-- What a reader makes of the events of a value, and that it stops where the value ends. A value
without a meaning is refused. -/
structure Reads (r : EventReader α) (Means : Json → α → Prop) : Prop where
  run_eq_ok (j : Json) (a : α) (back : List Event) (fault : Option Fault) (rest : Events) :
    r.run ⟨events j ++ back, fault⟩ = .ok (a, rest) ↔ Means j a ∧ rest = ⟨back, fault⟩
  keepsFault : KeepsFault r

variable {P : String → σ → Json → σ → Prop}

/-- A reader takes in those texts that write a value with a meaning to it. -/
theorem Reads.ofChars_eq_ok {r : EventReader α} {Means : Json → α → Prop} (h : Reads r Means)
    (cs : List Char) (a : α) : r.ofChars cs = .ok a ↔ ∃ j, Writes cs j ∧ Means j a := by
  constructor
  · intro ha
    rw [ofChars] at ha
    split at ha
    · next b es hrun =>
      cases ha
      obtain ⟨j, hj⟩ := Events.exists_writes (h.keepsFault hrun).symm
      rw [hj, ← List.append_nil (events j)] at hrun
      exact ⟨j, hj, ((h.run_eq_ok ..).mp hrun).1⟩
    · cases ha
    · cases ha
  · rintro ⟨j, hj, ha⟩
    have hrun := (h.run_eq_ok j a [] none _).mpr ⟨ha, rfl⟩
    rw [List.append_nil] at hrun
    rw [ofChars, hj, hrun]

theorem Reads.bind_eq_ok {r : EventReader α} {Means : Json → α → Prop} (h : Reads r Means)
    {f : α → EventReader β} {j : Json} {b : β} :
    (r >>= f).run ⟨events j ++ es, fault⟩ = .ok (b, rest) ↔
      ∃ a, Means j a ∧ (f a).run ⟨es, fault⟩ = .ok (b, rest) := by
  rw [run_bind_eq_ok]
  constructor
  · rintro ⟨a, mid, hmid, hrest⟩
    obtain ⟨ha, rfl⟩ := (h.run_eq_ok ..).mp hmid
    exact ⟨a, ha, hrest⟩
  · rintro ⟨a, ha, hrest⟩
    exact ⟨a, _, (h.run_eq_ok ..).mpr ⟨ha, rfl⟩, hrest⟩

theorem Reads.map {r : EventReader α} {Means : Json → α → Prop} (h : Reads r Means) (f : α → β) :
    Reads (r >>= fun a => pure (f a)) (fun j b => ∃ a, Means j a ∧ f a = b) where
  run_eq_ok j b back fault rest := by
    simp only [h.bind_eq_ok, run_pure_eq_ok, ← and_assoc, exists_and_right]
  keepsFault := h.keepsFault.bind fun a => keepsFault_pure (f a)

inductive IsText : Json → String → Prop
  | text (s : String) : IsText (.string s) s

inductive IsTextOrNull : Json → Option String → Prop
  | text (s : String) : IsTextOrNull (.string s) (some s)
  | null : IsTextOrNull .null none

theorem reads_string (expected : String) : Reads (string expected) IsText where
  run_eq_ok j a back fault rest := by
    constructor
    · intro h
      obtain (_ | _ | _ | _ | s) | (_ | _) | (_ | _) := j
      case scalar.string =>
        cases h
        exact ⟨.text _, rfl⟩
      all_goals cases h
    · rintro ⟨⟨s⟩, rfl⟩
      rfl
  keepsFault := keepsFault_string expected

theorem reads_optionalString (expected : String) :
    Reads (optionalString expected) IsTextOrNull where
  run_eq_ok j a back fault rest := by
    constructor
    · intro h
      obtain (_ | _ | _ | _ | s) | (_ | _) | (_ | _) := j
      case scalar.null =>
        cases h
        exact ⟨.null, rfl⟩
      case scalar.string =>
        cases h
        exact ⟨.text _, rfl⟩
      all_goals cases h
    · rintro ⟨⟨s⟩ | _, rfl⟩ <;> rfl
  keepsFault := keepsFault_optionalString expected

/-- The settings that a value gives to a record: an object by name, an array in the order of the
names, where the last ones may be missing. -/
inductive Gives (names : List String) : Json → List (String × Json) → Prop
  | object {ms : List (String × Json)} (known : ∀ name ∈ ms.map Prod.fst, name ∈ names)
    (once : (ms.map Prod.fst).Nodup) : Gives names (.object ms) ms
  | array {xs : List Json} (fits : xs.length ≤ names.length) :
      Gives names (.array xs) (names.zip xs)

theorem map_fst_zip_sublist (names : List String) (xs : List Json) :
    ((names.zip xs).map Prod.fst).Sublist names := by
  induction names generalizing xs with
  | nil => exact .slnil
  | cons name names ih =>
    cases xs with
    | nil => exact List.nil_sublist _
    | cons x xs => exact (ih xs).cons_cons name

theorem Gives.known {names : List String} {j : Json} {ms : List (String × Json)}
    (h : Gives names j ms) : ∀ name ∈ ms.map Prod.fst, name ∈ names := by
  cases h with
  | object known once => exact known
  | @array xs fits => exact (map_fst_zip_sublist names xs).subset

theorem Gives.once {names : List String} {j : Json} {ms : List (String × Json)}
    (h : Gives names j ms) (hnames : names.Nodup) : (ms.map Prod.fst).Nodup := by
  cases h with
  | object known once => exact once
  | @array xs fits => exact (map_fst_zip_sublist names xs).nodup hnames

def Given (ms : List (String × Json)) (name : String) (Means : Json → α → Prop) (absent a : α) :
    Prop :=
  match ms.lookup name with
  | none => a = absent
  | some j => Means j a

section Given

variable {ms : List (String × Json)} {name : String} {x : Json} {Means : Json → α → Prop}
    {absent a : α}

theorem given_of_notMem (h : name ∉ ms.map Prod.fst) :
    Given ms name Means absent a ↔ a = absent := by
  have hnone : ms.lookup name = none := List.lookup_eq_none_iff.mpr fun m hm =>
    bne_iff_ne.mpr fun heq => h (heq ▸ List.mem_map_of_mem hm)
  rw [Given, hnone]

theorem given_cons_self : Given ((name, x) :: ms) name Means absent a ↔ Means x a := by
  rw [Given, List.lookup_cons_self]

theorem given_cons_of_ne {key : String} (h : name ≠ key) :
    Given ((key, x) :: ms) name Means absent a ↔ Given ms name Means absent a := by
  rw [Given, List.lookup_cons, beq_false_of_ne h, Given]

end Given

inductive Fills (P : String → σ → Json → σ → Prop) : List (String × Json) → σ → σ → Prop
  | nil (s : σ) : Fills P [] s s
  | cons {name : String} {x : Json} {ms : List (String × Json)} {s s' t : σ} (head : P name s x s')
    (tail : Fills P ms s' t) : Fills P ((name, x) :: ms) s t

theorem fills_nil {s t : σ} : Fills P [] s t ↔ s = t := by
  constructor
  · rintro ⟨⟩
    rfl
  · rintro rfl
    exact .nil s

theorem fills_cons {name : String} {x : Json} {ms : List (String × Json)} {s t : σ} :
    Fills P ((name, x) :: ms) s t ↔ ∃ s', P name s x s' ∧ Fills P ms s' t := by
  constructor
  · rintro (_ | ⟨head, tail⟩)
    exact ⟨_, head, tail⟩
  · rintro ⟨s', head, tail⟩
    exact .cons head tail

theorem fills_cons_within {name : String} {x : Json} {ms : List (String × Json)} {s t : σ}
    {p q : Prop} :
    (∃ s', P name s x s' ∧ p ∧ Fills P ms s' t ∧ q) ↔ p ∧ Fills P ((name, x) :: ms) s t ∧ q := by
  rw [fills_cons]
  constructor
  · rintro ⟨s', head, hp, tail, hq⟩
    exact ⟨hp, ⟨s', head, tail⟩, hq⟩
  · rintro ⟨hp, ⟨s', head, tail⟩, hq⟩
    exact ⟨s', head, hp, tail, hq⟩

section Record

theorem exists_events_eq_cons (j : Json) :
    ∃ e es, events j = e :: es ∧ e ≠ .comma ∧ e ≠ .closeArray := by
  obtain s | (_ | ⟨x, xs⟩) | (_ | ⟨m, ms⟩) := j
  all_goals exact ⟨_, _, rfl, nofun, nofun⟩

def Fresh (names seen new : List String) : Prop :=
  (∀ name ∈ new, name ∈ names ∧ name ∉ seen) ∧ new.Nodup

theorem fresh_cons {names seen new : List String} {name : String} :
    Fresh names seen (name :: new) ↔ (name ∈ names ∧ name ∉ seen) ∧
    Fresh names (name :: seen) new := by
  simp only [Fresh, List.mem_cons, List.nodup_cons]
  grind

variable {shape : Shape σ} {names seen : List String} {ms : List (String × Json)} {s t : σ}
  {back : List Event}

theorem members_comma (n : Nat) (name : String) :
    (members shape n seen s).run ⟨.comma :: .key name :: es, fault⟩ =
      (members shape n seen s).run ⟨.key name :: es, fault⟩ := by
  cases n <;> rfl

theorem members_close (n : Nat) :
    (members shape (n + 1) seen s).run ⟨.closeObject :: es, fault⟩ = .ok (s, ⟨es, fault⟩) := rfl

theorem members_key (n : Nat) (name : String) :
    (members shape (n + 1) seen s).run ⟨.key name :: es, fault⟩ = .ok (t, rest) ↔
      (name ∈ shape.names ∧ name ∉ seen) ∧
        (shape.assign name s >>= members shape n (name :: seen)).run ⟨es, fault⟩ =
          .ok (t, rest) := by
  change StateT.run (ite _ _ _) (Events.mk es fault) = _ ↔ _
  by_cases hknown : name ∈ shape.names
  · rw [if_neg (by simpa using hknown)]
    by_cases hseen : name ∈ seen
    · rw [if_pos (by simpa using hseen)]
      exact iff_of_false nofun fun h => h.1.2 hseen
    · rw [if_neg (by simpa using hseen)]
      exact (and_iff_right ⟨hknown, hseen⟩).symm
  · rw [if_pos (by simpa using hknown)]
    exact iff_of_false nofun fun h => hknown h.1.1

theorem items_comma {e : Event} (hcomma : e ≠ .comma) (hclose : e ≠ .closeArray)
    (names : List String) :
    (items shape names s).run ⟨.comma :: e :: es, fault⟩ =
      (items shape names s).run ⟨e :: es, fault⟩ := by
  cases names with
  | nil => cases e <;> first | rfl | exact absurd rfl hclose
  | cons name names => cases e <;> first | rfl | exact absurd rfl hcomma

theorem items_close (names : List String) :
    (items shape names s).run ⟨.closeArray :: es, fault⟩ = .ok (s, ⟨es, fault⟩) := by
  cases names <;> rfl

theorem items_nil {e : Event} (hclose : e ≠ .closeArray) :
    (items shape [] s).run ⟨e :: es, fault⟩ = .error (.fault .malformed) := by
  cases e <;> first | rfl | exact absurd rfl hclose

theorem items_value {e : Event} (hcomma : e ≠ .comma) (hclose : e ≠ .closeArray) (name : String) :
    (items shape (name :: names) s).run ⟨e :: es, fault⟩ =
      (shape.assign name s >>= items shape names).run ⟨e :: es, fault⟩ := by
  cases e <;> first | rfl | exact absurd rfl hcomma | exact absurd rfl hclose

theorem record_array (absent : σ) (xs : List Json) :
    (record shape absent).run ⟨events (.array xs) ++ back, fault⟩ =
      (items shape shape.names absent).run ⟨itemEvents xs ++ .closeArray :: back, fault⟩ := by
  cases xs with
  | nil => rfl
  | cons x xs =>
    obtain ⟨e, es, hx, hcomma, hclose⟩ := exists_events_eq_cons x
    simp only [events, itemEvents, hx, List.cons_append, List.append_assoc, List.nil_append]
    exact (items_comma hcomma hclose _).symm

theorem record_object (absent : σ) (ms : List (String × Json)) :
    (record shape absent).run ⟨events (.object ms) ++ back, fault⟩ =
      (members shape (shape.names.length + 1) [] absent).run
        ⟨membersEvents ms ++ .closeObject :: back, fault⟩ := by
  obtain _ | ⟨⟨name, x⟩, ms⟩ := ms
  · rfl
  · simp only [events, membersEvents, memberEvents, List.cons_append, List.append_assoc,
      List.nil_append]
    exact (members_comma _ _).symm

variable (hshape : ∀ name s, Reads (shape.assign name s) (P name s))
include hshape

/-- The fuel never runs out, because it is one more than the names that are not seen yet. -/
theorem members_eq_ok {n : Nat} (hn : n + seen.length = shape.names.length) (hseen : seen.Nodup)
    (hsub : seen ⊆ shape.names) :
    (members shape (n + 1) seen s).run ⟨membersEvents ms ++ .closeObject :: back, fault⟩ =
      .ok (t, rest) ↔
      Fresh shape.names seen (ms.map Prod.fst) ∧ Fills P ms s t ∧ rest = ⟨back, fault⟩ := by
  induction ms generalizing n seen s with
  | nil =>
    rw [membersEvents, List.nil_append, members_close]
    constructor
    · rintro ⟨⟩
      exact ⟨⟨List.forall_mem_nil _, .nil⟩, .nil _, rfl⟩
    · rintro ⟨-, ⟨⟩, rfl⟩
      rfl
  | cons m ms ih =>
    obtain ⟨name, x⟩ := m
    simp only [membersEvents, memberEvents, List.cons_append, List.append_assoc]
    rw [members_comma, members_key, (hshape name s).bind_eq_ok, List.map_cons, fresh_cons,
      and_assoc (c := _ ∧ _)]
    refine and_congr_right fun hnew => ?_
    have hseen' : (name :: seen).Nodup := List.nodup_cons.mpr ⟨hnew.2, hseen⟩
    have hsub' : name :: seen ⊆ shape.names := List.cons_subset.mpr ⟨hnew.1, hsub⟩
    have hle : seen.length + 1 ≤ shape.names.length := (List.Nodup.subperm hseen' hsub').length_le
    obtain ⟨n, rfl⟩ : ∃ k, n = k + 1 := Nat.exists_eq_succ_of_ne_zero (by omega)
    have hn' : n + (name :: seen).length = shape.names.length := by
      rw [List.length_cons]
      omega
    simp only [ih hn' hseen' hsub', fills_cons_within]

theorem items_eq_ok {xs : List Json} (names : List String) :
    (items shape names s).run ⟨itemEvents xs ++ .closeArray :: back, fault⟩ = .ok (t, rest) ↔
      xs.length ≤ names.length ∧ Fills P (names.zip xs) s t ∧ rest = ⟨back, fault⟩ := by
  induction xs generalizing names s with
  | nil =>
    rw [itemEvents, List.nil_append, items_close, List.zip_nil_right]
    constructor
    · rintro ⟨⟩
      exact ⟨Nat.zero_le _, .nil _, rfl⟩
    · rintro ⟨-, ⟨⟩, rfl⟩
      rfl
  | cons x xs ih =>
    obtain ⟨e, es, hx, hcomma, hclose⟩ := exists_events_eq_cons x
    simp only [itemEvents, hx, List.cons_append, List.append_assoc]
    rw [items_comma hcomma hclose]
    cases names with
    | nil =>
      rw [items_nil hclose]
      refine iff_of_false ?_ fun h => Nat.not_succ_le_zero _ h.1
      rintro ⟨⟩
    | cons name names =>
      rw [items_value hcomma hclose, ← List.cons_append, ← hx, (hshape name s).bind_eq_ok,
        List.zip_cons_cons, List.length_cons, List.length_cons, Nat.add_le_add_iff_right]
      simp only [ih, fills_cons_within]

def MeansRecord (shape : Shape σ) (P : String → σ → Json → σ → Prop) (absent : σ) (j : Json)
    (t : σ) : Prop :=
  ∃ ms, Gives shape.names j ms ∧ Fills P ms absent t

theorem reads_record (absent : σ) : Reads (record shape absent) (MeansRecord shape P absent) where
  run_eq_ok j t back fault rest := by
    cases j with
    | scalar v =>
      refine iff_of_false (by cases v <;> exact nofun) ?_
      rintro ⟨⟨ms, ⟨⟩, -⟩, -⟩
    | array xs =>
      rw [record_array, items_eq_ok hshape]
      constructor
      · rintro ⟨hfits, hfills, hrest⟩
        exact ⟨⟨_, .array hfits, hfills⟩, hrest⟩
      · rintro ⟨⟨ms, hgives, hfills⟩, hrest⟩
        cases hgives with
        | array hfits => exact ⟨hfits, hfills, hrest⟩
    | object ms =>
      rw [record_object, members_eq_ok hshape rfl .nil (List.nil_subset _)]
      constructor
      · rintro ⟨⟨hnew, honce⟩, hfills, hrest⟩
        exact ⟨⟨ms, .object (fun name h => (hnew name h).1) honce, hfills⟩, hrest⟩
      · rintro ⟨⟨ms, hgives, hfills⟩, hrest⟩
        cases hgives with
        | object hknown honce =>
          exact ⟨⟨fun name h => ⟨hknown name h, List.not_mem_nil⟩, honce⟩, hfills, hrest⟩
  keepsFault := keepsFault_record (fun name s => (hshape name s).keepsFault) absent

end Record

end StyleGuide.Json.EventReader
