import Mathlib.Data.List.Forall2
import StyleGuide.Plan.Make

namespace StyleGuide

theorem exists_eq_error {ε α : Type} {x : Except ε α} : (∃ e, x = .error e) ↔ ∀ a, x ≠ .ok a := by
  cases x <;> simp

theorem bind_eq_ok {ε α β : Type} {x : Except ε α} {f : α → Except ε β} {b : β} :
    x >>= f = .ok b ↔ ∃ a, x = .ok a ∧ f a = .ok b := by
  cases x <;> simp [bind, Except.bind]

theorem bind_eq_error {ε α β : Type} {x : Except ε α} {f : α → Except ε β} {e : ε} :
    x >>= f = .error e ↔ x = .error e ∨ ∃ a, x = .ok a ∧ f a = .error e := by
  cases x <;> simp [bind, Except.bind]

theorem mapError_eq_ok {ε ε' α : Type} {x : Except ε α} {f : ε → ε'} {a : α} :
    x.mapError f = .ok a ↔ x = .ok a := by
  cases x <;> simp [Except.mapError]

theorem mapError_eq_error {ε ε' α : Type} {x : Except ε α} {f : ε → ε'} {e' : ε'} :
    x.mapError f = .error e' ↔ ∃ e, x = .error e ∧ f e = e' := by
  cases x <;> simp [Except.mapError]

theorem map_eq_ok {ε α β : Type} {x : Except ε α} {f : α → β} {b : β} :
    x.map f = .ok b ↔ ∃ a, x = .ok a ∧ f a = b := by
  cases x <;> simp [Except.map]

theorem map_eq_error {ε α β : Type} {x : Except ε α} {f : α → β} {e : ε} :
    x.map f = .error e ↔ x = .error e := by
  cases x <;> simp [Except.map]

theorem mapM_eq_ok {ε α β : Type} {f : α → Except ε β} {as : List α} {bs : List β} :
    as.mapM f = .ok bs ↔ List.Forall₂ (fun a b => f a = .ok b) as bs := by
  induction as generalizing bs with
  | nil =>
    rw [List.mapM_nil, List.forall₂_nil_left_iff]
    exact ⟨fun h => (Except.ok.inj h).symm, fun h => by rw [h]; rfl⟩
  | cons a as ih =>
    simp only [List.mapM_cons, bind_eq_ok, List.forall₂_cons_left_iff, ← ih]
    constructor
    · rintro ⟨b, hb, bs', hbs, h⟩
      exact ⟨b, bs', hb, hbs, (Except.ok.inj h).symm⟩
    · rintro ⟨b, bs', hb, hbs, rfl⟩
      exact ⟨b, hb, bs', hbs, rfl⟩

theorem mapM_eq_error {ε α β : Type} {f : α → Except ε β} {as : List α} {e : ε} :
    as.mapM f = .error e ↔ ∃ before a after, as = before ++ a :: after ∧
      (∀ x ∈ before, ∃ b, f x = .ok b) ∧ f a = .error e := by
  induction as with
  | nil => simp [pure, Except.pure]
  | cons a as ih =>
    simp only [List.mapM_cons, bind_eq_error, ih]
    constructor
    · rintro (h | ⟨b, hb, ⟨before, x, after, rfl, hok, he⟩ | ⟨bs, -, h⟩⟩)
      · exact ⟨[], a, as, rfl, nofun, h⟩
      · refine ⟨a :: before, x, after, rfl, ?_, he⟩
        exact List.forall_mem_cons.mpr ⟨⟨b, hb⟩, hok⟩
      · cases h
    · rintro ⟨before, x, after, heq, hok, he⟩
      cases before with
      | nil =>
        obtain ⟨rfl, rfl⟩ := List.cons.inj heq
        exact .inl he
      | cons y before =>
        obtain ⟨rfl, rfl⟩ := List.cons.inj heq
        obtain ⟨⟨b, hb⟩, hok⟩ := List.forall_mem_cons.mp hok
        exact .inr ⟨b, hb, .inl ⟨before, x, after, rfl, hok, he⟩⟩

theorem exists_mapM_eq_ok {ε α β : Type} {f : α → Except ε β} {as : List α} :
    (∃ bs, as.mapM f = .ok bs) ↔ ∀ a ∈ as, ∃ b, f a = .ok b := by
  simp only [mapM_eq_ok]
  induction as with
  | nil => simp
  | cons a as ih =>
    rw [List.forall_mem_cons, ← ih]
    constructor
    · rintro ⟨_, _ | ⟨hb, hbs⟩⟩
      exact ⟨⟨_, hb⟩, _, hbs⟩
    · rintro ⟨⟨b, hb⟩, bs, hbs⟩
      exact ⟨b :: bs, .cons hb hbs⟩

theorem exists_of_forall₂ {α β : Type} {R : α → β → Prop} {as : List α} {bs : List β}
    (h : List.Forall₂ R as bs) {b : β} (hb : b ∈ bs) : ∃ a ∈ as, R a b := by
  induction h with
  | nil => cases hb
  | cons hr _ ih =>
    obtain rfl | hb := List.mem_cons.mp hb
    · exact ⟨_, List.mem_cons_self, hr⟩
    · obtain ⟨a, ha, hr⟩ := ih hb
      exact ⟨a, List.mem_cons_of_mem _ ha, hr⟩

namespace Library

open Plan

variable {lib : Library} {files : Files}

theorem isComponentName_of_info {name : String} {info : Component.Info}
    (h : lib.info files name = .ok info) : isComponentName name = true := by
  rw [Library.info] at h
  split at h
  · next hn => exact (Bool.and_eq_true_iff.mp hn).1
  · cases h

theorem component_eq_ok {o : Options} {name : String} {part : List OutputFile × List String} :
    lib.component files o name = .ok part ↔
      ∃ info code, lib.info files name = .ok info ∧ lib.code files name (siblings o) = .ok code ∧
        part = (componentFiles name code o.storybook, info.dependencies) := by
  simp only [component, bind_eq_ok]
  constructor
  · rintro ⟨info, hi, code, hc, h⟩
    exact ⟨info, code, hi, hc, (Except.ok.inj h).symm⟩
  · rintro ⟨info, code, hi, hc, rfl⟩
    exact ⟨info, hi, code, hc, rfl⟩

theorem component_eq_error {o : Options} {name : String} {f : Failure} :
    lib.component files o name = .error f ↔ lib.info files name = .error f ∨
      (∃ info, lib.info files name = .ok info) ∧ lib.code files name (siblings o) = .error f := by
  simp only [component, bind_eq_error]
  constructor
  · rintro (h | ⟨info, hi, h | ⟨code, -, h⟩⟩)
    · exact .inl h
    · exact .inr ⟨⟨info, hi⟩, h⟩
    · cases h
  · rintro (h | ⟨⟨info, hi⟩, h⟩)
    · exact .inl h
    · exact .inr ⟨info, hi, .inl h⟩

/-- There is a plan if the target is given and every component that is asked for can be read. -/
theorem tryComponents_eq_ok {r : Request} {outcome : Outcome} :
    lib.tryComponents files r = .ok outcome ↔
      checkTarget r.options = .ok () ∧ r.components ≠ [] ∧
        ∃ parts, List.Forall₂ (fun name part => lib.component files r.options name = .ok part)
          r.components parts ∧ outcome = lib.integrated r parts := by
  simp only [tryComponents, bind_eq_ok, ← mapM_eq_ok]
  constructor
  · rintro ⟨⟨⟩, ht, h⟩
    by_cases hc : r.components = []
    · rw [hc] at h
      cases h
    · rw [if_neg (by simp [hc])] at h
      obtain ⟨parts, hp, h⟩ := bind_eq_ok.mp h
      exact ⟨ht, hc, parts, mapError_eq_ok.mp hp, (Except.ok.inj h).symm⟩
  · rintro ⟨ht, hc, parts, hp, rfl⟩
    refine ⟨(), ht, ?_⟩
    rw [if_neg (by simp [hc])]
    exact bind_eq_ok.mpr ⟨parts, mapError_eq_ok.mpr hp, rfl⟩

theorem integrate_success {r : Request} : (lib.integrate files r).success = true ↔
    lib.tryComponents files r = .ok (lib.integrate files r) := by
  rw [integrate]
  cases h : lib.tryComponents files r with
  | ok outcome =>
    obtain ⟨-, -, parts, -, rfl⟩ := tryComponents_eq_ok.mp h
    exact ⟨fun _ => rfl, fun _ => rfl⟩
  | error failure => exact ⟨nofun, nofun⟩

end Library

end StyleGuide
