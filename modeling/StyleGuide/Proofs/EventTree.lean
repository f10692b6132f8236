import StyleGuide.Json.Event

namespace StyleGuide.Json

mutual

/-- The events of a value with all the members that it is written with, also those of one name. -/
def events : Json → List Event
  | scalar s => [.scalar s]
  | array [] => [.openArray, .closeArray]
  | array (x :: xs) => .openArray :: events x ++ itemEvents xs ++ [.closeArray]
  | object [] => [.openObject, .closeObject]
  | object (m :: ms) => .openObject :: memberEvents m ++ membersEvents ms ++ [.closeObject]

def itemEvents : List Json → List Event
  | [] => []
  | x :: xs => .comma :: events x ++ itemEvents xs

def memberEvents : String × Json → List Event
  | (name, x) => .key name :: events x

def membersEvents : List (String × Json) → List Event
  | [] => []
  | m :: ms => .comma :: memberEvents m ++ membersEvents ms

end

/-- A text that is JSON all through and has the events of a value. -/
def Writes (cs : List Char) (j : Json) : Prop := Events.ofChars cs = ⟨events j, none⟩

namespace Events

variable {es tail : List Event} {inside : List Container} {p q : Place} {c : Char}
    {r rest cs : List Char}

/-- What comes after a value until all open containers are closed, the innermost first. -/
def Closes : List Container → List Event → Prop
  | [], es => es = []
  | .array :: outer, es => ∃ xs back, es = itemEvents xs ++ .closeArray :: back ∧ Closes outer back
  | .object :: outer, es =>
    ∃ ms back, es = membersEvents ms ++ .closeObject :: back ∧ Closes outer back

def TakesOne (inside : List Container) (es : List Event) : Prop :=
  ∃ j back, es = events j ++ back ∧ Closes inside back

def TakesMember (inside : List Container) (es : List Event) : Prop :=
  ∃ m back, es = memberEvents m ++ back ∧ Closes inside back

/-- What can come at a place. A first item is awaited only in an array, a key only in an object. -/
def Comes : Place → List Event → Prop
  | ⟨.value, inside⟩, es | ⟨.colon, inside⟩, es => TakesOne inside es
  | ⟨.afterValue, inside⟩, es => Closes inside es
  | ⟨.firstItem, .array :: outer⟩, es =>
    TakesOne (.array :: outer) es ∨ ∃ back, es = .closeArray :: back ∧ Closes outer back
  | ⟨.firstKey, .object :: outer⟩, es =>
    TakesMember (.object :: outer) es ∨ ∃ back, es = .closeObject :: back ∧ Closes outer back
  | ⟨.key, .object :: outer⟩, es => TakesMember (.object :: outer) es
  | _, _ => True

theorem enter_array (h : enter .array inside r = .moved es q rest) (hq : Comes q tail) :
    TakesOne inside (es ++ tail) := by
  rw [enter] at h
  split at h
  · cases h
  · cases h
    obtain ⟨x, back, rfl, xs, back, rfl, hback⟩ | ⟨back, rfl, hback⟩ := hq
    · exact ⟨.array (x :: xs), back, by simp [events], hback⟩
    · exact ⟨.array [], back, rfl, hback⟩

theorem enter_object (h : enter .object inside r = .moved es q rest) (hq : Comes q tail) :
    TakesOne inside (es ++ tail) := by
  rw [enter] at h
  split at h
  · cases h
  · cases h
    obtain ⟨m, back, rfl, ms, back, rfl, hback⟩ | ⟨back, rfl, hback⟩ := hq
    · exact ⟨.object (m :: ms), back, by simp [events], hback⟩
    · exact ⟨.object [], back, rfl, hback⟩

theorem takesOne_of_value (h : value inside c r = .moved es q rest) (hq : Comes q tail) :
    TakesOne inside (es ++ tail) := by
  rw [value] at h
  split at h
  · exact enter_array h hq
  · split at h
    · exact enter_object h hq
    · split at h
      · next s back hs =>
        cases h
        exact ⟨.scalar s, tail, rfl, hq⟩
      · cases h

theorem takesMember_of_memberName (h : memberName inside c r = .moved es q rest)
    (hq : Comes q tail) :
    TakesMember inside (es ++ tail) := by
  rw [memberName] at h
  split at h
  · split at h
    · next name back hname =>
      cases h
      obtain ⟨j, back, rfl, hback⟩ := hq
      exact ⟨(name, j), back, rfl, hback⟩
    · cases h
  · cases h

theorem closes_of_stepAt (h : stepAt .afterValue inside c r = .moved es q rest)
    (hq : Comes q tail) :
    Closes inside (es ++ tail) := by
  cases inside with
  | nil => cases h
  | cons container outer =>
    cases container with
    | array =>
      rw [stepAt] at h
      split at h
      · cases h
        exact ⟨[], tail, rfl, hq⟩
      · split at h
        · cases h
          obtain ⟨x, back, rfl, xs, back, rfl, hback⟩ := hq
          exact ⟨x :: xs, back, by simp [itemEvents], hback⟩
        · cases h
    | object =>
      rw [stepAt] at h
      split at h
      · cases h
        exact ⟨[], tail, rfl, hq⟩
      · split at h
        · cases h
          obtain ⟨m, back, rfl, ms, back, rfl, hback⟩ := hq
          exact ⟨m :: ms, back, by simp [membersEvents], hback⟩
        · cases h

theorem comes_of_stepAt {e : Expected} (h : stepAt e inside c r = .moved es q rest)
    (hq : Comes q tail) : Comes ⟨e, inside⟩ (es ++ tail) := by
  cases e with
  | value => exact takesOne_of_value h hq
  | firstItem =>
    cases inside with
    | nil => trivial
    | cons container outer =>
      cases container with
      | array =>
        rw [stepAt] at h
        split at h
        · cases h
          exact .inr ⟨tail, rfl, hq⟩
        · exact .inl (takesOne_of_value h hq)
      | object => trivial
  | firstKey =>
    cases inside with
    | nil => trivial
    | cons container outer =>
      cases container with
      | array => trivial
      | object =>
        rw [stepAt] at h
        split at h
        · cases h
          exact .inr ⟨tail, rfl, hq⟩
        · exact .inl (takesMember_of_memberName h hq)
  | key =>
    cases inside with
    | nil => trivial
    | cons container outer =>
      cases container with
      | array => trivial
      | object => exact takesMember_of_memberName h hq
  | colon =>
    rw [stepAt] at h
    split at h
    · cases h
      exact hq
    · cases h
  | afterValue => exact closes_of_stepAt h hq

theorem comes_of_step (h : step p cs = .moved es q rest) (hq : Comes q tail) :
    Comes p (es ++ tail) := by
  rw [step] at h
  split at h
  · split at h <;> cases h
  · exact comes_of_stepAt h hq

theorem enter_ne_finished (container : Container) : enter container inside r ≠ .finished := by
  cases container <;> rw [enter] <;> split <;> exact nofun

theorem value_ne_finished : value inside c r ≠ .finished := by
  rw [value]
  split
  · exact enter_ne_finished _
  · split
    · exact enter_ne_finished _
    · split <;> exact nofun

theorem memberName_ne_finished : memberName inside c r ≠ .finished := by
  rw [memberName]
  split
  · split <;> exact nofun
  · exact nofun

theorem stepAt_ne_finished (e : Expected) : stepAt e inside c r ≠ .finished := by
  cases e with
  | value => exact value_ne_finished
  | firstItem =>
    rw [stepAt]
    split
    · exact nofun
    · exact value_ne_finished
  | firstKey =>
    rw [stepAt]
    split
    · exact nofun
    · exact memberName_ne_finished
  | key => exact memberName_ne_finished
  | colon =>
    rw [stepAt]
    split <;> exact nofun
  | afterValue =>
    obtain _ | ⟨_ | _, outer⟩ := inside
    · exact nofun
    · rw [stepAt]
      split
      · exact nofun
      · split <;> exact nofun
    · rw [stepAt]
      split
      · exact nofun
      · split <;> exact nofun

theorem eq_of_step_finished (h : step p cs = .finished) : p = ⟨.afterValue, []⟩ := by
  rw [step] at h
  split at h
  · obtain ⟨e, inside⟩ := p
    split at h
    · next he hinside => exact he ▸ hinside ▸ rfl
    · cases h
  · exact absurd h (stepAt_ne_finished _)

theorem comes_of_ofPlace (h : ofPlace p cs = ⟨es, none⟩) : Comes p es := by
  fun_induction ofPlace p cs generalizing es with
  | case1 p cs hstep =>
    cases h
    rw [eq_of_step_finished hstep]
    rfl
  | case2 p cs f hstep => cases h
  | case3 p cs es' q rest hstep hlt ih =>
    obtain ⟨hes, hfault⟩ := Events.mk.inj h
    have hrest : ofPlace q rest = ⟨(ofPlace q rest).list, none⟩ := congrArg (Events.mk _) hfault
    have hq := ih hrest
    exact hes ▸ comes_of_step hstep hq
  | case4 p cs es' q rest hstep hlt => cases h

theorem exists_writes (h : (ofChars cs).fault = none) : ∃ j, Writes cs j := by
  have hall : ofChars cs = ⟨(ofChars cs).list, none⟩ := congrArg (Events.mk _) h
  obtain ⟨j, back, hes, rfl⟩ := comes_of_ofPlace hall
  rw [hes, List.append_nil] at hall
  exact ⟨j, hall⟩

end Events

end StyleGuide.Json
