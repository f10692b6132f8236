namespace StyleGuide

variable {α β : Type}

/-- A list without repetitions takes in a last item only if it is new. -/
theorem eraseDups_concat [BEq α] [LawfulBEq α] (xs : List α) (x : α) [Decidable (x ∈ xs)] :
    (xs ++ [x]).eraseDups = if x ∈ xs then xs.eraseDups else xs.eraseDups ++ [x] := by
  rw [List.eraseDups_append]
  split
  · next h => simp [List.removeAll, h]
  · next h => simp [List.removeAll, h, List.eraseDups_cons]

section Put

variable {κ : Type} [DecidableEq κ]

/-- Sets the value of a key: in place if the key is there, at the end if it is not. -/
def put (key : κ) (value : α) : List (κ × α) → List (κ × α)
  | [] => [(key, value)]
  | e :: es => if e.1 = key then (key, value) :: es else e :: put key value es

theorem mem_keys_put {key k : κ} {value : α} {es : List (κ × α)} :
    k ∈ (put key value es).map Prod.fst ↔ k = key ∨ k ∈ es.map Prod.fst := by
  induction es with
  | nil => simp [put]
  | cons e es ih =>
    by_cases h : e.1 = key
    · simp [put, h]
    · simp only [put, h, if_false, List.map_cons, List.mem_cons, ih]
      exact or_left_comm

theorem nodup_keys_put {key : κ} {value : α} {es : List (κ × α)}
    (h : (es.map Prod.fst).Nodup) : ((put key value es).map Prod.fst).Nodup := by
  induction es with
  | nil => simp [put]
  | cons e es ih =>
    simp only [List.map_cons, List.nodup_cons] at h
    by_cases hk : e.1 = key
    · rw [put, if_pos hk]
      exact List.nodup_cons.2 (hk ▸ h)
    · simp only [put, hk, if_false, List.map_cons, List.nodup_cons]
      refine ⟨fun hm => ?_, ih h.2⟩
      obtain he | he := mem_keys_put.1 hm
      · exact hk he
      · exact h.1 he

theorem mem_of_lookup {key : κ} {a : α} {es : List (κ × α)} (h : es.lookup key = some a) :
    (key, a) ∈ es := by
  obtain ⟨front, back, rfl, -⟩ := List.lookup_eq_some_iff.1 h
  exact List.mem_append_right front List.mem_cons_self

end Put

theorem lookup_put {key k : String} {value : α} {es : List (String × α)} :
    (put key value es).lookup k = if k = key then some value else es.lookup k := by
  induction es with
  | nil =>
    by_cases h : k = key
    · simp [put, h]
    · simp [put, List.lookup_cons, beq_false_of_ne h, h]
  | cons e es ih =>
    obtain ⟨a, b⟩ := e
    by_cases ha : a = key
    · subst ha
      by_cases h : k = a
      · simp [put, h]
      · simp [put, List.lookup_cons, beq_false_of_ne h, h]
    · by_cases h : k = a
      · subst h
        simp [put, ha]
      · simp [put, List.lookup_cons, beq_false_of_ne h, ha, ih]

theorem exists_lookup {key : String} {es : List (String × α)} (h : key ∈ es.map Prod.fst) :
    ∃ a, es.lookup key = some a := by
  obtain ⟨e, he, rfl⟩ := List.mem_map.1 h
  exact Option.isSome_iff_exists.1 (List.lookup_isSome_iff.2 ⟨e, he, beq_self_eq_true e.1⟩)

theorem lookup_map (f : String → α → β) (es : List (String × α)) (key : String) :
    (es.map fun e => (e.1, f e.1 e.2)).lookup key = (es.lookup key).map (f key) := by
  induction es with
  | nil => rfl
  | cons e es ih =>
    obtain ⟨k, a⟩ := e
    by_cases h : key = k
    · simp [h]
    · simpa [List.lookup_cons, beq_false_of_ne h] using ih

theorem put_of_not_mem {key : String} {value : α} {es : List (String × α)}
    (h : key ∉ es.map Prod.fst) : put key value es = es ++ [(key, value)] := by
  induction es with
  | nil => rfl
  | cons e es ih =>
    simp only [List.map_cons, List.mem_cons, not_or] at h
    rw [put, if_neg (Ne.symm h.1), ih h.2, List.cons_append]

theorem keys_put_of_mem {key : String} {value : α} {es : List (String × α)}
    (h : key ∈ es.map Prod.fst) : (put key value es).map Prod.fst = es.map Prod.fst := by
  induction es with
  | nil => cases h
  | cons e es ih =>
    by_cases he : e.1 = key
    · rw [put, if_pos he, List.map_cons, List.map_cons, he]
    · rw [put, if_neg he, List.map_cons, List.map_cons, ih]
      exact (List.mem_cons.1 h).resolve_left (Ne.symm he)

theorem mem_of_mem_put {key : String} {value : α} {e : String × α} {es : List (String × α)}
    (h : e ∈ put key value es) : e = (key, value) ∨ e ∈ es := by
  induction es with
  | nil => exact .inl (List.mem_singleton.1 h)
  | cons d es ih =>
    rw [put] at h
    split at h
    · obtain rfl | h := List.mem_cons.1 h
      · exact .inl rfl
      · exact .inr (.tail _ h)
    · obtain rfl | h := List.mem_cons.1 h
      · exact .inr (.head _)
      · exact (ih h).imp_right (.tail _)

/-- Values under distinct keys, in the order in which the keys first came. -/
@[ext]
structure OrderedMap (α : Type) where
  entries : List (String × α)
  nodup : (entries.map Prod.fst).Nodup

namespace OrderedMap

def empty : OrderedMap α := ⟨[], .nil⟩

def insert (m : OrderedMap α) (key : String) (value : α) : OrderedMap α :=
  ⟨put key value m.entries, nodup_keys_put m.nodup⟩

def insertAll (m : OrderedMap α) (es : List (String × α)) : OrderedMap α :=
  es.foldl (fun m e => m.insert e.1 e.2) m

/-- The map that a list of assignments makes: the last one for a key gives its value, the first one
its place. -/
def ofList (es : List (String × α)) : OrderedMap α := empty.insertAll es

def keys (m : OrderedMap α) : List String := m.entries.map Prod.fst

def values (m : OrderedMap α) : List α := m.entries.map Prod.snd

def find? (m : OrderedMap α) (key : String) : Option α := m.entries.lookup key

def size (m : OrderedMap α) : Nat := m.entries.length

def isEmpty (m : OrderedMap α) : Bool := m.entries.isEmpty

def filter (p : α → Bool) (m : OrderedMap α) : OrderedMap α :=
  ⟨m.entries.filter fun e => p e.2, (List.filter_sublist.map _).nodup m.nodup⟩

def map (f : α → β) (m : OrderedMap α) : OrderedMap β :=
  ⟨m.entries.map fun e => (e.1, f e.2), by
    have h : (m.entries.map fun e => (e.1, f e.2)).map Prod.fst = m.entries.map Prod.fst := by
      simp [Function.comp_def]
    exact h ▸ m.nodup⟩

theorem find?_insert {m : OrderedMap α} {key k : String} {value : α} :
    (m.insert key value).find? k = if k = key then some value else m.find? k := lookup_put

theorem keys_insert (m : OrderedMap α) (key : String) (value : α) :
    (m.insert key value).keys = if key ∈ m.keys then m.keys else m.keys ++ [key] := by
  split
  · next h => exact keys_put_of_mem h
  · next h =>
    have hentries : (m.insert key value).entries = m.entries ++ [(key, value)] := put_of_not_mem h
    rw [keys, hentries, List.map_append]
    rfl

theorem values_eq_map (m : OrderedMap α) (a : α) :
    m.values = m.keys.map fun key => (m.find? key).getD a := by
  obtain ⟨es, hn⟩ := m
  induction es with
  | nil => rfl
  | cons e es ih =>
    obtain ⟨k, b⟩ := e
    obtain ⟨hk, hes⟩ := List.nodup_cons.1 hn
    have hrest : ∀ key ∈ es.map Prod.fst,
        (((k, b) :: es).lookup key).getD a = (es.lookup key).getD a := by
      intro key hkey
      have hne : key ≠ k := fun heq => hk (heq ▸ hkey)
      rw [List.lookup_cons, beq_false_of_ne hne]
    have hfirst : (((k, b) :: es).lookup k).getD a = b := by
      rw [List.lookup_cons_self, Option.getD_some]
    have hvalues : es.map Prod.snd = (es.map Prod.fst).map fun key => (es.lookup key).getD a :=
      ih hes
    simp only [values, keys, find?, List.map_cons]
    rw [hfirst, List.map_congr_left hrest, hvalues]

theorem entries_insertAll_eq_foldl (m : OrderedMap α) (es : List (String × α)) :
    (m.insertAll es).entries = es.foldl (fun acc e => put e.1 e.2 acc) m.entries := by
  induction es generalizing m with
  | nil => rfl
  | cons e es ih => exact ih (m.insert e.1 e.2)

theorem entries_ofList (es : List (String × α)) :
    (ofList es).entries = es.foldl (fun acc e => put e.1 e.2 acc) [] :=
  entries_insertAll_eq_foldl empty es

theorem entries_insertAll {m : OrderedMap α} {es : List (String × α)}
    (h : ((m.entries ++ es).map Prod.fst).Nodup) : (m.insertAll es).entries = m.entries ++ es := by
  induction es generalizing m with
  | nil => exact (List.append_nil _).symm
  | cons e es ih =>
    have hn : e.1 ∉ m.entries.map Prod.fst := by
      intro hm
      rw [List.map_append, List.nodup_append] at h
      exact h.2.2 _ hm _ (.head _) rfl
    have hp : (m.insert e.1 e.2).entries = m.entries ++ [e] := put_of_not_mem hn
    have hi := ih (m := m.insert e.1 e.2) (by simpa [hp] using h)
    rw [insertAll, hp, List.append_assoc] at hi
    exact hi

theorem find?_insertAll (m : OrderedMap α) (es : List (String × α)) (key : String) :
    (m.insertAll es).find? key = (es.reverse.lookup key).or (m.find? key) := by
  induction es generalizing m with
  | nil => rfl
  | cons e es ih =>
    have hlast : ([e].lookup key).or (m.find? key) = (m.insert e.1 e.2).find? key := by
      rw [find?_insert, List.lookup_cons]
      by_cases hk : key = e.1
      · simp [hk]
      · simp [beq_false_of_ne hk, hk]
    rw [List.reverse_cons, List.lookup_append, Option.or_assoc, hlast]
    exact ih (m.insert e.1 e.2)

theorem find?_ofList (es : List (String × α)) (key : String) :
    (ofList es).find? key = es.reverse.lookup key :=
  (find?_insertAll empty es key).trans Option.or_none

theorem mem_of_mem_insertAll {m : OrderedMap α} {es : List (String × α)} {e : String × α}
    (h : e ∈ (m.insertAll es).entries) : e ∈ m.entries ∨ e ∈ es := by
  induction es generalizing m with
  | nil => exact .inl h
  | cons d es ih =>
    obtain h | h := ih (m := m.insert d.1 d.2) h
    · obtain rfl | h := mem_of_mem_put h
      · exact .inr (.head _)
      · exact .inl h
    · exact .inr (.tail _ h)

theorem mem_of_mem_ofList {es : List (String × α)} {e : String × α} (h : e ∈ (ofList es).entries) :
    e ∈ es :=
  (mem_of_mem_insertAll h).resolve_left List.not_mem_nil

theorem ofList_entries (m : OrderedMap α) : ofList m.entries = m :=
  OrderedMap.ext (entries_insertAll (m := empty) m.nodup)

end OrderedMap

end StyleGuide
