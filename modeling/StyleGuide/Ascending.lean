namespace StyleGuide

variable {α : Type}

/-- Puts an item where its key belongs in an ascending list; a key that is there already is left
alone. -/
def insertAscending (key : α → String) (x : α) : List α → List α
  | [] => [x]
  | y :: ys =>
    if key x < key y then x :: y :: ys
    else if key y < key x then y :: insertAscending key x ys
    else y :: ys

theorem mem_keys_insertAscending {key : α → String} {x : α} {ys : List α} {k : String} :
    k ∈ (insertAscending key x ys).map key ↔ k = key x ∨ k ∈ ys.map key := by
  induction ys with
  | nil => simp [insertAscending]
  | cons y ys ih =>
    rw [insertAscending]
    split
    · simp
    · next hxy =>
      split
      · simp only [List.map_cons, List.mem_cons, ih]
        exact or_left_comm
      · next hyx =>
        have he : key x = key y := String.le_antisymm (String.not_lt.1 hyx) (String.not_lt.1 hxy)
        simp [he]

theorem pairwise_insertAscending {key : α → String} {x : α} {ys : List α}
    (h : (ys.map key).Pairwise (· < ·)) :
    ((insertAscending key x ys).map key).Pairwise (· < ·) := by
  induction ys with
  | nil => simp [insertAscending]
  | cons y ys ih =>
    obtain ⟨hy, hys⟩ := List.pairwise_cons.1 h
    rw [insertAscending]
    split
    · next hxy =>
      refine List.pairwise_cons.2 ⟨fun k hk => ?_, h⟩
      obtain rfl | hk := List.mem_cons.1 hk
      · exact hxy
      · exact String.lt_trans hxy (hy k hk)
    · split
      · next hyx =>
        refine List.pairwise_cons.2 ⟨fun k hk => ?_, ih hys⟩
        obtain rfl | hk := mem_keys_insertAscending.1 hk
        · exact hyx
        · exact hy k hk
      · exact h

theorem mem_of_mem_insertAscending {key : α → String} {x z : α} {ys : List α}
    (h : z ∈ insertAscending key x ys) : z = x ∨ z ∈ ys := by
  induction ys with
  | nil => simpa [insertAscending] using h
  | cons y ys ih =>
    rw [insertAscending] at h
    split at h
    · simpa using h
    · split at h
      · obtain rfl | h := List.mem_cons.1 h
        · exact .inr (.head _)
        · exact (ih h).imp_right (.tail _)
      · exact .inr h

def ascending (key : α → String) (xs : List α) : List α :=
  xs.foldl (fun ys x => insertAscending key x ys) []

theorem mem_keys_ascending {key : α → String} {xs : List α} {k : String} :
    k ∈ (ascending key xs).map key ↔ k ∈ xs.map key := by
  suffices h : ∀ ys, k ∈ (xs.foldl (fun ys x => insertAscending key x ys) ys).map key ↔
      k ∈ ys.map key ∨ k ∈ xs.map key from
    (h []).trans ⟨fun h => h.resolve_left List.not_mem_nil, .inr⟩
  induction xs with
  | nil => simp
  | cons x xs ih =>
    intro ys
    rw [List.foldl_cons, ih, mem_keys_insertAscending, List.map_cons, List.mem_cons, or_assoc]
    exact or_left_comm

theorem pairwise_ascending (key : α → String) (xs : List α) :
    ((ascending key xs).map key).Pairwise (· < ·) := by
  suffices h : ∀ ys : List α, (ys.map key).Pairwise (· < ·) →
      ((xs.foldl (fun ys x => insertAscending key x ys) ys).map key).Pairwise (· < ·) from h [] .nil
  induction xs with
  | nil => exact fun ys h => h
  | cons x xs ih => exact fun ys h => ih _ (pairwise_insertAscending h)

theorem mem_of_mem_ascending {key : α → String} {xs : List α} {z : α}
    (h : z ∈ ascending key xs) : z ∈ xs := by
  suffices hs : ∀ ys, z ∈ xs.foldl (fun ys x => insertAscending key x ys) ys → z ∈ ys ∨ z ∈ xs from
    (hs [] h).resolve_left List.not_mem_nil
  clear h
  induction xs with
  | nil => exact fun ys h => .inl h
  | cons x xs ih =>
    intro ys h
    obtain h | h := ih _ h
    · obtain rfl | h := mem_of_mem_insertAscending h
      · exact .inr (.head _)
      · exact .inl h
    · exact .inr (.tail _ h)

def insertSorted (s : String) : List String → List String
  | [] => [s]
  | t :: ts => if t < s then t :: insertSorted s ts else s :: t :: ts

/-- The texts in ascending order, each as often as it is given. -/
def sorted (ss : List String) : List String := ss.foldr insertSorted []

theorem perm_insertSorted (s : String) (ts : List String) : (insertSorted s ts).Perm (s :: ts) := by
  induction ts with
  | nil => exact .refl _
  | cons t ts ih =>
    rw [insertSorted]
    split
    · exact (ih.cons t).trans (.swap s t ts)
    · exact .refl _

theorem pairwise_insertSorted {s : String} {ts : List String} (h : ts.Pairwise (· ≤ ·)) :
    (insertSorted s ts).Pairwise (· ≤ ·) := by
  induction ts with
  | nil => exact List.pairwise_singleton _ s
  | cons t ts ih =>
    obtain ⟨ht, hts⟩ := List.pairwise_cons.1 h
    rw [insertSorted]
    split
    · next hlt =>
      refine List.pairwise_cons.2 ⟨fun k hk => ?_, ih hts⟩
      obtain rfl | hk := List.mem_cons.1 ((perm_insertSorted s ts).mem_iff.1 hk)
      · exact String.not_lt.1 (String.lt_asymm hlt)
      · exact ht k hk
    · next hle =>
      have hst : s ≤ t := String.not_lt.1 hle
      refine List.pairwise_cons.2 ⟨fun k hk => ?_, h⟩
      obtain rfl | hk := List.mem_cons.1 hk
      · exact hst
      · exact String.le_trans hst (ht k hk)

theorem perm_sorted (ss : List String) : (sorted ss).Perm ss := by
  induction ss with
  | nil => exact .refl _
  | cons s ss ih => exact (perm_insertSorted s _).trans (ih.cons s)

theorem pairwise_sorted (ss : List String) : (sorted ss).Pairwise (· ≤ ·) := by
  induction ss with
  | nil => exact .nil
  | cons s ss ih => exact pairwise_insertSorted ih

end StyleGuide
