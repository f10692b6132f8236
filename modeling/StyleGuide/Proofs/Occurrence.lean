import Mathlib.Data.List.Infix
import StyleGuide.Text.Search

namespace StyleGuide.Text

instance decidableForallMem (p : Char → Prop) [DecidablePred p] (cs : List Char) :
    Decidable (∀ c ∈ cs, p c) := List.decidableBAll p cs

variable {α : Type} {c : Char} {mark front rest cs : List Char}

/-- Where a character of a class is met for the first time, a text falls into two parts in one way
only. -/
theorem append_cons_inj_of {p : Char → Bool} {d : Char} {front' rest' : List Char}
    (hf : ∀ e ∈ front, p e = false) (hc : p c = true) (hf' : ∀ e ∈ front', p e = false)
    (hd : p d = true) (h : front ++ c :: rest = front' ++ d :: rest') :
    front = front' ∧ c = d ∧ rest = rest' := by
  have hrun : ∀ {f r : List Char} {e : Char}, (∀ e ∈ f, p e = false) → p e = true →
      run (!p ·) (f ++ e :: r) = (f, e :: r) := by
    intro f r e hf he
    refine run_eq_iff.mpr ⟨rfl, fun a ha => ?_, fun a ha => ?_⟩
    · rw [hf a ha, Bool.not_false]
    · obtain rfl := Option.some.inj ha
      rw [he, Bool.not_true]
  have heq := hrun (r := rest) hf hc
  rw [h, hrun hf' hd] at heq
  obtain ⟨hfront, hrest⟩ := Prod.mk.inj heq
  obtain ⟨hcd, hrest⟩ := List.cons.inj hrest
  exact ⟨hfront.symm, hcd.symm, hrest.symm⟩

theorem append_cons_inj {front' rest' : List Char} (hf : c ∉ front) (hf' : c ∉ front')
    (h : front ++ c :: rest = front' ++ c :: rest') : front = front' ∧ rest = rest' := by
  have hne : ∀ {f : List Char}, c ∉ f → ∀ e ∈ f, (e == c) = false := by
    intro f hf e he
    rw [beq_eq_false_iff_ne]
    rintro rfl
    exact hf he
  obtain ⟨hfront, -, hrest⟩ := append_cons_inj_of (hne hf) BEq.rfl (hne hf') BEq.rfl h
  exact ⟨hfront, hrest⟩

/-- A recogniser that says nothing at any place of the text before leaves it to the rest. -/
theorem firstMatch_append {m : List Char → Option α}
    (h : ∀ a b, a ++ b = front → b ≠ [] → m (b ++ rest) = none) :
    firstMatch m (front ++ rest) = firstMatch m rest := by
  induction front with
  | nil => rfl
  | cons c front ih =>
    have hhere : m (c :: (front ++ rest)) = none := h [] (c :: front) rfl (List.cons_ne_nil c front)
    rw [List.cons_append, firstMatch_cons_of_none hhere]
    refine ih fun a b hab hb => ?_
    exact h (c :: a) b (by rw [List.cons_append, hab]) hb

/-- A mark that has its first character once only does not begin in a text where it does not stand,
even if that character comes next. -/
theorem after?_eq_none (hc : c ∉ mark) (hf : ¬ c :: mark <:+: front) (hne : front ≠ []) :
    after? (c :: mark) (front ++ c :: rest) = none := by
  rw [Option.eq_none_iff_forall_ne_some]
  intro r hr
  obtain ⟨as, ha, -⟩ | ⟨bs, hb, hrest⟩ := List.append_eq_append_iff.mp (after?_eq_some_iff.mp hr)
  · exact hf ⟨[], as, ha.symm⟩
  · cases bs with
    | nil => exact hf ⟨[], [], by simp [hb]⟩
    | cons e bs =>
      -- The mark reaches beyond the text, so that its first character is in it twice.
      obtain ⟨d, front, rfl⟩ := List.exists_cons_of_ne_nil hne
      have he : c = e := (List.cons.inj hrest).1
      have hmark : mark = front ++ e :: bs := (List.cons.inj hb).2
      exact hc (by simp [hmark, he])

theorem after?_eq_none_of_last (hc : c ∉ mark) (hf : ¬ mark ++ [c] <:+: front) (hne : front ≠ []) :
    after? (mark ++ [c]) (front ++ (mark ++ c :: rest)) = none := by
  rw [Option.eq_none_iff_forall_ne_some]
  intro r hr
  obtain ⟨as, ha, -⟩ | ⟨bs, hb, hrest⟩ := List.append_eq_append_iff.mp (after?_eq_some_iff.mp hr)
  · exact hf ⟨[], as, ha.symm⟩
  · obtain rfl | ⟨bs, d, rfl⟩ := List.eq_nil_or_concat bs
    · exact hf ⟨[], [], by simpa using hb⟩
    · -- The mark reaches beyond the text, so the text is the beginning of a mark and ends in one.
      rw [List.concat_eq_append, ← List.append_assoc] at hb
      obtain ⟨hmark, hd⟩ := List.append_inj' hb rfl
      obtain rfl := List.singleton_inj.mp hd
      have hbs : c ∉ bs := fun hm => hc (hmark ▸ List.mem_append_right front hm)
      rw [List.concat_eq_append, List.append_assoc, List.singleton_append] at hrest
      obtain ⟨heq, -⟩ := append_cons_inj hc hbs hrest
      exact hne (List.append_left_eq_self.mp (hmark.symm.trans heq))

theorem splitAt?_append (hc : c ∉ mark) (hf : ¬ c :: mark <:+: front) :
    splitAt? (c :: mark) (front ++ (c :: mark ++ rest)) = some (front, rest) := by
  induction front with
  | nil =>
    rw [List.nil_append, List.cons_append, splitAt?, ← List.cons_append, after?_append]
  | cons d front ih =>
    have hhere : after? (c :: mark) (d :: (front ++ c :: (mark ++ rest))) = none :=
      after?_eq_none hc hf (List.cons_ne_nil d front)
    rw [List.cons_append, List.cons_append, splitAt?, hhere, ← List.cons_append,
      ih fun h => hf (List.infix_cons h)]
    rfl

theorem splitAt?_eq_none_iff : splitAt? mark cs = none ↔ ¬ mark <:+: cs := by
  induction cs with
  | nil => simp [splitAt?]
  | cons c r ih =>
    rw [splitAt?, List.infix_cons_iff, not_or, ← ih]
    cases h : after? mark (c :: r) with
    | some rest =>
      exact iff_of_false (Option.some_ne_none _) fun hn => hn.1 ⟨rest, after?_eq_some_iff.mp h⟩
    | none =>
      have hp : ¬ mark <+: c :: r := by
        rintro ⟨rest, hrest⟩
        rw [after?_eq_some_iff.mpr hrest] at h
        cases h
      rw [Option.map_eq_none_iff]
      exact (and_iff_right hp).symm

theorem not_infix_append_cons {a b : List Char} (hc : c ∉ mark) (ha : ¬ mark <:+: a)
    (hb : ¬ mark <:+: b) : ¬ mark <:+: a ++ c :: b := by
  rw [List.infix_append_iff, List.infix_cons_iff]
  rintro (h | (h | h) | ⟨l, r, rfl, hl, hr⟩)
  · exact ha h
  · cases mark with
    | nil => exact ha List.nil_infix
    | cons d mark => exact hc (by simp [(List.cons_prefix_cons.mp h).1])
  · exact hb h
  · cases r with
    | nil => exact ha (by simpa using hl.isInfix)
    | cons d r => exact hc (by simp [(List.cons_prefix_cons.mp hr).1])

theorem not_prefix_append_cons {a b : List Char} (hc : c ∉ mark) (ha : ¬ mark <+: a) :
    ¬ mark <+: a ++ c :: b := by
  rintro ⟨r, hr⟩
  obtain ⟨as, h, -⟩ | ⟨bs, h, hrest⟩ := List.append_eq_append_iff.mp hr
  · exact ha ⟨as, h.symm⟩
  · cases bs with
    | nil => exact ha ⟨[], by simp [h]⟩
    | cons d bs => exact hc (by simp [h, (List.cons.inj hrest).1])

theorem after?_eq_none_iff : after? mark cs = none ↔ ¬ mark <+: cs := by
  simp [Option.eq_none_iff_forall_ne_some, after?_eq_some_iff, List.IsPrefix]

theorem before?_eq_none_iff : before? mark cs = none ↔ ¬ mark <:+ cs := by
  simp [Option.eq_none_iff_forall_ne_some, before?_eq_some_iff, List.IsSuffix]

theorem not_infix_of_not_mem (hc : c ∈ mark) (h : c ∉ cs) : ¬ mark <:+: cs :=
  fun hm => h (hm.subset hc)

end StyleGuide.Text
