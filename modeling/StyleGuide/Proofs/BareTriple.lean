import StyleGuide.Proofs.NumberText
import StyleGuide.Token.Basic

namespace StyleGuide

namespace Hsl

open Text
open Decimal (isDigit ofDigits nearest ten)

variable {p q : Char → Bool} {cs rest : List Char}

namespace Numeral

variable {n : Numeral}

/-- All digits are of one class, and there are some on either side of a point. -/
@[mk_iff]
structure Of (p : Char → Bool) (n : Numeral) : Prop where
  whole : IsRow p n.whole
  fraction : ∀ ds ∈ n.fraction, IsRow p ds

instance (p : Char → Bool) (n : Numeral) : Decidable (n.Of p) := decidable_of_iff' _ (of_iff p n)

def value (n : Numeral) : Float :=
  nearest (ofDigits (n.whole ++ n.fraction.getD [])) (ten (n.fraction.getD []).length)

theorem Of.mono (h : n.Of p) (hpq : ∀ c ∈ n.text, p c = true → q c = true) : n.Of q := by
  refine ⟨h.whole.mono fun c hc => hpq c (List.mem_append_left _ hc), fun ds hds => ?_⟩
  have htext : n.text = n.whole ++ '.' :: ds := by
    rw [text, Option.mem_def.mp hds, Option.elim_some]
  refine (h.fraction ds hds).mono fun c hc => hpq c ?_
  rw [htext]
  exact List.mem_append_right _ (.tail _ hc)

theorem Of.mem_text (h : n.Of p) : ∀ c ∈ n.text, p c = true ∨ c = '.' := by
  intro c hc
  obtain hc | hc := List.mem_append.mp hc
  · exact .inl (h.whole.all c hc)
  · cases hn : n.fraction with
    | none => simp [hn] at hc
    | some ds =>
      rw [hn] at hc
      obtain rfl | hc := List.mem_cons.mp hc
      · exact .inr rfl
      · exact .inl ((h.fraction ds hn).all c hc)

theorem of_numeral? (h : numeral? cs = some (n, rest)) : n.Of isDecimal ∧ n.text ++ rest = cs := by
  obtain ⟨⟨whole, point⟩, hwhole, hpoint⟩ := Option.bind_eq_some_iff.mp h
  obtain ⟨hrow, rfl⟩ := isRow_of_run? hwhole
  dsimp only at hpoint
  split at hpoint
  · obtain ⟨rfl, rfl⟩ := Prod.mk.inj (Option.some.inj hpoint)
    exact ⟨⟨hrow, nofun⟩, by simp [text]⟩
  · next places hmark =>
    obtain ⟨⟨ds, tail⟩, hplaces, heq⟩ := Option.bind_eq_some_iff.mp hpoint
    obtain ⟨rfl, rfl⟩ := Prod.mk.inj (Option.some.inj heq)
    obtain ⟨hds, rfl⟩ := isRow_of_run? hplaces
    obtain rfl := char?_eq_some_iff.mp hmark
    exact ⟨⟨hrow, by simpa using hds⟩, by simp [text]⟩

/-- What follows a numeral is no more of it: neither a digit nor a point. -/
def Ends (rest : List Char) : Prop := ∀ c, rest.head? = some c → isDecimal c = false ∧ c ≠ '.'

theorem ends_blanks (h : IsRow isBlank cs) (rest : List Char) : Ends (cs ++ rest) := by
  intro c hc
  have hblank := h.head? hc
  constructor
  · rw [Bool.eq_false_iff]
    intro hd
    rw [not_isBlank_of_isDecimal hd] at hblank
    cases hblank
  · rintro rfl
    cases hblank

theorem ends_percent (rest : List Char) : Ends ('%' :: rest) := by
  rintro c ⟨⟩
  decide

theorem Of.head?_append (h : n.Of isDecimal) (rest : List Char) :
    ∀ c, (n.text ++ rest).head? = some c → isBlank c = false := by
  intro c hc
  rw [text, List.append_assoc] at hc
  exact not_isBlank_of_isDecimal (h.whole.head? hc)

theorem Of.numeral?_append (h : n.Of isDecimal) (hrest : Ends rest) :
    numeral? (n.text ++ rest) = some (n, rest) := by
  obtain ⟨whole, fraction⟩ := n
  have hdigits : ∀ c, rest.head? = some c → isDecimal c = false := fun c hc => (hrest c hc).1
  cases fraction with
  | none =>
    have hpoint : char? '.' rest = none := by
      cases rest with
      | nil => rfl
      | cons c r => exact if_neg (hrest c rfl).2
    simp [numeral?, text, h.whole.run?_append hdigits, hpoint]
  | some ds =>
    have hplaces := (h.fraction ds rfl).run?_append hdigits
    have hwhole : run? isDecimal (whole ++ '.' :: (ds ++ rest)) =
        some (whole, '.' :: (ds ++ rest)) := by
      refine h.whole.run?_append ?_
      rintro c ⟨⟩
      decide
    simp [numeral?, text, hwhole, char?, hplaces]

theorem Of.read?_text (h : n.Of isDigit) : Decimal.read? n.text = some n.value := by
  obtain ⟨whole, fraction⟩ := n
  cases fraction with
  | none =>
    have hread := Decimal.read?_of_numeral? h.whole List.prefix_rfl (Decimal.numeral?_whole h.whole)
    simpa [text, value, Decimal.Numeral.value, ten] using hread
  | some ds =>
    have hn := Decimal.numeral?_places h.whole (h.fraction ds rfl)
    have hread := Decimal.read?_of_numeral? h.whole (List.prefix_append whole _) hn
    simpa [text, value, Decimal.Numeral.value, ten] using hread

theorem Of.of_read? (h : n.Of isDecimal) {x : Float} (hx : Decimal.read? n.text = some x) :
    n.Of isDigit :=
  h.mono fun c hc hd => isDigit_of_isDecimal hd (Decimal.ascii_of_read? hx c hc)

end Numeral

structure Triple where
  hue : Numeral
  gap : List Char
  saturation : Numeral
  space : List Char
  lightness : Numeral

namespace Triple

variable {t : Triple}

/-- The form `217 91% 60%`. -/
def text (t : Triple) : List Char :=
  t.hue.text ++ (t.gap ++ (t.saturation.text ++ '%' :: (t.space ++ (t.lightness.text ++ ['%']))))

def color (t : Triple) : Hsl := ⟨t.hue.value, t.saturation.value, t.lightness.value⟩

@[mk_iff]
structure Of (p : Char → Bool) (t : Triple) : Prop where
  hue : t.hue.Of p
  gap : IsRow isBlank t.gap
  saturation : t.saturation.Of p
  space : IsRow isBlank t.space
  lightness : t.lightness.Of p

instance (p : Char → Bool) (t : Triple) : Decidable (t.Of p) := decidable_of_iff' _ (of_iff p t)

theorem exists_of_numerals? {hue saturation lightness : Numeral}
    (h : numerals? cs = some (hue, saturation, lightness)) : ∃ gap space,
      (⟨hue, gap, saturation, space, lightness⟩ : Triple).Of isDecimal ∧
      (⟨hue, gap, saturation, space, lightness⟩ : Triple).text = cs := by
  obtain ⟨⟨hue', _⟩, readHue, h⟩ := Option.bind_eq_some_iff.mp h
  obtain ⟨_, readGap, h⟩ := Option.bind_eq_some_iff.mp h
  obtain ⟨⟨saturation', _⟩, readSaturation, h⟩ := Option.bind_eq_some_iff.mp h
  obtain ⟨_, readPercent, h⟩ := Option.bind_eq_some_iff.mp h
  obtain ⟨_, readSpace, h⟩ := Option.bind_eq_some_iff.mp h
  obtain ⟨⟨lightness', _⟩, readLightness, h⟩ := Option.bind_eq_some_iff.mp h
  obtain ⟨rest, readLast, h⟩ := Option.bind_eq_some_iff.mp h
  split at h
  · next hempty =>
    obtain ⟨rfl, rfl, rfl⟩ : hue' = hue ∧ saturation' = saturation ∧ lightness' = lightness := by
      simpa using h
    obtain ⟨hhue, rfl⟩ := Numeral.of_numeral? readHue
    obtain ⟨gap, hgap, rfl⟩ := isRow_of_blanks? readGap
    obtain ⟨hsaturation, rfl⟩ := Numeral.of_numeral? readSaturation
    obtain rfl := char?_eq_some_iff.mp readPercent
    obtain ⟨space, hspace, rfl⟩ := isRow_of_blanks? readSpace
    obtain ⟨hlightness, rfl⟩ := Numeral.of_numeral? readLightness
    obtain rfl := char?_eq_some_iff.mp readLast
    obtain rfl := List.isEmpty_iff.mp hempty
    exact ⟨gap, space, ⟨hhue, hgap, hsaturation, hspace, hlightness⟩, rfl⟩
  · cases h

theorem Of.numerals?_text (h : t.Of isDecimal) :
    numerals? t.text = some (t.hue, t.saturation, t.lightness) := by
  have hhue := h.hue.numeral?_append (Numeral.ends_blanks h.gap
    (t.saturation.text ++ '%' :: (t.space ++ (t.lightness.text ++ ['%']))))
  have hgap := h.gap.blanks?_append
    (h.saturation.head?_append ('%' :: (t.space ++ (t.lightness.text ++ ['%']))))
  have hsaturation := h.saturation.numeral?_append
    (Numeral.ends_percent (t.space ++ (t.lightness.text ++ ['%'])))
  have hspace := h.space.blanks?_append (h.lightness.head?_append ['%'])
  have hlightness := h.lightness.numeral?_append (Numeral.ends_percent [])
  simp [numerals?, text, hhue, hgap, hsaturation, char?, hspace, hlightness]

theorem Of.unique {u : Triple} (ht : t.Of isDecimal) (hu : u.Of isDecimal) (h : t.text = u.text) :
    t = u := by
  have hread := ht.numerals?_text
  rw [h, hu.numerals?_text] at hread
  obtain ⟨hue, gap, saturation, space, lightness⟩ := t
  obtain ⟨hue', gap', saturation', space', lightness'⟩ := u
  obtain ⟨rfl, rfl, rfl⟩ : hue' = hue ∧ saturation' = saturation ∧ lightness' = lightness := by
    simpa using hread
  -- The blanks are not among what is read; they go as far as the next numeral begins.
  have htail := List.append_cancel_left h
  have hrun : ∀ {t : Triple}, t.Of isDecimal → ∀ rest,
      run isBlank (t.gap ++ (t.saturation.text ++ rest)) = (t.gap, t.saturation.text ++ rest) :=
    fun ht rest => run_eq_iff.mpr ⟨rfl, ht.gap.all, ht.saturation.head?_append rest⟩
  have hparts := hrun ht ('%' :: (space ++ (lightness'.text ++ ['%'])))
  rw [htail, hrun hu] at hparts
  obtain ⟨rfl, hrest⟩ := Prod.mk.inj hparts
  have hspace := (List.cons.inj (List.append_cancel_left hrest)).2
  obtain rfl := List.append_cancel_right hspace
  rfl

theorem Of.decimal (h : t.Of isDigit) : t.Of isDecimal where
  hue := h.hue.mono fun _ _ => isDecimal_of_isDigit
  gap := h.gap
  saturation := h.saturation.mono fun _ _ => isDecimal_of_isDigit
  space := h.space
  lightness := h.lightness.mono fun _ _ => isDecimal_of_isDigit

end Triple

theorem ofValue?_eq_some_iff {value : String} {c : Hsl} : ofValue? value = some c ↔
    ∃ t : Triple, t.Of isDigit ∧ t.text = value.toList ∧ c = t.color := by
  constructor
  · -- The form allows digits of any script, and reading the numerals leaves those of ASCII.
    intro h
    obtain ⟨⟨hue, saturation, lightness⟩, hnumerals, h⟩ := Option.bind_eq_some_iff.mp h
    obtain ⟨x, hx, h⟩ := Option.bind_eq_some_iff.mp h
    obtain ⟨y, hy, h⟩ := Option.bind_eq_some_iff.mp h
    obtain ⟨z, hz, h⟩ := Option.bind_eq_some_iff.mp h
    obtain ⟨gap, space, hdecimal, htext⟩ := Triple.exists_of_numerals? hnumerals
    have hhue := hdecimal.hue.of_read? hx
    have hsaturation := hdecimal.saturation.of_read? hy
    have hlightness := hdecimal.lightness.of_read? hz
    refine ⟨_, ⟨hhue, hdecimal.gap, hsaturation, hdecimal.space, hlightness⟩, htext, ?_⟩
    obtain rfl := Option.some.inj (hx.symm.trans hhue.read?_text)
    obtain rfl := Option.some.inj (hy.symm.trans hsaturation.read?_text)
    obtain rfl := Option.some.inj (hz.symm.trans hlightness.read?_text)
    exact (Option.some.inj h).symm
  · rintro ⟨t, ht, htext, rfl⟩
    simp [ofValue?, ← htext, ht.decimal.numerals?_text, ht.hue.read?_text, ht.saturation.read?_text,
      ht.lightness.read?_text, Triple.color]

/-- A sign, the mark of an exponent, or a digit beyond ASCII. -/
def isForeign (c : Char) : Bool :=
  c == '+' || c == '-' || c == 'e' || c == 'E' || (isDecimal c && !isDigit c)

theorem not_isForeign {c : Char} (h : isDigit c = true ∨ c = '.' ∨ c = '%' ∨ isBlank c = true) :
    isForeign c = false := by
  rw [Bool.eq_false_iff]
  intro hforeign
  simp only [isForeign, Bool.or_eq_true, Bool.and_eq_true, beq_iff_eq,
    Bool.not_eq_true'] at hforeign
  obtain (((rfl | rfl) | rfl) | rfl) | ⟨hdecimal, hdigit⟩ := hforeign
  · exact absurd h (by decide)
  · exact absurd h (by decide)
  · exact absurd h (by decide)
  · exact absurd h (by decide)
  · obtain h | rfl | rfl | h := h
    · rw [h] at hdigit
      cases hdigit
    · exact absurd hdecimal (by decide)
    · exact absurd hdecimal (by decide)
    · rw [not_isBlank_of_isDecimal hdecimal] at h
      cases h

theorem Triple.Of.not_isForeign {t : Triple} (h : t.Of isDigit) :
    ∀ c ∈ t.text, isForeign c = false := by
  have hnumeral : ∀ {n : Numeral}, n.Of isDigit → ∀ c ∈ n.text, isForeign c = false := by
    intro n hn c hc
    obtain hc | hc := hn.mem_text c hc
    · exact Hsl.not_isForeign (.inl hc)
    · exact Hsl.not_isForeign (.inr (.inl hc))
  have hblanks : ∀ {cs : List Char}, IsRow isBlank cs → ∀ c ∈ cs, isForeign c = false :=
    fun hcs c hc => Hsl.not_isForeign (.inr (.inr (.inr (hcs.all c hc))))
  have hpercent : isForeign '%' = false := by decide
  simp only [text, List.forall_mem_append, List.forall_mem_cons]
  exact ⟨hnumeral h.hue, hblanks h.gap, hnumeral h.saturation, hpercent, hblanks h.space,
    hnumeral h.lightness, hpercent, List.forall_mem_nil _⟩

/-- A value is read just if it has the form `217 91% 60%` with digits of ASCII, and nothing else.
Its components are the numbers that the numerals write, and it has this form in one way, even if
digits of all scripts are allowed. Nothing is read where a sign, an exponent or a digit beyond ASCII
stands. -/
theorem reads_bare_form (value : String) :
    ((∃ c, ofValue? value = some c) ↔ ∃ t : Triple, t.Of isDigit ∧ t.text = value.toList) ∧
    (∀ t : Triple, t.Of isDigit → t.text = value.toList → ofValue? value = some t.color ∧
      ∀ u : Triple, u.Of isDecimal → u.text = value.toList → u = t) ∧
    (∀ c ∈ value.toList, isForeign c = true → ofValue? value = none) := by
  refine ⟨?_, fun t ht htext => ⟨?_, fun u hu hutext => ?_⟩, fun c hc hforeign => ?_⟩
  · constructor
    · rintro ⟨c, hc⟩
      obtain ⟨t, ht, htext, -⟩ := ofValue?_eq_some_iff.mp hc
      exact ⟨t, ht, htext⟩
    · rintro ⟨t, ht, htext⟩
      exact ⟨t.color, ofValue?_eq_some_iff.mpr ⟨t, ht, htext, rfl⟩⟩
  · exact ofValue?_eq_some_iff.mpr ⟨t, ht, htext, rfl⟩
  · exact hu.unique ht.decimal (hutext.trans htext.symm)
  · rw [Option.eq_none_iff_forall_ne_some]
    intro color hcolor
    obtain ⟨t, ht, htext, -⟩ := ofValue?_eq_some_iff.mp hcolor
    rw [ht.not_isForeign c (htext ▸ hc)] at hforeign
    cases hforeign

def spaced : Triple :=
  ⟨⟨"217".toList, some "50".toList⟩, "\u3000 ".toList, ⟨"091".toList, none⟩, "\t".toList,
    ⟨"0".toList, some "0".toList⟩⟩

/-- The numerals of the last value have the form, but digits beyond ASCII are not read as numbers.
-/
theorem reads_bare_form_spaced :
    (spaced.Of isDigit ∧ spaced.text = "217.50\u3000 091%\t0.0%".toList) ∧
    ofValue? "217.50\u3000 091%\t0.0%" = some ⟨nearest 21750 100, nearest 91 1, nearest 0 10⟩ ∧
    ofValue? "+217 91% 60%" = none ∧ ofValue? "217 9e1% 60%" = none ∧
    (numerals? "217 ٩١% 60%".toList).isSome = true ∧ ofValue? "217 ٩١% 60%" = none := by
  have hspaced : spaced.Of isDigit := by decide
  have htext : spaced.text = "217.50\u3000 091%\t0.0%".toList := by decide
  obtain ⟨-, hread, -⟩ := reads_bare_form "217.50\u3000 091%\t0.0%"
  obtain ⟨-, -, hsign⟩ := reads_bare_form "+217 91% 60%"
  obtain ⟨-, -, hexponent⟩ := reads_bare_form "217 9e1% 60%"
  obtain ⟨-, -, hscript⟩ := reads_bare_form "217 ٩١% 60%"
  refine ⟨⟨hspaced, htext⟩, (hread spaced hspaced htext).1, ?_, ?_, ?_, ?_⟩
  · exact hsign '+' (by decide) (by decide)
  · exact hexponent 'e' (by decide) (by decide)
  · decide +kernel
  · exact hscript '٩' (by decide) (by decide)

end Hsl

end StyleGuide
