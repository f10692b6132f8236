import Mathlib.Data.List.Basic
import StyleGuide.Proofs.Occurrence
import StyleGuide.Text.Braces
import StyleGuide.Text.Class

namespace StyleGuide.Text

def Braceless (cs : List Char) : Prop := '{' ∉ cs ∧ '}' ∉ cs

instance (cs : List Char) : Decidable (Braceless cs) := inferInstanceAs (Decidable (_ ∧ _))

variable {cs bs : List Char}

theorem Braceless.append (h : Braceless cs) (h' : Braceless bs) : Braceless (cs ++ bs) := by
  simp only [Braceless, List.mem_append, not_or]
  exact ⟨⟨h.1, h'.1⟩, h.2, h'.2⟩

theorem depthAfter_of_braceless (h : Braceless cs) (depth : Nat) : depthAfter depth cs = depth := by
  rw [depthAfter, List.count_eq_zero_of_not_mem h.1, List.count_eq_zero_of_not_mem h.2]
  rfl

theorem outermost_of_braceless {ls : List (List Char)} (h : ∀ l ∈ ls, Braceless l) :
    outermost 0 ls = ls := by
  induction ls with
  | nil => rfl
  | cons l ls ih =>
    obtain ⟨hl, hls⟩ := List.forall_mem_cons.mp h
    rw [outermost, if_pos rfl, depthAfter_of_braceless hl, ih hls]

theorem trim_isInfix (cs : List Char) : trim cs <:+: cs := by
  have hend := trimEnd_prefix (skipBlanks cs)
  exact hend.isInfix.trans (List.dropWhile_suffix isBlank).isInfix

theorem trim_blanks_append (h : ∀ c ∈ bs, isBlank c = true) (cs : List Char) :
    trim (bs ++ cs) = trim cs := by
  rw [trim, skipBlanks_append h, trim]

theorem trim_append_blanks (h : ∀ c ∈ bs, isBlank c = true) (cs : List Char) :
    trim (cs ++ bs) = trim cs := by
  have hend : ∀ ds, trimEnd (ds ++ bs) = trimEnd ds := by
    intro ds
    rw [trimEnd, trimEnd, List.reverse_append,
      List.dropWhile_append_of_pos fun c hc => h c (List.mem_reverse.mp hc)]
  have hskip : skipBlanks bs = [] := by
    rw [← List.append_nil bs, skipBlanks_append h]
    rfl
  rw [trim, trim, skipBlanks, List.dropWhile_append, ← skipBlanks, ← skipBlanks, hskip]
  split
  · next he => rw [List.isEmpty_iff.mp he]
  · exact hend _

theorem isBlank_of_trim_eq_nil {cs : List Char} (h : trim cs = []) :
    ∀ c ∈ cs, isBlank c = true := by
  obtain ⟨bs, hbs, hskip⟩ := exists_blanks cs
  obtain ⟨ds, hds, hend⟩ := exists_blanks (skipBlanks cs).reverse
  have hnil : skipBlanks (skipBlanks cs).reverse = [] := List.reverse_eq_nil_iff.mp h
  rw [hnil, List.append_nil] at hend
  rw [← hskip]
  exact List.forall_mem_append.mpr ⟨hbs, fun c hc => hds c (hend ▸ List.mem_reverse.mpr hc)⟩

theorem prefix_trim_append {cs : List Char} (h : Trimmed cs) (hne : cs ≠ []) (bs : List Char) :
    cs <+: trim (cs ++ bs) := by
  have hskip : skipBlanks (cs ++ bs) = cs ++ bs := by
    obtain ⟨c, r, rfl⟩ := List.exists_cons_of_ne_nil hne
    exact skipBlanks_eq_self fun d hd => h.1 d hd
  have hlast : cs.reverse.dropWhile isBlank = cs.reverse :=
    skipBlanks_eq_self fun d hd => h.2 d (by rwa [List.head?_reverse] at hd)
  rw [trim, hskip, trimEnd, List.reverse_append, List.dropWhile_append]
  split
  · rw [hlast, List.reverse_reverse]
  · rw [List.reverse_append, List.reverse_reverse]
    exact List.prefix_append cs _

theorem Trimmed.append (h : Trimmed cs) (h' : Trimmed bs) (hne : cs ≠ []) (hne' : bs ≠ [])
    (between : List Char) : Trimmed (cs ++ (between ++ bs)) := by
  constructor
  · intro c hc
    obtain ⟨d, cs, rfl⟩ := List.exists_cons_of_ne_nil hne
    exact h.1 c hc
  · intro c hc
    rw [← List.append_assoc, List.getLast?_append_of_ne_nil _ hne'] at hc
    exact h'.2 c hc

def withoutReturn : List Char → List Char
  | [] => []
  | ['\r'] => []
  | c :: r => c :: withoutReturn r

theorem withoutReturn_append (l : List Char) :
    ∃ bs, (∀ c ∈ bs, isBlank c = true) ∧ withoutReturn l ++ bs = l := by
  fun_induction withoutReturn l with
  | case1 => exact ⟨[], nofun, rfl⟩
  | case2 => exact ⟨['\r'], by decide, rfl⟩
  | case3 c r _ ih =>
    obtain ⟨bs, hbs, heq⟩ := ih
    exact ⟨bs, hbs, by rw [List.cons_append, heq]⟩

theorem trim_withoutReturn (l : List Char) : trim (withoutReturn l) = trim l := by
  obtain ⟨bs, hbs, heq⟩ := withoutReturn_append l
  rw [← trim_append_blanks hbs, heq]

theorem lines_append {l : List Char} (h : '\n' ∉ l) (rest : List Char) :
    lines (l ++ '\n' :: rest) = withoutReturn l :: lines rest := by
  induction l with
  | nil => rw [List.nil_append, lines, withoutReturn]
  | cons c r ih =>
    obtain ⟨hc, hr⟩ := not_or.mp (mt List.mem_cons.mpr h)
    by_cases hreturn : c = '\r' ∧ r = []
    · obtain ⟨rfl, rfl⟩ := hreturn
      rw [List.cons_append, List.nil_append, lines, withoutReturn]
    · have hline : lines (c :: (r ++ '\n' :: rest)) = (c :: withoutReturn r) :: lines rest := by
        rw [lines]
        · rw [ih hr]
        · exact fun he => hc he.symm
        · intro s hcr hs
          refine hreturn ⟨hcr, ?_⟩
          cases r with
          | nil => rfl
          | cons d r => exact absurd (.head _) ((List.cons.inj hs).1 ▸ hr)
      have hkept : withoutReturn (c :: r) = c :: withoutReturn r := by
        rw [withoutReturn]
        exact fun hcr hr => hreturn ⟨hcr, hr⟩
      rw [List.cons_append, hline, hkept]

theorem ofLines_cons (l : List Char) (ls : List (List Char)) :
    ofLines (l :: ls) = l ++ '\n' :: ofLines ls := by
  rw [ofLines, List.flatMap_cons, List.append_assoc, List.singleton_append, ← ofLines]

theorem lines_ofLines {ls : List (List Char)} (h : ∀ l ∈ ls, '\n' ∉ l) :
    lines (ofLines ls) = ls.map withoutReturn := by
  induction ls with
  | nil => rfl
  | cons l ls ih =>
    obtain ⟨hl, hls⟩ := List.forall_mem_cons.mp h
    rw [ofLines_cons, lines_append hl, ih hls, List.map_cons]

theorem not_isBlank_of_isWord {c : Char} (h : isWord c = true) : isBlank c = false := by
  have hascii : ∀ n < 0x80, inRanges blankRanges n = true →
      ((Char.ofNat n).isAlphanum || Char.ofNat n == '_') = false := by decide
  have htables : (wordRanges.all fun w => blankRanges.all fun b =>
      decide (b.2 < w.1) || decide (w.2 < b.1)) = true := by decide +kernel
  rw [Bool.eq_false_iff]
  intro hb
  rw [isWord] at h
  split at h
  · next hc =>
    have hnone := hascii c.toNat hc hb
    rw [Char.ofNat_toNat, h] at hnone
    cases hnone
  · obtain ⟨b, hbm, hb⟩ := inRanges_iff.mp hb
    obtain ⟨w, hwm, hw⟩ := inRanges_iff.mp h
    have hapart := List.all_eq_true.mp (List.all_eq_true.mp htables w hwm) b hbm
    simp only [Bool.or_eq_true, decide_eq_true_eq] at hapart
    omega

end StyleGuide.Text
