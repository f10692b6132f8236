import StyleGuide.Text.Class

namespace StyleGuide.Text

variable {α : Type}

/-- What a recogniser says at the first place where it says anything. -/
def firstMatch (m : List Char → Option α) : List Char → Option α
  | [] => m []
  | c :: r => match m (c :: r) with
    | some a => some a
    | none => firstMatch m r

theorem firstMatch_of_some {m : List Char → Option α} {cs : List Char} {a : α}
    (h : m cs = some a) : firstMatch m cs = some a := by
  cases cs with
  | nil => exact h
  | cons c r => rw [firstMatch, h]

theorem firstMatch_cons_of_none {m : List Char → Option α} {c : Char} {r : List Char}
    (h : m (c :: r) = none) : firstMatch m (c :: r) = firstMatch m r := by
  rw [firstMatch, h]

theorem exists_of_firstMatch {m : List Char → Option α} {cs : List Char} {a : α}
    (h : firstMatch m cs = some a) : ∃ part, part <:+ cs ∧ m part = some a := by
  induction cs with
  | nil => exact ⟨[], List.suffix_rfl, h⟩
  | cons c r ih =>
    rw [firstMatch] at h
    split at h
    · next hb => exact ⟨c :: r, List.suffix_rfl, hb.trans h⟩
    · obtain ⟨part, hpart, ha⟩ := ih h
      exact ⟨part, hpart.trans (List.suffix_cons c r), ha⟩

def firstMatchAfter (m : Option Char → List Char → Option α) (before : Option Char) :
    List Char → Option α
  | [] => m before []
  | c :: r => match m before (c :: r) with
    | some a => some a
    | none => firstMatchAfter m (some c) r

/-- Every match from left to right, each sought where the one before it ended. -/
def matchAll (m : List Char → Option (α × List Char)) (cs : List Char) : List α :=
  match cs with
  | [] => []
  | c :: r => match m (c :: r) with
    | some (a, rest) => if rest.length ≤ r.length then a :: matchAll m rest else [a]
    | none => matchAll m r
termination_by cs.length
decreasing_by all_goals simp_wf <;> omega

theorem matchAll_cons_of_none {m : List Char → Option (α × List Char)} {c : Char} {r : List Char}
    (h : m (c :: r) = none) : matchAll m (c :: r) = matchAll m r := by
  rw [matchAll, h]

theorem matchAll_cons_of_some {m : List Char → Option (α × List Char)} {c : Char}
    {r rest : List Char} {a : α} (h : m (c :: r) = some (a, rest)) (hr : rest.length ≤ r.length) :
    matchAll m (c :: r) = a :: matchAll m rest := by
  rw [matchAll, h]
  exact if_pos hr

theorem exists_of_mem_matchAll {m : List Char → Option (α × List Char)}
    (hm : ∀ part a rest, m part = some (a, rest) → rest <:+ part) {cs : List Char} {a : α}
    (h : a ∈ matchAll m cs) : ∃ part rest, part <:+ cs ∧ m part = some (a, rest) := by
  fun_induction matchAll m cs with
  | case1 => cases h
  | case2 c r b rest hb hlength ih =>
    obtain rfl | h := List.mem_cons.1 h
    · exact ⟨c :: r, rest, List.suffix_rfl, hb⟩
    · obtain ⟨part, rest', hpart, ha⟩ := ih h
      exact ⟨part, rest', hpart.trans (hm _ _ _ hb), ha⟩
  | case3 c r b rest hb hlength =>
    obtain rfl := List.mem_singleton.1 h
    exact ⟨c :: r, rest, List.suffix_rfl, hb⟩
  | case4 c r hnone ih =>
    obtain ⟨part, rest, hpart, ha⟩ := ih h
    exact ⟨part, rest, hpart.trans (List.suffix_cons c r), ha⟩

def after? (start cs : List Char) : Option (List Char) := start.isPrefixOf? cs

theorem after?_cons (c d : Char) (start r : List Char) :
    after? (c :: start) (d :: r) = if c == d then after? start r else none := rfl

theorem after?_eq_some_iff {start cs rest : List Char} :
    after? start cs = some rest ↔ start ++ rest = cs := by
  induction start generalizing cs with
  | nil => exact Option.some_inj.trans eq_comm
  | cons c start ih =>
    cases cs with
    | nil => exact ⟨nofun, nofun⟩
    | cons d r =>
      rw [after?_cons, List.cons_append, List.cons.injEq, ← ih]
      by_cases h : c = d <;> simp [h]

theorem after?_append (start rest : List Char) : after? start (start ++ rest) = some rest :=
  after?_eq_some_iff.2 rfl

def splitAt? (mark : List Char) : List Char → Option (List Char × List Char)
  | [] => if mark.isEmpty then some ([], []) else none
  | c :: r => match after? mark (c :: r) with
    | some rest => some ([], rest)
    | none => (splitAt? mark r).map fun p => (c :: p.1, p.2)

theorem splitAt?_eq_some {mark cs a b : List Char} (h : splitAt? mark cs = some (a, b)) :
    cs = a ++ mark ++ b := by
  induction cs generalizing a with
  | nil =>
    rw [splitAt?] at h
    split at h
    · next hm =>
      obtain ⟨rfl, rfl⟩ := by simpa using h
      simpa using hm
    · cases h
  | cons c r ih =>
    rw [splitAt?] at h
    split at h
    · next hr =>
      obtain ⟨rfl, rfl⟩ := by simpa using h
      exact (after?_eq_some_iff.1 hr).symm
    · obtain ⟨p, hp, hb⟩ := Option.map_eq_some_iff.1 h
      obtain ⟨rfl, rfl⟩ := Prod.mk.inj hb
      rw [List.cons_append, List.cons_append, ← ih hp]

def occursIn (part whole : List Char) : Bool := (firstMatch (after? part) whole).isSome

def run (p : Char → Bool) (cs : List Char) : List Char × List Char :=
  (cs.takeWhile p, cs.dropWhile p)

theorem run_append (p : Char → Bool) (cs : List Char) : (run p cs).1 ++ (run p cs).2 = cs :=
  List.takeWhile_append_dropWhile

def run? (p : Char → Bool) (cs : List Char) : Option (List Char × List Char) :=
  if (cs.takeWhile p).isEmpty then none else some (run p cs)

theorem run_eq_iff {p : Char → Bool} {cs xs rest : List Char} : run p cs = (xs, rest) ↔
    xs ++ rest = cs ∧ (∀ c ∈ xs, p c = true) ∧ ∀ c, rest.head? = some c → p c = false := by
  constructor
  · intro h
    obtain ⟨rfl, rfl⟩ := Prod.mk.inj h
    have hd := List.head?_dropWhile_not p cs
    refine ⟨run_append p cs, List.all_eq_true.1 List.all_takeWhile, fun c hc => ?_⟩
    rw [hc] at hd
    simpa using hd
  · rintro ⟨rfl, hp, hr⟩
    have hrest : run p rest = ([], rest) := by
      cases rest with
      | nil => rfl
      | cons c r => simp [run, hr c rfl]
    obtain ⟨ht, hd⟩ := Prod.mk.inj hrest
    rw [run, List.takeWhile_append_of_pos hp, List.dropWhile_append_of_pos hp, ht, hd,
      List.append_nil]

theorem run?_eq_some_iff {p : Char → Bool} {cs xs rest : List Char} :
    run? p cs = some (xs, rest) ↔
      xs ≠ [] ∧ xs ++ rest = cs ∧ (∀ c ∈ xs, p c = true) ∧
        ∀ c, rest.head? = some c → p c = false := by
  rw [← run_eq_iff, run?]
  cases hx : cs.takeWhile p with
  | nil =>
    refine ⟨nofun, fun h => absurd ?_ h.1⟩
    rw [← (Prod.mk.inj h.2).1, hx]
  | cons c r =>
    refine ⟨fun h => ?_, fun h => congrArg some h.2⟩
    have hr : run p cs = (xs, rest) := Option.some.inj h
    refine ⟨?_, hr⟩
    rw [← (Prod.mk.inj hr).1, hx]
    exact List.cons_ne_nil c r

theorem blanks?_eq_some_iff {cs rest : List Char} : blanks? cs = some rest ↔
    ∃ bs, bs ≠ [] ∧ bs ++ rest = cs ∧ (∀ c ∈ bs, isBlank c = true) ∧
      ∀ c, rest.head? = some c → isBlank c = false := by
  have hrun : blanks? cs = (run? isBlank cs).map Prod.snd := by
    cases cs with
    | nil => rfl
    | cons c r => by_cases hc : isBlank c <;> simp [blanks?, run?, run, skipBlanks, hc]
  simp [hrun, run?_eq_some_iff]

def char? (c : Char) : List Char → Option (List Char)
  | [] => none
  | d :: r => if d = c then some r else none

theorem char?_eq_some_iff {c : Char} {cs rest : List Char} :
    char? c cs = some rest ↔ c :: rest = cs := by
  cases cs with
  | nil => exact ⟨nofun, nofun⟩
  | cons d r =>
    by_cases h : d = c
    · simp [char?, h, eq_comm]
    · simp [char?, h, Ne.symm h]

def oneOf? (p : Char → Bool) : List Char → Option (List Char)
  | [] => none
  | d :: r => if p d then some r else none

def isQuote (c : Char) : Bool := c == '\x27' || c == '\x22' || c == '\x60'

theorem not_isBlank_of_isQuote {c : Char} (h : isQuote c = true) : isBlank c = false := by
  simp only [isQuote, Bool.or_eq_true, beq_iff_eq] at h
  obtain (rfl | rfl) | rfl := h <;> decide

def skipQuote : List Char → List Char
  | [] => []
  | c :: r => if isQuote c then r else c :: r

def before? (mark cs : List Char) : Option (List Char) :=
  (after? mark.reverse cs.reverse).map List.reverse

theorem before?_eq_some_iff {mark cs p : List Char} :
    before? mark cs = some p ↔ p ++ mark = cs := by
  rw [before?, Option.map_eq_some_iff]
  constructor
  · rintro ⟨q, hq, rfl⟩
    have heq := congrArg List.reverse (after?_eq_some_iff.1 hq)
    simpa using heq
  · rintro rfl
    refine ⟨p.reverse, ?_, List.reverse_reverse p⟩
    rw [List.reverse_append, after?_append]

/-- Splitting at every occurrence of a character; there is always at least one part. -/
def splitOn (mark : Char) : List Char → List (List Char)
  | [] => [[]]
  | c :: r => if c = mark then [] :: splitOn mark r else
    match splitOn mark r with
    | [] => [[c]]
    | p :: ps => (c :: p) :: ps

theorem splitOn_append {mark : Char} {p : List Char} (h : mark ∉ p) (cs : List Char) :
    splitOn mark (p ++ mark :: cs) = p :: splitOn mark cs := by
  induction p with
  | nil => simp [splitOn]
  | cons c p ih =>
    simp only [List.mem_cons, not_or] at h
    rw [List.cons_append, splitOn, if_neg (Ne.symm h.1), ih h.2]

/-- The lines of a text. A line ends at a line feed, and a carriage return just before it is not
part of the line. What follows the last line feed is a line only if it is not empty. -/
def lines : List Char → List (List Char)
  | [] => []
  | '\n' :: r => [] :: lines r
  | '\r' :: '\n' :: r => [] :: lines r
  | c :: r => match lines r with
    | [] => [[c]]
    | l :: ls => (c :: l) :: ls

def ofLines (ls : List (List Char)) : List Char := ls.flatMap (· ++ ['\n'])

def isLineFeed (c : Char) : Bool := c == '\n'

end StyleGuide.Text
