import StyleGuide.Text.Bytes
import StyleGuide.Text.Search

namespace StyleGuide.Text

/-- The text up to the brace that closes the block in which it stands, where `depth` further blocks
are open, and the text after that brace. Strings and comments are not told apart from other text. -/
def closing (depth : Nat) : List Char → Option (List Char × List Char)
  | [] => none
  | c :: r =>
    if c = '}' then
      match depth with
      | 0 => some ([], r)
      | d + 1 => (closing d r).map fun p => (c :: p.1, p.2)
    else
      (closing (if c = '{' then depth + 1 else depth) r).map fun p => (c :: p.1, p.2)

theorem closing_eq_some {depth : Nat} {cs body rest : List Char}
    (h : closing depth cs = some (body, rest)) : cs = body ++ '}' :: rest := by
  induction cs generalizing depth body with
  | nil => simp [closing] at h
  | cons c r ih =>
    unfold closing at h
    split at h
    · next hc =>
      split at h
      · obtain ⟨rfl, rfl⟩ := by simpa using h
        rw [hc, List.nil_append]
      · obtain ⟨p, hp, hb⟩ := Option.map_eq_some_iff.1 h
        obtain ⟨rfl, rfl⟩ := Prod.mk.inj hb
        rw [List.cons_append, ← ih hp]
    · obtain ⟨p, hp, hb⟩ := Option.map_eq_some_iff.1 h
      obtain ⟨rfl, rfl⟩ := Prod.mk.inj hb
      rw [List.cons_append, ← ih hp]

def blockBody? (cs : List Char) : Option (List Char) := (closing 0 cs).map Prod.fst

/-- What a scan of bytes must not do: take the number of open blocks below zero, or cut a text
inside a character. -/
inductive ScanFault where
  | underflow
  | cutCharacter
  deriving DecidableEq

def openingByte : UInt8 := 0x7B

def closingByte : UInt8 := 0x7D

/-- The offset of the byte that closes the last of `depth` open blocks. The bytes are those from
offset `i` on. -/
def closingOffset (depth i : Nat) : List UInt8 → Except ScanFault (Option Nat)
  | [] => .ok none
  | b :: bs =>
    if b = openingByte then closingOffset (depth + 1) (i + 1) bs
    else if b = closingByte then
      match depth with
      | 0 => .error .underflow
      | 1 => .ok (some i)
      | d + 2 => closingOffset (d + 1) (i + 1) bs
    else closingOffset depth (i + 1) bs

def cut (text : List Char) (first last : Nat) : Except ScanFault (List Char) :=
  match slice? text first last with
  | some body => .ok body
  | none => .error .cutCharacter

def blockAt (text : List Char) (offset : Nat) : Except ScanFault (Option (List Char)) :=
  if (utf8 text)[offset]? = some openingByte then do
    match ← closingOffset 0 offset ((utf8 text).drop offset) with
    | some last => return some (← cut text (offset + 1) last)
    | none => return none
  else .ok none

/-- The same without a fault to tell of. There is none. -/
def blockAt? (text : List Char) (offset : Nat) : Option (List Char) :=
  match blockAt text offset with
  | .ok found => found
  | .error _ => none

/-- The body of the block that the first match of an opener opens. The recogniser leaves what
follows the opening brace. -/
def firstBlock? (opener : List Char → Option (List Char)) (text : List Char) : Option (List Char) :=
  (firstMatch opener text).bind blockBody?

/-- Opening and closing braces match: no beginning of the text closes more than it opened. -/
def Balanced (cs : List Char) : Prop :=
  cs.count '{' = cs.count '}' ∧ ∀ k, (cs.take k).count '}' ≤ (cs.take k).count '{'

/-- The number of blocks open after a line. A line that closes more than is open leaves none open.
-/
def depthAfter (depth : Nat) (line : List Char) : Nat :=
  depth + line.count '{' - line.count '}'

def outermost (depth : Nat) : List (List Char) → List (List Char)
  | [] => []
  | l :: ls =>
    if depth = 0 then l :: outermost (depthAfter depth l) ls else outermost (depthAfter depth l) ls

def topLevelLines (body : List Char) : List (List Char) := outermost 0 (lines body)

end StyleGuide.Text
