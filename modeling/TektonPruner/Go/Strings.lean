import Mathlib

/-!
# The Go string functions the configuration parsers call

`strings.Split`, `strings.SplitN`, `strings.TrimSpace`, `strings.ToLower` and
`strconv.ParseBool` on a string's characters, for a one-character separator.
`strings.Split` is `List.splitOn`: it keeps empty fields and splits `""` into
one empty field. `unicode.IsSpace` is the Latin-1 spaces and, above Latin-1,
the Unicode `White_Space` set.

`strings.ToLower` maps every rune through `unicode.ToLower`; on an ASCII
string, which it lowers on its own fast path, that is `A`–`Z` to `a`–`z`, and
only that is modelled. So what is said of the strings it returns is said of
ASCII inputs (`IsAscii`). Where only a comparison with a word is read, as in
the environment's boolean parser, more holds: the only non-ASCII runes Go
lowers to ASCII letters are `U+0130` (to `i`) and `U+212A` (to `k`), so for
every ASCII word without `i` or `k` a value lowers to that word here exactly
when it does in Go.
-/

namespace TektonPruner

/-- `unicode.IsSpace`. -/
def isSpace (c : Char) : Bool :=
  if c.toNat ≤ 0xFF then
    decide (9 ≤ c.toNat ∧ c.toNat ≤ 13) || c.toNat == 0x20 || c.toNat == 0x85 || c.toNat == 0xA0
  else
    c.toNat == 0x1680 || decide (0x2000 ≤ c.toNat ∧ c.toNat ≤ 0x200A) || c.toNat == 0x2028 ||
      c.toNat == 0x2029 || c.toNat == 0x202F || c.toNat == 0x205F || c.toNat == 0x3000

/-- A string of ASCII runes, one byte each. -/
def IsAscii (s : String) : Prop := ∀ c ∈ s.data, c.toNat < 0x80

instance (s : String) : Decidable (IsAscii s) := inferInstanceAs (Decidable (∀ c ∈ s.data, _))

theorem toNat_toLower (c : Char) :
    c.toLower.toNat = if 65 ≤ c.toNat ∧ c.toNat ≤ 90 then c.toNat + 32 else c.toNat := by
  unfold Char.toLower
  dsimp only
  split_ifs with h
  · have hv : (c.toNat + 32).isValidChar := Or.inl (by omega)
    simp only [Char.ofNat, dif_pos hv]
    rfl
  · rfl

theorem eq_of_toNat_eq {a b : Char} (h : a.toNat = b.toNat) : a = b := by
  rw [← Char.ofNat_toNat a, h, Char.ofNat_toNat]

theorem toLower_toLower_char (c : Char) : c.toLower.toLower = c.toLower :=
  eq_of_toNat_eq (by rw [toNat_toLower, toNat_toLower c]; split_ifs <;> omega)

theorem isSpace_of_letter {c : Char} (h : 65 ≤ c.toNat ∧ c.toNat ≤ 122) : isSpace c = false := by
  unfold isSpace
  rw [if_pos (by omega)]
  simp only [Bool.decide_and, Bool.or_eq_false_iff, Bool.and_eq_false_imp, decide_eq_true_eq,
    decide_eq_false_iff_not, not_le, beq_eq_false_iff_ne, ne_eq]
  omega

theorem isSpace_toLower (c : Char) : isSpace c.toLower = isSpace c := by
  by_cases hu : 65 ≤ c.toNat ∧ c.toNat ≤ 90
  · have h := toNat_toLower c
    rw [if_pos hu] at h
    rw [isSpace_of_letter (by omega), isSpace_of_letter (by omega)]
  · rw [eq_of_toNat_eq (by rw [toNat_toLower, if_neg hu] : c.toLower.toNat = c.toNat)]

theorem rdropWhile_map {α β : Type} (f : α → β) (p : β → Bool) (l : List α) :
    (l.map f).rdropWhile p = (l.rdropWhile (p ∘ f)).map f := by
  simp only [List.rdropWhile, ← List.map_reverse, List.dropWhile_map]

namespace strings

def split (s : String) (sep : Char) : List String := (s.data.splitOn sep).map String.mk

/-- `strings.SplitN(s, string(sep), n)`: at most `n` fields, the last one unsplit. -/
def splitN (s : String) (sep : Char) (n : Nat) : List String := (go s.data n).map String.mk
where
  go : List Char → Nat → List (List Char)
  | _, 0 => []
  | cs, 1 => [cs]
  | cs, n + 2 =>
    match cs.span (· != sep) with
    | (pre, []) => [pre]
    | (pre, _ :: post) => pre :: go post (n + 1)

def trimSpace (s : String) : String := ⟨(s.data.dropWhile isSpace).rdropWhile isSpace⟩

/-- `strings.ToLower` on an ASCII string: `A`–`Z` lowered, every other rune kept. -/
def toLower (s : String) : String := ⟨s.data.map Char.toLower⟩

/-- Lowering `A`–`Z` neither makes nor removes a space. -/
theorem trimSpace_toLower (s : String) : trimSpace (toLower s) = toLower (trimSpace s) := by
  have hcomp : isSpace ∘ Char.toLower = isSpace := funext isSpace_toLower
  simp only [trimSpace, toLower, List.dropWhile_map, rdropWhile_map, hcomp]

theorem trimSpace_trimSpace (s : String) : trimSpace (trimSpace s) = trimSpace s := by
  show String.mk _ = String.mk _
  congr 1
  set x := s.data.dropWhile isSpace
  have hx : ∀ hl : 0 < x.length, ¬ isSpace (x.get ⟨0, hl⟩) :=
    List.dropWhile_eq_self_iff.mp (List.dropWhile_idempotent _ _)
  have hhead : (x.rdropWhile isSpace).dropWhile isSpace = x.rdropWhile isSpace := by
    refine List.dropWhile_eq_self_iff.mpr fun hl => ?_
    have hpre := List.rdropWhile_prefix isSpace x
    have := hx (lt_of_lt_of_le hl hpre.length_le)
    simp only [List.get_eq_getElem] at this ⊢
    rwa [hpre.getElem hl]
  simp only [trimSpace, hhead, List.rdropWhile_idempotent]

theorem toLower_toLower (s : String) : toLower (toLower s) = toLower s := by
  simp [toLower, Function.comp_def, toLower_toLower_char]

theorem split_intercalate {sep : Char} {parts : List String} (hne : parts ≠ [])
    (hsep : ∀ p ∈ parts, sep ∉ p.data) :
    split ⟨[sep].intercalate (parts.map String.data)⟩ sep = parts := by
  rw [split, List.splitOn_intercalate _ sep (by simpa using hsep) (by simpa using hne), List.map_map]
  exact List.map_id'' (fun _ => rfl) parts

theorem splitN_two {sep : Char} {key value : String} (hkey : sep ∉ key.data) :
    splitN ⟨key.data ++ sep :: value.data⟩ sep 2 = [key, value] := by
  have hne : ∀ c ∈ key.data, (c != sep) = true := fun c hc => bne_iff_ne.mpr fun h => hkey (h ▸ hc)
  simp [splitN, splitN.go, List.span_eq_take_drop, List.takeWhile_append_of_pos hne,
    List.dropWhile_append_of_pos hne]

end strings

theorem IsAscii.trimSpace {s : String} (h : IsAscii s) : IsAscii (strings.trimSpace s) := fun c hc =>
  h c ((List.dropWhile_suffix isSpace).subset ((List.rdropWhile_prefix isSpace _).subset hc))

theorem IsAscii.toLower {s : String} (h : IsAscii s) : IsAscii (strings.toLower s) := fun c hc => by
  obtain ⟨c', hc', rfl⟩ := List.mem_map.mp hc
  have := h c' hc'
  rw [toNat_toLower]
  split_ifs <;> omega

/-- `strconv.ParseBool`; `none` is its syntax error. -/
def strconv.parseBool (str : String) : Option Bool :=
  if str ∈ ["1", "t", "T", "TRUE", "true", "True"] then some true
  else if str ∈ ["0", "f", "F", "FALSE", "false", "False"] then some false
  else none

def strconv.formatBool (b : Bool) : String := if b then "true" else "false"

@[simp] theorem strconv.parseBool_formatBool (b : Bool) : strconv.parseBool (strconv.formatBool b) = some b := by
  cases b <;> decide

@[simp] theorem strings.trimSpace_formatBool (b : Bool) : strings.trimSpace (strconv.formatBool b) = strconv.formatBool b := by
  cases b <;> decide

end TektonPruner
