import TektonPruner.Go.Strings
import TektonPruner.Store.Prog

/-!
# The processing-lock value

`TryLock` writes `fmt.Sprintf("%s:%d", instanceID, unixSeconds)` into the
`tekton-pruner.io/processing-lock` annotation. `parseLocationValue` splits it
at the first `':'`, finding the separator by its index in the `[]rune`
conversion but slicing the string with that index as a byte offset, so the
parts are byte strings. `isOwnedByMe` compares the first part with the
instance ID; `isLockValid` reads the second with `fmt.Sscanf(..., "%d", ...)`
and checks that less than `LockTimeout` has passed since it.

Clock readings are whole Unix seconds: with a lock time in whole seconds,
`time.Since(lockTime) < LockTimeout` holds exactly when the second of the
clock reading is less than `LockTimeout` after it. `time.Unix` keeps seconds
since year 1 in an `int64`, which wraps for timestamps within
`unixToInternal` of the `int64` maximum; `time.Since` saturates, which keeps
its sign.
-/

namespace TektonPruner

/-- A Go string's bytes. -/
abbrev Bytes := List UInt8

def goBytes (s : String) : Bytes := s.data.flatMap String.utf8EncodeChar

def prunerLockAnnotation : String := "tekton-pruner.io/processing-lock"

/-- `LockTimeout`, five minutes, in seconds. -/
def lockTimeout : Int := 5 * 60

structure ResourceLocker where
  instanceID : String
  deriving DecidableEq, Repr

/-- The value `TryLock` writes at clock reading `now`. -/
def ResourceLocker.lockValueAt (rl : ResourceLocker) (now : Int) : String :=
  rl.instanceID ++ ":" ++ toString now

def parseLocationValue (lockValue : String) : List Bytes :=
  match lockValue.data.findIdx? (· == ':') with
  | some i => [(goBytes lockValue).take i, (goBytes lockValue).drop (i + 1)]
  | none => [goBytes lockValue]

-- ---------------------------------------------------------------------------
-- `fmt.Sscanf(s, "%d", &timestamp)`
-- ---------------------------------------------------------------------------

/-- `SkipSpace` before a `%d`: it passes over the runes `isSpace` accepts (the
ASCII ones and the UTF-8 encodings of U+0085, U+00A0, U+1680, U+2000 to U+200A,
U+2028, U+2029, U+202F, U+205F and U+3000). A newline is an error (`none`), as
`Sscanf` does not count it as space; a `'\r'` before it is skipped first. -/
def skipSpace : Bytes → Option Bytes
  | [] => some []
  | b :: rest =>
    if b = 0x0A then none
    else if b = 0x0D ∧ rest.head? = some 0x0A then none
    else if b = 0x09 ∨ b = 0x0B ∨ b = 0x0C ∨ b = 0x0D ∨ b = 0x20 then skipSpace rest
    else match rest with
      | [] => some [b]
      | c :: rest' =>
        if b = 0xC2 ∧ (c = 0x85 ∨ c = 0xA0) then skipSpace rest'
        else match rest' with
          | [] => some (b :: rest)
          | d :: rest'' =>
            if (b = 0xE1 ∧ c = 0x9A ∧ d = 0x80) ∨
                (b = 0xE2 ∧ c = 0x80 ∧ (0x80 ≤ d ∧ d ≤ 0x8A ∨ d = 0xA8 ∨ d = 0xA9 ∨ d = 0xAF)) ∨
                (b = 0xE2 ∧ c = 0x81 ∧ d = 0x9F) ∨ (b = 0xE3 ∧ c = 0x80 ∧ d = 0x80) then
              skipSpace rest''
            else some (b :: rest)

def isDecimalDigit (b : UInt8) : Bool := 0x30 ≤ b && b ≤ 0x39

def decimalValue (digits : Bytes) : Nat :=
  digits.foldl (fun acc b => acc * 10 + (b.toNat - 0x30)) 0

/-- `scanInt` for the `%d` verb into an `int64`, after `SkipSpace`: an optional
sign, then the longest run of `decimalDigits` (`scanNumber` fails on none;
`'_'` is a digit for `%v` only), which `strconv.ParseInt(tok, 10, 64)` then
reads, a value out of the `int64` range being an error. What follows the
number is left unread, and `Sscanf` does not object to it. -/
def sscanfInt (s : Bytes) : Option Int := do
  let s ← skipSpace s
  let (negative, s) := match s with
    | b :: rest => if b = 0x2B then (false, rest) else if b = 0x2D then (true, rest) else (false, b :: rest)
    | [] => (false, [])
  let tok := s.takeWhile isDecimalDigit
  if tok = [] then none
  else
    let v : Int := if negative then -(decimalValue tok : Int) else decimalValue tok
    if -2 ^ 63 ≤ v ∧ v < 2 ^ 63 then some v else none

example : sscanfInt (goBytes "1700000000_5") = some 1700000000 := by decide

-- ---------------------------------------------------------------------------
-- Validity and ownership
-- ---------------------------------------------------------------------------

/-- Seconds from year 1 to 1970, `time`'s `unixToInternal`. -/
def unixToInternal : Int := (1969 * 365 + 1969 / 4 - 1969 / 100 + 1969 / 400) * 86400

def wrapInt64 (x : Int) : Int := (x + 2 ^ 63) % 2 ^ 64 - 2 ^ 63

/-- `time.Since(time.Unix(timestamp, 0))` in seconds, at clock reading `now`. -/
def sinceUnix (now timestamp : Int) : Int := now + unixToInternal - wrapInt64 (timestamp + unixToInternal)

/-- `isLockValid`; it reads the clock only when the value parses. -/
def ResourceLocker.isLockValid (_rl : ResourceLocker) (lockValue : String) : Prog Bool :=
  match parseLocationValue lockValue with
  | [_, ts] =>
    match sscanfInt ts with
    | some timestamp => .now fun now => .ret (sinceUnix now timestamp < lockTimeout)
    | none => .ret false
  | _ => .ret false

def ResourceLocker.isOwnedByMe (rl : ResourceLocker) (lockValue : String) : Bool :=
  match parseLocationValue lockValue with
  | [owner, _] => owner == goBytes rl.instanceID
  | _ => false

-- ---------------------------------------------------------------------------
-- Two lockers never write the same value
-- ---------------------------------------------------------------------------

theorem digitChar_ne_colon {n : Nat} (h : n < 10) : Nat.digitChar n ≠ ':' := by
  revert n; decide

theorem toDigitsCore_ne_colon (fuel n : Nat) (ds : List Char) (hds : ':' ∉ ds) :
    ':' ∉ Nat.toDigitsCore 10 fuel n ds := by
  induction fuel generalizing n ds with
  | zero => exact hds
  | succ fuel ih =>
    have hd : Nat.digitChar (n % 10) ≠ ':' := digitChar_ne_colon (Nat.mod_lt n (by decide))
    have hcons : ':' ∉ Nat.digitChar (n % 10) :: ds := by
      simp only [List.mem_cons, not_or]
      exact ⟨fun h => hd h.symm, hds⟩
    simp only [Nat.toDigitsCore]
    split_ifs
    · exact hcons
    · exact ih _ _ hcons

theorem colon_not_mem_toString_int (t : Int) : ':' ∉ (toString t).data := by
  have hnat : ∀ m : Nat, ':' ∉ (toString m).data := fun m => by
    simpa [toString, Nat.repr, Nat.toDigits] using toDigitsCore_ne_colon (m + 1) m [] (by simp)
  cases t with
  | ofNat m => exact hnat m
  | negSucc m =>
    show ':' ∉ ("-" ++ toString (m + 1)).data
    simpa [String.data_append] using hnat (m + 1)

/-- The decimal after the last `':'` determines where the instance ID ends, so
lockers with different IDs never write the same value. -/
theorem lockValueAt_injective {rl rl' : ResourceLocker} {t t' : Int}
    (h : rl.lockValueAt t = rl'.lockValueAt t') : rl = rl' := by
  have hdata := congrArg (fun s : String => s.data.reverse) h
  simp only [ResourceLocker.lockValueAt, String.data_append, List.reverse_append] at hdata
  obtain ⟨-, hid⟩ := append_cons_inj_of_not_mem (by simpa using hdata)
    (by simpa using colon_not_mem_toString_int t) (by simpa using colon_not_mem_toString_int t')
  cases rl; cases rl'
  simp only [ResourceLocker.mk.injEq]
  exact String.ext (List.reverse_injective hid)

-- ---------------------------------------------------------------------------
-- Where the codec works
-- ---------------------------------------------------------------------------

theorem toNat_toUInt8_of_ascii {c : Char} (h : c.toNat < 0x80) : c.val.toUInt8.toNat = c.toNat :=
  UInt8.toNat_ofNat_of_lt (by unfold UInt8.size; unfold Char.toNat at h; omega)

theorem utf8EncodeChar_of_ascii {c : Char} (h : c.toNat < 0x80) : String.utf8EncodeChar c = [c.val.toUInt8] := by
  have hv : c.val ≤ 0x7f := by
    rw [UInt32.le_def, BitVec.le_def]; exact Nat.le_of_lt_succ h
  simp [String.utf8EncodeChar, hv]

theorem toNat_or_ge {x k : UInt8} (hk : k.toNat.testBit 7 = true) : 0x80 ≤ (x ||| k).toNat := by
  have hbit : (x ||| k).toNat.testBit 7 = true := by
    show (x.toBitVec ||| k.toBitVec).toNat.testBit 7 = true
    rw [BitVec.toNat_or, Nat.testBit_or, show k.toBitVec.toNat = k.toNat from rfl, hk, Bool.or_true]
  by_contra hlt
  rw [Nat.testBit_lt_two_pow (show (x ||| k).toNat < 2 ^ 7 by omega)] at hbit
  exact absurd hbit (by decide)

theorem utf8EncodeChar_head_ge {c : Char} (h : 0x80 ≤ c.toNat) :
    ∃ b rest, String.utf8EncodeChar c = b :: rest ∧ 0x80 ≤ b.toNat := by
  have h' : 0x80 ≤ c.val.toBitVec.toNat := h
  have hv : ¬ c.val ≤ 0x7f := by
    rw [UInt32.le_def, BitVec.le_def]; simp; omega
  unfold String.utf8EncodeChar
  simp only [if_neg hv]
  split_ifs
  · exact ⟨_, _, rfl, toNat_or_ge (by decide)⟩
  · exact ⟨_, _, rfl, toNat_or_ge (by decide)⟩
  · exact ⟨_, _, rfl, toNat_or_ge (by decide)⟩

theorem utf8EncodeChar_ne_nil (c : Char) : String.utf8EncodeChar c ≠ [] :=
  List.ne_nil_of_length_pos (by rw [String.length_utf8EncodeChar]; exact c.utf8Size_pos)

/-- Only an ASCII string has the bytes of an ASCII string. -/
theorem flatMap_utf8EncodeChar_inj : ∀ {l l' : List Char}, (∀ c ∈ l, c.toNat < 0x80) →
    l'.flatMap String.utf8EncodeChar = l.flatMap String.utf8EncodeChar → l' = l
  | [], [], _, _ => rfl
  | [], c' :: l', _, h => absurd (List.append_eq_nil.mp h).1 (utf8EncodeChar_ne_nil c')
  | c :: l, [], _, h => absurd (List.append_eq_nil.mp h.symm).1 (utf8EncodeChar_ne_nil c)
  | c :: l, c' :: l', hl, h => by
    have hc := hl c (List.mem_cons_self _ _)
    rw [List.flatMap_cons, List.flatMap_cons, utf8EncodeChar_of_ascii hc] at h
    by_cases hc' : c'.toNat < 0x80
    · rw [utf8EncodeChar_of_ascii hc'] at h
      obtain ⟨hb, ht⟩ := List.cons.inj h
      have hcc : c' = c := Char.ext (UInt32.ext_iff.mpr (by
        have := congrArg UInt8.toNat hb
        rwa [toNat_toUInt8_of_ascii hc', toNat_toUInt8_of_ascii hc] at this))
      rw [hcc, flatMap_utf8EncodeChar_inj (fun x hx => hl x (List.mem_cons_of_mem _ hx)) ht]
    · obtain ⟨b, rest, he, hb⟩ := utf8EncodeChar_head_ge (Nat.le_of_not_lt hc')
      rw [he] at h
      have := congrArg UInt8.toNat (List.cons.inj h).1
      rw [toNat_toUInt8_of_ascii hc] at this
      omega

theorem goBytes_inj_of_ascii {s s' : String} (hs : IsAscii s) (h : goBytes s' = goBytes s) : s' = s :=
  String.ext (flatMap_utf8EncodeChar_inj hs h)

theorem goBytes_append (a b : String) : goBytes (a ++ b) = goBytes a ++ goBytes b := by
  simp only [goBytes, String.data_append, List.flatMap_append]

theorem length_flatMap_utf8EncodeChar : ∀ {l : List Char}, (∀ c ∈ l, c.toNat < 0x80) →
    (l.flatMap String.utf8EncodeChar).length = l.length
  | [], _ => rfl
  | c :: l, h => by
    rw [List.flatMap_cons, List.length_append, utf8EncodeChar_of_ascii (h c (List.mem_cons_self _ _)),
      length_flatMap_utf8EncodeChar fun x hx => h x (List.mem_cons_of_mem _ hx)]
    simp [Nat.add_comm]

/-- On an ASCII instance ID with no ':', the rune index of the separator is its
byte offset, and the value splits back into the ID and the decimal. -/
theorem parseLocationValue_lockValueAt {rl : ResourceLocker} (hascii : IsAscii rl.instanceID)
    (hcolon : ':' ∉ rl.instanceID.data) (t : Int) :
    parseLocationValue (rl.lockValueAt t) = [goBytes rl.instanceID, goBytes (toString t)] := by
  have hnone : rl.instanceID.data.findIdx? (· == ':') = none :=
    List.findIdx?_eq_none_iff.mpr fun c hc => by simpa using fun h : c = ':' => hcolon (h ▸ hc)
  have hfind : (rl.lockValueAt t).data.findIdx? (· == ':') = some rl.instanceID.data.length := by
    simp [ResourceLocker.lockValueAt, String.data_append, hnone]
  have hbytes : goBytes (rl.lockValueAt t) = goBytes rl.instanceID ++ 0x3A :: goBytes (toString t) := by
    rw [ResourceLocker.lockValueAt, goBytes_append, goBytes_append, List.append_assoc]
    rfl
  have hlen : (goBytes rl.instanceID).length = rl.instanceID.data.length := length_flatMap_utf8EncodeChar hascii
  simp only [parseLocationValue, hfind, hbytes]
  rw [← hlen, List.take_left' rfl, List.drop_append]
  rfl

-- ---------------------------------------------------------------------------
-- The decimal timestamp
-- ---------------------------------------------------------------------------

theorem utf8EncodeChar_digitChar : ∀ k < 10, String.utf8EncodeChar (Nat.digitChar k) = [(48 + k).toUInt8] := by
  decide

theorem toNat_digitByte {k : Nat} (hk : k < 10) : (48 + k).toUInt8.toNat = 48 + k :=
  UInt8.toNat_ofNat_of_lt (by unfold UInt8.size; omega)

theorem isDecimalDigit_iff (b : UInt8) : isDecimalDigit b = true ↔ 48 ≤ b.toNat ∧ b.toNat ≤ 57 := by
  simp [isDecimalDigit, UInt8.le_def, BitVec.le_def]; rfl

theorem toDigitsCore_append (fuel n : Nat) (ds : List Char) :
    Nat.toDigitsCore 10 fuel n ds = Nat.toDigitsCore 10 fuel n [] ++ ds := by
  induction fuel generalizing n ds with
  | zero => rfl
  | succ fuel ih =>
    simp only [Nat.toDigitsCore]
    split_ifs
    · rfl
    · rw [ih _ (_ :: ds), ih _ [_], List.append_assoc, List.singleton_append]

theorem decimalValue_toDigitsCore {fuel n : Nat} (hn : n < fuel) :
    decimalValue ((Nat.toDigitsCore 10 fuel n []).flatMap String.utf8EncodeChar) = n ∧
      ∀ b ∈ (Nat.toDigitsCore 10 fuel n []).flatMap String.utf8EncodeChar, isDecimalDigit b = true := by
  induction fuel generalizing n with
  | zero => omega
  | succ fuel ih =>
    have hk : n % 10 < 10 := Nat.mod_lt n (by decide)
    have hd : ∀ b ∈ [(48 + n % 10).toUInt8], isDecimalDigit b = true := by
      simp [isDecimalDigit_iff, toNat_digitByte hk]
      omega
    simp only [Nat.toDigitsCore]
    split_ifs with h0
    · simp only [List.flatMap_cons, List.flatMap_nil, List.append_nil, utf8EncodeChar_digitChar _ hk]
      refine ⟨?_, hd⟩
      simp [decimalValue, toNat_digitByte hk]
      omega
    · obtain ⟨hv, hds⟩ := @ih (n / 10) (by omega)
      rw [toDigitsCore_append, List.flatMap_append, List.flatMap_singleton, utf8EncodeChar_digitChar _ hk]
      refine ⟨?_, fun b hb => ?_⟩
      · simp only [decimalValue, List.foldl_append] at hv ⊢
        simp [hv, toNat_digitByte hk]
        omega
      · rcases List.mem_append.mp hb with hb | hb
        · exact hds b hb
        · exact hd b hb

theorem ne_of_isDecimalDigit {b : UInt8} (hb : isDecimalDigit b = true) (c : UInt8)
    (hc : c.toNat < 48 ∨ 57 < c.toNat) : b ≠ c := by
  rintro rfl
  have := (isDecimalDigit_iff b).mp hb
  omega

theorem skipSpace_of_digit {b : UInt8} (hb : isDecimalDigit b = true) (rest : Bytes) :
    skipSpace (b :: rest) = some (b :: rest) := by
  have hne := ne_of_isDecimalDigit hb
  unfold skipSpace
  simp only [hne 0x0A (by decide), hne 0x0D (by decide), hne 0x09 (by decide), hne 0x0B (by decide),
    hne 0x0C (by decide), hne 0x20 (by decide), hne 0xC2 (by decide), hne 0xE1 (by decide),
    hne 0xE2 (by decide), hne 0xE3 (by decide), false_and, false_or, or_self, if_false]
  split
  · rfl
  · split <;> simp

theorem sscanfInt_of_digits {B : Bytes} (hne : B ≠ []) (hd : ∀ b ∈ B, isDecimalDigit b = true)
    (hlt : decimalValue B < 2 ^ 63) : sscanfInt B = some (decimalValue B : Int) := by
  obtain ⟨b, rest, rfl⟩ := List.exists_cons_of_ne_nil hne
  have hb := hd b (List.mem_cons_self _ _)
  have htake : (b :: rest).takeWhile isDecimalDigit = b :: rest := List.takeWhile_eq_self_iff.mpr hd
  simp [sscanfInt, skipSpace_of_digit hb, ne_of_isDecimalDigit hb 0x2B (by decide),
    ne_of_isDecimalDigit hb 0x2D (by decide), htake, hb]
  omega

theorem toDigitsCore_succ_ne_nil (fuel n : Nat) : Nat.toDigitsCore 10 (fuel + 1) n [] ≠ [] := by
  simp only [Nat.toDigitsCore]
  split_ifs
  · exact List.cons_ne_nil _ _
  · rw [toDigitsCore_append]; simp

/-- `Sscanf` reads back the decimal `Sprintf` wrote, for every time in the `int64` range. -/
theorem sscanfInt_toString {t : Int} (h0 : 0 ≤ t) (ht : t < 2 ^ 63) : sscanfInt (goBytes (toString t)) = some t := by
  obtain ⟨n, rfl⟩ := Int.eq_ofNat_of_zero_le h0
  obtain ⟨hv, hd⟩ := decimalValue_toDigitsCore (Nat.lt_succ_self n)
  have hne : (Nat.toDigitsCore 10 (n + 1) n []).flatMap String.utf8EncodeChar ≠ [] := by
    obtain ⟨c, l, hcl⟩ := List.exists_cons_of_ne_nil (toDigitsCore_succ_ne_nil n n)
    rw [hcl, List.flatMap_cons]
    exact List.append_ne_nil_of_left_ne_nil (utf8EncodeChar_ne_nil c) _
  show sscanfInt ((Nat.toDigitsCore 10 (n + 1) n []).flatMap String.utf8EncodeChar) = some (n : Int)
  rw [sscanfInt_of_digits hne hd (by rw [hv]; omega), hv]

theorem sinceUnix_eq_sub {now t : Int} (h0 : 0 ≤ t) (ht : t + unixToInternal < 2 ^ 63) :
    sinceUnix now t = now - t := by
  have hU : 0 ≤ unixToInternal := by decide
  unfold sinceUnix wrapInt64
  rw [Int.emod_eq_of_lt (by omega) (by omega)]
  omega

/-- A value written at a lock time `time.Unix` does not wrap is valid exactly
while less than `LockTimeout` has passed since, the clock read once. -/
theorem isLockValid_lockValueAt {rl : ResourceLocker} (hascii : IsAscii rl.instanceID)
    (hcolon : ':' ∉ rl.instanceID.data) {t : Int} (h0 : 0 ≤ t) (ht : t + unixToInternal < 2 ^ 63)
    (rl' : ResourceLocker) :
    rl'.isLockValid (rl.lockValueAt t) = .now fun now => .ret (decide (now - t < lockTimeout)) := by
  have hU : 0 ≤ unixToInternal := by decide
  simp only [ResourceLocker.isLockValid, parseLocationValue_lockValueAt hascii hcolon t,
    sscanfInt_toString h0 (by omega), sinceUnix_eq_sub h0 ht]

theorem isOwnedByMe_lockValueAt {rl : ResourceLocker} (hascii : IsAscii rl.instanceID)
    (hcolon : ':' ∉ rl.instanceID.data) (t : Int) (rl' : ResourceLocker) :
    rl'.isOwnedByMe (rl.lockValueAt t) = true ↔ rl' = rl := by
  simp only [ResourceLocker.isOwnedByMe, parseLocationValue_lockValueAt hascii hcolon t, beq_iff_eq]
  constructor
  · intro h
    cases rl'
    exact congrArg ResourceLocker.mk (goBytes_inj_of_ascii hascii h.symm)
  · rintro rfl
    rfl

/-- For an instance ID of ASCII runes with no ':', and a lock time `time.Unix`
does not wrap, the value `TryLock` writes splits back into the ID and the
decimal; it is owned by that locker and by no other; and it is valid exactly
when less than `LockTimeout` has passed since the lock time, the clock read once. -/
theorem lock_value_round_trip {rl : ResourceLocker} (hascii : IsAscii rl.instanceID)
    (hcolon : ':' ∉ rl.instanceID.data) {t : Int} (h0 : 0 ≤ t) (ht : t + unixToInternal < 2 ^ 63) :
    parseLocationValue (rl.lockValueAt t) = [goBytes rl.instanceID, goBytes (toString t)] ∧
    (∀ rl' : ResourceLocker, rl'.isOwnedByMe (rl.lockValueAt t) = true ↔ rl' = rl) ∧
    ∀ (rl' : ResourceLocker) (now : Int),
      (rl'.isLockValid (rl.lockValueAt t)).Runs [.now now] (.returned (decide (now - t < lockTimeout))) := by
  refine ⟨parseLocationValue_lockValueAt hascii hcolon t, isOwnedByMe_lockValueAt hascii hcolon t,
    fun rl' now => ?_⟩
  rw [isLockValid_lockValueAt hascii hcolon h0 ht]
  rfl

theorem pruner_a_lock_round_trip :
    parseLocationValue ((ResourceLocker.mk "pruner-a").lockValueAt 0) =
      [goBytes "pruner-a", goBytes (toString (0 : Int))] ∧
    (∀ rl' : ResourceLocker, rl'.isOwnedByMe ((ResourceLocker.mk "pruner-a").lockValueAt 0) = true ↔
      rl' = ResourceLocker.mk "pruner-a") ∧
    ∀ (rl' : ResourceLocker) (now : Int),
      (rl'.isLockValid ((ResourceLocker.mk "pruner-a").lockValueAt 0)).Runs [.now now]
        (.returned (decide (now - 0 < lockTimeout))) :=
  lock_value_round_trip (by decide) (by decide) le_rfl (by decide)

-- ---------------------------------------------------------------------------
-- Where the codec fails
-- ---------------------------------------------------------------------------

/-- With the instance ID "é" (two bytes, one rune), the separator is found at
rune 1 and the value is cut at byte 1, inside the "é": the owner part is the
lone byte 0xC3, the timestamp part is ":0", the locker does not own its own
lock, and the lock is never valid, whatever the clock reads, because
`Sscanf` finds no number at the ':'.
A lock written at the largest `int64` time is invalid at clock reading 0,
because `time.Unix` wraps it into the past. -/
theorem multibyte_id_lock_misparsed :
    parseLocationValue ((ResourceLocker.mk "é").lockValueAt 0) = [[0xC3], [0x3A, 0x30]] ∧
    (ResourceLocker.mk "é").isOwnedByMe ((ResourceLocker.mk "é").lockValueAt 0) = false ∧
    ((ResourceLocker.mk "é").isLockValid ((ResourceLocker.mk "é").lockValueAt 0)).Runs [] (.returned false) ∧
    ((ResourceLocker.mk "pruner-a").isLockValid ((ResourceLocker.mk "pruner-a").lockValueAt (2 ^ 63 - 1))).Runs
      [.now 0] (.returned false) :=
  ⟨by decide, by decide, rfl, rfl⟩

end TektonPruner
