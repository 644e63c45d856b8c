import USEEDLinkToRingServer.Library.Rounding
import Mathlib.Data.List.AList
import Mathlib.Data.List.Sort
import Mathlib.Data.Rat.Floor

/-!
# The C++ standard library, as far as the program uses it

Strings are lists of characters of the "C" locale, doubles are exact rationals, and the conversions
between the integer types and `double` are the ones the language defines.
-/

namespace USEEDLinkToRingServer

/-- `std::string`. -/
abbrev Str := List Char

/-- The exception types the modelled functions throw. -/
inductive Exception
  | invalidArgument (what : String)
  | runtimeError (what : String)
  | outOfRange (what : String)
deriving DecidableEq, Repr

def Exception.what : Exception → String
  | .invalidArgument what => what
  | .runtimeError what => what
  | .outOfRange what => what

/-- `std::vector::at`, with the text of libstdc++. -/
def vectorAt {α : Type} (v : List α) (n : Nat) : Except Exception α :=
  match v[n]? with
  | some a => .ok a
  | none =>
    .error (.outOfRange ("vector::_M_range_check: __n (which is " ++ Nat.repr n ++
      ") >= this->size() (which is " ++ Nat.repr v.length ++ ")"))

/-! ### Maps -/

/-- `std::map` with strings for keys. -/
abbrev StdMap (β : Type) := AList fun _ : Str => β

/-- The order of `std::string`. -/
def precedes : Str → Str → Bool
  | [], _ => true
  | _ :: _, [] => false
  | a :: as, b :: bs => a.toNat < b.toNat || a == b && precedes as bs

/-- `operator<` of `std::string`. -/
def stringLess (a b : Str) : Bool := !precedes b a

/-- The keys in the order in which a loop over the map meets them. -/
def StdMap.keysInOrder {β : Type} (m : StdMap β) : List Str :=
  m.keys.insertionSort fun a b => precedes a b

theorem StdMap.nodup_keysInOrder {β : Type} (m : StdMap β) : m.keysInOrder.Nodup :=
  ((List.perm_insertionSort _ _).nodup_iff).mpr m.keys_nodup

theorem StdMap.mem_keysInOrder {β : Type} {m : StdMap β} {key : Str} :
    key ∈ m.keysInOrder ↔ (m.lookup key).isSome = true := by
  rw [StdMap.keysInOrder, List.mem_insertionSort, AList.lookup_isSome, AList.mem_keys]

/-! ### The order of strings -/

section Order

variable {a b c : Str}

theorem precedes_cons_iff {x y : Char} {xs ys : Str} :
    precedes (x :: xs) (y :: ys) = true ↔ x.toNat < y.toNat ∨ x = y ∧ precedes xs ys = true := by
  simp [precedes]

theorem precedes_refl (a : Str) : precedes a a = true := by
  induction a with
  | nil => rfl
  | cons x xs ih => exact precedes_cons_iff.mpr (.inr ⟨rfl, ih⟩)

theorem precedes_total (a b : Str) : precedes a b = true ∨ precedes b a = true := by
  induction a generalizing b with
  | nil => exact .inl rfl
  | cons x xs ih =>
    cases b with
    | nil => exact .inr rfl
    | cons y ys =>
      rw [precedes_cons_iff, precedes_cons_iff]
      rcases lt_trichotomy x.toNat y.toNat with hlt | heq | hgt
      · exact .inl (.inl hlt)
      · obtain rfl : x = y := Char.ext (UInt32.toNat_inj.mp heq)
        exact (ih ys).imp (fun h => .inr ⟨rfl, h⟩) fun h => .inr ⟨rfl, h⟩
      · exact .inr (.inl hgt)

theorem precedes_trans (hab : precedes a b = true) (hbc : precedes b c = true) : precedes a c = true := by
  induction a generalizing b c with
  | nil => rfl
  | cons x xs ih =>
    cases b with
    | nil => cases hab
    | cons y ys =>
      cases c with
      | nil => cases hbc
      | cons z zs =>
        rw [precedes_cons_iff] at hab hbc ⊢
        rcases hab with hxy | ⟨rfl, hxs⟩
        · rcases hbc with hyz | ⟨rfl, _⟩
          · exact .inl (hxy.trans hyz)
          · exact .inl hxy
        · rcases hbc with hyz | ⟨rfl, hys⟩
          · exact .inl hyz
          · exact .inr ⟨rfl, ih hxs hys⟩

theorem precedes_antisymm (hab : precedes a b = true) (hba : precedes b a = true) : a = b := by
  induction a generalizing b with
  | nil =>
    cases b with
    | nil => rfl
    | cons y ys => cases hba
  | cons x xs ih =>
    cases b with
    | nil => cases hab
    | cons y ys =>
      rw [precedes_cons_iff] at hab hba
      rcases hab with hlt | ⟨rfl, hxs⟩
      · rcases hba with hgt | ⟨rfl, _⟩
        · exact absurd hlt (Nat.lt_asymm hgt)
        · exact absurd hlt (Nat.lt_irrefl _)
      · rcases hba with hgt | ⟨_, hys⟩
        · exact absurd hgt (Nat.lt_irrefl _)
        · rw [ih hxs hys]

theorem stringLess_irrefl (a : Str) : stringLess a a = false := by
  rw [stringLess, precedes_refl]
  rfl

theorem stringLess_trans (hab : stringLess a b = true) (hbc : stringLess b c = true) :
    stringLess a c = true := by
  simp only [stringLess, Bool.not_eq_true'] at hab hbc ⊢
  by_contra hca
  have hle : precedes a b = true := (precedes_total a b).resolve_right (by simp [hab])
  rw [precedes_trans (Bool.not_eq_false _ ▸ hca) hle] at hbc
  cases hbc

/-- Neither of two strings is less exactly when they are the same. -/
theorem stringLess_tie_iff : (stringLess a b = false ∧ stringLess b a = false) ↔ a = b := by
  simp only [stringLess, Bool.not_eq_false']
  constructor
  · rintro ⟨hba, hab⟩
    exact precedes_antisymm hab hba
  · rintro rfl
    exact ⟨precedes_refl a, precedes_refl a⟩

end Order
/-! ### Files -/

/-- What `std::filesystem` answers about paths. -/
structure FileSystem where
  pathExists : Str → Except Exception Bool
  createDirectories : Str → Except Exception Bool

/-- The file system after `create_directories` has made the path. -/
def FileSystem.made (files : FileSystem) (path : Str) : FileSystem :=
  { files with pathExists := fun p => if p = path then .ok true else files.pathExists p }

/-- `std::filesystem::path::parent_path`: the path without its last component and the slashes before it,
but for the root directory. -/
def parentPath (path : Str) : Str :=
  if path.all (· == '/') then path
  else
    let directory := path.reverse.dropWhile (· != '/')
    let parent := (directory.dropWhile (· == '/')).reverse
    if parent.isEmpty && !directory.isEmpty then ['/'] else parent

/-! ### Characters -/

/-- `std::isspace`: blank, tab, line feed, vertical tab, form feed and carriage return. -/
def isspace (c : Char) : Bool := c == ' ' || (9 ≤ c.toNat && c.toNat ≤ 13)

/-- `::toupper`. -/
def toupper (c : Char) : Char := c.toUpper

/-- `::tolower`. -/
def tolower (c : Char) : Char := c.toLower

/-- `toupper` moves the letters `a` to `z` only, so it keeps blanks and makes none. -/
theorem toupper_eq (c : Char) :
    toupper c = c ∧ ¬ (97 ≤ c.toNat ∧ c.toNat ≤ 122) ∨
      (97 ≤ c.toNat ∧ c.toNat ≤ 122) ∧ (toupper c).toNat + 32 = c.toNat := by
  unfold toupper Char.toUpper
  split
  · next h =>
    right
    obtain ⟨hlow, hhigh⟩ := h
    have hlow' : 97 ≤ c.val.toNat := UInt32.le_iff_toNat_le.mp hlow
    have hhigh' : c.val.toNat ≤ 122 := UInt32.le_iff_toNat_le.mp hhigh
    refine ⟨⟨hlow', hhigh'⟩, ?_⟩
    have hshift : ('A'.val - 'a'.val).toNat = 2 ^ 32 - 32 := by decide
    simp only [Char.toNat, UInt32.toNat_add, hshift]
    omega
  · next h =>
    left
    refine ⟨rfl, fun hrange => h ?_⟩
    exact ⟨UInt32.le_iff_toNat_le.mpr hrange.1, UInt32.le_iff_toNat_le.mpr hrange.2⟩

theorem isspace_iff (c : Char) :
    isspace c = true ↔ c.toNat = 32 ∨ 9 ≤ c.toNat ∧ c.toNat ≤ 13 := by
  have hblank : c = ' ' ↔ c.toNat = 32 :=
    ⟨fun h => by rw [h]; rfl, fun h => Char.ext (UInt32.toNat_inj.mp h)⟩
  simp [isspace, hblank]

@[simp] theorem isspace_toupper (c : Char) : isspace (toupper c) = isspace c := by
  rw [Bool.eq_iff_iff, isspace_iff, isspace_iff]
  rcases toupper_eq c with ⟨heq, _⟩ | ⟨hrange, hshift⟩
  · rw [heq]
  · omega

theorem toupper_of_not_lower {c : Char} (h : c.isLower = false) : toupper c = c := by
  rcases toupper_eq c with ⟨heq, _⟩ | ⟨hrange, _⟩
  · exact heq
  · have hlower : c.isLower = true :=
      Bool.and_eq_true_iff.mpr ⟨decide_eq_true (UInt32.le_iff_toNat_le.mpr hrange.1),
        decide_eq_true (UInt32.le_iff_toNat_le.mpr hrange.2)⟩
    rw [h] at hlower
    cases hlower

/-- `tolower` moves the letters `A` to `Z` only. -/
theorem tolower_eq (c : Char) :
    tolower c = c ∧ ¬ (65 ≤ c.toNat ∧ c.toNat ≤ 90) ∨
      (65 ≤ c.toNat ∧ c.toNat ≤ 90) ∧ (tolower c).toNat = c.toNat + 32 := by
  unfold tolower Char.toLower
  split
  · next h =>
    right
    obtain ⟨hlow, hhigh⟩ := h
    have hlow' : 65 ≤ c.val.toNat := UInt32.le_iff_toNat_le.mp hlow
    have hhigh' : c.val.toNat ≤ 90 := UInt32.le_iff_toNat_le.mp hhigh
    refine ⟨⟨hlow', hhigh'⟩, ?_⟩
    have hshift : ('a'.val - 'A'.val).toNat = 32 := by decide
    simp only [Char.toNat, UInt32.toNat_add, hshift]
    omega
  · next h =>
    left
    refine ⟨rfl, fun hrange => h ?_⟩
    exact ⟨UInt32.le_iff_toNat_le.mpr hrange.1, UInt32.le_iff_toNat_le.mpr hrange.2⟩

theorem isLower_iff (c : Char) : c.isLower = true ↔ 97 ≤ c.toNat ∧ c.toNat ≤ 122 := by
  have hdef : c.isLower = (decide (c.val ≥ 'a'.val) && decide (c.val ≤ 'z'.val)) := rfl
  rw [hdef, Bool.and_eq_true, decide_eq_true_iff, decide_eq_true_iff]
  exact and_congr UInt32.le_iff_toNat_le UInt32.le_iff_toNat_le

@[simp] theorem isLower_toupper (c : Char) : (toupper c).isLower = false := by
  rw [← Bool.not_eq_true, isLower_iff]
  rcases toupper_eq c with ⟨heq, hrange⟩ | ⟨hrange, hshift⟩
  · rwa [heq]
  · omega

/-- Raising undoes lowering for what has no lower-case letters. -/
theorem toupper_tolower {c : Char} (h : c.isLower = false) : toupper (tolower c) = c := by
  rw [← Bool.not_eq_true, isLower_iff] at h
  apply Char.ext
  apply UInt32.toNat_inj.mp
  show (toupper (tolower c)).toNat = c.toNat
  rcases tolower_eq c with ⟨heq, _⟩ | ⟨hrange, hshift⟩
  · rw [heq]
    rcases toupper_eq c with ⟨heq', _⟩ | ⟨hrange', _⟩
    · rw [heq']
    · exact absurd hrange' h
  · rcases toupper_eq (tolower c) with ⟨_, hnot⟩ | ⟨_, hshift'⟩
    · omega
    · omega

theorem map_toupper_tolower {s : Str} (h : ∀ c ∈ s, c.isLower = false) :
    (s.map tolower).map toupper = s := by
  rw [List.map_map]
  exact (List.map_congr_left fun c hc => toupper_tolower (h c hc)).trans (List.map_id s)

theorem toupper_eq_underscore {c : Char} (h : toupper c = '_') : c = '_' := by
  rcases toupper_eq c with ⟨heq, _⟩ | ⟨hrange, hshift⟩
  · rw [← heq, h]
  · rw [h] at hshift
    have hcode : '_'.toNat = 95 := by decide
    omega

/-! ### Times

Times and durations are integers in the unit of their `std::chrono` type.
-/

/-- `std::chrono::duration_cast` of nanoseconds to microseconds truncates. -/
def toMicroseconds (nanoseconds : Int64) : Int := nanoseconds.toInt.tdiv 1000

/-- A number of `std::chrono::seconds` in microseconds. -/
def seconds (n : Int) : Int := n * 1000000

/-- A number of `std::chrono::months` in microseconds: a month is a twelfth of the mean Gregorian
year. -/
def months (n : Int) : Int := seconds (n * 2629746)

/-! ### Numbers -/

/-- Numbers with the same digits, as `std::to_string` writes them, are the same. -/
theorem eq_of_digits {i j : Nat} (h : (Nat.repr i).toList = (Nat.repr j).toList) : i = j := by
  have hnumber (n : Nat) : Nat.ofDigitChars 10 (Nat.repr n).toList 0 = n := by
    rw [Nat.toList_repr, Nat.ofDigitChars_toDigits (by decide) (by decide)]
  rw [← hnumber i, ← hnumber j, h]

/-- `static_cast<int>` of a wider integer keeps the low 32 bits. -/
def castToInt (n : Int) : Int := n.bmod (2 ^ 32)

theorem castToInt_of_lt {n : Nat} (h : n < 2 ^ 31) : castToInt n = n :=
  Int.bmod_eq_of_le (by omega) (by omega)

theorem castToInt_le (n : Nat) : castToInt n ≤ n ∧ castToInt n < 2 ^ 31 := by
  unfold castToInt Int.bmod
  dsimp only
  split <;> omega

theorem castToInt_pred {n : Nat} (h : 0 < castToInt (n + 1 : Nat)) :
    castToInt n = castToInt (n + 1 : Nat) - 1 := by
  unfold castToInt Int.bmod at h ⊢
  dsimp only at h ⊢
  split at h <;> split <;> omega

/-- The square of an int is an int just up to 46340. -/
theorem toInt_mul_self_iff (x : Int32) : (x * x).toInt = x.toInt * x.toInt ↔ x.toInt.natAbs ≤ 46340 := by
  have hsquare := Int.natAbs_mul_self' x.toInt
  constructor
  · intro h
    have hlt := (x * x).toInt_lt
    rw [h, ← hsquare] at hlt
    by_contra hbig
    have hle : 46341 * 46341 ≤ x.toInt.natAbs * x.toInt.natAbs := Nat.mul_self_le_mul_self (by omega)
    omega
  · intro hsmall
    have hle : x.toInt.natAbs * x.toInt.natAbs ≤ 46340 * 46340 := Nat.mul_self_le_mul_self hsmall
    rw [Int32.toInt_mul]
    exact Int.bmod_eq_of_le (by omega) (by omega)

/-- Numbers whose magnitudes add up to less than 63 bits are added up exactly in 64 bits. -/
theorem toInt_foldl_add {xs : List Int} {sum : Int64} (h : sum.toInt.natAbs + (xs.map Int.natAbs).sum < 2 ^ 63) :
    (xs.foldl (fun sum x => sum + Int64.ofInt x) sum).toInt = sum.toInt + xs.sum := by
  induction xs generalizing sum with
  | nil => simp
  | cons x xs ih =>
    rw [List.map_cons, List.sum_cons] at h
    have hx : (Int64.ofInt x).toInt = x := Int64.toInt_ofInt_of_le (by omega) (by omega)
    have hadd : (sum + Int64.ofInt x).toInt = sum.toInt + x := by
      rw [Int64.toInt_add, hx]
      exact Int.bmod_eq_of_le (by omega) (by omega)
    rw [List.foldl_cons, ih (by omega), hadd, List.sum_cons, Int.add_assoc]

/-- The conversion of an integer to `double`. -/
def castToDouble (n : Int) : Int := Rounding.roundIntNearestEven 53 n

/-- `static_cast<int64_t>` of a double with an integer value. A value that does not fit has no
defined result; x86-64 gives the smallest integer. -/
def castToInt64 (x : Int) : Int64 :=
  if -2 ^ 63 ≤ x ∧ x < 2 ^ 63 then Int64.ofInt x else Int64.minValue

/-- `std::round` of a double: to the nearest integer, and away from zero from halfway. -/
def stdRound (x : ℚ) : Int := if 0 ≤ x then ⌊x + 1 / 2⌋ else -⌊-x + 1 / 2⌋

/-- `std::round` of an `int64_t` converts it to `double`, which is then an integer already. -/
def roundInt64 (t : Int64) : Int := castToDouble t.toInt

/-- The conversion to `double` and back gives a time again exactly when the time has at most 53
significant bits. -/
theorem castToInt64_roundInt64_eq_iff (t : Int64) :
    castToInt64 (roundInt64 t) = t ↔ Rounding.Representable 53 t.toInt.natAbs := by
  have hlow : -2 ^ 63 ≤ t.toInt := Int64.le_toInt t
  have hhigh : t.toInt < 2 ^ 63 := Int64.toInt_lt t
  rw [← Rounding.roundIntNearestEven_eq_self_iff]
  change castToInt64 (Rounding.roundIntNearestEven 53 t.toInt) = t ↔ _
  constructor
  · intro heq
    by_cases hfits : -2 ^ 63 ≤ Rounding.roundIntNearestEven 53 t.toInt ∧
        Rounding.roundIntNearestEven 53 t.toInt < 2 ^ 63
    · rw [castToInt64, if_pos hfits] at heq
      have hval := congrArg Int64.toInt heq
      rwa [Int64.toInt_ofInt_of_le hfits.1 hfits.2] at hval
    · -- an overflow gives the smallest time, which is a power of two
      rw [castToInt64, if_neg hfits] at heq
      rw [Rounding.roundIntNearestEven_eq_self_iff, ← heq, Int64.toInt_minValue]
      exact ⟨1, 63, by decide, by decide⟩
  · intro heq
    rw [heq, castToInt64, if_pos ⟨hlow, hhigh⟩]
    exact Int64.toInt_inj.mp (Int64.toInt_ofInt_of_le hlow hhigh)

/-- `std::to_string` of a double: six decimals. -/
def stdToString (x : ℚ) : String :=
  let scaled := x.num.natAbs * 10 ^ 6
  let quotient := scaled / x.den
  let remainder := scaled % x.den
  let digits :=
    if 2 * remainder < x.den ∨ 2 * remainder = x.den ∧ quotient % 2 = 0 then quotient
    else quotient + 1
  let fraction := Nat.repr (digits % 10 ^ 6)
  (if x < 0 then "-" else "") ++ Nat.repr (digits / 10 ^ 6) ++ "." ++
    String.ofList (List.replicate (6 - fraction.length) '0') ++ fraction

end USEEDLinkToRingServer
