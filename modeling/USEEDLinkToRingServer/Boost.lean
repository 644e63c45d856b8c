import USEEDLinkToRingServer.Standard
import Mathlib.Data.List.DropRight

/-!
# Boost, as far as the program uses it

Boost is not part of the repository, so what the program uses of it is a parameter.
-/

namespace USEEDLinkToRingServer

structure Boost where
  /-- `boost::algorithm::trim`. -/
  trim : Str → Str
  /-- `boost::split` of a text at each of the characters of `boost::is_any_of`. -/
  split : Str → Str → List Str
  /-- The conversions of the texts of a property tree. -/
  toInt : Str → Option Int32
  toUInt16 : Str → Option UInt16
  toBool : Str → Option Bool

namespace Boost

/-- The number that decimal digits stand for. -/
def readDigits (digits : Str) : Option Nat :=
  if !digits.isEmpty && digits.all Char.isDigit then
    some (digits.foldl (fun n digit => 10 * n + (digit.toNat - '0'.toNat)) 0)
  else none

def readInt : Str → Option Int
  | '-' :: digits => (readDigits digits).map fun n => -(n : Int)
  | digits => (readDigits digits).map fun n => (n : Int)

/-- The string algorithms, and the conversions of plain decimal numbers and of flags. -/
def known : Boost where
  trim s := (s.dropWhile isspace).rdropWhile isspace
  split s separators := s.splitOnP fun c => separators.contains c
  toInt s := (readInt s).bind fun n => if -2 ^ 31 ≤ n ∧ n < 2 ^ 31 then some (.ofInt n) else none
  toUInt16 s := (readDigits s).bind fun n => if n < 2 ^ 16 then some (.ofNat n) else none
  toBool s :=
    if s = ['1'] ∨ s = ['t', 'r', 'u', 'e'] then some true
    else if s = ['0'] ∨ s = ['f', 'a', 'l', 's', 'e'] then some false
    else none

/-- What Boost documents of the string algorithms: white space is taken off both ends, and a text is cut at
each of the separators, also where two of them meet. -/
structure Documented (boost : Boost) : Prop where
  trim : ∀ s, boost.trim s = (s.dropWhile isspace).rdropWhile isspace
  split : ∀ s separators, boost.split s separators = s.splitOnP fun c => separators.contains c

theorem known_documented : known.Documented := ⟨fun _ => rfl, fun _ _ => rfl⟩

end Boost

/-- `boost::property_tree::ptree`: the text at each path that there is. -/
structure PropertyTree where
  data : Str → Option Str

namespace PropertyTree

variable {α : Type} (tree : PropertyTree) (path : Str)

/-- `get_optional` of a type gives nothing without the path, or if its text cannot be converted. -/
def getOptional (convert : Str → Option α) : Option α := (tree.data path).bind convert

/-- `get` with a default. -/
def getOr (convert : Str → Option α) (default : α) : α := (tree.getOptional path convert).getD default

/-- `get` of a string. -/
def get : Except Exception Str :=
  match tree.data path with
  | some text => .ok text
  | none => .error (.runtimeError ("No such node (" ++ String.ofList path ++ ")"))

theorem get_eq_ok_iff {tree : PropertyTree} {path text : Str} :
    tree.get path = .ok text ↔ tree.data path = some text := by
  rw [get]
  split
  · next text' h => rw [h, Except.ok.injEq, Option.some.injEq]
  · next h => simp [h]

end PropertyTree

end USEEDLinkToRingServer
