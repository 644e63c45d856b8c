import USEEDLinkToRingServer.SelectorGrammar

/-!
# The types that are printed and read

A selector shows the letters of all types, but only data and all types are read.
-/

namespace USEEDLinkToRingServer

open Tokens

namespace SelectorType

/-- The spellings that a type is asked for with. -/
def spellings : SelectorType → List Str
  | .all => [['A'], ['a']]
  | t => [[t.letter], [t.letter.toLower]]

/-- What the reader takes a type for: it knows the letter of the data packets, and any other stands for all. -/
def taken (type : SelectorType) : SelectorType := if type = .data then .data else .all

theorem taken_eq_iff (type : SelectorType) : type.taken = type ↔ type = .all ∨ type = .data := by
  cases type <;> decide

theorem taken_eq_taken_iff (type type' : SelectorType) :
    type.taken = type'.taken ↔ (type = .data ↔ type' = .data) := by
  cases type <;> cases type' <;> decide

end SelectorType

namespace StreamSelector

/-- What is read of the tokens has the selector that is made of the channel, the location code and the
type. -/
def PrinterAgrees (boost : Boost) (network station channel location : Str) (type : SelectorType)
    (letter : Str) : Prop :=
  ∃ s, fromString boost ([' '].intercalate [network, station, channel, location, letter]) = .ok s ∧
    ∀ made : StreamSelector, s.getSelector = (made.setSelector channel location type).getSelector

/-- Both types are read as one selector. -/
def SameSelector (boost : Boost) (network station channel location letter letter' : Str) : Prop :=
  ∃ s s', fromString boost ([' '].intercalate [network, station, channel, location, letter]) = .ok s ∧
    fromString boost ([' '].intercalate [network, station, channel, location, letter']) = .ok s' ∧
    s.getSelector = s'.getSelector

theorem typeOf_spelling {type : SelectorType} {letter : Str} (h : letter ∈ type.spellings) :
    IsToken isspace letter ∧ typeOf letter = type.taken := by
  have hall : ∀ letter ∈ type.spellings, IsToken isspace letter ∧ typeOf letter = type.taken := by
    cases type <;> decide
  exact hall letter h

/-- The selectors of a channel and a location code show their types. -/
theorem getSelector_setSelector_inj {channel location : Str} (hchannel : channel ≠ []) (hlocation : location ≠ [])
    (s s' : StreamSelector) {type type' : SelectorType} :
    (s.setSelector channel location type).getSelector = (s'.setSelector channel location type').getSelector ↔
      type = type' := by
  rw [getSelector_setSelector s hchannel hlocation, getSelector_setSelector s' hchannel hlocation,
    List.append_cancel_left_eq, List.cons.injEq, List.cons.injEq]
  exact ⟨fun h => SelectorType.letter_injective h.2.1, fun h => ⟨rfl, congrArg _ h, rfl⟩⟩

section Types

variable {boost : Boost} (hboost : boost.Documented) {network station channel location : Str}
  (htokens : ∀ t ∈ [network, station, channel, location], IsToken isspace t) (hlength : network.length = 2)
  {type type' : SelectorType} {letter letter' : Str} (hletter : letter ∈ type.spellings)
include hboost htokens hlength hletter

/-- Five tokens are read as the type that the last is taken for. -/
theorem fromString_five :
    ∃ s : StreamSelector,
      fromString boost ([' '].intercalate [network, station, channel, location, letter]) =
        .ok (s.setSelector channel location type.taken) := by
  obtain ⟨htoken, htype⟩ := typeOf_spelling hletter
  have hall : ∀ t ∈ [network, station, channel, location, letter], IsToken isspace t := by
    intro t ht
    rcases List.mem_append.mp (show t ∈ [network, station, channel, location] ++ [letter] from ht) with h | h
    · exact htokens t h
    · rwa [List.mem_singleton.mp h]
  have hread := fromString_intercalate hboost hall hlength (Nat.le_refl 3)
  rw [← htype]
  exact ⟨_, hread⟩

theorem printerAgrees_iff_taken :
    PrinterAgrees boost network station channel location type letter ↔ type.taken = type := by
  have hchannel := (htokens channel (by simp)).ne_nil
  have hlocation := (htokens location (by simp)).ne_nil
  obtain ⟨s, hs⟩ := fromString_five hboost htokens hlength hletter
  rw [PrinterAgrees, hs]
  constructor
  · rintro ⟨_, hread, hmade⟩
    apply (getSelector_setSelector_inj hchannel hlocation s {}).mp
    rw [Except.ok.inj hread, hmade {}]
  · intro htaken
    exact ⟨_, rfl, fun made => (getSelector_setSelector_inj hchannel hlocation s made).mpr htaken⟩

theorem sameSelector_iff_taken (hletter' : letter' ∈ type'.spellings) :
    SameSelector boost network station channel location letter letter' ↔ type.taken = type'.taken := by
  have hchannel := (htokens channel (by simp)).ne_nil
  have hlocation := (htokens location (by simp)).ne_nil
  obtain ⟨s, hs⟩ := fromString_five hboost htokens hlength hletter
  obtain ⟨s', hs'⟩ := fromString_five hboost htokens hlength hletter'
  rw [SameSelector, hs, hs', ← getSelector_setSelector_inj hchannel hlocation s s']
  constructor
  · rintro ⟨_, _, hread, hread', hsame⟩
    rw [Except.ok.inj hread, Except.ok.inj hread', hsame]
  · intro hsame
    exact ⟨_, _, rfl, rfl, hsame⟩

end Types

/-- **The reader knows all types and data only**: the letter of a type is read as the type if and only if the
type is one of these two, and two letters are told apart if and only if one of them stands for data. -/
theorem printerAgrees_iff {boost : Boost} (hboost : boost.Documented)
    (network station channel location : Str)
    (htokens : ∀ t ∈ [network, station, channel, location], IsToken isspace t)
    (hlength : network.length = 2) (type type' : SelectorType) (letter letter' : Str)
    (hletter : letter ∈ type.spellings) (hletter' : letter' ∈ type'.spellings) :
    (PrinterAgrees boost network station channel location type letter ↔ type = .all ∨ type = .data) ∧
      (SameSelector boost network station channel location letter letter' ↔
        (type = .data ↔ type' = .data)) := by
  rw [printerAgrees_iff_taken hboost htokens hlength hletter,
    sameSelector_iff_taken hboost htokens hlength hletter hletter']
  exact ⟨type.taken_eq_iff, type.taken_eq_taken_iff type'⟩

/-- The data packets of a channel. -/
theorem printerAgrees_iff_known :
    PrinterAgrees .known ['U', 'U'] ['F', 'O', 'R', 'K'] ['H', 'H', 'Z'] ['0', '1'] .data ['d'] :=
  (printerAgrees_iff Boost.known_documented _ _ _ _ (by decide) (by decide) .data .data ['d'] ['D'] (by decide)
    (by decide)).1.mpr (.inr rfl)

/-- Events are asked for, and everything is selected. -/
theorem not_printerAgrees :
    ¬ ∀ (boost : Boost) (network station channel location : Str), boost.Documented →
      (∀ t ∈ [network, station, channel, location], IsToken isspace t) → network.length = 2 →
      (∀ (type : SelectorType) (letter : Str), letter ∈ type.spellings →
        PrinterAgrees boost network station channel location type letter) ∧
      (∀ (type type' : SelectorType) (letter letter' : Str), letter ∈ type.spellings → letter' ∈ type'.spellings →
        type ≠ type' → ¬ SameSelector boost network station channel location letter letter') := by
  intro hclaim
  obtain ⟨hagrees, _⟩ := hclaim .known ['U', 'U'] ['F', 'O', 'R', 'K'] ['H', 'H', 'Z'] ['0', '1']
    Boost.known_documented (by decide) rfl
  obtain ⟨s, hs, hsame⟩ := hagrees .event ['E'] (by decide)
  have hread : (fromString .known ([' '].intercalate
      [['U', 'U'], ['F', 'O', 'R', 'K'], ['H', 'H', 'Z'], ['0', '1'], ['E']])).map getSelector =
        .ok ['0', '1', 'H', 'H', 'Z', '.', '*'] := by
    decide +kernel
  have hevents : getSelector (setSelector {} ['H', 'H', 'Z'] ['0', '1'] .event) =
      ['0', '1', 'H', 'H', 'Z', '.', 'E'] := by
    decide
  rw [hs] at hread
  exact absurd ((Except.ok.inj hread).symm.trans ((hsame {}).trans hevents)) (by decide)

end StreamSelector

end USEEDLinkToRingServer
