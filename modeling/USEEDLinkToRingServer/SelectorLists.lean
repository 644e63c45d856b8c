import USEEDLinkToRingServer.SEEDLinkOptionsObjects
import USEEDLinkToRingServer.SEEDLinkSection

/-!
# The list of selectors

Loading a configuration reads the pieces of its numbered values one after the other and adds what each says to
the list, which never asks the server for the same twice.
-/

namespace USEEDLinkToRingServer

open Fallible Objects

/-- What a selector asks the server for. -/
def StreamSelector.triple (s : StreamSelector) : Except Exception Str × Str × Str :=
  (s.getNetwork, s.getStation, s.getSelector)

namespace SEEDLinkClientOptions

def getStreamSelectors (options : SEEDLinkClientOptions) : List StreamSelector := options.mSelectors

/-- Options as objects that selectors are added to. -/
def objects : Class SEEDLinkClientOptions Unit StreamSelector Exception :=
  ⟨fun _ => .ok {}, fun options selector => perform options (addStreamSelectorTo selector)⟩

end SEEDLinkClientOptions

namespace Section

/-- The pieces of the values that are there, in the order of their numbers, cut at every comma and bar. -/
def selectorPieces (s : Section) : List Str :=
  (List.range 32768).flatMap fun i =>
    let value := s.propertyTree.data
      (s.clientName ++ ".data_selector_".toList ++ (Nat.repr (i + 1)).toList)
    (value.map fun text => text.splitOnP fun c => c = ',' ∨ c = '|').getD []

/-- Two of the pieces are read as selectors that ask for the same. -/
def Repeats (s : Section) : Prop :=
  ∃ (i j : Nat) (selector selector' : StreamSelector), i < j ∧
    (s.selectorPieces[i]?).map (StreamSelector.fromString s.boost) = some (.ok selector) ∧
    (s.selectorPieces[j]?).map (StreamSelector.fromString s.boost) = some (.ok selector') ∧
    selector.triple = selector'.triple

end Section

/-! ### What is loaded -/

theorem StreamSelector.same_iff_triple {s t : StreamSelector} : s.Same t ↔ s.triple = t.triple := by
  have hnetwork : s.getNetwork = t.getNetwork ↔ s.mNetwork = t.mNetwork := by
    unfold getNetwork hasNetwork
    cases hs : s.mNetwork <;> cases ht : t.mNetwork <;> simp
  rw [Same, triple, triple, Prod.mk.injEq, Prod.mk.injEq, hnetwork]

namespace Section

variable {s : Section} {options : SEEDLinkClientOptions}

theorem selectorTexts_eq (hboost : s.boost.Documented) : s.selectorTexts = s.selectorPieces := by
  have hkey (i : Nat) : s.key "data_selector_" ++ (Nat.repr (i + 1)).toList =
      s.clientName ++ ".data_selector_".toList ++ (Nat.repr (i + 1)).toList := rfl
  have hseparators : (fun c => [',', '|'].contains c) = fun c => decide (c = ',' ∨ c = '|') := by
    funext c
    rw [Bool.eq_iff_iff, List.contains_iff_mem, List.mem_pair, decide_eq_true_iff]
  unfold selectorTexts selectorPieces
  apply List.flatMap_congr
  intro i _
  rw [splitSelectors, hkey]
  dsimp only
  cases s.propertyTree.data (s.clientName ++ ".data_selector_".toList ++ (Nat.repr (i + 1)).toList) with
  | none => rfl
  | some text =>
    show s.boost.split text [',', '|'] = text.splitOnP fun c => decide (c = ',' ∨ c = '|')
    rw [hboost.split, hseparators]

/-- What is loaded was read of the pieces, one selector of each, and no two ask for the same. -/
theorem selectors_of_loaded (hboost : s.boost.Documented) (h : s.getSEEDLinkOptions = .ok options) :
    s.selectorPieces.map (StreamSelector.fromString s.boost) = options.getStreamSelectors.map .ok ∧
      (options.getStreamSelectors.map StreamSelector.triple).Nodup := by
  obtain ⟨host, _, _, selectors, ⟨hread, hdiffer⟩, rfl⟩ := getSEEDLinkOptions_eq_ok_iff.mp h
  rw [selectorTexts_eq hboost, mapM_eq_ok_iff] at hread
  refine ⟨hread, List.pairwise_map.mpr (hdiffer.imp fun hnot htriple => ?_)⟩
  exact hnot (StreamSelector.same_iff_triple.mpr htriple)

/-- Pieces that all give a selector do not repeat one, if no two selectors ask for the same. -/
theorem not_repeats {selectors : List StreamSelector}
    (hread : s.selectorPieces.map (StreamSelector.fromString s.boost) = selectors.map .ok)
    (hdiffer : (selectors.map StreamSelector.triple).Nodup) : ¬ s.Repeats := by
  rintro ⟨i, j, selector, selector', hlt, hi, hj, hsame⟩
  rw [← List.getElem?_map, hread, List.getElem?_map] at hi hj
  have htriple : ∀ {k : Nat} {t : StreamSelector},
      (selectors[k]?).map Except.ok = some (.ok t : Except Exception StreamSelector) →
        (selectors.map StreamSelector.triple)[k]? = some t.triple := by
    intro k t hk
    obtain ⟨t', ht', heq⟩ := Option.map_eq_some_iff.mp hk
    rw [List.getElem?_map, ht', Except.ok.inj heq]
    rfl
  have hi := htriple hi
  have hj := htriple hj
  obtain ⟨hlength, _⟩ := List.getElem?_eq_some_iff.mp hi
  have hequal : i = j := (List.getElem?_inj hlength hdiffer).mp (by rw [hi, hj, hsame])
  omega

/-- **The list of selectors** that is loaded is complete, in order and without repetition, or loading throws; and
a call that does not add its selector leaves the list as it was. -/
theorem selectors_loaded (s : Section) (hboost : s.boost.Documented) :
    (∀ options, s.getSEEDLinkOptions = .ok options →
      s.selectorPieces.map (StreamSelector.fromString s.boost) = options.getStreamSelectors.map .ok ∧
        (options.getStreamSelectors.map StreamSelector.triple).Nodup) ∧
      ((∃ piece ∈ s.selectorPieces, ∀ selector, StreamSelector.fromString s.boost piece ≠ .ok selector) ∨
        s.Repeats → ∃ e, s.getSEEDLinkOptions = .error e) ∧
      ∀ options calls selector e,
        let held := SEEDLinkClientOptions.objects.after options calls
        (SEEDLinkClientOptions.objects.call held selector).2 = .error e →
          (SEEDLinkClientOptions.objects.call held selector).1.getStreamSelectors = held.getStreamSelectors := by
  refine ⟨fun options => selectors_of_loaded hboost, fun hbad => ?_, ?_⟩
  · cases hload : s.getSEEDLinkOptions with
    | error e => exact ⟨e, rfl⟩
    | ok options =>
      obtain ⟨hread, hdiffer⟩ := selectors_of_loaded hboost hload
      rcases hbad with ⟨piece, hpiece, hunread⟩ | hrepeats
      · have hmem := List.mem_map_of_mem (f := StreamSelector.fromString s.boost) hpiece
        rw [hread] at hmem
        obtain ⟨selector, _, hselector⟩ := List.mem_map.mp hmem
        exact absurd hselector.symm (hunread selector)
      · exact absurd hrepeats (not_repeats hread hdiffer)
  · intro options calls selector e held hthrew
    have hcall : SEEDLinkClientOptions.objects.call held selector =
        attempt held (held.addStreamSelector selector) := held.perform_addStreamSelectorTo selector
    rw [hcall] at hthrew ⊢
    rw [attempt_error hthrew]

/-- Two selectors under the first number and one under the third. -/
def knownTexts : List (Nat × Str) := [(1, "UU FORK|UU CTU".toList), (3, "UU ARGU".toList)]

/-- The selectors are loaded across the gap, and a network alone cannot be read. -/
theorem selectors_loaded_known :
    (∃ options, (knownSubscription knownTexts).getSEEDLinkOptions = .ok options ∧
      options.getStreamSelectors.map (·.getStation) = ["FORK".toList, "CTU".toList, "ARGU".toList] ∧
      (options.getStreamSelectors.map StreamSelector.triple).Nodup) ∧
    ∃ e, (knownSubscription [(1, "UU FORK".toList), (3, "UU".toList)]).getSEEDLinkOptions = .error e := by
  constructor
  · have hread : ((knownSubscription knownTexts).selectorTexts.mapM (StreamSelector.fromString .known)).map
        (fun selectors => (selectors.map (·.getStation), decide (selectors.Pairwise fun t t' => ¬ t.Same t'))) =
          .ok (["FORK".toList, "CTU".toList, "ARGU".toList], true) := by
      rw [selectorTexts_knownSubscription _ 3 (by decide) (by decide)]
      decide +kernel
    obtain ⟨selectors, hselectors, heq⟩ := map_eq_ok_iff.mp hread
    obtain ⟨hstations, hdiffer⟩ := Prod.mk.inj heq
    obtain ⟨options, hload⟩ := loadable_iff.mp (loadable_knownSubscription hselectors (of_decide_eq_true hdiffer))
    obtain ⟨hall, hnodup⟩ := (selectors_loaded _ Boost.known_documented).1 options hload
    have hsame : options.getStreamSelectors = selectors := by
      rw [← selectorTexts_eq Boost.known_documented] at hall
      have hheld := mapM_eq_ok_iff.mpr hall
      exact Except.ok.inj (hheld.symm.trans hselectors)
    exact ⟨options, hload, hsame ▸ hstations, hnodup⟩
  · have hpiece : ['U', 'U'] ∈ (knownSubscription [(1, "UU FORK".toList), (3, "UU".toList)]).selectorPieces := by
      rw [← selectorTexts_eq Boost.known_documented,
        selectorTexts_knownSubscription _ 3 (by decide) (by decide)]
      decide +kernel
    have hunread : (StreamSelector.fromString .known ['U', 'U']).toOption = none := by decide +kernel
    refine (selectors_loaded _ Boost.known_documented).2.1 (.inl ⟨_, hpiece, fun selector hread => ?_⟩)
    rw [show StreamSelector.fromString .known ['U', 'U'] = .ok selector from hread] at hunread
    cases hunread

end Section

end USEEDLinkToRingServer
