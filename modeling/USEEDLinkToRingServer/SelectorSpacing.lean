import USEEDLinkToRingServer.SelectorGrammar

/-!
# The space between the tokens

The same tokens with other gaps between them are read alike exactly when the empty parts that the gaps leave
do not move a token to another place.
-/

namespace USEEDLinkToRingServer

open Tokens

namespace StreamSelector

/-! ### What is shown of each layout -/

/-- The location codes and channels that are shown. -/
def pattern : Layout → List Str → Str
  | _, [] => ['?', '?', '*']
  | .kept, [channel] => ['?', '?'] ++ channel.map toupper
  | .kept, [channel, last] => (if last.length > 1 then last else []) ++ channel.map toupper
  | .kept, channel :: location :: _ => location ++ channel.map toupper
  | .noLocation, channel :: _ => ['?', '?'] ++ channel.map toupper
  | .shifted, [last] => if last.length > 1 then last ++ ['*'] else []
  | .shifted, location :: _ => location ++ ['*']
  | .lost, _ => []

/-- The type that is shown. -/
def typeShown : Layout → List Str → SelectorType
  | _, [] => .all
  | .kept, [_] => .all
  | _, tokens => typeOf (tokens.getLastD [])

theorem typeOf_of_length {token : Str} (h : token.length > 1) : typeOf token = .all := by
  refine if_neg ?_
  rintro (rfl | rfl)
  · exact absurd h (by decide)
  · exact absurd h (by decide)

theorem locationChannel_place (s : StreamSelector) {tokens : List Str} (htokens : ∀ t ∈ tokens, t ≠ [])
    (hfew : tokens.length ≤ 3) (l : Layout) :
    (s.place l tokens).locationChannel = pattern l tokens := by
  rcases tokens with _ | ⟨a, _ | ⟨b, _ | ⟨c, _ | ⟨d, tokens⟩⟩⟩⟩
  · cases l <;> rfl
  · have ha : a ≠ [] := htokens a (by simp)
    cases l with
    | kept => simp [place, pattern, locationChannel, setSelector, ha]
    | noLocation => simp [place, pattern, locationChannel, setSelector, ha]
    | shifted =>
      simp only [place, pattern]
      split
      · simp [locationChannel, setSelector, ha]
      · rfl
    | lost => rfl
  · have ha : a ≠ [] := htokens a (by simp)
    have hb : b ≠ [] := htokens b (by simp)
    cases l with
    | kept =>
      simp only [place, pattern]
      split
      · simp [locationChannel, setSelector, ha, hb]
      · simp [locationChannel, setChannelSelector, ha]
    | noLocation => simp [place, pattern, locationChannel, setSelector, ha]
    | shifted => simp [place, pattern, locationChannel, setSelector, ha]
    | lost => rfl
  · have ha : a ≠ [] := htokens a (by simp)
    have hb : b ≠ [] := htokens b (by simp)
    cases l with
    | kept => simp [place, pattern, locationChannel, setSelector, ha, hb]
    | noLocation => simp [place, pattern, locationChannel, setSelector, ha]
    | shifted => simp [place, pattern, locationChannel, setSelector, ha]
    | lost => rfl
  · simp only [List.length_cons] at hfew
    omega

theorem mType_place (s : StreamSelector) {tokens : List Str} (hfew : tokens.length ≤ 3) {l : Layout}
    (hlocation : l = .noLocation → 2 ≤ tokens.length) : (s.place l tokens).mType = typeShown l tokens := by
  rcases tokens with _ | ⟨a, _ | ⟨b, _ | ⟨c, _ | ⟨d, tokens⟩⟩⟩⟩
  · cases l <;> rfl
  · cases l with
    | kept => rfl
    | noLocation => exact absurd (hlocation rfl) (by simp)
    | shifted =>
      simp only [place]
      split
      · next h => exact (typeOf_of_length h).symm
      · rfl
    | lost => rfl
  · cases l with
    | kept =>
      simp only [place]
      split
      · next h => exact (typeOf_of_length h).symm
      · rfl
    | noLocation => rfl
    | shifted => rfl
    | lost => rfl
  · cases l <;> rfl
  · simp only [List.length_cons] at hfew
    omega

theorem getSelector_place (s : StreamSelector) {tokens : List Str} (htokens : ∀ t ∈ tokens, t ≠ [])
    (hfew : tokens.length ≤ 3) {l : Layout} (hlocation : l = .noLocation → 2 ≤ tokens.length) :
    (s.place l tokens).getSelector = rendering (pattern l tokens) (typeShown l tokens) := by
  rw [getSelector_eq, locationChannel_place s htokens hfew, mType_place s hfew hlocation]

/-- The network and the station are not touched. -/
theorem place_keeps (s : StreamSelector) (l : Layout) (tokens : List Str) :
    (s.place l tokens).getNetwork = s.getNetwork ∧ (s.place l tokens).getStation = s.getStation := by
  unfold place
  split <;> first | exact ⟨rfl, rfl⟩ | (split <;> exact ⟨rfl, rfl⟩)

/-! ### Layouts that show the same -/

/-- The tokens for which two different layouts show the same. -/
def Coincide : List Str → Layout → Layout → Prop
  | [last], .shifted, .lost => last.length = 1
  | [_, location], .kept, .noLocation => location = ['?', '?']
  | [channel, last], .kept, .lost => channel = ['*'] ∧ (last = ['D'] ∨ last = ['d'])
  | [_, location, _], .kept, .noLocation => location = ['?', '?']
  | [channel, location, _], .kept, .shifted => location ++ channel.map toupper = channel ++ ['*']
  | _, _, _ => False

/-- The order in which the pairs of layouts are written. -/
def Layout.rank : Layout → Nat
  | .kept => 0
  | .noLocation => 1
  | .shifted => 2
  | .lost => 3

theorem Layout.rank_injective : Function.Injective Layout.rank := by
  intro l l' h
  cases l <;> cases l' <;> first | rfl | exact absurd h (by decide)

theorem Coincide.rank_lt {tokens : List Str} {l l' : Layout} (h : Coincide tokens l l') :
    l.rank < l'.rank := by
  unfold Coincide at h
  split at h <;> first | decide | exact h.elim

theorem rendering_nil_eq_iff {x : Str} (hx : x ≠ []) {t t' : SelectorType} :
    rendering x t = rendering [] t' ↔ x = ['*'] ∧ t = t' ∧ t' ≠ .all := by
  by_cases ht : t' = .all
  · rw [ht]
    refine iff_of_false ?_ fun h => h.2.2 rfl
    rw [rendering_of_ne_nil hx]
    simp [rendering]
  · have hstar : rendering [] t' = rendering ['*'] t' := by
      rw [rendering, rendering, if_pos rfl, if_neg ht, if_neg (by decide)]
      rfl
    rw [hstar, rendering_inj hx (by decide)]
    exact ⟨fun h => ⟨h.1, h.2, ht⟩, fun h => ⟨h.1, h.2.1⟩⟩

theorem rendering_ne_nil {x : Str} (hx : 1 < x.length) (t t' : SelectorType) :
    rendering x t ≠ rendering [] t' := by
  have hne : x ≠ [] := List.ne_nil_of_length_pos (by omega)
  intro h
  rw [((rendering_nil_eq_iff hne).mp h).1] at hx
  exact absurd hx (by decide)

/-- A text without a location code has one character more than one without a channel. -/
theorem noLocation_ne_shifted (channel : Str) (t t' : SelectorType) :
    rendering (['?', '?'] ++ channel.map toupper) t ≠ rendering (channel ++ ['*']) t' := by
  intro h
  have hlength := congrArg List.length ((rendering_inj (by simp) (by simp)).mp h).1
  simp at hlength

theorem map_toupper_eq_star_iff (channel : Str) : channel.map toupper = ['*'] ↔ channel = ['*'] := by
  constructor
  · intro h
    obtain ⟨c, cs, rfl, hc, hcs⟩ := List.map_eq_cons_iff.mp h
    rw [List.map_eq_nil_iff.mp hcs]
    rcases toupper_eq c with ⟨heq, _⟩ | ⟨hrange, hshift⟩
    · rw [← hc, heq]
    · rw [hc] at hshift
      have hstar : '*'.toNat = 42 := rfl
      omega
  · rintro rfl
    rfl

theorem typeOf_ne_all_iff (token : Str) : typeOf token ≠ .all ↔ token = ['D'] ∨ token = ['d'] := by
  rw [typeOf]
  split
  · next h => exact iff_of_true (by decide) h
  · next h => exact iff_of_false (not_not.mpr rfl) h

/-- Without a channel something is left of the location code, and without both nothing. -/
theorem shifted_ne_lost {channel : Str} (hchannel : channel ≠ []) (t t' : SelectorType) :
    rendering (channel ++ ['*']) t ≠ rendering [] t' := by
  apply rendering_ne_nil
  rw [List.length_append, List.length_singleton]
  have hlength := List.length_pos_iff.mpr hchannel
  omega

theorem noLocation_ne_lost {channel : Str} (t t' : SelectorType) :
    rendering (['?', '?'] ++ channel.map toupper) t ≠ rendering [] t' := by
  apply rendering_ne_nil
  simp

theorem shown_one {a : Str} (ha : a ≠ []) {l l' : Layout} (hl : l ≠ .noLocation) (hl' : l' ≠ .noLocation)
    (hrank : l.rank < l'.rank) :
    rendering (pattern l [a]) (typeShown l [a]) = rendering (pattern l' [a]) (typeShown l' [a]) ↔
      Coincide [a] l l' := by
  have hlength : 0 < a.length := List.length_pos_iff.mpr ha
  cases l with
  | kept =>
    cases l' with
    | kept => exact absurd hrank (Nat.lt_irrefl _)
    | noLocation => exact absurd rfl hl'
    | shifted =>
      refine iff_of_false ?_ id
      simp only [pattern]
      split
      · exact noLocation_ne_shifted a _ _
      · exact noLocation_ne_lost _ _
    | lost => exact iff_of_false (noLocation_ne_lost _ _) id
  | noLocation => exact absurd rfl hl
  | shifted =>
    cases l' with
    | lost =>
      simp only [pattern, Coincide]
      split
      · exact iff_of_false (shifted_ne_lost ha _ _) (by omega)
      · exact iff_of_true rfl (by omega)
    | _ => exact absurd hrank (by decide)
  | lost => cases l' <;> exact absurd hrank (by decide)

/-- Of two tokens or more, layouts that move the first show different ones. -/
theorem moved_ne {a b : Str} {rest : List Str} (ha : a ≠ []) {l l' : Layout} (hl : l ≠ .kept)
    (hrank : l.rank < l'.rank) (t t' : SelectorType) :
    rendering (pattern l (a :: b :: rest)) t ≠ rendering (pattern l' (a :: b :: rest)) t' := by
  cases l with
  | kept => exact absurd rfl hl
  | noLocation =>
    cases l' with
    | shifted =>
      simp only [pattern]
      exact noLocation_ne_shifted a t t'
    | lost =>
      simp only [pattern]
      exact noLocation_ne_lost t t'
    | _ => exact absurd hrank (by decide)
  | shifted =>
    cases l' with
    | lost =>
      simp only [pattern]
      exact shifted_ne_lost ha t t'
    | _ => exact absurd hrank (by decide)
  | lost => cases l' <;> exact absurd hrank (by decide)

theorem not_coincide_moved {a b : Str} {rest : List Str} {l l' : Layout} (hl : l ≠ .kept) :
    ¬ Coincide (a :: b :: rest) l l' := by
  intro h
  unfold Coincide at h
  split at h <;> first | exact hl rfl | exact h | (rename_i heq; exact absurd heq (by simp))

/-- The data packets of all channels are what is shown when nothing but the type is left. -/
theorem kept_eq_lost_iff {channel last : Str} (hchannel : channel ≠ []) :
    rendering ((if last.length > 1 then last else []) ++ channel.map toupper) (typeOf last) =
        rendering [] (typeOf last) ↔
      channel = ['*'] ∧ (last = ['D'] ∨ last = ['d']) := by
  rw [rendering_nil_eq_iff (by simp [hchannel]), typeOf_ne_all_iff, eq_self, true_and]
  split
  · next hlong =>
    have hlength := List.length_pos_iff.mpr hchannel
    refine iff_of_false (fun h => ?_) ?_
    · have hlengths := congrArg List.length h.1
      rw [List.length_append, List.length_map, List.length_singleton] at hlengths
      omega
    · rintro ⟨_, rfl | rfl⟩
      · exact absurd hlong (by decide)
      · exact absurd hlong (by decide)
  · rw [List.nil_append, map_toupper_eq_star_iff]

theorem shown_two {a b : Str} (ha : a ≠ []) {l l' : Layout} (hrank : l.rank < l'.rank) :
    rendering (pattern l [a, b]) (typeShown l [a, b]) = rendering (pattern l' [a, b]) (typeShown l' [a, b]) ↔
      Coincide [a, b] l l' := by
  by_cases hl : l = .kept
  · subst hl
    have hlength : 0 < a.length := List.length_pos_iff.mpr ha
    have hkept : (if b.length > 1 then b else []) ++ a.map toupper ≠ [] := by simp [ha]
    cases l' with
    | kept => exact absurd hrank (Nat.lt_irrefl _)
    | noLocation =>
      simp only [pattern, typeShown, Coincide]
      rw [rendering_inj hkept (by simp), List.append_cancel_right_eq]
      split
      · exact and_iff_left rfl
      · next hshort =>
        refine iff_of_false (fun h => absurd h.1 (by decide)) ?_
        rintro rfl
        exact hshort (by decide)
    | shifted =>
      refine iff_of_false (fun h => ?_) id
      simp only [pattern] at h
      have hlengths := congrArg List.length ((rendering_inj hkept (by simp)).mp h).1
      rw [List.length_append, List.length_append, List.length_map, List.length_singleton] at hlengths
      split at hlengths
      · omega
      · rw [List.length_nil] at hlengths
        omega
    | lost => exact kept_eq_lost_iff ha
  · exact iff_of_false (moved_ne ha hl hrank _ _) (not_coincide_moved hl)

theorem shown_three {a b c : Str} (ha : a ≠ []) (hb : b ≠ []) {l l' : Layout} (hrank : l.rank < l'.rank) :
    rendering (pattern l [a, b, c]) (typeShown l [a, b, c]) =
        rendering (pattern l' [a, b, c]) (typeShown l' [a, b, c]) ↔
      Coincide [a, b, c] l l' := by
  by_cases hl : l = .kept
  · subst hl
    cases l' with
    | kept => exact absurd hrank (Nat.lt_irrefl _)
    | noLocation =>
      simp only [pattern, typeShown, Coincide]
      rw [rendering_inj (by simp [ha]) (by simp), List.append_cancel_right_eq]
      exact and_iff_left rfl
    | shifted =>
      simp only [pattern, typeShown, Coincide]
      rw [rendering_inj (by simp [ha]) (by simp)]
      exact and_iff_left rfl
    | lost =>
      refine iff_of_false (rendering_ne_nil ?_ _ _) id
      have hlength := List.length_pos_iff.mpr ha
      have hlength' := List.length_pos_iff.mpr hb
      simp only [pattern, List.length_append, List.length_map]
      omega
  · exact iff_of_false (moved_ne ha hl hrank _ _) (not_coincide_moved hl)

/-- Whether the layout can come from gaps between so many tokens. -/
def Layout.Possible (l : Layout) (tokens : List Str) : Prop :=
  (tokens = [] → l = .kept) ∧ (l = .noLocation → 2 ≤ tokens.length)

theorem shown_of_rank_lt {tokens : List Str} (htokens : ∀ t ∈ tokens, t ≠ []) (hfew : tokens.length ≤ 3)
    {l l' : Layout} (hl : l.Possible tokens) (hl' : l'.Possible tokens) (hrank : l.rank < l'.rank) :
    rendering (pattern l tokens) (typeShown l tokens) = rendering (pattern l' tokens) (typeShown l' tokens) ↔
      Coincide tokens l l' := by
  rcases tokens with _ | ⟨a, _ | ⟨b, _ | ⟨c, _ | ⟨d, tokens⟩⟩⟩⟩
  · rw [hl.1 rfl, hl'.1 rfl] at hrank
    exact absurd hrank (Nat.lt_irrefl _)
  · refine shown_one (htokens a (by simp)) ?_ ?_ hrank
    · intro h
      exact absurd (hl.2 h) (by simp)
    · intro h
      exact absurd (hl'.2 h) (by simp)
  · exact shown_two (htokens a (by simp)) hrank
  · exact shown_three (htokens a (by simp)) (htokens b (by simp)) hrank
  · simp only [List.length_cons] at hfew
    omega

/-- **Different layouts show the same only where they coincide.** -/
theorem shown_iff {tokens : List Str} (htokens : ∀ t ∈ tokens, t ≠ []) (hfew : tokens.length ≤ 3)
    {l l' : Layout} (hl : l.Possible tokens) (hl' : l'.Possible tokens) :
    rendering (pattern l tokens) (typeShown l tokens) = rendering (pattern l' tokens) (typeShown l' tokens) ↔
      l = l' ∨ Coincide tokens l l' ∨ Coincide tokens l' l := by
  rcases Nat.lt_trichotomy l.rank l'.rank with hlt | heq | hgt
  · rw [shown_of_rank_lt htokens hfew hl hl' hlt]
    constructor
    · intro h
      exact .inr (.inl h)
    · rintro (rfl | h | h)
      · exact absurd hlt (Nat.lt_irrefl _)
      · exact h
      · exact absurd h.rank_lt hlt.not_gt
  · obtain rfl := Layout.rank_injective heq
    exact iff_of_true rfl (.inl rfl)
  · rw [eq_comm, shown_of_rank_lt htokens hfew hl' hl hgt]
    constructor
    · intro h
      exact .inr (.inr h)
    · rintro (rfl | h | h)
      · exact absurd hgt (Nat.lt_irrefl _)
      · exact absurd h.rank_lt hgt.not_gt
      · exact h

theorem layout_possible {empties : List Nat} {tokens : List Str} (hlength : empties.length = tokens.length) :
    (layout empties).Possible tokens := by
  constructor
  · rintro rfl
    rw [List.length_eq_zero_iff.mp hlength]
    rfl
  · intro h
    rw [← hlength]
    unfold layout at h
    split at h <;> first | exact absurd h (by decide) | exact Nat.le_add_left 2 _

/-! ### Reading two texts of the same tokens -/

/-- Both texts are refused, or both are read as one selector. -/
def SameReading (boost : Boost) (text text' : Str) : Prop :=
  match fromString boost text, fromString boost text' with
  | .ok s, .ok s' =>
    s.getNetwork = s'.getNetwork ∧ s.getStation = s'.getStation ∧ s.getSelector = s'.getSelector
  | .error _, .error _ => True
  | _, _ => False

/-- The empty parts before the tokens after the first keep both texts from being read, or leave the tokens in
layouts that show the same. -/
def ReadAlike : List Str → List Nat → List Nat → Prop
  | network :: _ :: others, n :: empties, n' :: empties' =>
    network.length ≠ 2 ∨ (n ≠ 0 ∧ n' ≠ 0) ∨ (n = 0 ∧ n' = 0 ∧
      (layout empties = layout empties' ∨ Coincide others (layout empties) (layout empties') ∨
        Coincide others (layout empties') (layout empties)))
  | _, _, _ => True

section Reading

variable {boost : Boost} {text text' : Str}

theorem sameReading_of_errors {e e' : Exception} (h : fromString boost text = .error e)
    (h' : fromString boost text' = .error e') : SameReading boost text text' := by
  rw [SameReading, h, h']
  trivial

theorem not_sameReading_of_ok_error {s : StreamSelector} {e : Exception} (h : fromString boost text = .ok s)
    (h' : fromString boost text' = .error e) : ¬ SameReading boost text text' := by
  rw [SameReading, h, h']
  exact id

theorem selector_of_sameReading (h : SameReading boost text text') :
    (fromString boost text).toOption.map getSelector = (fromString boost text').toOption.map getSelector := by
  rw [SameReading] at h
  split at h
  · next s s' hread hread' =>
    rw [hread, hread']
    exact congrArg some h.2.2
  · next e e' hrefused hrefused' =>
    rw [hrefused, hrefused']
    rfl
  · exact h.elim

theorem not_sameReading_of_error_ok {s : StreamSelector} {e : Exception} (h : fromString boost text = .error e)
    (h' : fromString boost text' = .ok s) : ¬ SameReading boost text text' := by
  rw [SameReading, h, h']
  exact id

end Reading

section Station

variable {boost : Boost} (hboost : boost.Documented) {network station : Str} {others : List Str}
  (htokens : ∀ t ∈ network :: station :: others, IsToken isspace t) (hothers : others.length ≤ 3)
  (spacing spacing' : Spacing (network :: station :: others))
include hboost htokens hothers

/-- With the station in its place in both texts the layouts decide. -/
theorem sameReading_of_station {empties empties' : List Nat} (hlength : network.length = 2)
    (hempty : spacing.emptyParts = 0 :: empties) (hempty' : spacing'.emptyParts = 0 :: empties') :
    SameReading boost spacing.text spacing'.text ↔ layout empties = layout empties' ∨
      Coincide others (layout empties) (layout empties') ∨
      Coincide others (layout empties') (layout empties) := by
  have hne : ∀ t ∈ others, t ≠ [] := fun t ht => (htokens t (by simp [ht])).ne_nil
  have hpossible : (layout empties).Possible others := by
    apply layout_possible
    have h := spacing.length_emptyParts
    rw [hempty] at h
    exact Nat.succ.inj h
  have hpossible' : (layout empties').Possible others := by
    apply layout_possible
    have h := spacing'.length_emptyParts
    rw [hempty'] at h
    exact Nat.succ.inj h
  rw [SameReading, fromString_ok hboost htokens spacing hlength hempty hothers,
    fromString_ok hboost htokens spacing' hlength hempty' hothers, ← shown_iff hne hothers hpossible hpossible']
  generalize { mNetwork := network.map toupper, mStation := station.map toupper : StreamSelector } = s
  show _ ∧ _ ∧ _ ↔ _
  rw [getSelector_place s hne hothers hpossible.2, getSelector_place s hne hothers hpossible'.2,
    (place_keeps s _ _).1, (place_keeps s _ _).2, (place_keeps s _ _).1, (place_keeps s _ _).2]
  exact ⟨fun h => h.2.2, fun h => ⟨rfl, rfl, h⟩⟩

/-- A station after an empty part is not found. -/
theorem sameReading_iff_station (hlength : network.length = 2) :
    SameReading boost spacing.text spacing'.text ↔
      ReadAlike (network :: station :: others) spacing.emptyParts spacing'.emptyParts := by
  have hparts := spacing.length_emptyParts
  have hparts' := spacing'.length_emptyParts
  rw [List.tail_cons, List.length_cons] at hparts hparts'
  obtain ⟨n, empties, hempty⟩ := List.exists_cons_of_length_eq_add_one hparts
  obtain ⟨n', empties', hempty'⟩ := List.exists_cons_of_length_eq_add_one hparts'
  have hlong : ¬ network.length ≠ 2 := not_not.mpr hlength
  cases n with
  | zero =>
    cases n' with
    | zero =>
      rw [sameReading_of_station hboost htokens hothers spacing spacing' hlength hempty hempty', hempty, hempty']
      simp [ReadAlike, hlength]
    | succ n' =>
      have hread := fromString_ok hboost htokens spacing hlength hempty hothers
      have hrefused := fromString_empty hboost htokens spacing' hlength hempty'
      rw [hempty, hempty']
      exact iff_of_false (not_sameReading_of_ok_error hread hrefused) (by simp [ReadAlike, hlength])
  | succ n =>
    have hrefused := fromString_empty hboost htokens spacing hlength hempty
    cases n' with
    | zero =>
      have hread := fromString_ok hboost htokens spacing' hlength hempty' hothers
      rw [hempty, hempty']
      exact iff_of_false (not_sameReading_of_error_ok hrefused hread) (by simp [ReadAlike, hlength])
    | succ n' =>
      have hrefused' := fromString_empty hboost htokens spacing' hlength hempty'
      rw [hempty, hempty']
      exact iff_of_true (sameReading_of_errors hrefused hrefused') (by simp [ReadAlike])

end Station

theorem readAlike_of_length {network : Str} (hlength : network.length ≠ 2) (others : List Str)
    (empties empties' : List Nat) : ReadAlike (network :: others) empties empties' := by
  cases others with
  | nil => trivial
  | cons station others =>
    cases empties with
    | nil => trivial
    | cons n empties =>
      cases empties' with
      | nil => trivial
      | cons n' empties' => exact .inl hlength

/-- **The space between the tokens does not matter exactly when it leaves them in their places**: two texts
with the same tokens are both refused or read as one selector if and only if the empty parts that their gaps
leave keep both from being read, or lead to layouts that show the same. -/
theorem sameReading_iff {boost : Boost} (hboost : boost.Documented) (tokens : List Str)
    (htokens : ∀ t ∈ tokens, IsToken isspace t) (hfew : 1 ≤ tokens.length ∧ tokens.length ≤ 5)
    (spacing spacing' : Spacing tokens) :
    SameReading boost spacing.text spacing'.text ↔
      ReadAlike tokens spacing.emptyParts spacing'.emptyParts := by
  obtain ⟨network, others, rfl⟩ := List.exists_cons_of_ne_nil (List.ne_nil_of_length_pos hfew.1)
  by_cases hlength : network.length = 2
  · cases others with
    | nil =>
      obtain ⟨message, hrefused⟩ := fromString_alone hboost htokens spacing hlength
      obtain ⟨message', hrefused'⟩ := fromString_alone hboost htokens spacing' hlength
      exact iff_of_true (sameReading_of_errors hrefused hrefused') (by simp [ReadAlike])
    | cons station others =>
      have hle := hfew.2
      rw [List.length_cons, List.length_cons] at hle
      exact sameReading_iff_station hboost htokens (by omega) spacing spacing' hlength
  · have hrefused := fromString_network hboost htokens spacing hlength
    have hrefused' := fromString_network hboost htokens spacing' hlength
    exact iff_of_true (sameReading_of_errors hrefused hrefused') (readAlike_of_length hlength _ _ _)

/-- Tokens of a channel with the given gap before it. -/
def knownSpacing (gap : Str) (hgap : IsGap [' ', '\t'].contains gap) :
    Spacing [['U', 'U'], ['F', 'O', 'R', 'K'], ['H', 'H', 'Z']] where
  leading := []
  gaps := [[' '], gap]
  trailing := ['\n']
  isspace_leading := Spacing.isspace_nil
  isspace_trailing := List.forall_mem_singleton.mpr rfl
  length_gaps := rfl
  isGap := by
    intro g hg
    rcases List.mem_pair.mp hg with rfl | rfl
    · exact ⟨List.cons_ne_nil _ _, List.forall_mem_singleton.mpr rfl⟩
    · exact hgap

/-- Two blanks are as good as one. -/
theorem sameReading_iff_known :
    SameReading .known (knownSpacing [' '] (by decide)).text (knownSpacing [' ', ' '] (by decide)).text := by
  refine (sameReading_iff Boost.known_documented _ (by decide) (by decide) _ _).mpr ?_
  have hempty : (knownSpacing [' '] (by decide)).emptyParts = [0, 0] := by decide +kernel
  have hempty' : (knownSpacing [' ', ' '] (by decide)).emptyParts = [0, 0] := by decide +kernel
  rw [hempty, hempty']
  exact .inr (.inr ⟨rfl, rfl, .inl rfl⟩)

/-- With a tab after the blank the channel is taken for a location code. -/
theorem not_sameReading :
    ¬ ∀ (boost : Boost) (tokens : List Str), boost.Documented → (∀ t ∈ tokens, IsToken isspace t) →
      1 ≤ tokens.length ∧ tokens.length ≤ 5 →
      ∀ spacing spacing' : Spacing tokens, SameReading boost spacing.text spacing'.text := by
  intro hclaim
  have hsame := hclaim .known _ Boost.known_documented (by decide) (by decide)
    (knownSpacing [' '] (by decide)) (knownSpacing [' ', '\t'] (by decide))
  have hread : (fromString .known (knownSpacing [' '] (by decide)).text).toOption.map getSelector =
      some ['?', '?', 'H', 'H', 'Z', '.', '*'] := by decide +kernel
  have hread' : (fromString .known (knownSpacing [' ', '\t'] (by decide)).text).toOption.map getSelector =
      some ['H', 'H', 'Z', '*', '.', '*'] := by decide +kernel
  rw [selector_of_sameReading hsame, hread'] at hread
  exact absurd hread (by decide)

end StreamSelector

end USEEDLinkToRingServer
