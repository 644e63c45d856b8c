import USEEDLinkToRingServer.SelectorText

/-!
# The grammar of selectors

What the tokens of a selector are taken for. The number of parts decides what each is, so an empty part between
two tokens moves the later ones out of their places.
-/

namespace USEEDLinkToRingServer

open Tokens Fallible

namespace SelectorType

/-- The letter that stands for a type where a selector is shown. -/
def letter : SelectorType → Char
  | .all => '*'
  | .data => 'D'
  | .event => 'E'
  | .calibration => 'C'
  | .blockette => 'B'
  | .timing => 'T'
  | .log => 'L'

theorem letter_injective : Function.Injective letter := by
  intro t t' h
  cases t <;> cases t' <;> first | rfl | exact absurd h (by decide)

end SelectorType

namespace StreamSelector

/-! ### What the parts stand for -/

/-- The type that a token stands for. -/
def typeOf (token : Str) : SelectorType := if token = ['D'] ∨ token = ['d'] then .data else .all

/-- Where the tokens after the station are found: all in their places, the location code taken for empty, the
first taken for the location code, or nothing but the last. -/
inductive Layout
  | kept
  | noLocation
  | shifted
  | lost
deriving DecidableEq, Repr

/-- The layout for the numbers of empty parts before the tokens after the station. -/
def layout : List Nat → Layout
  | [] => .kept
  | [0] => .kept
  | 0 :: 0 :: _ => .kept
  | 0 :: _ :: _ => .noLocation
  | 1 :: _ => .shifted
  | _ => .lost

/-- What is read of the tokens after the station. -/
def place (s : StreamSelector) : Layout → List Str → StreamSelector
  | _, [] => s.setSelector ['*'] ['?', '?'] .all
  | .kept, [channel] => s.setSelector channel ['?', '?'] .all
  | .kept, [channel, last] =>
    if last.length > 1 then s.setSelector channel last .all else s.setChannelSelector channel (typeOf last)
  | .kept, channel :: location :: rest => s.setSelector channel location (typeOf (rest.getLastD []))
  | .noLocation, channel :: rest => s.setSelector channel [] (typeOf (rest.getLastD []))
  | .shifted, [last] =>
    if last.length > 1 then s.setSelector [] last .all else s.setChannelSelector [] (typeOf last)
  | .shifted, location :: rest => s.setSelector [] location (typeOf (rest.getLastD []))
  | .lost, tokens => s.setSelector [] [] (typeOf (tokens.getLastD []))

section Parts

variable {boost : Boost} (hboost : boost.Documented)
include hboost

theorem trim_nil : boost.trim [] = [] := by
  rw [hboost.trim]
  rfl

theorem trim_token {token : Str} (htoken : IsToken isspace token) : boost.trim token = token := by
  rw [hboost.trim, Tokens.trim_token htoken]

theorem getDataType_of_getLast? {parts : List Str} {token : Str} (htoken : IsToken isspace token)
    (hlast : parts.getLast? = some token) : getDataType boost parts = typeOf token := by
  rw [getDataType, List.getLastD_eq_getLast?, hlast, Option.getD_some, trim_token hboost htoken, typeOf]
  split
  · rfl
  · exact ite_self _

/-- With more than four parts the last is the type. -/
theorem readSelector_many (s : StreamSelector) (network station channel location : Str)
    {rest : List (Nat × Str)} {type : Str} (htype : IsToken isspace type)
    (hlast : rest.getLast?.map Prod.snd = some type) :
    s.readSelector boost (network :: station :: channel :: location :: pieces rest) =
      s.setSelector (boost.trim channel) (boost.trim location) (typeOf type) := by
  have hpieces : (pieces rest).getLast? = some type := (getLast?_pieces rest).trans hlast
  cases hmore : pieces rest with
  | nil =>
    rw [hmore] at hpieces
    cases hpieces
  | cons next more =>
    have hparts : (network :: station :: channel :: location :: next :: more).getLast? = some type := by
      rw [List.getLast?_cons_cons, List.getLast?_cons_cons, List.getLast?_cons_cons, List.getLast?_cons_cons,
        ← hmore, hpieces]
    rw [readSelector, getDataType_of_getLast? hboost htype hparts]
    rfl

/-- A fourth and last part. -/
theorem readSelector_four (s : StreamSelector) (network station channel : Str) {last : Str}
    (hlast : IsToken isspace last) :
    s.readSelector boost [network, station, channel, last] =
      if last.length > 1 then s.setSelector (boost.trim channel) last .all
      else s.setChannelSelector (boost.trim channel) (typeOf last) := by
  rw [readSelector, getDataType_of_getLast? hboost hlast rfl]
  rfl

/-! By the number of tokens after the station and of the empty parts before the first two of them. -/

section

variable (s : StreamSelector) (network station : Str) {a b c : Str} (n m k : Nat)

theorem readSelector_one (ha : IsToken isspace a) :
    s.readSelector boost (network :: station :: pieces [(n, a)]) = s.place (layout [n]) [a] := by
  rcases n with _ | _ | n
  · show s.setSelector (boost.trim a) ['?', '?'] .all = _
    rw [trim_token hboost ha]
    rfl
  · show s.readSelector boost [network, station, [], a] = _
    rw [readSelector_four hboost s network station [] ha, trim_nil hboost]
    rfl
  · show s.readSelector boost (network :: station :: [] :: [] :: pieces [(n, a)]) = _
    rw [readSelector_many hboost s network station [] [] ha rfl, trim_nil hboost]
    rfl

theorem readSelector_two (ha : IsToken isspace a) (hb : IsToken isspace b) :
    s.readSelector boost (network :: station :: pieces [(n, a), (m, b)]) =
      s.place (layout [n, m]) [a, b] := by
  rcases n with _ | _ | n
  · rcases m with _ | m
    · show s.readSelector boost [network, station, a, b] = _
      rw [readSelector_four hboost s network station a hb, trim_token hboost ha]
      rfl
    · show s.readSelector boost (network :: station :: a :: [] :: pieces [(m, b)]) = _
      rw [readSelector_many hboost s network station a [] hb rfl, trim_token hboost ha, trim_nil hboost]
      rfl
  · show s.readSelector boost (network :: station :: [] :: a :: pieces [(m, b)]) = _
    rw [readSelector_many hboost s network station [] a hb rfl, trim_token hboost ha, trim_nil hboost]
    rfl
  · show s.readSelector boost (network :: station :: [] :: [] :: pieces [(n, a), (m, b)]) = _
    rw [readSelector_many hboost s network station [] [] hb rfl, trim_nil hboost]
    rfl

theorem readSelector_three (ha : IsToken isspace a) (hb : IsToken isspace b) (hc : IsToken isspace c) :
    s.readSelector boost (network :: station :: pieces [(n, a), (m, b), (k, c)]) =
      s.place (layout [n, m, k]) [a, b, c] := by
  rcases n with _ | _ | n
  · rcases m with _ | m
    · show s.readSelector boost (network :: station :: a :: b :: pieces [(k, c)]) = _
      rw [readSelector_many hboost s network station a b hc rfl, trim_token hboost ha, trim_token hboost hb]
      rfl
    · show s.readSelector boost (network :: station :: a :: [] :: pieces [(m, b), (k, c)]) = _
      rw [readSelector_many hboost s network station a [] hc rfl, trim_token hboost ha, trim_nil hboost]
      rfl
  · show s.readSelector boost (network :: station :: [] :: a :: pieces [(m, b), (k, c)]) = _
    rw [readSelector_many hboost s network station [] a hc rfl, trim_token hboost ha, trim_nil hboost]
    rfl
  · show s.readSelector boost (network :: station :: [] :: [] :: pieces [(n, a), (m, b), (k, c)]) = _
    rw [readSelector_many hboost s network station [] [] hc rfl, trim_nil hboost]
    rfl

end

/-- **The empty parts decide what the tokens after the station are taken for.** -/
theorem readSelector_pieces (s : StreamSelector) (network station : Str) {rest : List (Nat × Str)}
    (hrest : ∀ x ∈ rest, IsToken isspace x.2) (hlength : rest.length ≤ 3) :
    s.readSelector boost (network :: station :: pieces rest) =
      s.place (layout (rest.map Prod.fst)) (rest.map Prod.snd) := by
  rcases rest with _ | ⟨x, _ | ⟨y, _ | ⟨z, _ | ⟨w, rest⟩⟩⟩⟩
  · rfl
  · exact readSelector_one hboost s network station x.1 (hrest x (by simp))
  · exact readSelector_two hboost s network station x.1 y.1 (hrest x (by simp)) (hrest y (by simp))
  · exact readSelector_three hboost s network station x.1 y.1 z.1 (hrest x (by simp)) (hrest y (by simp))
      (hrest z (by simp))
  · simp only [List.length_cons] at hlength
    omega

end Parts

/-! ### Reading spaced tokens -/

section Read

variable {boost : Boost} {network station : Str} {others : List Str} (hboost : boost.Documented)
include hboost

theorem fromString_text (htokens : ∀ t ∈ network :: others, IsToken isspace t)
    (spacing : Spacing (network :: others)) :
    fromString boost spacing.text = (do
      let selector ← setNetwork {} network
      if (written network spacing.squeezed).length > 1 then
        let station ← vectorAt (network :: pieces spacing.parts) 1
        let selector ← selector.setStation (boost.trim station)
        return selector.readSelector boost (network :: pieces spacing.parts)
      else return selector.readSelector boost (network :: pieces spacing.parts)) := by
  have hnetwork : IsToken isspace network := htokens network List.mem_cons_self
  have htext := spacing.eraseDoubleBlanks_trim_text hboost htokens
  have hsplit := spacing.split_squeezed hboost htokens
  rw [List.headD_cons] at htext hsplit
  have hne : (written network spacing.squeezed).isEmpty = false := by
    obtain ⟨c, s, heq, _⟩ := written_eq_cons spacing.squeezed hnetwork
    rw [heq]
    rfl
  rw [fromString, htext, hsplit, hne]
  show (setNetwork {} (boost.trim network) >>= _) = _
  rw [trim_token hboost hnetwork]

/-- The network is checked first. -/
theorem fromString_network (htokens : ∀ t ∈ network :: others, IsToken isspace t)
    (spacing : Spacing (network :: others)) (hlength : network.length ≠ 2) :
    fromString boost spacing.text = .error (.invalidArgument "Network size must 2") := by
  rw [fromString_text hboost htokens, setNetwork, if_pos hlength]
  rfl

/-- Then the station is asked for, as the text is longer than one character. -/
theorem fromString_second (htokens : ∀ t ∈ network :: others, IsToken isspace t)
    (spacing : Spacing (network :: others)) (hlength : network.length = 2) :
    fromString boost spacing.text = (do
      let station ← vectorAt (network :: pieces spacing.parts) 1
      let selector ← setStation { mNetwork := network.map toupper } (boost.trim station)
      return selector.readSelector boost (network :: pieces spacing.parts)) := by
  have hlong : (written network spacing.squeezed).length > 1 := by
    have hle := length_le_written network spacing.squeezed
    omega
  rw [fromString_text hboost htokens, setNetwork, if_neg (not_not.mpr hlength), ok_bind, if_pos hlong]

/-- With a network only there is no part for the station. -/
theorem fromString_alone (htokens : ∀ t ∈ [network], IsToken isspace t) (spacing : Spacing [network])
    (hlength : network.length = 2) :
    ∃ message, fromString boost spacing.text = .error (.outOfRange message) := by
  have hparts : spacing.parts = [] := List.map_eq_nil_iff.mp spacing.map_snd_parts
  rw [fromString_second hboost htokens spacing hlength, hparts]
  exact ⟨_, rfl⟩

section Station

variable (htokens : ∀ t ∈ network :: station :: others, IsToken isspace t)
  (spacing : Spacing (network :: station :: others)) (hlength : network.length = 2)

omit hboost in
/-- The numbers of empty parts and the tokens make up the parts. -/
theorem exists_parts {n : Nat} {empties : List Nat} (hempty : spacing.emptyParts = n :: empties) :
    ∃ rest, spacing.parts = (n, station) :: rest ∧ rest.map Prod.fst = empties ∧
      rest.map Prod.snd = others := by
  have htail := spacing.map_snd_parts
  rw [Spacing.emptyParts] at hempty
  cases hparts : spacing.parts with
  | nil =>
    rw [hparts] at hempty
    cases hempty
  | cons x rest =>
    rw [hparts] at hempty htail
    obtain ⟨hn, hempties⟩ := List.cons.inj hempty
    obtain ⟨hstation, hothers⟩ := List.cons.inj htail
    exact ⟨rest, by rw [← hn, ← hstation], hempties, hothers⟩

include htokens hlength

theorem fromString_empty {n : Nat} {empties : List Nat} (hempty : spacing.emptyParts = (n + 1) :: empties) :
    fromString boost spacing.text = .error (.invalidArgument "Station is empty") := by
  obtain ⟨rest, hparts, _, _⟩ := exists_parts spacing hempty
  have hsecond : vectorAt (network :: pieces ((n + 1, station) :: rest)) 1 = .ok [] := rfl
  rw [fromString_second hboost htokens spacing hlength, hparts, hsecond, ok_bind, trim_nil hboost]
  rfl

/-- **A station in its place is read**, and the tokens after it as the empty parts among them have it. -/
theorem fromString_ok {empties : List Nat} (hempty : spacing.emptyParts = 0 :: empties)
    (hothers : others.length ≤ 3) :
    fromString boost spacing.text = .ok ({
      mNetwork := network.map toupper
      mStation := station.map toupper : StreamSelector }.place (layout empties) others) := by
  obtain ⟨rest, hparts, rfl, rfl⟩ := exists_parts spacing hempty
  have hstation : IsToken isspace station := htokens station (by simp)
  have hrest : ∀ x ∈ rest, IsToken isspace x.2 := fun x hx =>
    htokens x.2 (List.mem_cons_of_mem _ (List.mem_cons_of_mem _ (List.mem_map_of_mem hx)))
  have hsecond : vectorAt (network :: pieces ((0, station) :: rest)) 1 = .ok station := rfl
  rw [fromString_second hboost htokens spacing hlength, hparts, hsecond, ok_bind, trim_token hboost hstation,
    setStation, if_neg (by simp [hstation.ne_nil]), ok_bind]
  rw [List.length_map] at hothers
  exact congrArg Except.ok (readSelector_pieces hboost _ network station hrest hothers)

end Station

end Read

/-! ### What is shown -/

/-- The pattern for the location codes, channels and types. -/
def rendering (locationChannel : Str) (type : SelectorType) : Str :=
  if locationChannel = [] then if type = .all then [] else ['*', '.', type.letter]
  else locationChannel ++ ['.', type.letter]

theorem getSelector_eq (s : StreamSelector) : s.getSelector = rendering s.locationChannel s.mType := by
  rw [getSelector, rendering]
  cases s.locationChannel with
  | nil => cases s.mType <;> rfl
  | cons c cs => cases s.mType <;> rfl

theorem rendering_of_ne_nil {x : Str} (h : x ≠ []) (type : SelectorType) :
    rendering x type = x ++ ['.', type.letter] := if_neg h

theorem rendering_inj {x y : Str} (hx : x ≠ []) (hy : y ≠ []) {t t' : SelectorType} :
    rendering x t = rendering y t' ↔ x = y ∧ t = t' := by
  rw [rendering_of_ne_nil hx, rendering_of_ne_nil hy]
  constructor
  · intro h
    obtain ⟨hxy, hletters⟩ := List.append_inj' h rfl
    simp only [List.cons.injEq, true_and, and_true] at hletters
    exact ⟨hxy, SelectorType.letter_injective hletters⟩
  · rintro ⟨rfl, rfl⟩
    rfl

theorem locationChannel_setSelector (s : StreamSelector) {channel location : Str} (hchannel : channel ≠ [])
    (hlocation : location ≠ []) (type : SelectorType) :
    (s.setSelector channel location type).locationChannel = location ++ channel.map toupper := by
  simp [locationChannel, setSelector, hchannel, hlocation]

theorem locationChannel_setChannelSelector (s : StreamSelector) {channel : Str} (hchannel : channel ≠ [])
    (type : SelectorType) :
    (s.setChannelSelector channel type).locationChannel = channel.map toupper := by
  simp [locationChannel, setChannelSelector, hchannel]

theorem getSelector_setSelector (s : StreamSelector) {channel location : Str} (hchannel : channel ≠ [])
    (hlocation : location ≠ []) (type : SelectorType) :
    (s.setSelector channel location type).getSelector =
      location ++ channel.map toupper ++ ['.', type.letter] := by
  rw [getSelector_eq, locationChannel_setSelector s hchannel hlocation, rendering_of_ne_nil (by simp [hlocation])]
  rfl

theorem getSelector_setChannelSelector (s : StreamSelector) {channel : Str} (hchannel : channel ≠ [])
    (type : SelectorType) :
    (s.setChannelSelector channel type).getSelector = channel.map toupper ++ ['.', type.letter] := by
  rw [getSelector_eq, locationChannel_setChannelSelector s hchannel, rendering_of_ne_nil (by simp [hchannel])]
  rfl

/-! ### The grammar -/

/-- What a list of tokens asks for. -/
structure Request where
  network : Str
  station : Str
  channel : Str
  location : Option Str
  type : SelectorType

namespace Request

/-- The token of the location code: the fourth, unless it is the last and a single character. -/
def locationOf : List Str → Option Str
  | [_, _, _, location, _] => some location
  | [_, _, _, last] => if last.length > 1 then some last else none
  | _ => some ['?', '?']

/-- The token of the type: the fifth, or a fourth and last one that is a single character. -/
def typeTokenOf : List Str → Option Str
  | [_, _, _, _, type] => some type
  | [_, _, _, last] => if last.length > 1 then none else some last
  | _ => none

def ofTokens (tokens : List Str) : Request where
  network := (tokens.headD []).map toupper
  station := (tokens[1]?.map (·.map toupper)).getD ['*']
  channel := (tokens[2]?.map (·.map toupper)).getD ['*']
  location := locationOf tokens
  type := ((typeTokenOf tokens).map typeOf).getD .all

def rendering (r : Request) : Str := r.location.getD [] ++ r.channel ++ ['.', r.type.letter]

end Request

/-- The selector is what was asked for. -/
structure Meets (s : StreamSelector) (r : Request) : Prop where
  network : s.getNetwork = .ok r.network
  station : s.getStation = r.station
  channel : s.mChannel = r.channel
  location : s.mLocationCode = r.location.getD [] ∧ s.mNoLocationCode = r.location.isNone
  type : s.mType = r.type
  selector : s.getSelector = r.rendering

/-- Tokens with a network code of two characters are read as what they ask for, and others are refused. -/
def FollowsGrammar (boost : Boost) (tokens : List Str) : Prop :=
  if (tokens.headD []).length = 2 then
    ∃ s, fromString boost ([' '].intercalate tokens) = .ok s ∧ s.Meets (Request.ofTokens tokens)
  else ∃ message, fromString boost ([' '].intercalate tokens) = .error (.invalidArgument message)

theorem layout_zeros (others : List Str) : layout (others.map fun _ => 0) = .kept := by
  cases others with
  | nil => rfl
  | cons a others =>
    cases others with
    | nil => rfl
    | cons b others => rfl

theorem getNetwork_of_ne_nil {s : StreamSelector} (h : s.mNetwork ≠ []) : s.getNetwork = .ok s.mNetwork := by
  have hset : s.hasNetwork = true := by
    rw [hasNetwork, Bool.not_eq_true', List.isEmpty_eq_false_iff]
    exact h
  rw [getNetwork, hset]
  rfl

/-- Tokens in their places are read as what they ask for. -/
theorem meets_place {network station : Str} {others : List Str} (hlength : network.length = 2)
    (htokens : ∀ t ∈ others, IsToken isspace t) (hothers : others.length ≤ 3) :
    ({ mNetwork := network.map toupper
       mStation := station.map toupper : StreamSelector }.place .kept others).Meets
      (Request.ofTokens (network :: station :: others)) := by
  have hne : network.map toupper ≠ [] := by
    apply List.ne_nil_of_length_pos
    rw [List.length_map]
    omega
  have hnetwork : ∀ s : StreamSelector, s.mNetwork = network.map toupper →
      s.getNetwork = .ok (network.map toupper) := by
    intro s hs
    rw [← hs]
    exact getNetwork_of_ne_nil (hs ▸ hne)
  rcases others with _ | ⟨a, _ | ⟨b, _ | ⟨c, _ | ⟨d, others⟩⟩⟩⟩
  · exact ⟨hnetwork _ rfl, rfl, rfl, ⟨rfl, rfl⟩, rfl, rfl⟩
  · have ha := (htokens a (by simp)).ne_nil
    refine ⟨hnetwork _ rfl, rfl, rfl, ⟨rfl, rfl⟩, rfl, ?_⟩
    exact getSelector_setSelector _ ha (by decide) _
  · have ha := (htokens a (by simp)).ne_nil
    have hb := (htokens b (by simp)).ne_nil
    have hplace : ∀ s : StreamSelector, s.place .kept [a, b] =
      if b.length > 1 then s.setSelector a b .all else s.setChannelSelector a (typeOf b) := fun _ => rfl
    have hrequest : Request.ofTokens [network, station, a, b] =
        { network := network.map toupper
          station := station.map toupper
          channel := a.map toupper
          location := if b.length > 1 then some b else none
          type := ((if b.length > 1 then none else some b).map typeOf).getD .all } := rfl
    rw [hplace, hrequest]
    split
    · refine ⟨hnetwork _ rfl, rfl, rfl, ⟨rfl, rfl⟩, rfl, ?_⟩
      exact getSelector_setSelector _ ha hb _
    · refine ⟨hnetwork _ rfl, rfl, rfl, ⟨rfl, rfl⟩, rfl, ?_⟩
      exact getSelector_setChannelSelector _ ha _
  · have ha := (htokens a (by simp)).ne_nil
    have hb := (htokens b (by simp)).ne_nil
    refine ⟨hnetwork _ rfl, rfl, rfl, ⟨rfl, rfl⟩, rfl, ?_⟩
    exact getSelector_setSelector _ ha hb _
  · simp only [List.length_cons] at hothers
    omega

/-- What is read of tokens with a network of two characters and a station. -/
theorem fromString_intercalate {boost : Boost} (hboost : boost.Documented) {network station : Str}
    {others : List Str} (htokens : ∀ t ∈ network :: station :: others, IsToken isspace t)
    (hlength : network.length = 2) (hothers : others.length ≤ 3) :
    fromString boost ([' '].intercalate (network :: station :: others)) = .ok ({
      mNetwork := network.map toupper
      mStation := station.map toupper : StreamSelector }.place .kept others) := by
  have hne : network :: station :: others ≠ [] := List.cons_ne_nil _ _
  have hread := fromString_ok hboost htokens (Spacing.single _ hne) hlength (Spacing.emptyParts_single hne)
    hothers
  rwa [Spacing.text_single, layout_zeros] at hread

/-- **The grammar is followed unless a network stands alone**: tokens with one blank between each two are read
as what they ask for, and refused without a network code of two characters, if and only if they are not just
such a code. -/
theorem followsGrammar_iff {boost : Boost} (hboost : boost.Documented) (tokens : List Str)
    (htokens : ∀ t ∈ tokens, IsToken isspace t) (hfew : 1 ≤ tokens.length ∧ tokens.length ≤ 5) :
    FollowsGrammar boost tokens ↔ ¬ (tokens.length = 1 ∧ (tokens.headD []).length = 2) := by
  have hne : tokens ≠ [] := List.ne_nil_of_length_pos hfew.1
  obtain ⟨network, others, rfl⟩ := List.exists_cons_of_ne_nil hne
  rw [FollowsGrammar, List.headD_cons]
  by_cases hlength : network.length = 2
  · rw [if_pos hlength]
    cases others with
    | nil =>
      obtain ⟨message, halone⟩ := fromString_alone hboost htokens (Spacing.single _ hne) hlength
      rw [Spacing.text_single] at halone
      refine iff_of_false ?_ fun h => h ⟨rfl, hlength⟩
      rintro ⟨s, hs, _⟩
      rw [halone] at hs
      cases hs
    | cons station others =>
      have hothers : others.length ≤ 3 := by
        have hle := hfew.2
        rw [List.length_cons, List.length_cons] at hle
        omega
      refine iff_of_true ⟨_, fromString_intercalate hboost htokens hlength hothers, ?_⟩ ?_
      · exact meets_place hlength (fun t ht => htokens t (by simp [ht])) hothers
      · intro h
        simp at h
  · rw [if_neg hlength]
    have hrefused := fromString_network hboost htokens (Spacing.single _ hne) hlength
    rw [Spacing.text_single] at hrefused
    exact iff_of_true ⟨_, hrefused⟩ fun h => hlength h.2

/-- A station, a channel and a type. -/
theorem followsGrammar_iff_known :
    FollowsGrammar .known [['U', 'U'], ['F', 'O', 'R', 'K'], ['H', 'H', 'Z'], ['d']] :=
  (followsGrammar_iff Boost.known_documented _ (by decide) (by decide)).mpr (by decide)

/-- For a network alone there is no part for the station. -/
theorem not_followsGrammar :
    ¬ ∀ (boost : Boost) (tokens : List Str), boost.Documented → (∀ t ∈ tokens, IsToken isspace t) →
      1 ≤ tokens.length ∧ tokens.length ≤ 5 →
      (∀ type, Request.typeTokenOf tokens = some type → type ∈ [['D'], ['d'], ['A'], ['a']]) →
      FollowsGrammar boost tokens := by
  intro hclaim
  have hfollows := hclaim .known [['U', 'U']] Boost.known_documented (by decide) (by decide)
    (fun type htype => by cases htype)
  rw [FollowsGrammar, if_pos (by decide)] at hfollows
  obtain ⟨s, hs, _⟩ := hfollows
  have hthrows : (fromString .known ([' '].intercalate [['U', 'U']])).toOption = none := by decide +kernel
  rw [hs] at hthrows
  cases hthrows

end StreamSelector

end USEEDLinkToRingServer
