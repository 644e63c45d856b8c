import USEEDLinkToRingServer.PollingLoop
import USEEDLinkToRingServer.SEEDLinkClientOptions

/-!
# The SEEDLink section of the configuration

The options of the client are read from a section of the configuration, key by key. The interval between
saves of the state file is read and checked, but not stored, and the check is made after the value was
narrowed to sixteen bits.
-/

namespace USEEDLinkToRingServer

open Fallible Machine

/-! ### The section and its keys -/

/-- A section of a property tree, with the file system its paths are in. -/
structure Section where
  boost : Boost
  propertyTree : PropertyTree
  files : FileSystem
  clientName : Str

namespace Section

variable (s : Section)

/-- The path of a key of the section. -/
def key (name : String) : Str := s.clientName ++ ('.' :: name.toList)

/-- The path of the state file, empty if there is none. -/
def stateFile : Str := s.propertyTree.getOr (s.key "stateFile") some []

def maxSelectors : Nat := 32768

/-- The texts between the commas and bars of the values `data_selector_1`, `data_selector_2` and so on. -/
def splitSelectors (iSelector : Nat) : List Str :=
  match s.propertyTree.data (s.key "data_selector_" ++ (Nat.repr (iSelector + 1)).toList) with
  | some selectorString => s.boost.split selectorString [',', '|']
  | none => []

/-- The body of the loop over the pieces of a value. -/
def addSelector (clientOptions : SEEDLinkClientOptions) (thisSplitSelector : Str) :
    Except Exception SEEDLinkClientOptions := do
  let selector ← StreamSelector.fromString s.boost thisSplitSelector
  clientOptions.addStreamSelector selector

/-- The part of `getSEEDLinkOptions` for sections with a state file. -/
def getStateFileOptions (clientOptions : SEEDLinkClientOptions) :
    Except Exception SEEDLinkClientOptions :=
  if s.stateFile.isEmpty then .ok clientOptions
  else do
    let files ← s.files.makeParentPath s.stateFile
      (.runtimeError ("Could not create parent path " ++ String.ofList (parentPath s.stateFile)))
    let clientOptions ← clientOptions.setStateFile files s.stateFile
    let deleteStateFileOnStart := s.propertyTree.getOr (s.key "deleteStateFileOnStart") s.boost.toBool
      clientOptions.deleteStateFileOnStart
    let clientOptions :=
      if deleteStateFileOnStart then clientOptions.enableDeleteStateFileOnStart
      else clientOptions.disableDeleteStateFileOnStart
    let deleteStateFileOnStop := s.propertyTree.getOr (s.key "deleteStateFileOnStop") s.boost.toBool
      clientOptions.deleteStateFileOnStop
    let clientOptions :=
      if deleteStateFileOnStop then clientOptions.enableDeleteStateFileOnStop
      else clientOptions.disableDeleteStateFileOnStop
    -- the variable is a `uint16_t`, as what it was initialised with
    let stateFileUpdateInterval : UInt16 :=
      .ofInt (s.propertyTree.getOr (s.key "stateFileUpdateInterval") s.boost.toInt
        (.ofInt clientOptions.getStateFileUpdateInterval.toNat)).toInt
    if (stateFileUpdateInterval.toNat : Int) < 0 then
      .error (.invalidArgument (String.ofList s.clientName ++ ".stateFileUpdateInterval " ++
        Nat.repr stateFileUpdateInterval.toNat ++ " must be non-negative"))
    else return clientOptions

def getSEEDLinkOptions : Except Exception SEEDLinkClientOptions := do
  let clientOptions : SEEDLinkClientOptions := {}
  let host ← s.propertyTree.get (s.key "host")
  let port := s.propertyTree.getOr (s.key "port") s.boost.toUInt16 18000
  let clientOptions ← clientOptions.setHost host
  let clientOptions := clientOptions.setPort port
  let clientOptions ← s.getStateFileOptions clientOptions
  let pingOnStartUp := s.propertyTree.getOr (s.key "pingOnStartUp") s.boost.toBool
    clientOptions.pingOnStartUp
  let clientOptions :=
    if pingOnStartUp then clientOptions.enablePingOnStartUp else clientOptions.disablePingOnStartUp
  (List.range maxSelectors).foldlM
    (fun clientOptions iSelector => (s.splitSelectors iSelector).foldlM s.addSelector clientOptions)
    clientOptions

/-! ### When a section is loaded -/

/-- All that is to be read as selectors. -/
def selectorTexts : List Str := (List.range maxSelectors).flatMap s.splitSelectors

/-- There is a host, the directory of the state file is there or can be made, and the selectors can be read
and differ. -/
structure Loadable : Prop where
  host : ∃ host, s.propertyTree.data (s.key "host") = some host ∧ ∃ c ∈ host, c ≠ ' '
  stateFile : s.files.HasParentPath s.stateFile
  selectors : ∃ selectors, s.selectorTexts.mapM (StreamSelector.fromString s.boost) = .ok selectors ∧
    selectors.Pairwise fun t t' => ¬ t.Same t'

/-- What the section says, with the host and selectors read from it and the defaults of the class for keys
that are absent. The interval is the default's. -/
def loaded (host : Str) (selectors : List StreamSelector) : SEEDLinkClientOptions :=
  let flag (name : String) : Bool :=
    !s.stateFile.isEmpty && s.propertyTree.getOr (s.key name) s.boost.toBool false
  { mHost := (host.filter (· != ' ')).map tolower
    mStateFile := s.stateFile
    mSelectors := selectors
    mDeleteStateFileOnStop := flag "deleteStateFileOnStop"
    mDeleteStateFileOnStart := flag "deleteStateFileOnStart"
    mPingOnStartUp := s.propertyTree.getOr (s.key "pingOnStartUp") s.boost.toBool true
    mPort := s.propertyTree.getOr (s.key "port") s.boost.toUInt16 18000 }

variable {s} {options options' : SEEDLinkClientOptions}

/-- The options with the state file of the section and the flags that go with it. -/
def withStateFile (s : Section) (options : SEEDLinkClientOptions) : SEEDLinkClientOptions :=
  if s.stateFile.isEmpty then options
  else
    { options with
      mStateFile := s.stateFile
      mDeleteStateFileOnStart :=
        s.propertyTree.getOr (s.key "deleteStateFileOnStart") s.boost.toBool options.mDeleteStateFileOnStart
      mDeleteStateFileOnStop :=
        s.propertyTree.getOr (s.key "deleteStateFileOnStop") s.boost.toBool options.mDeleteStateFileOnStop }

/-- A number of sixteen bits is never negative, so the check of the interval lets all pass. -/
theorem getStateFileOptions_eq_ok_iff :
    s.getStateFileOptions options = .ok options' ↔
      s.files.HasParentPath s.stateFile ∧ s.withStateFile options = options' := by
  rw [getStateFileOptions, withStateFile]
  by_cases hempty : s.stateFile.isEmpty = true
  · have hnone : s.files.HasParentPath s.stateFile := by
      rw [List.isEmpty_iff.mp hempty]
      exact .inl rfl
    rw [if_pos hempty, if_pos hempty, Except.ok.injEq, and_iff_right hnone]
  · rw [if_neg hempty, if_neg hempty, bind_eq_ok_iff, ← FileSystem.exists_makeParentPath_iff,
      ← exists_and_right]
    apply exists_congr
    intro files
    apply and_congr_right
    intro hfiles
    have hset : options.setStateFile files s.stateFile =
        .ok { options with mStateFile := s.stateFile } := by
      rw [SEEDLinkClientOptions.setStateFile, if_neg hempty, FileSystem.makeParentPath_again hfiles]
      rfl
    rw [hset, ok_bind, ite_error_eq_ok_iff, and_iff_right (by omega), pure_eq_ok_iff,
      SEEDLinkClientOptions.readDeleteStateFileOnStop, SEEDLinkClientOptions.readDeleteStateFileOnStart]
    exact Iff.rfl

/-- A piece is added when it can be read and asks for something new. -/
theorem addSelector_eq_ok_iff {text : Str} (hheld : options.Distinct) :
    s.addSelector options text = .ok options' ↔
      ∃ selector, StreamSelector.fromString s.boost text = .ok selector ∧
        (∀ t ∈ options.mSelectors, ¬ t.Same selector) ∧
        { options with mSelectors := options.mSelectors ++ [selector] } = options' := by
  rw [addSelector, bind_eq_ok_iff]
  apply exists_congr
  intro selector
  apply and_congr_right
  intro hread
  rw [SEEDLinkClientOptions.addStreamSelector_eq_ok_iff hheld.networks]
  exact and_iff_right (StreamSelector.hasNetwork_of_fromString hread)

/-- The loop over the pieces adds what they say, in their order, if all can be read and differ. -/
theorem foldlM_addSelector_eq_ok_iff {texts : List Str} (hheld : options.Distinct) :
    texts.foldlM s.addSelector options = .ok options' ↔
      ∃ selectors, texts.mapM (StreamSelector.fromString s.boost) = .ok selectors ∧
        (options.mSelectors ++ selectors).Pairwise (fun t t' => ¬ t.Same t') ∧
        { options with mSelectors := options.mSelectors ++ selectors } = options' := by
  induction texts generalizing options with
  | nil =>
    simp only [foldlM_nil_eq_ok_iff, mapM_nil_eq_ok_iff, exists_eq_left', List.append_nil]
    exact (and_iff_right hheld.differ).symm
  | cons text texts ih =>
    rw [foldlM_cons_eq_ok_iff]
    constructor
    · rintro ⟨_, hfirst, hrest⟩
      obtain ⟨selector, hread, hnew, rfl⟩ := (addSelector_eq_ok_iff hheld).mp hfirst
      have hadded := hheld.add (StreamSelector.hasNetwork_of_fromString hread) hnew
      obtain ⟨selectors, hreads, hdiffer, hoptions⟩ := (ih hadded).mp hrest
      simp only [List.append_assoc, List.singleton_append] at hdiffer hoptions
      exact ⟨selector :: selectors, mapM_cons_eq_ok_iff.mpr ⟨_, _, hread, hreads, rfl⟩, hdiffer, hoptions⟩
    · rintro ⟨_, hall, hdiffer, hoptions⟩
      obtain ⟨selector, selectors, hread, hreads, rfl⟩ := mapM_cons_eq_ok_iff.mp hall
      have hnew : ∀ t ∈ options.mSelectors, ¬ t.Same selector := fun t ht =>
        (List.pairwise_append.mp hdiffer).2.2 t ht selector List.mem_cons_self
      have hadded := hheld.add (StreamSelector.hasNetwork_of_fromString hread) hnew
      refine ⟨_, (addSelector_eq_ok_iff hheld).mpr ⟨selector, hread, hnew, rfl⟩, ?_⟩
      apply (ih hadded).mpr
      refine ⟨selectors, hreads, ?_, ?_⟩
      · simpa only [List.append_assoc, List.singleton_append] using hdiffer
      · simpa only [List.append_assoc, List.singleton_append] using hoptions

/-- Before the loop over the selectors the options are what the section says of the rest. -/
theorem loaded_nil (host : Str) :
    let options := s.withStateFile (SEEDLinkClientOptions.setPort
      { mHost := (host.filter (· != ' ')).map tolower }
      (s.propertyTree.getOr (s.key "port") s.boost.toUInt16 18000))
    { options with
      mPingOnStartUp :=
        s.propertyTree.getOr (s.key "pingOnStartUp") s.boost.toBool options.pingOnStartUp } =
      s.loaded host [] := by
  rw [loaded, withStateFile]
  cases hempty : s.stateFile.isEmpty with
  | true =>
    rw [List.isEmpty_iff.mp hempty]
    rfl
  | false => rfl

/-- The loop over the selectors adds all that is to be read. -/
theorem addSelectors_eq_ok_iff {host : Str} :
    s.selectorTexts.foldlM s.addSelector (s.loaded host []) = .ok options ↔
      ∃ selectors, (s.selectorTexts.mapM (StreamSelector.fromString s.boost) = .ok selectors ∧
        selectors.Pairwise fun t t' => ¬ t.Same t') ∧ s.loaded host selectors = options := by
  have hheld : (s.loaded host []).Distinct := SEEDLinkClientOptions.distinct_of_nil rfl
  rw [foldlM_addSelector_eq_ok_iff hheld]
  apply exists_congr
  intro selectors
  rw [and_assoc]
  exact Iff.rfl

/-- **What loading returns**: the section can be loaded, and the options are what it says. -/
theorem getSEEDLinkOptions_eq_ok_iff :
    s.getSEEDLinkOptions = .ok options ↔
      ∃ host, (s.propertyTree.data (s.key "host") = some host ∧ ∃ c ∈ host, c ≠ ' ') ∧
        s.files.HasParentPath s.stateFile ∧
        ∃ selectors, (s.selectorTexts.mapM (StreamSelector.fromString s.boost) = .ok selectors ∧
          selectors.Pairwise fun t t' => ¬ t.Same t') ∧ s.loaded host selectors = options := by
  simp only [getSEEDLinkOptions, bind_eq_ok_iff, ← foldlM_flatMap, PropertyTree.get_eq_ok_iff,
    SEEDLinkClientOptions.setHost_eq_ok_iff, getStateFileOptions_eq_ok_iff,
    SEEDLinkClientOptions.readPingOnStartUp, ← addSelectors_eq_ok_iff]
  apply exists_congr
  intro host
  constructor
  · rintro ⟨hhost, _, ⟨hblank, rfl⟩, _, ⟨hparent, rfl⟩, hloop⟩
    rw [← loaded_nil]
    exact ⟨⟨hhost, hblank⟩, hparent, hloop⟩
  · rintro ⟨⟨hhost, hblank⟩, hparent, hloop⟩
    rw [← loaded_nil] at hloop
    exact ⟨hhost, _, ⟨hblank, rfl⟩, _, ⟨hparent, rfl⟩, hloop⟩

theorem loadable_iff : s.Loadable ↔ ∃ options, s.getSEEDLinkOptions = .ok options := by
  simp only [getSEEDLinkOptions_eq_ok_iff]
  constructor
  · rintro ⟨⟨host, hhost⟩, hstateFile, ⟨selectors, hselectors⟩⟩
    exact ⟨_, host, hhost, hstateFile, selectors, hselectors, rfl⟩
  · rintro ⟨_, host, hhost, hstateFile, selectors, hselectors, _⟩
    exact ⟨⟨host, hhost⟩, hstateFile, ⟨selectors, hselectors⟩⟩

/-! ### The interval between saves -/

/-- With a state file, a negative interval is refused, and an interval that fits is the interval of the
options, whose flags and port are the section's or, for absent keys, those of new options. -/
def Faithful (s : Section) : Prop :=
  ∀ interval, s.stateFile ≠ [] →
    s.propertyTree.getOptional (s.key "stateFileUpdateInterval") s.boost.toInt = some interval →
    let previous : SEEDLinkClientOptions := {}
    (interval.toInt < 0 → ∃ e, s.getSEEDLinkOptions = .error e) ∧
      ∀ options, s.getSEEDLinkOptions = .ok options → 0 ≤ interval.toInt → interval.toInt ≤ 65535 →
        (options.getStateFileUpdateInterval.toNat : Int) = interval.toInt ∧
          options.deleteStateFileOnStart = s.propertyTree.getOr (s.key "deleteStateFileOnStart")
            s.boost.toBool previous.deleteStateFileOnStart ∧
          options.deleteStateFileOnStop = s.propertyTree.getOr (s.key "deleteStateFileOnStop")
            s.boost.toBool previous.deleteStateFileOnStop ∧
          options.pingOnStartUp = s.propertyTree.getOr (s.key "pingOnStartUp") s.boost.toBool
            previous.pingOnStartUp ∧
          options.getPort = s.propertyTree.getOr (s.key "port") s.boost.toUInt16 previous.getPort

/-- What is loaded from a section with a state file has the flags and the port of the section, and the
interval of new options. -/
theorem loaded_keys (hstateFile : s.stateFile ≠ []) (h : s.getSEEDLinkOptions = .ok options) :
    options.getStateFileUpdateInterval = 100 ∧
      options.deleteStateFileOnStart =
        s.propertyTree.getOr (s.key "deleteStateFileOnStart") s.boost.toBool false ∧
      options.deleteStateFileOnStop =
        s.propertyTree.getOr (s.key "deleteStateFileOnStop") s.boost.toBool false ∧
      options.pingOnStartUp = s.propertyTree.getOr (s.key "pingOnStartUp") s.boost.toBool true ∧
      options.getPort = s.propertyTree.getOr (s.key "port") s.boost.toUInt16 18000 := by
  obtain ⟨host, _, _, selectors, _, rfl⟩ := getSEEDLinkOptions_eq_ok_iff.mp h
  have hsome : (!s.stateFile.isEmpty) = true := by simpa using hstateFile
  refine ⟨rfl, ?_, ?_, rfl, rfl⟩
  · simp only [SEEDLinkClientOptions.deleteStateFileOnStart, loaded, hsome, Bool.true_and]
  · simp only [SEEDLinkClientOptions.deleteStateFileOnStop, loaded, hsome, Bool.true_and]

/-- **A client with loaded options saves its state every 101 payloads**, whatever the section says: the
interval is the default's, and one is added to it in the polling loop. -/
theorem loopSaves_of_loaded (hstateFile : s.stateFile ≠ []) (h : s.getSEEDLinkOptions = .ok options)
    {lib : Libraries} {before : Option Nat} {as : List SEEDLinkClient.LoopEvent} {c : SEEDLinkClient}
    (hrun : exec (SEEDLinkClient.loopNext lib options.forClient)
      (SEEDLinkClient.initializeClient options.forClient before) as = some c)
    (hrest : c.poller.handling = false) : c.loopSaves = c.payloads / 101 := by
  have hheld : options.mStateFile = s.stateFile := by
    obtain ⟨host, _, _, selectors, _, rfl⟩ := getSEEDLinkOptions_eq_ok_iff.mp h
    rfl
  have hhas : options.hasStateFile = true := by
    rw [SEEDLinkClientOptions.hasStateFile, hheld]
    simpa using hstateFile
  have huse : options.forClient.mUseStateFile = true := by
    rw [SEEDLinkClientOptions.forClient, if_pos hhas]
    rfl
  have hinterval : options.forClient.mStateFileUpdateInterval = (100 : Nat) := by
    rw [SEEDLinkClientOptions.forClient, if_pos hhas, (loaded_keys hstateFile h).1]
    rfl
  exact SEEDLinkClient.loopSaves_eq huse hinterval hrun hrest

/-- **The interval of the section does not count**: a section with a state file and an interval is loaded
faithfully exactly if it cannot be loaded at all, for want of a host, a directory or a selector, or if the
interval is the default of the class, or one that does not fit. -/
theorem faithful_iff (s : Section) (interval : Int32) (hstateFile : s.stateFile ≠ [])
    (hinterval : s.propertyTree.getOptional (s.key "stateFileUpdateInterval") s.boost.toInt =
      some interval) :
    s.Faithful ↔ ¬ s.Loadable ∨ interval.toInt = 100 ∨ 65535 < interval.toInt := by
  rw [loadable_iff]
  constructor
  · intro hfaithful
    obtain ⟨hnegative, hstored⟩ := hfaithful interval hstateFile hinterval
    by_contra hnot
    obtain ⟨hload, hdefault, hfits⟩ := by simpa only [not_or, not_not] using hnot
    obtain ⟨options, hload⟩ := hload
    rcases lt_or_ge interval.toInt 0 with hlow | hlow
    · obtain ⟨e, he⟩ := hnegative hlow
      rw [hload] at he
      cases he
    · obtain ⟨hvalue, _⟩ := hstored options hload hlow (by omega)
      rw [(loaded_keys hstateFile hload).1] at hvalue
      exact hdefault hvalue.symm
  · intro hcondition interval' _ hinterval'
    obtain rfl := Option.some.inj (hinterval.symm.trans hinterval')
    refine ⟨fun hlow => ?_, fun options hload hlow hhigh => ?_⟩
    · cases hload : s.getSEEDLinkOptions with
      | error e => exact ⟨e, rfl⟩
      | ok options =>
        rcases hcondition with hnot | hdefault | hlarge
        · exact absurd ⟨options, hload⟩ hnot
        · omega
        · omega
    · obtain ⟨hvalue, hkeys⟩ := loaded_keys hstateFile hload
      refine ⟨?_, hkeys⟩
      rw [hvalue]
      rcases hcondition with hnot | hdefault | hlarge
      · exact absurd ⟨options, hload⟩ hnot
      · exact hdefault.symm
      · omega

/-- A section with a host, a state file in the working directory and an interval. -/
def knownSection (interval : String) : Section where
  boost := .known
  propertyTree :=
    { data := fun path =>
        [("SEEDLinkReader.host".toList, "rtserve.earthscope.org".toList),
          ("SEEDLinkReader.stateFile".toList, "seedlink.state".toList),
          ("SEEDLinkReader.stateFileUpdateInterval".toList, interval.toList)].lookup path }
  files := ⟨fun _ => .ok true, fun _ => .ok false⟩
  clientName := "SEEDLinkReader".toList

theorem selectorTexts_knownSection (interval : String) : (knownSection interval).selectorTexts = [] := by
  apply List.flatMap_eq_nil_iff.mpr
  intro iSelector _
  have habsent (digits : Str) :
      (knownSection interval).propertyTree.data
        ((knownSection interval).key "data_selector_" ++ digits) = none := by
    simp [knownSection, key]
  rw [splitSelectors, habsent]

theorem loadable_knownSection (interval : String) : (knownSection interval).Loadable where
  host := ⟨"rtserve.earthscope.org".toList, rfl, 'r', by decide +kernel, by decide⟩
  stateFile := .inl rfl
  selectors := by
    rw [selectorTexts_knownSection]
    exact ⟨[], rfl, List.Pairwise.nil⟩

/-- The default interval is loaded. -/
theorem faithful_iff_known : (knownSection "100").Faithful :=
  (faithful_iff (knownSection "100") 100 (by decide +kernel) (by decide +kernel)).mpr (.inr (.inl rfl))

/-- An interval of 250 is lost, and a negative one is accepted. -/
theorem not_faithful : ¬ (knownSection "250").Faithful ∧ ¬ (knownSection "-1").Faithful := by
  constructor
  · intro hfaithful
    obtain ⟨options, hload⟩ := loadable_iff.mp (loadable_knownSection "250")
    have hstateFile : (knownSection "250").stateFile ≠ [] := by decide +kernel
    have hvalue := ((hfaithful 250 hstateFile (by decide +kernel)).2 options hload (by decide)
      (by decide)).1
    rw [(loaded_keys hstateFile hload).1] at hvalue
    exact absurd hvalue (by decide)
  · intro hfaithful
    obtain ⟨options, hload⟩ := loadable_iff.mp (loadable_knownSection "-1")
    obtain ⟨e, he⟩ := (hfaithful (-1) (by decide +kernel) (by decide +kernel)).1 (by decide)
    rw [hload] at he
    cases he

/-! ### Known values of selectors -/

theorem flatMap_range_of_le {α : Type} {f : Nat → List α} {limit n : Nat} (hle : limit ≤ n)
    (hempty : ∀ i, limit ≤ i → f i = []) : (List.range n).flatMap f = (List.range limit).flatMap f := by
  obtain ⟨m, rfl⟩ := Nat.exists_eq_add_of_le hle
  have hrest : ((List.range m).map (limit + ·)).flatMap f = [] := by
    refine List.flatMap_eq_nil_iff.mpr fun i hi => ?_
    obtain ⟨k, _, rfl⟩ := List.mem_map.mp hi
    exact hempty _ (Nat.le_add_right limit k)
  rw [List.range_add, List.flatMap_append, hrest, List.append_nil]

/-- A section with a host and values of selectors under some numbers. -/
def knownSubscription (texts : List (Nat × Str)) : Section where
  boost := .known
  propertyTree :=
    { data := fun path =>
        (("SEEDLinkReader.host".toList, "rtserve.earthscope.org".toList) ::
          texts.map fun entry =>
            ("SEEDLinkReader.data_selector_".toList ++ (Nat.repr entry.1).toList, entry.2)).lookup path }
  files := ⟨fun _ => .ok true, fun _ => .ok false⟩
  clientName := "SEEDLinkReader".toList

theorem data_knownSubscription (texts : List (Nat × Str)) (number : Nat) :
    (knownSubscription texts).propertyTree.data
      ((knownSubscription texts).key "data_selector_" ++ (Nat.repr number).toList) = texts.lookup number := by
  have hkey : (knownSubscription texts).key "data_selector_" = "SEEDLinkReader.data_selector_".toList := by
    show "SEEDLinkReader".toList ++ '.' :: "data_selector_".toList = _
    decide +kernel
  have hlength : "SEEDLinkReader.data_selector_".toList.length = 29 ∧
      "SEEDLinkReader.host".toList.length = 19 := by
    decide +kernel
  have hhost : ("SEEDLinkReader.data_selector_".toList ++ (Nat.repr number).toList ==
      "SEEDLinkReader.host".toList) = false := by
    refine beq_false_of_ne fun heq => ?_
    have hlengths := congrArg List.length heq
    rw [List.length_append] at hlengths
    omega
  rw [hkey, knownSubscription]
  dsimp only
  rw [List.lookup_cons, hhost]
  clear hkey
  dsimp only
  induction texts with
  | nil => rfl
  | cons entry texts ih =>
    have hsame : ("SEEDLinkReader.data_selector_".toList ++ (Nat.repr number).toList ==
        "SEEDLinkReader.data_selector_".toList ++ (Nat.repr entry.1).toList) = (number == entry.1) := by
      rw [Bool.eq_iff_iff, beq_iff_eq, beq_iff_eq]
      refine ⟨fun heq => eq_of_digits (List.append_cancel_left heq), fun heq => by rw [heq]⟩
    rw [List.map_cons, List.lookup_cons, List.lookup_cons, hsame, ih]

theorem selectorTexts_knownSubscription (texts : List (Nat × Str)) (limit : Nat) (hlimit : limit ≤ maxSelectors)
    (hnumbers : ∀ entry ∈ texts, entry.1 ≤ limit) :
    (knownSubscription texts).selectorTexts = (List.range limit).flatMap fun i =>
      match texts.lookup (i + 1) with
      | some text => Boost.known.split text [',', '|']
      | none => [] := by
  have hsplit (i : Nat) : (knownSubscription texts).splitSelectors i =
      match texts.lookup (i + 1) with
      | some text => Boost.known.split text [',', '|']
      | none => [] := by
    rw [splitSelectors, data_knownSubscription]
    rfl
  rw [selectorTexts, List.flatMap_congr fun i _ => hsplit i]
  refine flatMap_range_of_le hlimit fun i hi => ?_
  have hnone : texts.lookup (i + 1) = none := by
    refine List.lookup_eq_none_iff.mpr fun entry hentry => bne_iff_ne.mpr fun heq => ?_
    have hle := hnumbers entry hentry
    omega
  rw [hnone]

theorem loadable_knownSubscription {texts : List (Nat × Str)} {selectors : List StreamSelector}
    (hread : (knownSubscription texts).selectorTexts.mapM (StreamSelector.fromString .known) = .ok selectors)
    (hdiffer : selectors.Pairwise fun t t' => ¬ t.Same t') : (knownSubscription texts).Loadable where
  host := ⟨"rtserve.earthscope.org".toList, rfl, 'r', by decide +kernel, by decide⟩
  stateFile := by
    have hnone : (knownSubscription texts).propertyTree.data "SEEDLinkReader.stateFile".toList = none := by
      refine List.lookup_eq_none_iff.mpr fun entry hentry => bne_iff_ne.mpr fun heq => ?_
      have hlength : "SEEDLinkReader.stateFile".toList.length = 24 ∧
          "SEEDLinkReader.data_selector_".toList.length = 29 := by
        decide +kernel
      rcases List.mem_cons.mp hentry with rfl | hnumbered
      · exact absurd heq (by decide +kernel)
      · obtain ⟨_, _, rfl⟩ := List.mem_map.mp hnumbered
        have hlengths := congrArg List.length heq
        rw [List.length_append] at hlengths
        omega
    have hkey : (knownSubscription texts).key "stateFile" = "SEEDLinkReader.stateFile".toList := by
      show "SEEDLinkReader".toList ++ '.' :: "stateFile".toList = _
      decide +kernel
    have hempty : (knownSubscription texts).stateFile = [] := by
      rw [Section.stateFile, PropertyTree.getOr, PropertyTree.getOptional, hkey, hnone]
      rfl
    rw [hempty]
    exact .inl rfl
  selectors := ⟨selectors, hread, hdiffer⟩

end Section

end USEEDLinkToRingServer
