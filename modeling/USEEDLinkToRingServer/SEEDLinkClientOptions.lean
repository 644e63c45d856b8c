import USEEDLinkToRingServer.SEEDLinkClient
import USEEDLinkToRingServer.StreamSelector

/-!
# The options of the SEEDLink client

The setters of the class. Setting the state file makes the directory it is in, and a selector is added only
if the server was not asked for the same already.
-/

namespace USEEDLinkToRingServer

open Fallible

structure SEEDLinkClientOptions where
  mHost : Str := "rtserve.earthscope.org".toList
  mStateFile : Str := []
  mSelectors : List StreamSelector := []
  /-- In seconds, as the delay. -/
  mNetworkTimeOut : Int := 600
  mNetworkDelay : Int := 30
  mDeleteStateFileOnStop : Bool := false
  mDeleteStateFileOnStart : Bool := false
  mPingOnStartUp : Bool := true
  mStateFileInterval : UInt16 := 100
  mPort : UInt16 := 18000
deriving DecidableEq, Repr

namespace FileSystem

/-- Makes the directory a file is in unless there is one. -/
def makeParentPath (files : FileSystem) (path : Str) (failure : Exception) :
    Except Exception FileSystem :=
  let parent := parentPath path
  if parent.isEmpty then .ok files
  else do
    let present ← files.pathExists parent
    if present then return files
    else
      let created ← files.createDirectories parent
      if created then return files.made parent else .error failure

/-- The directory a file is in is there or can be made. -/
def HasParentPath (files : FileSystem) (path : Str) : Prop :=
  parentPath path = [] ∨ files.pathExists (parentPath path) = .ok true ∨
    files.pathExists (parentPath path) = .ok false ∧ files.createDirectories (parentPath path) = .ok true

end FileSystem

namespace SEEDLinkClientOptions

section

variable (options : SEEDLinkClientOptions)

def setHost (hostIn : Str) : Except Exception SEEDLinkClientOptions :=
  let host := (hostIn.filter (· != ' ')).map tolower
  if host.isEmpty then .error (.invalidArgument "Host is empty")
  else .ok { options with mHost := host }

def setPort (port : UInt16) : SEEDLinkClientOptions := { options with mPort := port }

def getPort : UInt16 := options.mPort

def setStateFile (files : FileSystem) (stateFile : Str) : Except Exception SEEDLinkClientOptions :=
  if stateFile.isEmpty then .ok { options with mStateFile := [] }
  else do
    let _ ← files.makeParentPath stateFile (.runtimeError "Failed to create state file path")
    return { options with mStateFile := stateFile }

def hasStateFile : Bool := !options.mStateFile.isEmpty

/-- The loading of the configuration never calls it. -/
def setStateFileUpdateInterval (interval : UInt16) : SEEDLinkClientOptions :=
  { options with mStateFileInterval := interval }

def getStateFileUpdateInterval : UInt16 := options.mStateFileInterval

def enableDeleteStateFileOnStop : SEEDLinkClientOptions := { options with mDeleteStateFileOnStop := true }

def disableDeleteStateFileOnStop : SEEDLinkClientOptions := { options with mDeleteStateFileOnStop := false }

def deleteStateFileOnStop : Bool := options.mDeleteStateFileOnStop

def enableDeleteStateFileOnStart : SEEDLinkClientOptions := { options with mDeleteStateFileOnStart := true }

def disableDeleteStateFileOnStart : SEEDLinkClientOptions :=
  { options with mDeleteStateFileOnStart := false }

def deleteStateFileOnStart : Bool := options.mDeleteStateFileOnStart

def enablePingOnStartUp : SEEDLinkClientOptions := { options with mPingOnStartUp := true }

def disablePingOnStartUp : SEEDLinkClientOptions := { options with mPingOnStartUp := false }

def pingOnStartUp : Bool := options.mPingOnStartUp

/-- What `initialize` of the client takes over about the state file. -/
def forClient : SEEDLinkOptions :=
  if options.hasStateFile then
    { stateFile := some (String.ofList options.mStateFile)
      mStateFileUpdateInterval := options.getStateFileUpdateInterval.toNat
      deleteStateFileOnStart := options.deleteStateFileOnStart
      mDeleteStateFileOnStop := options.deleteStateFileOnStop }
  else {}

/-- A round of the loop over the selectors held. -/
def refuseDuplicate (selector mySelector : StreamSelector) : Except Exception Unit := do
  let myNetwork ← mySelector.getNetwork
  let network ← selector.getNetwork
  if myNetwork = network ∧ mySelector.getStation = selector.getStation ∧
      mySelector.getSelector = selector.getSelector then
    .error (.invalidArgument ("Duplicate selector for " ++ String.ofList myNetwork ++ " " ++
      String.ofList mySelector.getStation ++ " " ++ String.ofList mySelector.getSelector))
  else return ()

def addStreamSelector (selector : StreamSelector) : Except Exception SEEDLinkClientOptions :=
  if !selector.hasNetwork then .error (.invalidArgument "Network not set")
  else do
    forM options.mSelectors (refuseDuplicate selector)
    return { options with mSelectors := options.mSelectors ++ [selector] }

end

end SEEDLinkClientOptions

/-- The server is asked for the same by both selectors. -/
def StreamSelector.Same (s t : StreamSelector) : Prop :=
  s.mNetwork = t.mNetwork ∧ s.getStation = t.getStation ∧ s.getSelector = t.getSelector

instance (s t : StreamSelector) : Decidable (s.Same t) :=
  inferInstanceAs (Decidable (_ ∧ _ ∧ _))

/-! ### When the setters return -/

namespace FileSystem

variable {files files' : FileSystem} {path : Str} {failure : Exception}

/-- There is nothing to make, the directory is there, or it is made. -/
theorem makeParentPath_eq_ok_iff :
    files.makeParentPath path failure = .ok files' ↔
      (parentPath path = [] ∨ files.pathExists (parentPath path) = .ok true) ∧ files = files' ∨
        parentPath path ≠ [] ∧ files.pathExists (parentPath path) = .ok false ∧
          files.createDirectories (parentPath path) = .ok true ∧ files.made (parentPath path) = files' := by
  rw [makeParentPath]
  by_cases hparent : parentPath path = []
  · simp [hparent]
  · rw [if_neg (by simpa using hparent), bind_eq_ok_iff]
    cases hpresent : files.pathExists (parentPath path) with
    | error e => simp [hparent]
    | ok present =>
      cases present with
      | true => simp [hparent, pure_eq_ok_iff]
      | false =>
        cases hcreated : files.createDirectories (parentPath path) with
        | error e => simp [hparent, bind_eq_ok_iff]
        | ok created => cases created <;> simp [hparent, bind_eq_ok_iff, pure_eq_ok_iff]

theorem exists_makeParentPath_iff :
    (∃ files', files.makeParentPath path failure = .ok files') ↔ files.HasParentPath path := by
  simp only [makeParentPath_eq_ok_iff, HasParentPath]
  constructor
  · rintro ⟨_, ⟨hthere, _⟩ | ⟨_, habsent, hcreated, _⟩⟩
    · exact hthere.imp id .inl
    · exact .inr (.inr ⟨habsent, hcreated⟩)
  · intro h
    by_cases hthere : parentPath path = [] ∨ files.pathExists (parentPath path) = .ok true
    · exact ⟨files, .inl ⟨hthere, rfl⟩⟩
    · obtain ⟨hparent, hpresent⟩ := not_or.mp hthere
      rcases h with h | h | ⟨habsent, hcreated⟩
      · exact absurd h hparent
      · exact absurd h hpresent
      · exact ⟨_, .inr ⟨hparent, habsent, hcreated, rfl⟩⟩

/-- Once the directory is there it need not be made again. -/
theorem makeParentPath_again (h : files.makeParentPath path failure = .ok files') (failure' : Exception) :
    files'.makeParentPath path failure' = .ok files' := by
  apply makeParentPath_eq_ok_iff.mpr
  rcases makeParentPath_eq_ok_iff.mp h with ⟨hthere, rfl⟩ | ⟨_, _, _, rfl⟩
  · exact .inl ⟨hthere, rfl⟩
  · exact .inl ⟨.inr (if_pos rfl), rfl⟩

end FileSystem

namespace SEEDLinkClientOptions

variable {options options' : SEEDLinkClientOptions}

theorem setHost_eq_ok_iff {hostIn : Str} :
    options.setHost hostIn = .ok options' ↔
      (∃ c ∈ hostIn, c ≠ ' ') ∧
        { options with mHost := (hostIn.filter (· != ' ')).map tolower } = options' := by
  have hblank : ((hostIn.filter (· != ' ')).map tolower).isEmpty = true ↔ ¬ ∃ c ∈ hostIn, c ≠ ' ' := by
    simp
  rw [setHost]
  show (if _ then _ else _) = _ ↔ _
  rw [ite_error_eq_ok_iff, hblank, not_not, Except.ok.injEq]

/-! A flag that is enabled or disabled has the value it was read as. -/

theorem readDeleteStateFileOnStart (b : Bool) :
    (if b then options.enableDeleteStateFileOnStart else options.disableDeleteStateFileOnStart) =
      { options with mDeleteStateFileOnStart := b } := by
  cases b
  · rfl
  · rfl

theorem readDeleteStateFileOnStop (b : Bool) :
    (if b then options.enableDeleteStateFileOnStop else options.disableDeleteStateFileOnStop) =
      { options with mDeleteStateFileOnStop := b } := by
  cases b
  · rfl
  · rfl

theorem readPingOnStartUp (b : Bool) :
    (if b then options.enablePingOnStartUp else options.disablePingOnStartUp) =
      { options with mPingOnStartUp := b } := by
  cases b
  · rfl
  · rfl

theorem refuseDuplicate_eq_ok_iff {s t : StreamSelector} (hs : s.hasNetwork = true)
    (ht : t.hasNetwork = true) : refuseDuplicate s t = .ok () ↔ ¬ t.Same s := by
  have hnetwork {s : StreamSelector} (h : s.hasNetwork = true) : s.getNetwork = .ok s.mNetwork := by
    simp [StreamSelector.getNetwork, h]
  rw [refuseDuplicate, hnetwork hs, hnetwork ht]
  show (if t.Same s then _ else _) = _ ↔ _
  rw [ite_error_eq_ok_iff]
  exact and_iff_left rfl

/-- A selector is added at the end, if it has a network and asks for something new. -/
theorem addStreamSelector_eq_ok_iff {selector : StreamSelector}
    (hnetworks : ∀ s ∈ options.mSelectors, s.hasNetwork = true) :
    options.addStreamSelector selector = .ok options' ↔
      selector.hasNetwork = true ∧ (∀ s ∈ options.mSelectors, ¬ s.Same selector) ∧
        { options with mSelectors := options.mSelectors ++ [selector] } = options' := by
  rw [addStreamSelector, ite_error_eq_ok_iff, Bool.not_eq_true', Bool.not_eq_false]
  apply and_congr_right
  intro hnetwork
  rw [bind_eq_ok_iff]
  constructor
  · rintro ⟨⟨⟩, hchecks, h⟩
    refine ⟨fun s hs => ?_, pure_eq_ok_iff.mp h⟩
    exact (refuseDuplicate_eq_ok_iff hnetwork (hnetworks s hs)).mp (forM_eq_ok_iff.mp hchecks s hs)
  · rintro ⟨hnew, h⟩
    refine ⟨⟨⟩, forM_eq_ok_iff.mpr fun s hs => ?_, pure_eq_ok_iff.mpr h⟩
    exact (refuseDuplicate_eq_ok_iff hnetwork (hnetworks s hs)).mpr (hnew s hs)

/-- The selectors held have networks, and no two of them ask for the same. -/
structure Distinct (options : SEEDLinkClientOptions) : Prop where
  networks : ∀ s ∈ options.mSelectors, s.hasNetwork = true
  differ : options.mSelectors.Pairwise fun s t => ¬ s.Same t

theorem distinct_of_nil (h : options.mSelectors = []) : options.Distinct := by
  constructor
  · simp [h]
  · simp [h]

theorem Distinct.add {selector : StreamSelector} (h : options.Distinct)
    (hnetwork : selector.hasNetwork = true) (hnew : ∀ s ∈ options.mSelectors, ¬ s.Same selector) :
    Distinct { options with mSelectors := options.mSelectors ++ [selector] } := by
  constructor
  · intro s hs
    rcases List.mem_append.mp hs with hold | hadded
    · exact h.networks s hold
    · rw [List.mem_singleton.mp hadded]
      exact hnetwork
  · apply List.pairwise_append.mpr
    refine ⟨h.differ, List.pairwise_singleton _ _, fun s hs t ht => ?_⟩
    rw [List.mem_singleton.mp ht]
    exact hnew s hs

end SEEDLinkClientOptions

end USEEDLinkToRingServer
