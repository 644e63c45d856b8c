import USEEDLinkToRingServer.Configuration
import USEEDLinkToRingServer.Subscription
import USEEDLinkToRingServer.Library.Memory

/-!
# Connection structures

The writers and the SEEDLink client point to structures of libdali and libslink, which they make, use and free
themselves. A use of a pointer that is null, or whose structure was freed, has no defined outcome.
-/

namespace USEEDLinkToRingServer

/-- Who has a pointer to a structure. -/
inductive Owner (n : Nat)
  | seedLink
  | writer (client : Fin n)
deriving DecidableEq, Repr

/-- What the program asks of a structure: whether its `link` is up. Nobody asks it of libslink's. -/
structure Connection where
  linkUp : Bool := false
deriving DecidableEq, Repr

/-- The structures of a process with `n` writers. -/
abbrev Connections (n : Nat) := Memory (Owner n) Connection

def couldNotConnect (mAddress : Str) : Exception :=
  .runtimeError ("Failed to connect to DataLink client at daliClient at " ++ String.ofList mAddress)

namespace Connections

variable {n : Nat}

section

variable (client : Fin n) (m : Connections n)

/-! ### The writer's functions -/

def isConnected : Option Bool :=
  match m.pointers (.writer client) with
  | none => some false
  | some _ => (m.read (.writer client)).map (·.linkUp)

def disconnect : Option (Connections n) := do
  let connected ← m.isConnected client
  if connected then m.write (.writer client) { linkUp := false } else some m

/-- The time-outs and the log functions are set in the new structure. -/
def createClient : Option (Connections n) :=
  let m := m.alloc (.writer client) {}
  m.write (.writer client) {}

/-- A structure is made only if there is none. -/
def ensureClient : Option (Connections n) :=
  match m.pointers (.writer client) with
  | none => m.createClient client
  | some _ => some m

/-- The structure is freed if it cannot be connected. -/
def connect (mAddress : Str) (returnCode : Int) : Option (Except Exception Unit × Connections n) := do
  let m ← m.ensureClient client
  let m ← disconnect client m
  -- `dl_connect`
  let m ← m.write (.writer client) { linkUp := decide (0 ≤ returnCode) }
  if returnCode < 0 then
    let m ← m.free (.writer client)
    some (.error (couldNotConnect mAddress), m.setNull (.writer client))
  else some (.ok (), m)

def destroyDataLinkClient : Option (Connections n) := do
  let m ← m.disconnect client
  match m.pointers (.writer client) with
  | none => some m
  | some _ => (m.free (.writer client)).map fun m => m.setNull (.writer client)

/-- libdali may find that the link is down. -/
def dlWrite (linkUp : Bool) : Option (Connections n) := do
  let connection ← m.read (.writer client)
  m.write (.writer client) { linkUp := connection.linkUp && linkUp }

/-! ### The SEEDLink client's functions -/

/-- Any function of libslink. -/
def useSEEDLink : Option (Connections n) := (m.read .seedLink).map fun _ => m

def terminate : Option (Connections n) :=
  match m.pointers .seedLink with
  | none => some m
  | some _ => m.useSEEDLink

/-- Closes the link, saves the state if there is a state file, and frees the structure. -/
def disconnectSEEDLink : Option (Connections n) :=
  match m.pointers .seedLink with
  | none => some m
  | some _ => do
    let m ← m.useSEEDLink
    let m ← m.free .seedLink
    some (m.setNull .seedLink)

def initializeSEEDLink (options : SEEDLinkClientOptions) (answers : InitializeAnswers) :
    Option (Except Exception Unit × Connections n) := do
  let m ← m.disconnectSEEDLink
  if answers.initslcd then
    let m ← useSEEDLink (m.alloc .seedLink {})
    some ((options.initializeConnection answers).map fun _ => (), m)
  else some ((options.initializeConnection answers).map fun _ => (), m)

end

/-! ### The constructor of the process -/

/-- The clients are destroyed with the vector they are in. -/
def destroyWriters : List (Fin n) → Connections n → Option (Connections n)
  | [], m => some m
  | client :: clients, m => do
    let m ← m.destroyDataLinkClient client
    destroyWriters clients m

/-- The loop over the options of the writers. The clients made so far are destroyed if one throws. -/
def constructWriters (address : Fin n → Str) (returnCode : Fin n → Int) (mDataLinkClients : List (Fin n)) :
    List (Fin n) → Connections n → Option (Except Exception Unit × Connections n)
  | [], m => some (.ok (), m)
  | client :: clients, m => do
    let (result, m) ← m.connect client (address client) (returnCode client)
    match result with
    | .ok () => constructWriters address returnCode (mDataLinkClients ++ [client]) clients m
    | .error exception =>
      let m ← destroyWriters mDataLinkClients m
      some (.error exception, m)

/-- The address that a client connects to. -/
def writerAddress (options : ProgramOptions) (client : Fin options.dataLinkClientOptions.length) : Str :=
  (options.dataLinkClientOptions.get client).address

/-- The constructor of the process, with what libdali, libslink and the file system answer. -/
def constructProcess (options : ProgramOptions) (returnCode : Fin options.dataLinkClientOptions.length → Int)
    (answers : InitializeAnswers) :
    Option (Except Exception Unit × Connections options.dataLinkClientOptions.length) :=
  if options.dataLinkClientOptions.isEmpty then
    some (.error (.invalidArgument "No writers configured"), {})
  else do
    let (result, m) ← constructWriters (writerAddress options) returnCode [] (List.finRange _) {}
    match result with
    | .error exception => some (.error exception, m)
    | .ok () =>
      let (result, m) ← initializeSEEDLink m options.seedLinkClientOptions answers
      match result with
      | .error exception =>
        let m ← destroyWriters (List.finRange _) m
        -- No destructor runs for the SEEDLink client, so only its pointer goes.
        some (.error exception, m.setNull .seedLink)
      | .ok () => some (.ok (), m)

/-! ### What the functions do -/

variable {m : Connections n} {held : Owner n → Option Connection} {client : Fin n}

/-- The link that an owner's structure, if there is one, has. -/
def linkUp (connection : Option Connection) : Bool := (connection.map (·.linkUp)).getD false

theorem isConnected_eq (h : m.Holds held) : m.isConnected client = some (linkUp (held (.writer client))) := by
  rw [isConnected]
  cases hheld : held (.writer client) with
  | none =>
    rw [h.pointers_eq_none_iff.mpr hheld]
    rfl
  | some connection =>
    obtain ⟨address, hpointer, _⟩ := h.exists_address hheld
    rw [hpointer, h.read, hheld]
    rfl

theorem disconnect_spec (h : m.Holds held) (client : Fin n) :
    ∃ m', m.disconnect client = some m' ∧
      m'.Holds (Function.update held (.writer client) ((held (.writer client)).map fun _ => {})) := by
  rw [disconnect, isConnected_eq h]
  cases hheld : held (.writer client) with
  | none =>
    refine ⟨m, rfl, ?_⟩
    rw [Option.map_none, ← hheld, Function.update_eq_self]
    exact h
  | some connection =>
    cases hlink : connection.linkUp with
    | true =>
      obtain ⟨m', hwrite, hholds⟩ := h.write hheld {}
      exact ⟨m', by simpa [linkUp, hlink] using hwrite, hholds⟩
    | false =>
      have hsame : (some {} : Option Connection) = held (.writer client) := by
        rw [hheld, ← hlink]
      refine ⟨m, by simp [linkUp, hlink], ?_⟩
      rw [Option.map_some, hsame, Function.update_eq_self]
      exact h

theorem createClient_spec (h : m.Holds held) (hnone : held (.writer client) = none) :
    ∃ m', m.createClient client = some m' ∧ m'.Holds (Function.update held (.writer client) (some {})) := by
  have halloc := h.alloc hnone {}
  obtain ⟨m', hwrite, hholds⟩ := halloc.write (Function.update_self ..) {}
  rw [Function.update_idem] at hholds
  exact ⟨m', hwrite, hholds⟩

theorem ensureClient_spec (h : m.Holds held) (client : Fin n) :
    ∃ m', m.ensureClient client = some m' ∧
      ∃ connection, m'.Holds (Function.update held (.writer client) (some connection)) := by
  rw [ensureClient]
  cases hheld : held (.writer client) with
  | none =>
    obtain ⟨m', hcreate, hholds⟩ := createClient_spec h hheld
    rw [h.pointers_eq_none_iff.mpr hheld]
    exact ⟨m', hcreate, {}, hholds⟩
  | some connection =>
    obtain ⟨address, hpointer, _⟩ := h.exists_address hheld
    rw [hpointer]
    refine ⟨m, rfl, connection, ?_⟩
    rw [← hheld, Function.update_eq_self]
    exact h

/-- `connect` leaves a structure whose link is up, or throws and leaves none. -/
theorem connect_spec (h : m.Holds held) (client : Fin n) (mAddress : Str) (returnCode : Int) :
    ∃ m', m.connect client mAddress returnCode =
        some (if 0 ≤ returnCode then .ok () else .error (couldNotConnect mAddress), m') ∧
      m'.Holds (Function.update held (.writer client) (if 0 ≤ returnCode then some { linkUp := true } else none)) := by
  obtain ⟨m₁, hmade, connection, hholds₁⟩ := ensureClient_spec h client
  obtain ⟨m₂, hdisconnect, hholds₂⟩ := disconnect_spec hholds₁ client
  rw [Function.update_self, Option.map_some, Function.update_idem] at hholds₂
  obtain ⟨m₃, hconnect, hholds₃⟩ := hholds₂.write (Function.update_self ..) { linkUp := decide (0 ≤ returnCode) }
  rw [Function.update_idem] at hholds₃
  rw [connect, hmade]
  by_cases hcode : 0 ≤ returnCode
  · refine ⟨m₃, ?_, ?_⟩
    · simp only [hdisconnect, hconnect, Option.bind_eq_bind, Option.bind_some, if_neg (not_lt.mpr hcode),
        if_pos hcode]
    · rw [if_pos hcode]
      simpa [hcode] using hholds₃
  · obtain ⟨m₄, hfree, hholds₄⟩ := hholds₃.free (Function.update_self ..)
    rw [Function.update_idem] at hholds₄
    refine ⟨m₄.setNull (.writer client), ?_, ?_⟩
    · simp only [hdisconnect, hconnect, Option.bind_eq_bind, Option.bind_some, if_pos (not_le.mp hcode), hfree,
        if_neg hcode]
    · rw [if_neg hcode]
      exact hholds₄

theorem destroyDataLinkClient_spec (h : m.Holds held) (client : Fin n) :
    ∃ m', m.destroyDataLinkClient client = some m' ∧ m'.Holds (Function.update held (.writer client) none) := by
  obtain ⟨m₁, hdisconnect, hholds⟩ := disconnect_spec h client
  rw [destroyDataLinkClient, hdisconnect]
  show ∃ m', (match m₁.pointers (.writer client) with
    | none => some m₁
    | some _ => (m₁.free (.writer client)).map fun m => m.setNull (.writer client)) = some m' ∧ _
  cases hheld : held (.writer client) with
  | none =>
    rw [hheld, Option.map_none] at hholds
    rw [hholds.pointers_eq_none_iff.mpr (Function.update_self ..)]
    exact ⟨m₁, rfl, hholds⟩
  | some connection =>
    rw [hheld, Option.map_some] at hholds
    obtain ⟨address, hpointer, _⟩ := hholds.exists_address (Function.update_self ..)
    obtain ⟨m₂, hfree, hholds₂⟩ := hholds.free (Function.update_self ..)
    rw [Function.update_idem] at hholds₂
    rw [hpointer, hfree]
    exact ⟨_, rfl, hholds₂⟩

theorem dlWrite_spec (h : m.Holds held) {connection : Connection} (hheld : held (.writer client) = some connection)
    (up : Bool) :
    ∃ m', m.dlWrite client up = some m' ∧
      m'.Holds (Function.update held (.writer client) (some { linkUp := connection.linkUp && up })) := by
  obtain ⟨m', hwrite, hholds⟩ := h.write hheld { linkUp := connection.linkUp && up }
  refine ⟨m', ?_, hholds⟩
  rw [dlWrite, h.read, hheld]
  exact hwrite

theorem useSEEDLink_eq (h : m.Holds held) (hheld : held .seedLink ≠ none) : m.useSEEDLink = some m := by
  obtain ⟨connection, hconnection⟩ := Option.ne_none_iff_exists'.mp hheld
  rw [useSEEDLink, h.read, hconnection]
  rfl

theorem terminate_eq (h : m.Holds held) : m.terminate = some m := by
  rw [terminate]
  cases hpointer : m.pointers .seedLink with
  | none => rfl
  | some address =>
    refine useSEEDLink_eq h fun hnone => ?_
    rw [h.pointers_eq_none_iff.mpr hnone] at hpointer
    cases hpointer

theorem disconnectSEEDLink_spec (h : m.Holds held) :
    ∃ m', m.disconnectSEEDLink = some m' ∧ m'.Holds (Function.update held .seedLink none) := by
  rw [disconnectSEEDLink]
  cases hheld : held .seedLink with
  | none =>
    rw [h.pointers_eq_none_iff.mpr hheld]
    refine ⟨m, rfl, ?_⟩
    rw [← hheld, Function.update_eq_self]
    exact h
  | some connection =>
    obtain ⟨address, hpointer, _⟩ := h.exists_address hheld
    obtain ⟨m', hfree, hholds⟩ := h.free hheld
    rw [hpointer]
    refine ⟨m'.setNull .seedLink, ?_, hholds⟩
    simp [useSEEDLink_eq h (by simp [hheld]), hfree]

section

variable {options : ProgramOptions} {returnCode : Fin options.dataLinkClientOptions.length → Int}
  (answers : InitializeAnswers)

variable {answers}

end

end Connections

end USEEDLinkToRingServer
