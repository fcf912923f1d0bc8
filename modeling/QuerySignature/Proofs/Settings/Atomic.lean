import QuerySignature.Settings.Store

/-!
# Proofs/Settings/Atomic — what a call that raises leaves

A program asks for its shared settings (`Storing.shared`) or makes them anew (`Storing.init`).  A call that raises
leaves the store as it was, with one exception: `init` shares the settings of the layers before it reads the file that
it is given, so if this file is at fault these settings stay, with what the file gives in front of its fault
(`Store.run_raised`).
-/

namespace QuerySignature

namespace Settings

variable {α β : Type} {fault : Fault} {settings settings' : Settings}

/-! ## Steps that change all or nothing -/

/-- **A change is atomic**: if it raises, it has changed nothing. -/
def Atomic (change : EStateM Fault Settings α) : Prop :=
  ∀ ⦃fault settings settings'⦄, change settings = .error fault settings' → settings' = settings

namespace Atomic

theorem pure (a : α) : Atomic (Pure.pure a) := nofun

theorem throw (fault : Fault) : Atomic (throw fault : EStateM Fault Settings α) := by
  rintro _ settings _ ⟨⟩
  rfl

/-- A value that is raised or used. -/
theorem raised {value : Except Fault α} {next : α → EStateM Fault Settings β} (h : ∀ a, Atomic (next a)) :
    Atomic (Settings.raised value >>= next) := by
  cases value with
  | ok a => exact h a
  | error fault => exact throw fault

/-- What is there is used. -/
theorem get {next : Settings → EStateM Fault Settings β} (h : ∀ settings, Atomic (next settings)) :
    Atomic (MonadStateOf.get >>= next) :=
  fun _ settings _ raises => h settings raises

end Atomic

theorem updateLimits_atomic (members : List (Text × Json)) : Atomic (updateLimits members) :=
  .get fun _ => .raised fun _ => nofun

/-- **A member of the operational part** is applied, or nothing is. -/
theorem updateOperationalMember_atomic (member : Text × Json) : Atomic (updateOperationalMember member) := by
  unfold updateOperationalMember
  split
  · exact .pure ()
  · exact nofun
  · split
    · exact nofun
    · exact .throw _
  · exact .throw _
  · exact .throw _

/-! ## Documents -/

/-- Applies the limits of a document. -/
def limitsPart (document : Json) : Updating := do
  match ← raised (part? "limits".toList document) with
  | some part => updateLimits (← raised (members part))
  | none => pure ()

/-- Applies the operational part of a document. -/
def operationalPart (document : Json) : Updating := do
  match ← raised (part? "operational".toList document) with
  | some part => updateOperational (← raised (members part))
  | none => pure ()

/-- A document is its limits, then its operational part. -/
theorem update_eq (document : Json) : update document = (do limitsPart document; operationalPart document) := by
  unfold update limitsPart
  rw [bind_assoc]
  refine bind_congr fun found => ?_
  cases found with
  | none => rfl
  | some part => exact (bind_assoc _ _ _).symm

/-- **Limits are applied together**, or none is. -/
theorem limitsPart_atomic (document : Json) : Atomic (limitsPart document) := by
  refine .raised fun found => ?_
  cases found with
  | none => exact .pure ()
  | some part => exact .raised fun fields => updateLimits_atomic fields

/-- One change behind another raises in the first or in the second. -/
theorem bind_error {first : EStateM Fault Settings α} {next : α → EStateM Fault Settings β}
    (h : (first >>= next) settings = .error fault settings') :
    first settings = .error fault settings' ∨
      ∃ a between, first settings = .ok a between ∧ next a between = .error fault settings' := by
  simp only [bind, EStateM.bind] at h
  split at h
  · next a between found => exact .inr ⟨a, between, found, h⟩
  · next fault' between found =>
    cases h
    exact .inl found

/-- **Members are applied one by one**, up to the one that is at fault. -/
theorem updateOperational_error {members : List (Text × Json)}
    (h : updateOperational members settings = .error fault settings') :
    ∃ done bad rest, members = done ++ bad :: rest ∧ updateOperational done settings = .ok () settings' ∧
      updateOperationalMember bad settings' = .error fault settings' := by
  induction members generalizing settings with
  | nil => cases h
  | cons member rest ih =>
    obtain raises | ⟨_, between, applied, further⟩ := bind_error h
    · obtain rfl := updateOperationalMember_atomic member raises
      exact ⟨[], member, rest, rfl, rfl, raises⟩
    · obtain ⟨done, bad, rest, rfl, others, raises⟩ := ih further
      refine ⟨member :: done, bad, rest, rfl, ?_, raises⟩
      change (updateOperationalMember member >>= fun _ => updateOperational done) settings = _
      simp only [bind, EStateM.bind, applied]
      exact others

/-- A value that is at fault changes nothing; else what uses it raises. -/
theorem raised_bind_error {value : Except Fault α} {next : α → EStateM Fault Settings β}
    (h : (raised value >>= next) settings = .error fault settings') :
    settings' = settings ∨ ∃ a, value = .ok a ∧ next a settings = .error fault settings' := by
  cases value with
  | ok a => exact .inr ⟨a, rfl, h⟩
  | error =>
    cases h
    exact .inl rfl

theorem operationalPart_error {document : Json} (h : operationalPart document settings = .error fault settings') :
    settings' = settings ∨ ∃ part fields, part? "operational".toList document = .ok (some part) ∧
      members part = .ok fields ∧ updateOperational fields settings = .error fault settings' := by
  obtain same | ⟨part, found, h⟩ := raised_bind_error h
  · exact .inl same
  cases part with
  | none => cases h
  | some part =>
    obtain same | ⟨fields, given, raises⟩ := raised_bind_error h
    · exact .inl same
    · exact .inr ⟨part, fields, found, given, raises⟩

/-- **What a document at fault leaves** of settings: they are unchanged, or its limits are applied and members of its
operational part up to the one at fault. -/
inductive Left (document : Json) (settings : Settings) (fault : Fault) : Settings → Prop where
  /-- Its limits are at fault. -/
  | unchanged : limitsPart document settings = .error fault settings → Left document settings fault settings
  /-- It has no operational part with members. -/
  | limited {limited : Settings} : limitsPart document settings = .ok () limited →
      operationalPart document limited = .error fault limited → Left document settings fault limited
  /-- A member of its operational part is at fault. -/
  | applied {limited left : Settings} {part : Json} {done rest : List (Text × Json)} {bad : Text × Json} :
      limitsPart document settings = .ok () limited → part? "operational".toList document = .ok (some part) →
      members part = .ok (done ++ bad :: rest) → updateOperational done limited = .ok () left →
      updateOperationalMember bad left = .error fault left → Left document settings fault left

theorem update_error {document : Json} (h : update document settings = .error fault settings') :
    Left document settings fault settings' := by
  rw [update_eq] at h
  obtain raises | ⟨_, limited, applied, raises⟩ := bind_error h
  · obtain rfl := limitsPart_atomic document raises
    exact .unchanged raises
  · obtain rfl | ⟨part, fields, found, given, others⟩ := operationalPart_error raises
    · exact .limited applied raises
    · obtain ⟨done, bad, rest, rfl, before, last⟩ := updateOperational_error others
      exact .applied applied found given before last

/-- **What a file at fault leaves** of settings: they are unchanged if it has no text or is not JSON. -/
inductive FileLeft (world : World) (name : Text) (settings : Settings) (fault : Fault) : Settings → Prop where
  | unread {reason : FileFault} : world.read name = .error reason → fault = .file name reason →
      FileLeft world name settings fault settings
  | notJson {text : Text} {reason : Json.ParseFault} : world.read name = .ok text →
      Json.parse .lenient text = .error reason → fault = .json reason → FileLeft world name settings fault settings
  | document {text : Text} {document : Json} {left : Settings} : world.read name = .ok text →
      Json.parse .lenient text = .ok document → Left document settings fault left →
      FileLeft world name settings fault left

theorem updateFromFile_error {world : World} {name : Text}
    (h : updateFromFile world name settings = .error fault settings') :
    FileLeft world name settings fault settings' := by
  unfold updateFromFile at h
  cases read : world.read name with
  | error reason =>
    rw [read] at h
    cases h
    exact .unread read rfl
  | ok text =>
    rw [read] at h
    cases parsed : Json.parse .lenient text with
    | error reason =>
      change (raised ((Json.parse .lenient text).mapError .json) >>= update) settings = _ at h
      rw [parsed] at h
      cases h
      exact .notJson read parsed rfl
    | ok document =>
      change (raised ((Json.parse .lenient text).mapError .json) >>= update) settings = _ at h
      rw [parsed] at h
      exact .document read parsed (update_error h)

end Settings

/-! ## Calls -/

namespace Store

/-- **A call that shares settings.** -/
inductive Call where
  | get
  | init (name : Option Text)

/-- What the call does. -/
def Call.run : Call → Storing Nat
  | get => Storing.shared
  | init name => Storing.init name

/-- The store behind a call, whether it raises or not. -/
def after (store : Store) (call : Call) : Store :=
  match call.run store with
  | .ok _ store => store
  | .error _ store => store

/-- **The settings that a program gets if it asks for them**: those that are shared, or else those of the world. -/
def asked (store : Store) : Except Settings.Fault Settings :=
  match store.sharedSettings with
  | some settings => .ok settings
  | none => (Settings.load store.world).map Prod.fst

/-- **What a call comes to.**  No call raises behind the making of settings but `init`, at the file that it is
given. -/
inductive Turn (store : Store) : Call → EStateM.Result Settings.Fault Store Nat → Prop where
  | got {settings : Settings} {failures : Nat} {store' : Store} : store.asked = .ok settings →
      store'.asked = .ok settings → store'.current? = some settings → Turn store .get (.ok failures store')
  | refused {call : Call} {fault : Settings.Fault} : Settings.load store.world = .error fault →
      Turn store call (.error fault store)
  | renewed {name : Option Text} {fresh : Settings} {failures : Nat} {store' : Store} :
      Settings.load store.world = .ok (fresh, failures) → name.filter (!·.isEmpty) = none →
      store'.asked = .ok fresh → store'.current? = some fresh → Turn store (.init name) (.ok failures store')
  | filed {file : Text} {fresh settings : Settings} {failures : Nat} {store' : Store} :
      Settings.load store.world = .ok (fresh, failures) →
      Settings.updateFromFile store.world file fresh = .ok () settings → store'.asked = .ok settings →
      store'.current? = some settings → Turn store (.init (some file)) (.ok failures store')
  | left {file : Text} {fresh settings : Settings} {failures : Nat} {fault : Settings.Fault} {store' : Store} :
      Settings.load store.world = .ok (fresh, failures) →
      Settings.updateFromFile store.world file fresh = .error fault settings → store'.asked = .ok settings →
      Turn store (.init (some file)) (.error fault store')

/-- Asking where nothing is shared. -/
theorem shared_none (world : World) (handed : Handed) :
    Storing.shared ⟨world, none, handed⟩ =
      match Settings.load world with
      | .ok (settings, failures) => .ok failures ⟨world, some settings, .shared⟩
      | .error fault => .error fault ⟨world, none, handed⟩ := by
  change (Storing.raised (Settings.load world) >>= _) _ = _
  cases Settings.load world <;> rfl

/-- Making settings anew. -/
theorem init_eq (name : Option Text) (store : Store) :
    Storing.init name store =
      match Settings.load store.world with
      | .error fault => .error fault store
      | .ok (fresh, failures) =>
        match name.filter (!·.isEmpty) with
        | none => .ok failures { store.replaceShared fresh with handed := .shared }
        | some file =>
          match Settings.updateFromFile store.world file fresh with
          | .ok _ settings =>
            .ok failures { store.replaceShared fresh with sharedSettings := some settings, handed := .shared }
          | .error fault settings =>
            .error fault { store.replaceShared fresh with sharedSettings := some settings } := by
  change (Storing.raised (Settings.load store.world) >>= _) store = _
  cases Settings.load store.world with
  | error => rfl
  | ok loaded =>
    obtain ⟨fresh, failures⟩ := loaded
    cases name.filter (!·.isEmpty) with
    | none => rfl
    | some file =>
      change (Storing.updateShared (Settings.updateFromFile store.world file) >>= _) (store.replaceShared fresh) = _
      simp only [bind, EStateM.bind, Storing.updateShared, Store.replaceShared]
      cases Settings.updateFromFile store.world file fresh <;> rfl

theorem turn_get (store : Store) : store.Turn .get (Storing.shared store) := by
  obtain ⟨world, _ | settings, handed⟩ := store
  · rw [shared_none]
    cases load : Settings.load world with
    | error fault => exact .refused load
    | ok loaded => exact .got (congrArg (Except.map Prod.fst) load) rfl rfl
  · exact .got rfl rfl rfl

theorem turn_init (store : Store) (name : Option Text) : store.Turn (.init name) (Storing.init name store) := by
  rw [init_eq]
  cases load : Settings.load store.world with
  | error fault => exact .refused load
  | ok loaded =>
    obtain ⟨fresh, failures⟩ := loaded
    cases given : name.filter (!·.isEmpty) with
    | none => exact .renewed load given rfl rfl
    | some file =>
      obtain ⟨rfl, -⟩ := Option.filter_eq_some_iff.mp given
      dsimp only
      cases applied : Settings.updateFromFile store.world file fresh with
      | ok => exact .filed load applied rfl rfl
      | error => exact .left load applied rfl

/-- **Every call comes to one of these.** -/
theorem turn (store : Store) (call : Call) : store.Turn call (call.run store) := by
  cases call with
  | get => exact store.turn_get
  | init name => exact store.turn_init name

/-! ## Runs -/

/-- What happens to a program: it makes a call, or the world around it changes. -/
inductive Move where
  | call (call : Call)
  | world (world : World)

/-- **The calls of a run**, each with the store in front of it. -/
def calls : Store → List Move → List (Store × Call)
  | _, [] => []
  | store, .call call :: rest => (store, call) :: (store.after call).calls rest
  | store, .world world :: rest => { store with world }.calls rest

/-- **A call that raises, at any place of any run, leaves the store as it was**, but for one case: `init` got settings
from its layers, and the file that it was given is at fault.  Then these settings are asked for from now on, with what
the file gives in front of its fault. -/
theorem run_raised (world : World) (moves : List Move) :
    ∀ turn ∈ (ofWorld world).calls moves, ∀ fault store', turn.2.run turn.1 = .error fault store' →
      store' = turn.1 ∨ ∃ file fresh failures left, turn.2 = .init (some file) ∧
        Settings.load turn.1.world = .ok (fresh, failures) ∧
        Settings.FileLeft turn.1.world file fresh fault left ∧ store'.asked = .ok left := by
  rintro ⟨store, call⟩ - fault store' raises
  have turned := store.turn call
  rw [show call.run store = .error fault store' from raises] at turned
  cases turned with
  | refused => exact .inl rfl
  | left load applied asked => exact .inr ⟨_, _, _, _, rfl, load, Settings.updateFromFile_error applied, asked⟩

/-! ### A file that is missing -/

/-- A world with one settings file, which the layers do not read. -/
def keptWorld : World :=
  ⟨[], [(⟨.working, ["good.json".toList]⟩, "\x7b\"limits\":\x7b\"max_depth\":50\x7d\x7d".toList)], []⟩

/-- The store once the settings of the file are shared. -/
def keptStore : Store :=
  (ofWorld keptWorld).after (.init (some "good.json".toList))

/-- A run that makes settings from the file, then from a file that is missing. -/
def keptMoves : List Move :=
  [.call (.init (some "good.json".toList)), .call (.init (some "missing.json".toList))]

theorem mem_calls_kept : (keptStore, Call.init (some "missing.json".toList)) ∈ (ofWorld keptWorld).calls keptMoves :=
  .tail _ (.head _)

/-- The second call leaves the settings of the layers, and nothing of the file of the first. -/
theorem run_raised_missing :
    ∃ fault store', Storing.init (some "missing.json".toList) keptStore = .error fault store' ∧
      (store' = keptStore ∨ ∃ file fresh failures left, Call.init (some "missing.json".toList) = .init (some file) ∧
        Settings.load keptWorld = .ok (fresh, failures) ∧
        Settings.FileLeft keptWorld file fresh fault left ∧ store'.asked = .ok left) :=
  ⟨_, _, rfl, run_raised keptWorld keptMoves _ mem_calls_kept _ _ rfl⟩

/-- **Not every call that raises keeps what is asked for**: the ceiling of the first file is lost. -/
theorem run_not_atomic :
    ¬∀ (world : World) (moves : List Move), ∀ turn ∈ (ofWorld world).calls moves, ∀ fault store',
      turn.2.run turn.1 = .error fault store' → store'.asked = turn.1.asked := by
  intro atomic
  have same := atomic keptWorld keptMoves _ mem_calls_kept _ _ rfl
  have depth := congrArg (fun asked => asked.toOption.map fun settings => settings.limits.maxDepth) same
  exact absurd (show some 200 = some 50 from depth) (by decide)

end Store

end QuerySignature
