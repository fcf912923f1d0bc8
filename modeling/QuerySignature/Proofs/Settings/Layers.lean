import QuerySignature.Proofs.Json.Keyed
import QuerySignature.Proofs.Settings.Atomic

/-!
# Proofs/Settings/Layers — which layer a setting comes from

The environment overrides the standard values, and the first settings file that is JSON overrides both, one setting
at a time.  Settings can be had exactly if each ceiling of the environment is a numeral and the ceilings fit behind
either layer; a setting is then the one of the last layer that gives it, and the settings as a document make any
settings like themselves (`Settings.load_layered`).
-/

namespace QuerySignature

/-- A value is used if there is one. -/
theorem bind_eq_ok {ε α β : Type} {value : Except ε α} {next : α → Except ε β} {b : β} :
    value >>= next = .ok b ↔ ∃ a, value = .ok a ∧ next a = .ok b := by
  cases value <;> simp [bind, Except.bind]

/-- Values that are read one by one, each exactly if it is of a kind. -/
theorem mapM_eq_ok_iff {ε α β : Type} {write : α → Except ε β} {p : α → Prop} {form : α → β}
    (exact : ∀ a b, write a = .ok b ↔ p a ∧ b = form a) {list : List α} {found : List β} :
    list.mapM write = .ok found ↔ (∀ a ∈ list, p a) ∧ found = list.map form := by
  induction list generalizing found with
  | nil => simp [pure, Except.pure, eq_comm]
  | cons a list ih =>
    simp only [List.mapM_cons, bind_eq_ok, exact, ih, List.forall_mem_cons, List.map_cons]
    constructor
    · rintro ⟨_, ⟨first, rfl⟩, _, ⟨others, rfl⟩, same⟩
      exact ⟨⟨first, others⟩, (Except.ok.inj same).symm⟩
    · rintro ⟨⟨first, others⟩, rfl⟩
      exact ⟨_, ⟨first, rfl⟩, _, ⟨others, rfl⟩, rfl⟩

/-! ## Ceilings -/

namespace Limits

theorem positive?_eq_some {value : Json} {n : { n : Nat // 0 < n }} :
    positive? value = some n ↔ value = .int n.1 := by
  obtain ⟨n, pos⟩ := n
  constructor
  · intro h
    unfold positive? at h
    split at h <;> cases h
    rfl
  · rintro rfl
    obtain ⟨m, rfl⟩ := Nat.exists_eq_succ_of_ne_zero (Nat.ne_of_gt pos)
    rfl

theorem ceiling_eq_ok {field : Field} {value : Json} {n : { n : Nat // 0 < n }} :
    ceiling field value = .ok n ↔ value = .int n.1 := by
  rw [← positive?_eq_some, ceiling]
  cases positive? value <;> simp

/-- **The limits that values make** are the values. -/
theorem check_eq_ok {values : Field → Json} {limits : Limits} :
    check values = .ok limits ↔ ∀ field, values field = .int (limits.get field) := by
  simp only [check, bind_eq_ok, ceiling_eq_ok]
  constructor
  · rintro ⟨depth, depth_eq, length, length_eq, tokens, tokens_eq, made⟩
    split at made <;> cases made
    rintro (_ | _ | _)
    exacts [depth_eq, length_eq, tokens_eq]
  · intro values_eq
    exact ⟨⟨_, limits.maxDepth_pos⟩, values_eq .maxDepth, ⟨_, limits.maxInputLength_pos⟩, values_eq .maxInputLength,
      ⟨_, limits.maxTokens_pos⟩, values_eq .maxTokens, dif_pos limits.maxDepth_le⟩

theorem Field.key_injective : Function.Injective Field.key := by
  rintro (_ | _ | _) (_ | _ | _) same <;> first | rfl | exact absurd same (by decide)

theorem Field.mem_all (field : Field) : field ∈ Field.all := by
  cases field <;> decide

/-- What a ceiling looks up in members of ceilings. -/
theorem lookup_filterMap_key (values : Field → Option Json) (field : Field) (fields : List Field) :
    Json.lookup field.key (fields.filterMap fun other => (values other).map (other.key, ·)) =
      if field ∈ fields then values field else none := by
  induction fields with
  | nil => rfl
  | cons other rest ih =>
    rw [List.filterMap_cons]
    cases given : values other with
    | none =>
      simp only [Option.map_none, ih, List.mem_cons]
      by_cases same : field = other
      · simp [same, given]
      · simp [same]
    | some value =>
      simp only [Option.map_some, Json.lookup_cons, ih, Field.key_injective.eq_iff, List.mem_cons]
      by_cases same : field = other
      · simp [same, given]
      · simp [same, Ne.symm same]

/-- **The values fit**: each is a positive integer, and the depth is not beyond what is supported. -/
structure Fit (values : Field → Json) : Prop where
  positive : ∀ field, ∃ n : Nat, 0 < n ∧ values field = .int n
  depth : ∀ n : Int, values .maxDepth = .int n → n ≤ deepest

theorem fit_of_eq {values : Field → Json} (limits : Limits) (h : ∀ field, values field = .int (limits.get field)) :
    Fit values where
  positive field := by
    refine ⟨limits.get field, ?_, h field⟩
    cases field
    exacts [limits.maxDepth_pos, limits.maxInputLength_pos, limits.maxTokens_pos]
  depth n given := by
    cases given.symm.trans (h .maxDepth)
    exact Int.ofNat_le.mpr limits.maxDepth_le

/-- **Values that fit are limits.** -/
theorem Fit.exists_eq {values : Field → Json} (fit : Fit values) :
    ∃ limits : Limits, ∀ field, values field = .int (limits.get field) := by
  choose n pos values_eq using fit.positive
  refine ⟨⟨n .maxDepth, n .maxInputLength, n .maxTokens, pos _, pos _, pos _, ?_⟩, ?_⟩
  · exact Int.ofNat_le.mp (fit.depth _ (values_eq .maxDepth))
  · rintro (_ | _ | _) <;> exact values_eq _

/-- Limits are known by their ceilings. -/
theorem ext_get {limits limits' : Limits} (h : ∀ field, limits.get field = limits'.get field) : limits = limits' := by
  cases limits
  cases limits'
  obtain rfl := h .maxDepth
  obtain rfl := h .maxInputLength
  obtain rfl := h .maxTokens
  rfl

end Limits

namespace Settings

open Limits (Field Fit)

variable {world : World} {settings before after : Settings} {document : Json}

/-! ## The layers -/

/-- **A place where a settings file may be.** -/
inductive Place where
  | home
  | working
  /-- Where the environment says. -/
  | named

/-- Every place, the one that is asked first in front. -/
def Place.all : List Place := [home, working, named]

/-- The text of the file at a place, if there is a file.  A file that cannot be opened or decoded counts as one whose
text is not JSON. -/
def Place.text? (world : World) : Place → Option Text
  | home => world.file? ⟨.home, [".sparqlmeta".toList, "config.json".toList]⟩
  | working => world.file? ⟨.working, ["sparqlmeta.json".toList]⟩
  | named =>
    match world.valueOf "SPARQLMETA_CONFIG_FILE".toList with
    | some (c :: name) => (world.read (Location.tidied (c :: name))).toOption
    | _ => none

/-- The document that a text writes, if it is JSON. -/
def documentOf? (text : Text) : Option Json := (Json.parse .lenient text).toOption

/-- **The file document**: the one of the first place whose file is JSON. -/
def fileDocument? (world : World) : Option Json :=
  Place.all.findSome? fun place => (place.text? world).bind documentOf?

/-- **A document of the shape that settings have**: an object, whose parts are objects if it has them, with no
operational key but the log level and those without a meaning. -/
structure Shaped (document : Json) : Prop where
  object : ∃ fields, document = .object fields
  limits : ∀ part, document.get? "limits".toList = some part → ∃ members, part = .object members
  operational : ∀ part, document.get? "operational".toList = some part → ∃ members, part = .object members ∧
    ∀ member ∈ members, member.1 = "log_level".toList ∨ OperationalKey.ofText? member.1 = none

/-- The value of a ceiling in a document. -/
def limitIn? (document : Json) (field : Field) : Option Json :=
  (document.get? "limits".toList).bind (·.get? field.key)

/-- The log level of a document. -/
def levelIn? (document : Json) : Option Json :=
  (document.get? "operational".toList).bind (·.get? "log_level".toList)

/-- Each ceiling that the environment sets is a numeral. -/
def Numerals (world : World) : Prop :=
  ∀ field raw, world.valueOf (variableOf field) = some raw → ∃ n, Text.integer? raw = some n

/-- **A ceiling behind the environment**: the numeral of its variable, or else its standard value. -/
def environmentLimit (world : World) (field : Field) : Json :=
  .int (((world.valueOf (variableOf field)).bind Text.integer?).getD (Limits.standard.get field))

/-- **A ceiling behind the file**: the value of the file document, or else that of the environment. -/
def fileLimit (world : World) (field : Field) : Json :=
  ((fileDocument? world).bind (limitIn? · field)).getD (environmentLimit world field)

/-- The log level behind the environment. -/
def environmentLevel (world : World) : Json :=
  .string ((world.valueOf "SPARQLMETA_LOG_LEVEL".toList).getD "WARNING".toList)

/-- The log level behind the file. -/
def fileLevel (world : World) : Json :=
  ((fileDocument? world).bind levelIn?).getD (environmentLevel world)

/-! ## Steps that succeed -/

/-- One change behind another. -/
theorem updating_bind_eq_ok {α β : Type} {first : EStateM Fault Settings α} {next : α → EStateM Fault Settings β}
    {b : β} : (first >>= next) before = .ok b after ↔
      ∃ a between, first before = .ok a between ∧ next a between = .ok b after := by
  simp only [bind, EStateM.bind]
  cases first before <;> simp

theorem raised_bind_eq_ok {α β : Type} {value : Except Fault α} {next : α → EStateM Fault Settings β} {b : β} :
    (raised value >>= next) before = .ok b after ↔ ∃ a, value = .ok a ∧ next a before = .ok b after := by
  cases value with
  | ok a =>
    change next a before = _ ↔ _
    simp
  | error => exact ⟨nofun, nofun⟩

/-- **Overridden limits**: each ceiling is the one of its member, or stays. -/
theorem updateLimits_eq_ok {members : List (Text × Json)} : updateLimits members before = .ok () after ↔
    (∀ field, (Json.lookup field.key members).getD (.int (before.limits.get field)) =
      .int (after.limits.get field)) ∧ after.logLevel = before.logLevel := by
  rw [← Limits.check_eq_ok]
  change (raised ((before.limits.overridden members).mapError .limits) >>= _) before = _ ↔ _
  rw [raised_bind_eq_ok, Limits.overridden]
  constructor
  · rintro ⟨limits, made, same⟩
    cases checked : Limits.check _ <;> rw [checked] at made <;> cases made
    cases same
    exact ⟨rfl, rfl⟩
  · rintro ⟨made, level⟩
    refine ⟨after.limits, by rw [made]; rfl, ?_⟩
    obtain ⟨limits, _⟩ := after
    subst level
    rfl

/-- Settings that stay have the same values. -/
theorem pure_eq_ok : (pure () : Updating) before = .ok () after ↔
    (∀ field, Json.int (before.limits.get field) = .int (after.limits.get field)) ∧
      after.logLevel = before.logLevel := by
  obtain ⟨limits, level⟩ := before
  obtain ⟨limits', level'⟩ := after
  constructor
  · rintro ⟨⟩
    exact ⟨fun _ => rfl, rfl⟩
  · rintro ⟨same, rfl⟩
    obtain rfl : limits = limits' := Limits.ext_get fun field => Int.ofNat.inj (Json.int.inj (same field))
    rfl

/-! ### The environment -/

/-- A ceiling in the environment is a numeral if it is set. -/
theorem fromVariable_eq_ok {field : Field} {member : Option (Text × Json)} : fromVariable world field = .ok member ↔
    (∀ raw, world.valueOf (variableOf field) = some raw → ∃ n, Text.integer? raw = some n) ∧
      member = (((world.valueOf (variableOf field)).bind Text.integer?).map .int).map (field.key, ·) := by
  unfold fromVariable
  cases set : world.valueOf (variableOf field) with
  | none => simp [eq_comm]
  | some raw => cases numeral : Text.integer? raw <;> simp [numeral, eq_comm]

/-- The members that the environment gives. -/
def environmentMembers (world : World) : List (Text × Json) :=
  Field.all.filterMap fun field =>
    (((world.valueOf (variableOf field)).bind Text.integer?).map .int).map (field.key, ·)

/-- **The ceilings behind the environment.** -/
theorem updateLimits_environmentMembers : updateLimits (environmentMembers world) .standard = .ok () after ↔
    (∀ field, environmentLimit world field = .int (after.limits.get field)) ∧
      after.logLevel = standard.logLevel := by
  rw [updateLimits_eq_ok]
  refine and_congr_left' (forall_congr' fun field => ?_)
  rw [environmentMembers, Limits.lookup_filterMap_key (fun field =>
    ((world.valueOf (variableOf field)).bind Text.integer?).map .int), if_pos field.mem_all, environmentLimit]
  exact Eq.congr_left (Option.getD_map Json.int _ _)

/-- **The settings behind the environment.** -/
theorem updateFromEnvironment_eq_ok : updateFromEnvironment world .standard = .ok () after ↔
    Numerals world ∧ (∀ field, environmentLimit world field = .int (after.limits.get field)) ∧
      after.logLevel = environmentLevel world := by
  have members : (Field.all.map fun field =>
      (((world.valueOf (variableOf field)).bind Text.integer?).map .int).map (field.key, ·)).filterMap id =
        environmentMembers world := List.filterMap_map
  unfold updateFromEnvironment environmentLevel
  rw [raised_bind_eq_ok]
  simp only [mapM_eq_ok_iff fun _ _ => fromVariable_eq_ok, updating_bind_eq_ok]
  constructor
  · rintro ⟨_, ⟨numerals, rfl⟩, ⟨⟩, between, limited, leveled⟩
    rw [members, updateLimits_environmentMembers] at limited
    obtain ⟨limits, level⟩ := limited
    refine ⟨fun field => numerals field field.mem_all, ?_⟩
    cases given : world.valueOf "SPARQLMETA_LOG_LEVEL".toList <;> rw [given] at leveled <;> cases leveled
    · exact ⟨limits, level⟩
    · exact ⟨limits, rfl⟩
  · rintro ⟨numerals, limits, level⟩
    refine ⟨_, ⟨fun field _ => numerals field, rfl⟩, (), ⟨after.limits, standard.logLevel⟩, ?_, ?_⟩
    · rw [members, updateLimits_environmentMembers]
      exact ⟨limits, rfl⟩
    · obtain ⟨limits, _⟩ := after
      subst level
      cases world.valueOf "SPARQLMETA_LOG_LEVEL".toList <;> rfl

/-! ### A document -/

/-- **The log level behind operational members**: the last one that they give, or the one before. -/
theorem updateOperational_eq {members : List (Text × Json)} (once : (members.map Prod.fst).Nodup)
    (plain : ∀ member ∈ members, member.1 = "log_level".toList ∨ OperationalKey.ofText? member.1 = none) :
    updateOperational members before = .ok ()
      { before with logLevel := (Json.lookup "log_level".toList members).getD before.logLevel } := by
  induction members generalizing before with
  | nil => rfl
  | cons member rest ih =>
    obtain ⟨key, value⟩ := member
    obtain ⟨first, others⟩ := List.forall_mem_cons.mp plain
    rw [List.map_cons, List.nodup_cons] at once
    change (updateOperationalMember (key, value) >>= fun _ => updateOperational rest) before = _
    rw [updating_bind_eq_ok, Json.lookup_cons]
    obtain rfl | meaningless := first
    · -- the log level is not in the rest, so it stays
      have absent : Json.lookup "log_level".toList rest = none := by
        rw [Option.eq_none_iff_forall_ne_some]
        intro value found
        exact once.1 (List.mem_map.mpr ⟨_, (Json.lookup_eq_some_iff once.2).mp found, rfl⟩)
      refine ⟨(), { before with logLevel := value }, rfl, ?_⟩
      rw [ih once.2 others, absent]
      rfl
    · have other : key ≠ "log_level".toList := by
        rintro rfl
        cases meaningless
      refine ⟨(), before, ?_, ?_⟩
      · simp only [updateOperationalMember, meaningless]
        rfl
      · rw [ih once.2 others, if_neg other]

/-- The part of a document. -/
theorem part?_eq (shaped : Shaped document) (key : Text) : part? key document = .ok (document.get? key) := by
  obtain ⟨fields, rfl⟩ := shaped.object
  rfl

/-- **The ceilings behind a document**: each is the one that the document gives, or stays. -/
theorem limitsPart_eq_ok (shaped : Shaped document) : limitsPart document before = .ok () after ↔
    (∀ field, (limitIn? document field).getD (.int (before.limits.get field)) = .int (after.limits.get field)) ∧
      after.logLevel = before.logLevel := by
  rw [limitsPart, raised_bind_eq_ok, part?_eq shaped]
  unfold limitIn?
  simp only [Except.ok.injEq, exists_eq_left']
  cases given : document.get? "limits".toList with
  | none => exact pure_eq_ok
  | some part =>
    obtain ⟨members, rfl⟩ := shaped.limits part given
    exact updateLimits_eq_ok

/-- No key of the operational part stands twice. -/
def OperationalOnce (document : Json) : Prop :=
  ∀ members, document.get? "operational".toList = some (.object members) → (members.map Prod.fst).Nodup

/-- **The log level behind a document**: the one that the document gives, or the one before. -/
theorem operationalPart_eq (shaped : Shaped document) (once : OperationalOnce document) :
    operationalPart document before =
      .ok () { before with logLevel := (levelIn? document).getD before.logLevel } := by
  rw [operationalPart, raised_bind_eq_ok, part?_eq shaped]
  refine ⟨_, rfl, ?_⟩
  unfold levelIn?
  cases given : document.get? "operational".toList with
  | none => rfl
  | some part =>
    obtain ⟨members, rfl, plain⟩ := shaped.operational part given
    exact updateOperational_eq (once members given) plain

/-- **The settings behind a document.** -/
theorem update_eq_ok (shaped : Shaped document) (once : OperationalOnce document) :
    update document before = .ok () after ↔
      (∀ field, (limitIn? document field).getD (.int (before.limits.get field)) = .int (after.limits.get field)) ∧
        after.logLevel = (levelIn? document).getD before.logLevel := by
  simp only [update_eq, updating_bind_eq_ok, operationalPart_eq shaped once, limitsPart_eq_ok shaped]
  constructor
  · rintro ⟨-, between, ⟨limits, level⟩, ⟨⟩⟩
    exact ⟨limits, level ▸ rfl⟩
  · rintro ⟨limits, level⟩
    refine ⟨(), ⟨after.limits, before.logLevel⟩, ⟨limits, rfl⟩, ?_⟩
    rw [← level]

/-! ### Files -/

/-- The files that are asked are those at the places, in their order. -/
theorem candidates_eq (world : World) : candidates world = Place.all.filterMap (Place.text? world) := by
  have named : namedFile? world = Place.named.text? world := by
    unfold namedFile? Place.text?
    rcases world.valueOf "SPARQLMETA_CONFIG_FILE".toList with _ | _ | _ <;> rfl
  calc candidates world
    _ = [Place.home, .working].filterMap (Place.text? world) ++ (Place.named.text? world).toList := by
      rw [candidates, named]
      rfl
    _ = [Place.home, .working].filterMap (Place.text? world) ++ [Place.named].filterMap (Place.text? world) := by
      cases given : Place.named.text? world <;> simp [given]
    _ = Place.all.filterMap (Place.text? world) := List.filterMap_append.symm

/-- The first document among texts. -/
theorem firstDocument_fst (texts : List Text) : (firstDocument texts).1 = texts.findSome? documentOf? := by
  induction texts with
  | nil => rfl
  | cons text rest ih =>
    unfold firstDocument
    rw [List.findSome?_cons, documentOf?]
    cases Json.parse .lenient text with
    | ok document => rfl
    | error fault => exact ih

/-- **The document that is applied** is the file document. -/
theorem firstDocument_candidates (world : World) : (firstDocument (candidates world)).1 = fileDocument? world := by
  rw [firstDocument_fst, candidates_eq, ← List.head?_filterMap, List.filterMap_filterMap, List.head?_filterMap]
  rfl

/-- No key of a file document stands twice. -/
theorem operationalOnce_of_fileDocument? (h : fileDocument? world = some document) : OperationalOnce document := by
  intro members given
  obtain ⟨place, -, found⟩ := List.exists_of_findSome?_eq_some h
  obtain ⟨text, -, parsed⟩ := Option.bind_eq_some_iff.mp found
  unfold documentOf? at parsed
  cases written : Json.parse .lenient text <;> rw [written] at parsed <;> cases parsed
  exact ((Json.keyed_of_parse written).get? given).members.once

/-- A change that gives a count. -/
theorem counting_eq_ok (change : Updating) {count failures : Nat} :
    (change >>= fun _ => pure count) before = .ok failures after ↔ change before = .ok () after ∧ failures = count := by
  rw [updating_bind_eq_ok]
  constructor
  · rintro ⟨⟨⟩, between, applied, ⟨⟩⟩
    exact ⟨applied, rfl⟩
  · rintro ⟨applied, rfl⟩
    exact ⟨(), after, applied, rfl⟩

/-- **The settings behind the files**: each is the one that the file document gives, or stays. -/
theorem updateFromFiles_eq_ok (shaped : ∀ document, fileDocument? world = some document → Shaped document)
    {failures : Nat} : updateFromFiles world before = .ok failures after ↔
      ((∀ field, ((fileDocument? world).bind (limitIn? · field)).getD (.int (before.limits.get field)) =
          .int (after.limits.get field)) ∧
        after.logLevel = ((fileDocument? world).bind levelIn?).getD before.logLevel) ∧
      failures = (firstDocument (candidates world)).2 := by
  have first := firstDocument_candidates world
  unfold updateFromFiles
  generalize firstDocument (candidates world) = found at first ⊢
  obtain ⟨found, count⟩ := found
  obtain rfl : found = fileDocument? world := first
  cases given : fileDocument? world with
  | none => exact (counting_eq_ok (pure ())).trans (and_congr_left' pure_eq_ok)
  | some document =>
    exact (counting_eq_ok _).trans
      (and_congr_left' (update_eq_ok (shaped document given) (operationalOnce_of_fileDocument? given)))

/-! ## Every layer -/

/-- **The settings of a world** whose file document has the shape of settings. -/
theorem load_eq_ok (shaped : ∀ document, fileDocument? world = some document → Shaped document) {failures : Nat} :
    load world = .ok (settings, failures) ↔
      Numerals world ∧ Fit (environmentLimit world) ∧
        (∀ field, fileLimit world field = .int (settings.limits.get field)) ∧
        settings.logLevel = fileLevel world ∧ failures = (firstDocument (candidates world)).2 := by
  have run : load world = .ok (settings, failures) ↔ updateFromWorld world .standard = .ok failures settings := by
    unfold load loadOver
    cases updateFromWorld world .standard <;> simp [and_comm]
  rw [run, updateFromWorld, updating_bind_eq_ok]
  constructor
  · rintro ⟨⟨⟩, between, environment, files⟩
    obtain ⟨numerals, limits, level⟩ := updateFromEnvironment_eq_ok.mp environment
    obtain ⟨⟨limits', level'⟩, rfl⟩ := (updateFromFiles_eq_ok shaped).mp files
    refine ⟨numerals, Limits.fit_of_eq _ limits, fun field => ?_, ?_, rfl⟩
    · rw [← limits' field, ← limits field, fileLimit]
    · rw [level', level, fileLevel]
  · rintro ⟨numerals, fit, limits', level', rfl⟩
    obtain ⟨limits, limits_eq⟩ := fit.exists_eq
    refine ⟨(), ⟨limits, environmentLevel world⟩, updateFromEnvironment_eq_ok.mpr ⟨numerals, limits_eq, rfl⟩,
      (updateFromFiles_eq_ok shaped).mpr ⟨⟨fun field => ?_, level'⟩, rfl⟩⟩
    rw [← limits' field, ← limits_eq field, fileLimit]

/-! ## Settings as a document -/

theorem shaped_toJson (settings : Settings) : Shaped settings.toJson where
  object := ⟨_, rfl⟩
  limits := by
    rintro _ ⟨⟩
    exact ⟨_, rfl⟩
  operational := by
    rintro _ ⟨⟩
    exact ⟨_, rfl, List.forall_mem_singleton.mpr (.inl rfl)⟩

theorem limitIn?_toJson (settings : Settings) (field : Field) :
    limitIn? settings.toJson field = some (.int (settings.limits.get field)) := by
  cases field <;> rfl

theorem levelIn?_toJson (settings : Settings) : levelIn? settings.toJson = some settings.logLevel := rfl

/-- **Settings as a document make any settings like themselves.** -/
theorem update_toJson (settings before : Settings) :
    ∃ after, update settings.toJson before = .ok () after ∧ after.toJson = settings.toJson := by
  refine ⟨settings, ?_, rfl⟩
  have once : OperationalOnce settings.toJson := by
    rintro _ ⟨⟩
    exact List.nodup_singleton _
  rw [update_eq_ok (shaped_toJson settings) once]
  simp [limitIn?_toJson, levelIn?_toJson]

/-! ## What a program gets -/

/-- **Layers of settings.**  Let the file document, if there is one, have the shape of settings.  Then settings can be
had exactly if each ceiling that the environment sets is a numeral and the ceilings fit, both behind the environment
and behind the file.  Each ceiling and the log level is the one of the file document if it gives one, else that of the
environment, else the standard one, whatever other keys there are; and as a document these settings make any settings
like themselves. -/
theorem load_layered (world : World) (shaped : ∀ document, fileDocument? world = some document → Shaped document) :
    ((∃ loaded, load world = .ok loaded) ↔
        Numerals world ∧ Fit (environmentLimit world) ∧ Fit (fileLimit world)) ∧
      ∀ settings failures, load world = .ok (settings, failures) →
        (∀ field, .int (settings.limits.get field) = fileLimit world field) ∧
        settings.logLevel = fileLevel world ∧
        ∀ before, ∃ after, update settings.toJson before = .ok () after ∧ after.toJson = settings.toJson := by
  refine ⟨⟨?_, ?_⟩, ?_⟩
  · rintro ⟨⟨settings, failures⟩, loaded⟩
    obtain ⟨numerals, fit, limits, -, -⟩ := (load_eq_ok shaped).mp loaded
    exact ⟨numerals, fit, Limits.fit_of_eq _ limits⟩
  · rintro ⟨numerals, fit, fit'⟩
    obtain ⟨limits, limits_eq⟩ := fit'.exists_eq
    exact ⟨⟨⟨limits, fileLevel world⟩, _⟩, (load_eq_ok shaped).mpr ⟨numerals, fit, limits_eq, rfl, rfl⟩⟩
  · intro settings failures loaded
    obtain ⟨-, -, limits, level, -⟩ := (load_eq_ok shaped).mp loaded
    exact ⟨fun field => (limits field).symm, level, update_toJson settings⟩

/-! ### A file behind one that is not JSON -/

/-- A world with a home file that is not JSON, a working file, a named file and two variables. -/
def layeredWorld : World where
  environment := [("SPARQLMETA_MAX_DEPTH".toList, " 5_0 ".toList), ("SPARQLMETA_MAX_TOKENS".toList, "70".toList),
    ("SPARQLMETA_CONFIG_FILE".toList, "named.json".toList)]
  files := [(⟨.home, [".sparqlmeta".toList, "config.json".toList]⟩, "\x7b\"limits\": ".toList),
    (⟨.working, ["sparqlmeta.json".toList]⟩, ("\x7b\"limits\": \x7b\"max_depth\": 60, \"depth\": null\x7d, " ++
      "\"operational\": \x7b\"level\": 1, \"log_level\": \"INFO\"\x7d\x7d").toList),
    (⟨.working, ["named.json".toList]⟩, "\x7b\"limits\": \x7b\"max_tokens\": 9\x7d\x7d".toList)]
  folders := []

theorem fileDocument?_layeredWorld : fileDocument? layeredWorld = some (.object
    [("limits".toList, .object [("max_depth".toList, .int 60), ("depth".toList, .null)]),
      ("operational".toList, .object [("level".toList, .int 1), ("log_level".toList, .string "INFO".toList)])]) :=
  rfl

theorem shaped_layeredWorld (h : fileDocument? layeredWorld = some document) : Shaped document := by
  rw [fileDocument?_layeredWorld] at h
  cases h
  refine ⟨⟨_, rfl⟩, ?_, ?_⟩
  · rintro _ ⟨⟩
    exact ⟨_, rfl⟩
  · rintro _ ⟨⟩
    exact ⟨_, rfl, List.forall_mem_cons.mpr ⟨.inr rfl, List.forall_mem_singleton.mpr (.inl rfl)⟩⟩

/-- The depth is the one of the working file, the number of tokens that of the environment. -/
theorem load_layered_skipped : (∀ document, fileDocument? layeredWorld = some document → Shaped document) ∧
    (∃ loaded, load layeredWorld = .ok loaded) ∧
    ∀ settings failures, load layeredWorld = .ok (settings, failures) →
      settings.limits.maxDepth = 60 ∧ settings.limits.maxTokens = 70 ∧ settings.logLevel = .string "INFO".toList := by
  obtain ⟨exact, of⟩ := load_layered layeredWorld fun _ => shaped_layeredWorld
  refine ⟨fun _ => shaped_layeredWorld, exact.mpr ⟨?_, ?_, ?_⟩, fun settings failures loaded => ?_⟩
  · rintro (_ | _ | _) raw given <;> cases given
    exacts [⟨50, rfl⟩, ⟨70, rfl⟩]
  · refine Limits.fit_of_eq { maxDepth := 50, maxInputLength := 1000000, maxTokens := 70 } ?_
    rintro (_ | _ | _) <;> rfl
  · refine Limits.fit_of_eq { maxDepth := 60, maxInputLength := 1000000, maxTokens := 70 } ?_
    rintro (_ | _ | _) <;> rfl
  · obtain ⟨limits, level, -⟩ := of settings failures loaded
    have depth : Json.int settings.limits.maxDepth = .int 60 := limits .maxDepth
    have tokens : Json.int settings.limits.maxTokens = .int 70 := limits .maxTokens
    exact ⟨Int.ofNat.inj (Json.int.inj depth), Int.ofNat.inj (Json.int.inj tokens), level⟩

end Settings

end QuerySignature
