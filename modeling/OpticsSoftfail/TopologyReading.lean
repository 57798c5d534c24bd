import OpticsSoftfail.HealerPolicy

namespace OpticsSoftfail

/-!
# Two readers of one topology mapping

The healer looks paths up in the mapping as `yaml.safe_load` returns it.  The
path manager first copies it into tables, with a default for every entry.  The
mapping below keeps what the two treat differently: whether a key is missing,
null or set.  Each reader is translated on its own, and connected to the
`Topology` the other modules work with.
-/

/-- What the mapping holds under one key. -/
inductive Entry (Value : Type) where
  | absent
  | null
  | present (value : Value)
  deriving Repr, DecidableEq

namespace Entry

variable {Value : Type}

/-- `mapping.get(key)`: a missing key and a null both give `None`. -/
def get? : Entry Value → Option Value
  | .present value => some value
  | _ => none

/-- `mapping.get(key, default)`: the default replaces a missing key only. -/
def getOr (default : Value) : Entry Value → Option Value
  | .absent => some default
  | .null => none
  | .present value => some value

end Entry

/--
One entry below `paths`: absent or null, or of the type that it is configured
with, a list of texts, a text and an integer.
-/
structure PathMapping where
  links : Entry (List String)
  role : Entry String
  capacity : Entry Int
  deriving Repr, DecidableEq

/-- The whole mapping; a link may be protected by a null. -/
structure TopologyMapping where
  paths : Entry (Dict String PathMapping)
  protection : Entry (Dict String (Option String))
  deriving Repr, DecidableEq

/-- `spec.get("links") or []`. -/
def PathMapping.linkList (mapping : PathMapping) : List String :=
  mapping.links.get?.getD []

namespace TopologyMapping

/-- `topology.get("paths") or {}`. -/
def pathMappings (mapping : TopologyMapping) : Dict String PathMapping :=
  mapping.paths.get?.getD Dict.empty

/-- `topology.get("protection") or {}`. -/
def protectionMapping
    (mapping : TopologyMapping) : Dict String (Option String) :=
  mapping.protection.get?.getD Dict.empty

/-- `Healer.working_path_for_link`. -/
def healerWorkingPathForLink
    (mapping : TopologyMapping)
    (linkId : String) : Option String :=
  (mapping.pathMappings.entries.find? fun entry =>
    entry.2.role.get? = some "working" &&
      entry.2.linkList.contains linkId).map Prod.fst

/-- `Healer.protection_path_for_link`. -/
def healerProtectionPathForLink
    (mapping : TopologyMapping)
    (linkId : String) : Option String :=
  (mapping.protectionMapping.get? linkId).join

end TopologyMapping

/-- `str(value)`, where the value may be `None`. -/
def pythonStr : Option String → String
  | none => "None"
  | some text => text

/-- The path built by `TopologyState.__init__`; `int(None)` raises. -/
def PathState.ofMapping? (mapping : PathMapping) : Option PathState :=
  match mapping.capacity.getOr 1 with
  | none => none
  | some capacity =>
      some {
        links := mapping.linkList
        role := pythonStr (mapping.role.getOr "working")
        capacity := capacity
        capacityTotal := capacity
        status :=
          if mapping.role.get? = some "protection" then .standby
          else .active }

/-- The two tables `TopologyState.__init__` fills from the mapping. -/
structure TopologyTables where
  protection : Dict String (Option String)
  paths : Dict String PathState
  deriving Repr, DecidableEq

namespace TopologyTables

/-- `TopologyState.__init__`, which raises when one path cannot be built. -/
def ofMapping? (mapping : TopologyMapping) : Option TopologyTables :=
  (mapping.pathMappings.mapValues? PathState.ofMapping?).map
    fun paths => {
      protection := mapping.protectionMapping
      paths := paths }

/-- `TopologyState.working_path_for_link`. -/
def workingPathForLink
    (tables : TopologyTables)
    (linkId : String) : Option String :=
  (tables.paths.entries.find? fun entry =>
    entry.2.role = "working" && entry.2.links.contains linkId).map Prod.fst

/-- `TopologyState.protection_path_for_link`. -/
def protectionPathForLink
    (tables : TopologyTables)
    (linkId : String) : Option String :=
  (tables.protection.get? linkId).join

end TopologyTables

section Normalised

/-! The mapping as the other modules see it. -/

/-- A missing role stays open; a null role is the text `None`. -/
def PathMapping.spec (mapping : PathMapping) : PathSpec where
  links := mapping.links.get?
  role :=
    match mapping.role with
    | .absent => none
    | .null => some (pythonStr none)
    | .present role => some role
  capacity := mapping.capacity.get?

/-- The mapping with its nulls resolved. -/
def TopologyMapping.topology (mapping : TopologyMapping) : Topology where
  paths := some (mapping.pathMappings.mapValues PathMapping.spec)
  protection := some (mapping.protectionMapping.filterMapValues id)

/-- A path that can be built is the one built from the resolved entry. -/
theorem PathState.ofMapping?_eq_some
    {mapping : PathMapping}
    {stored : PathState}
    (built : PathState.ofMapping? mapping = some stored) :
    stored = PathState.ofSpec mapping.spec := by
  rcases mapping with ⟨links, role, capacity⟩
  cases capacity with
  | null =>
      simp [PathState.ofMapping?, Entry.getOr] at built
  | absent =>
      cases role with
      | absent =>
          cases built
          rfl
      | null =>
          cases built
          rfl
      | present text =>
          cases built
          rfl
  | present capacity =>
      cases role with
      | absent =>
          cases built
          rfl
      | null =>
          cases built
          rfl
      | present text =>
          cases built
          rfl

/-- Only a null capacity keeps a path from being built. -/
theorem PathState.ofMapping?_isSome_iff
    {mapping : PathMapping} :
    (PathState.ofMapping? mapping).isSome = true ↔
      mapping.capacity ≠ .null := by
  cases capacity : mapping.capacity with
  | absent =>
      simp [PathState.ofMapping?, Entry.getOr, capacity]
  | null =>
      simp [PathState.ofMapping?, Entry.getOr, capacity]
  | present value =>
      simp [PathState.ofMapping?, Entry.getOr, capacity]

/-- The healer's lookup is the one on the resolved topology. -/
theorem healerWorkingPathForLink_eq
    {Score Time : Type}
    (thresholds : Thresholds Score Time)
    (mapping : TopologyMapping)
    (linkId : String) :
    mapping.healerWorkingPathForLink linkId =
      Healer.workingPathForLink ⟨thresholds, mapping.topology⟩
        linkId := by
  have sameTest :
      ∀ entry : String × PathMapping,
        (decide (entry.2.role.get? = some "working") &&
            entry.2.linkList.contains linkId) =
          (decide (entry.2.spec.role = some "working") &&
            (entry.2.spec.links.getD []).contains linkId) := by
    rintro ⟨name, links, role, capacity⟩
    cases role with
    | absent =>
        simp [Entry.get?, PathMapping.spec]
    | null =>
        simp [Entry.get?, PathMapping.spec, pythonStr]
    | present text =>
        simp [Entry.get?, PathMapping.spec, PathMapping.linkList]
  simp only [TopologyMapping.healerWorkingPathForLink,
    Healer.workingPathForLink, TopologyMapping.topology,
    Topology.pathSpecs, Option.getD_some, Dict.mapValues,
    List.find?_map, Option.map_map, Function.comp_def, sameTest]

/-- So is its protection lookup. -/
theorem healerProtectionPathForLink_eq
    {Score Time : Type}
    (thresholds : Thresholds Score Time)
    (mapping : TopologyMapping)
    (linkId : String) :
    mapping.healerProtectionPathForLink linkId =
      Healer.protectionPathForLink ⟨thresholds, mapping.topology⟩
        linkId := by
  simp [TopologyMapping.healerProtectionPathForLink,
    Healer.protectionPathForLink, TopologyMapping.topology,
    Topology.protectionMap, Dict.get?_filterMapValues]
  cases mapping.protectionMapping.get? linkId <;> rfl

/-- The path table holds the paths built from the resolved entries. -/
theorem tables_paths_eq
    {mapping : TopologyMapping}
    {tables : TopologyTables}
    (built : TopologyTables.ofMapping? mapping = some tables) :
    tables.paths =
      mapping.pathMappings.mapValues fun path =>
        PathState.ofSpec path.spec := by
  obtain ⟨paths, pathsBuilt, rfl⟩ := Option.map_eq_some_iff.mp built
  exact Dict.eq_mapValues_of_mapValues?
    (fun _ _ one => PathState.ofMapping?_eq_some one) pathsBuilt

/-- The path manager's lookup is the one on a state of the topology. -/
theorem tablesWorkingPathForLink_eq
    {Score : Type}
    {mapping : TopologyMapping}
    {tables : TopologyTables}
    (built : TopologyTables.ofMapping? mapping = some tables)
    (linkId : String) :
    tables.workingPathForLink linkId =
      (TopologyState.init mapping.topology :
        TopologyState Score).workingPathForLink linkId := by
  simp [TopologyTables.workingPathForLink, tables_paths_eq built,
    TopologyState.workingPathForLink, TopologyState.init,
    TopologyMapping.topology, Topology.pathSpecs, Dict.mapValues,
    Function.comp_def]

/-- So is its protection lookup. -/
theorem tablesProtectionPathForLink_eq
    {Score : Type}
    {mapping : TopologyMapping}
    {tables : TopologyTables}
    (built : TopologyTables.ofMapping? mapping = some tables)
    (linkId : String) :
    tables.protectionPathForLink linkId =
      (TopologyState.init mapping.topology :
        TopologyState Score).protectionPathForLink linkId := by
  obtain ⟨paths, _, rfl⟩ := Option.map_eq_some_iff.mp built
  simp [TopologyTables.protectionPathForLink,
    TopologyState.protectionPathForLink, TopologyState.init,
    TopologyMapping.topology, Topology.protectionMap,
    Dict.get?_filterMapValues]
  cases mapping.protectionMapping.get? linkId <;> rfl

end Normalised

/-- The tables can be built exactly when no capacity is null. -/
theorem ofMapping?_isSome_iff
    {mapping : TopologyMapping} :
    (TopologyTables.ofMapping? mapping).isSome = true ↔
      ∀ entry ∈ mapping.pathMappings.entries,
        entry.2.capacity ≠ .null := by
  rw [TopologyTables.ofMapping?, Option.isSome_map,
    Dict.isSome_mapValues?_iff]
  simp only [PathState.ofMapping?_isSome_iff]

namespace TopologyMapping

/-- Both services find the same paths for the link. -/
def ReadAlike (mapping : TopologyMapping) (linkId : String) : Prop :=
  ∃ tables,
    TopologyTables.ofMapping? mapping = some tables ∧
      tables.workingPathForLink linkId =
        mapping.healerWorkingPathForLink linkId ∧
      tables.protectionPathForLink linkId =
        mapping.healerProtectionPathForLink linkId

/-- The entry is a working path of the link, and says so. -/
def WorkingEntry
    (linkId : String)
    (entry : String × PathMapping) : Prop :=
  entry.2.role = .present "working" ∧ linkId ∈ entry.2.linkList

/--
No capacity is null, and a path of the link without a role comes after one
whose role is `working`.
-/
structure RolesGiven
    (mapping : TopologyMapping)
    (linkId : String) : Prop where
  capacities :
    ∀ entry ∈ mapping.pathMappings.entries,
      entry.2.capacity ≠ .null
  roles :
    ∀ before entry after,
      mapping.pathMappings.entries = before ++ entry :: after →
      entry.2.role = .absent →
      linkId ∈ entry.2.linkList →
      ∃ earlier ∈ before, WorkingEntry linkId earlier

/-- The healer's test of an entry. -/
theorem healer_test_iff
    (linkId : String)
    (entry : String × PathMapping) :
    (decide (entry.2.role.get? = some "working") &&
        entry.2.linkList.contains linkId) = true ↔
      WorkingEntry linkId entry := by
  rcases entry with ⟨name, links, role, capacity⟩
  cases role with
  | absent =>
      simp [WorkingEntry, Entry.get?]
  | null =>
      simp [WorkingEntry, Entry.get?]
  | present text =>
      simp [WorkingEntry, Entry.get?]

/-- The path manager's test of the same entry. -/
theorem tables_test_iff
    (linkId : String)
    (entry : String × PathMapping) :
    (decide ((PathState.ofSpec entry.2.spec).role = "working") &&
        (PathState.ofSpec entry.2.spec).links.contains linkId) = true ↔
      WorkingEntry linkId entry ∨
        (entry.2.role = .absent ∧ linkId ∈ entry.2.linkList) := by
  rcases entry with ⟨name, links, role, capacity⟩
  cases role with
  | absent =>
      simp [WorkingEntry, PathState.ofSpec, PathMapping.spec,
        PathMapping.linkList]
  | null =>
      simp [WorkingEntry, PathState.ofSpec, PathMapping.spec, pythonStr]
  | present text =>
      simp [WorkingEntry, PathState.ofSpec, PathMapping.spec,
        PathMapping.linkList]

/-- Once the tables are built, only missing roles can tell the readers apart. -/
theorem workingPath_eq_iff
    {mapping : TopologyMapping}
    {tables : TopologyTables}
    (built : TopologyTables.ofMapping? mapping = some tables)
    (linkId : String) :
    tables.workingPathForLink linkId =
        mapping.healerWorkingPathForLink linkId ↔
      ∀ before entry after,
        mapping.pathMappings.entries = before ++ entry :: after →
        entry.2.role = .absent →
        linkId ∈ entry.2.linkList →
        ∃ earlier ∈ before, WorkingEntry linkId earlier := by
  simp only [TopologyTables.workingPathForLink, tables_paths_eq built,
    Dict.mapValues, List.find?_map, Option.map_map, Function.comp_def,
    healerWorkingPathForLink]
  rw [Dict.find?_key_eq_iff _ mapping.pathMappings.keysNodup]
  · simp only [healer_test_iff, tables_test_iff, ← Bool.not_eq_true]
    constructor
    · intro preceded before entry after shape missing listed
      apply preceded before entry after shape (Or.inr ⟨missing, listed⟩)
      rintro ⟨given, _⟩
      rw [missing] at given
      cases given
    · intro preceded before entry after shape accepted refused
      rcases accepted with working | ⟨missing, listed⟩
      · exact (refused working).elim
      · exact preceded before entry after shape missing listed
  · intro entry accepted
    exact (tables_test_iff linkId entry).mpr
      (Or.inl ((healer_test_iff linkId entry).mp accepted))

/-- The two services read the mapping alike exactly when its roles are given. -/
theorem readAlike_iff_rolesGiven
    (mapping : TopologyMapping)
    (linkId : String) :
    mapping.ReadAlike linkId ↔ mapping.RolesGiven linkId := by
  constructor
  · rintro ⟨tables, built, sameWorking, _⟩
    exact ⟨ofMapping?_isSome_iff.mp (by rw [built]; rfl),
      (workingPath_eq_iff built linkId).mp sameWorking⟩
  · rintro ⟨capacities, roles⟩
    obtain ⟨tables, built⟩ :=
      Option.isSome_iff_exists.mp (ofMapping?_isSome_iff.mpr capacities)
    refine ⟨tables, built,
      (workingPath_eq_iff built linkId).mpr roles, ?_⟩
    obtain ⟨paths, _, rfl⟩ := Option.map_eq_some_iff.mp built
    rfl

/-- The committed topology with the role of one path left out. -/
def roleOmitted : TopologyMapping where
  paths := .present {
    entries := [
      ("P_work_L1", ⟨.present ["L1"], .absent, .present 1⟩),
      ("P_prot_L2",
        ⟨.present ["L2"], .present "protection", .present 1⟩)]
    keysNodup := by decide }
  protection := .present {
    entries := [("L1", some "P_prot_L2")]
    keysNodup := by decide }

/-- The path manager takes the path for a working one, the healer does not. -/
theorem omitted_role_read_differently :
    ¬ ∀ (mapping : TopologyMapping) (linkId : String),
      mapping.ReadAlike linkId := by
  intro claim
  have different :
      ∀ tables ∈ TopologyTables.ofMapping? roleOmitted,
        tables.workingPathForLink "L1" ≠
          roleOmitted.healerWorkingPathForLink "L1" := by
    decide
  obtain ⟨tables, built, sameWorking, _⟩ := claim roleOmitted "L1"
  exact different tables built sameWorking

end TopologyMapping

end OpticsSoftfail
