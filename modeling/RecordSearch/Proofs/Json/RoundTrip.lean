/-
  RecordSearch.Proofs.Json.RoundTrip
  ──────────────────────────────────
  **Searches are read back from their interchange text.**

  Going up from values, every type is carried when its parts are (`Json.Carries`): criteria,
  containers at any depth, filters and sorts, definitions, predicates, results and configurations.
  What is left out when it is written, an absent slot or an empty list of collections, is what an
  absent member is read as.  Nothing is asked of criteria, malformed ones included: a group without
  containers is an empty array, and a container with several populated slots has them all.

      Container.ofJson?_toJson        — a container, from its form
      SearchDefinition.carries        — a definition
      interchange_roundTrips          — definitions and all other types, from form and text

  Only floating-point numbers can be lost (`Binary64.ReadsBack`); `floats` collects them.
  Containers nest to any depth, and their forms are read back from any depth; a reader of texts
  opens no more than `Json.maxDepth` arrays and objects at once, and refuses a text with more.
-/
import RecordSearch.Json.Search
import RecordSearch.Proofs.Json.Values

namespace RecordSearch

/-! ## §1. Names. -/

theorem Operator.carries (o : Operator) : Json.Carries toJson ofJson? o :=
  ⟨by cases o <;> rfl, .text o.name⟩

theorem RangeOperator.carries (o : RangeOperator) : Json.Carries toJson ofJson? o :=
  ⟨by cases o <;> rfl, .text o.name⟩

theorem Connective.carries (c : Connective) : Json.Carries toJson ofJson? c :=
  ⟨by cases c <;> rfl, .text c.word⟩

theorem Direction.carries (d : Direction) : Json.Carries toJson ofJson? d :=
  ⟨by cases d <;> rfl, .text d.name⟩

theorem FieldKind.carries (k : FieldKind) : Json.Carries toJson ofJson? k :=
  ⟨by cases k <;> rfl, .text k.name⟩

/-! ## §2. Members. -/

section Members

variable {α : Type} {toJson : α → Json} {ofJson? : Json → Option α}

theorem FieldSlot.required_given (j : Json) : (FieldSlot.given j).required ofJson? = ofJson? j :=
  rfl

theorem FieldSlot.orElse_given (a : α) (j : Json) :
    (FieldSlot.given j).orElse a ofJson? = ofJson? j := rfl

theorem FieldSlot.optional_given (j : Json) :
    (FieldSlot.given j).optional ofJson? = j.orNull ofJson? := rfl

/-- What is found in the place of a member that is left out when it is absent. -/
def FieldSlot.ofOption : Option Json → FieldSlot
  | none => .unnamed
  | some j => .given j

/-- An absent value is read from an absent member. -/
theorem FieldSlot.orElse_ofOption (x : Option α) (h : ∀ a ∈ x, ofJson? (toJson a) = some a)
    (hnull : ∀ a, toJson a ≠ .null) :
    (FieldSlot.ofOption (x.map toJson)).orElse none (Json.orNull ofJson?) = some x := by
  cases x with
  | none => rfl
  | some a => exact Json.orNull_some (h a rfl) (hnull a)

/-- An absent value is read from null. -/
theorem orNull_jsonOrNull (x : Option α) (h : ∀ a ∈ x, ofJson? (toJson a) = some a)
    (hnull : ∀ a, toJson a ≠ .null) : (jsonOrNull toJson x).orNull ofJson? = some x := by
  cases x with
  | none => rfl
  | some a => exact Json.orNull_some (h a rfl) (hnull a)

theorem faithful_jsonOrNull (x : Option α) (h : ∀ a ∈ x, (toJson a).Faithful) :
    (jsonOrNull toJson x).Faithful := by
  cases x with
  | none => exact .null
  | some a => exact h a rfl

end Members

/-! ## §3. Criteria on one field. -/

/-- The floating-point numbers in a criterion. -/
def SingleCriterion.floats (c : SingleCriterion) : List Binary64 := c.value.floats

/-- The floating-point numbers in a criterion. -/
def RangeCriterion.floats (c : RangeCriterion) : List Binary64 := c.start.floats ++ c.stop.floats

theorem faithful_collectionMember (paths : List String) :
    ∀ m ∈ collectionMember paths, m.2.Faithful := by
  cases paths with
  | nil => exact Json.faithful_nil
  | cons path paths =>
      exact Json.faithful_cons (Json.carries_list fun s _ => Json.carries_text s).faithful
        Json.faithful_nil

/-- The slot of the collections, left out when there are none. -/
def collectionSlot (paths : List String) : FieldSlot :=
  .ofOption (if paths.isEmpty then none else some (.array (paths.map .text)))

theorem orElse_collectionSlot (paths : List String) :
    (collectionSlot paths).orElse [] (Json.listOf Json.asText?) = some paths := by
  cases paths with
  | nil => rfl
  | cons path paths => exact (Json.carries_list fun s _ => Json.carries_text s).form

theorem SingleCriterion.fields?_toJson (c : SingleCriterion) :
    c.toJson.fields? ["field", "operator", "value", "collection", "kind"] =
      some [.given (.text c.field), .given c.operator.toJson, .given c.value.toJson,
        collectionSlot c.collection, .given c.kind.toJson] := by
  obtain ⟨field, operator, value, collection, kind⟩ := c
  cases collection <;> rfl

theorem SingleCriterion.ofJson?_toJson (c : SingleCriterion) : ofJson? c.toJson = some c := by
  simp only [ofJson?, c.fields?_toJson, FieldSlot.required_given, FieldSlot.orElse_given,
    (Json.carries_text c.field).form, c.operator.carries.form, c.value.ofJson?_toJson,
    orElse_collectionSlot, c.kind.carries.form]
  rfl

theorem SingleCriterion.faithful_toJson {c : SingleCriterion}
    (h : ∀ x ∈ c.floats, x.ReadsBack) : c.toJson.Faithful := by
  obtain ⟨field, operator, value, collection, kind⟩ := c
  have hvalue : value.toJson.Faithful := value.faithful_toJson h
  refine .object ?_ ?_
  · cases collection <;> simp [collectionMember]
  · refine List.forall_mem_append.mpr ⟨List.forall_mem_append.mpr
      ⟨?_, faithful_collectionMember collection⟩,
      Json.faithful_cons kind.carries.faithful Json.faithful_nil⟩
    exact Json.faithful_cons (.text field) (Json.faithful_cons operator.carries.faithful
      (Json.faithful_cons hvalue Json.faithful_nil))

theorem RangeCriterion.fields?_toJson (c : RangeCriterion) :
    c.toJson.fields? ["field", "operator", "start", "end", "collection"] =
      some [.given (.text c.field), .given c.operator.toJson, .given c.start.toJson,
        .given c.stop.toJson, collectionSlot c.collection] := by
  obtain ⟨field, operator, start, stop, collection⟩ := c
  cases collection <;> rfl

theorem RangeCriterion.ofJson?_toJson (c : RangeCriterion) : ofJson? c.toJson = some c := by
  simp only [ofJson?, c.fields?_toJson, FieldSlot.required_given, (Json.carries_text c.field).form,
    c.operator.carries.form, c.start.ofJson?_toJson, c.stop.ofJson?_toJson, orElse_collectionSlot]
  rfl

theorem RangeCriterion.faithful_toJson {c : RangeCriterion}
    (h : ∀ x ∈ c.floats, x.ReadsBack) : c.toJson.Faithful := by
  obtain ⟨field, operator, start, stop, collection⟩ := c
  obtain ⟨hstart, hstop⟩ := List.forall_mem_append.mp h
  refine .object ?_ ?_
  · cases collection <;> simp [collectionMember]
  · exact Json.faithful_cons (.text field) (Json.faithful_cons operator.carries.faithful
      (Json.faithful_cons (start.faithful_toJson hstart)
        (Json.faithful_cons (stop.faithful_toJson hstop) (faithful_collectionMember collection))))

/-! ## §4. Containers. -/

namespace Container

mutual

/-- The floating-point numbers in a container, whatever slots are populated. -/
def floats : Container → List Binary64
  | ⟨_, single, range, group⟩ =>
    single.elim [] SingleCriterion.floats ++ range.elim [] RangeCriterion.floats ++
      groupFloats group

/-- The floating-point numbers in a group, if there is one. -/
def groupFloats : Option (List Container) → List Binary64
  | none => []
  | some containers => floatsOfAll containers

/-- The floating-point numbers in containers. -/
def floatsOfAll : List Container → List Binary64
  | [] => []
  | c :: cs => c.floats ++ floatsOfAll cs

end

/-- The members of a container, with a group or without one. -/
def members (logic : Connective) (single : Option SingleCriterion) (range : Option RangeCriterion)
    (group : List (String × Json)) : List (String × Json) :=
  ("logic", logic.toJson) :: (slotMember "single" (single.map SingleCriterion.toJson) ++
    slotMember "range" (range.map RangeCriterion.toJson) ++ group)

theorem withGroup?_members (logic : Connective) (single : Option SingleCriterion)
    (range : Option RangeCriterion) (group : Option (List Container)) :
    withGroup? (.object (members logic single range (groupMember group))) (some group) =
      some ⟨logic, single, range, group⟩ := by
  have hfields : ∃ slot, (Json.object (members logic single range (groupMember group))).fields?
      ["logic", "single", "range", "group"] = some [.given logic.toJson,
        .ofOption (single.map SingleCriterion.toJson), .ofOption (range.map RangeCriterion.toJson),
        slot] := by
    cases single <;> cases range <;> cases group <;> exact ⟨_, rfl⟩
  obtain ⟨slot, hfields⟩ := hfields
  have hsingle := FieldSlot.orElse_ofOption single (fun c _ => c.ofJson?_toJson) nofun
  have hrange := FieldSlot.orElse_ofOption range (fun c _ => c.ofJson?_toJson) nofun
  simp only [withGroup?, hfields, FieldSlot.orElse_given, logic.carries.form, hsingle, hrange]
  rfl

theorem groupNamed_members (logic : Connective) (single : Option SingleCriterion)
    (range : Option RangeCriterion) (group : List (String × Json)) :
    groupNamed (members logic single range group) = groupNamed group := by
  cases single <;> cases range <;> rfl

mutual

/-- **A container is read back from its form**, whatever slots are populated. -/
theorem ofJson?_toJson : ∀ c : Container, ofJson? c.toJson = some c
  | ⟨logic, single, range, none⟩ => by
      rw [toJson]
      show withGroup? (.object (members logic single range (groupMember none)))
        (groupNamed (members logic single range (groupMember none))) = _
      rw [groupNamed_members]
      exact withGroup?_members logic single range none
  | ⟨logic, single, range, some containers⟩ => by
      have hgroup : groupNamed (groupMember (some containers)) = some (some containers) := by
        show (ofItems (toJsonAll containers)).map some = _
        rw [ofItems_toJsonAll containers]
        rfl
      rw [toJson]
      show withGroup? (.object (members logic single range (groupMember (some containers))))
        (groupNamed (members logic single range (groupMember (some containers)))) = _
      rw [groupNamed_members, hgroup]
      exact withGroup?_members logic single range (some containers)

theorem ofItems_toJsonAll : ∀ cs : List Container, ofItems (toJsonAll cs) = some cs
  | [] => rfl
  | c :: cs => by rw [toJsonAll, ofItems, ofJson?_toJson c, ofItems_toJsonAll cs]

end

theorem faithful_slotMember {name : String} {j : Option Json} (h : ∀ k ∈ j, k.Faithful) :
    ∀ m ∈ slotMember name j, m.2.Faithful := by
  cases j with
  | none => exact Json.faithful_nil
  | some j => exact Json.faithful_cons (h j rfl) Json.faithful_nil

theorem faithful_members {logic : Connective} {single : Option SingleCriterion}
    {range : Option RangeCriterion} {group : Option (List Container)}
    (hsingle : ∀ x ∈ single.elim [] SingleCriterion.floats, x.ReadsBack)
    (hrange : ∀ x ∈ range.elim [] RangeCriterion.floats, x.ReadsBack)
    (hgroup : ∀ m ∈ groupMember group, m.2.Faithful) :
    (Json.object (members logic single range (groupMember group))).Faithful := by
  refine .object ?_ (Json.faithful_cons logic.carries.faithful (List.forall_mem_append.mpr
    ⟨List.forall_mem_append.mpr ⟨faithful_slotMember ?_, faithful_slotMember ?_⟩, hgroup⟩))
  · cases single <;> cases range <;> cases group <;> simp [members, slotMember, groupMember]
  · rintro j hj
    obtain ⟨c, rfl, rfl⟩ := Option.map_eq_some_iff.mp hj
    exact c.faithful_toJson hsingle
  · rintro j hj
    obtain ⟨c, rfl, rfl⟩ := Option.map_eq_some_iff.mp hj
    exact c.faithful_toJson hrange

mutual

theorem faithful_toJson : ∀ c : Container, (∀ x ∈ c.floats, x.ReadsBack) → c.toJson.Faithful
  | ⟨logic, single, range, none⟩, h => by
      rw [floats] at h
      obtain ⟨hslots, -⟩ := List.forall_mem_append.mp h
      obtain ⟨hsingle, hrange⟩ := List.forall_mem_append.mp hslots
      have hgroup : ∀ m ∈ groupMember none, m.2.Faithful := Json.faithful_nil
      rw [toJson]
      exact faithful_members hsingle hrange hgroup
  | ⟨logic, single, range, some containers⟩, h => by
      rw [floats] at h
      obtain ⟨hslots, hgroup⟩ := List.forall_mem_append.mp h
      obtain ⟨hsingle, hrange⟩ := List.forall_mem_append.mp hslots
      have hcontainers : ∀ m ∈ groupMember (some containers), m.2.Faithful :=
        Json.faithful_cons (.array (faithful_toJsonAll containers hgroup)) Json.faithful_nil
      rw [toJson]
      exact faithful_members hsingle hrange hcontainers

theorem faithful_toJsonAll : ∀ cs : List Container, (∀ x ∈ floatsOfAll cs, x.ReadsBack) →
    ∀ j ∈ toJsonAll cs, j.Faithful
  | [], _, _, hj => absurd hj List.not_mem_nil
  | c :: cs, h, j, hj => by
      rw [floatsOfAll, List.forall_mem_append] at h
      rw [toJsonAll] at hj
      rcases List.mem_cons.mp hj with rfl | hj
      · exact faithful_toJson c h.1
      · exact faithful_toJsonAll cs h.2 j hj

end

end Container

/-! ## §5. Filters and sorts. -/

/-- The floating-point numbers in a filter. -/
def FilterCriteria.floats (f : FilterCriteria) : List Binary64 :=
  Container.floatsOfAll f.containers

theorem FilterCriteria.ofJson?_toJson (f : FilterCriteria) : ofJson? f.toJson = some f := by
  have hcontainers : containersOf (.array (Container.toJsonAll f.containers)) =
      some f.containers := Container.ofItems_toJsonAll f.containers
  show (containersOf (.array (Container.toJsonAll f.containers))).map _ = _
  rw [hcontainers]
  rfl

theorem FilterCriteria.faithful_toJson {f : FilterCriteria} (h : ∀ x ∈ f.floats, x.ReadsBack) :
    f.toJson.Faithful := by
  have hcontainers := Container.faithful_toJsonAll f.containers h
  exact .object (show ["containers"].Nodup by decide)
    (Json.faithful_cons (.array hcontainers) Json.faithful_nil)

theorem SortCriterion.carries (c : SortCriterion) : Json.Carries toJson ofJson? c := by
  have hfields : c.toJson.fields? ["field", "direction"] =
      some [.given (.text c.field), .given c.direction.toJson] := rfl
  constructor
  · simp only [ofJson?, hfields, FieldSlot.required_given, FieldSlot.orElse_given,
      (Json.carries_text c.field).form, c.direction.carries.form]
    rfl
  · exact .object (show ["field", "direction"].Nodup by decide)
      (Json.faithful_cons (.text c.field)
        (Json.faithful_cons c.direction.carries.faithful Json.faithful_nil))

theorem SortCriteria.carries (s : SortCriteria) : Json.Carries toJson ofJson? s := by
  have hitems : Json.Carries _ _ s.items := Json.carries_list fun item _ => item.carries
  constructor
  · show (Json.listOf SortCriterion.ofJson? (.array (s.items.map SortCriterion.toJson))).map _ = _
    rw [hitems.form]
    rfl
  · exact .object (show ["items"].Nodup by decide)
      (Json.faithful_cons hitems.faithful Json.faithful_nil)

/-! ## §6. Searches. -/

namespace SearchDefinition

/-- The floating-point numbers in the filters of a definition. -/
def floats (d : SearchDefinition) : List Binary64 :=
  d.preFilter.elim [] FilterCriteria.floats ++ d.filter.elim [] FilterCriteria.floats

theorem ofJson?_toJson (d : SearchDefinition) : ofJson? d.toJson = some d := by
  have hfields : d.toJson.fields? ["page", "page_size", "sort", "filter", "pre_filter"] =
      some [.given (jsonOrNull (fun n => .integer n.toInt) d.page),
        .given (jsonOrNull (fun n => .integer n.toInt) d.pageSize),
        .given (jsonOrNull SortCriteria.toJson d.sort),
        .given (jsonOrNull FilterCriteria.toJson d.filter),
        .given (jsonOrNull FilterCriteria.toJson d.preFilter)] := rfl
  have hint := fun x : Option Int64 =>
    orNull_jsonOrNull x (fun n _ => (Json.carries_int64 n).form) nofun
  have hsort := orNull_jsonOrNull d.sort (fun s _ => s.carries.form) nofun
  have hfilters := fun x : Option FilterCriteria =>
    orNull_jsonOrNull x (fun f _ => f.ofJson?_toJson) nofun
  simp only [ofJson?, hfields, FieldSlot.orElse_given, hint, hsort, hfilters]
  rfl

theorem faithful_toJson {d : SearchDefinition} (h : ∀ x ∈ d.floats, x.ReadsBack) :
    d.toJson.Faithful := by
  obtain ⟨hpreFilter, hfilter⟩ := List.forall_mem_append.mp h
  have hint := fun x : Option Int64 =>
    faithful_jsonOrNull x fun n _ => (Json.carries_int64 n).faithful
  have hsort := faithful_jsonOrNull d.sort fun s _ => s.carries.faithful
  have hfilters : ∀ x : Option FilterCriteria,
      (∀ y ∈ x.elim [] FilterCriteria.floats, y.ReadsBack) →
        (jsonOrNull FilterCriteria.toJson x).Faithful := by
    rintro x hx
    refine faithful_jsonOrNull x fun f hf => ?_
    obtain rfl := Option.mem_def.mp hf
    exact f.faithful_toJson hx
  exact .object (show ["page", "page_size", "sort", "filter", "pre_filter"].Nodup by decide)
    (Json.faithful_cons (hint d.page) (Json.faithful_cons (hint d.pageSize)
      (Json.faithful_cons hsort (Json.faithful_cons (hfilters d.filter hfilter)
        (Json.faithful_cons (hfilters d.preFilter hpreFilter) Json.faithful_nil)))))

/-- **A definition is carried if its floating-point numbers are.** -/
theorem carries {d : SearchDefinition} (h : ∀ x ∈ d.floats, x.ReadsBack) :
    Json.Carries toJson ofJson? d := ⟨d.ofJson?_toJson, d.faithful_toJson h⟩

end SearchDefinition

/-- **A predicate is carried if the floating-point numbers among its parameters are.** -/
theorem Predicate.carries {p : Predicate} (h : ∀ v ∈ p.parameters, ∀ x ∈ v.floats, x.ReadsBack) :
    Json.Carries toJson ofJson? p := by
  have hparameters : Json.Carries _ _ p.parameters :=
    Json.carries_list fun v hv => Value.carries (h v hv)
  have hfields : p.toJson.fields? ["text", "parameters"] =
      some [.given (.text p.text), .given (.array (p.parameters.map Value.toJson))] := by
    rw [← Value.toJsonAll_eq_map]
    rfl
  constructor
  · simp only [ofJson?, hfields, FieldSlot.required_given, (Json.carries_text p.text).form,
      hparameters.form]
    rfl
  · have hfaithful := hparameters.faithful
    rw [← Value.toJsonAll_eq_map] at hfaithful
    exact .object (show ["text", "parameters"].Nodup by decide)
      (Json.faithful_cons (.text p.text) (Json.faithful_cons hfaithful Json.faithful_nil))

/-- **A result is carried if its rows are.** -/
theorem SearchResult.carries {α : Type} {row : α → Json} {row? : Json → Option α}
    {r : SearchResult α} (h : ∀ a ∈ r.rows, Json.Carries row row? a) :
    Json.Carries (toJson row) (ofJson? row?) r := by
  have hrows := Json.carries_list h
  have hint := fun x : Option Int64 =>
    orNull_jsonOrNull x (fun n _ => (Json.carries_int64 n).form) nofun
  have hint' := fun x : Option Int64 =>
    faithful_jsonOrNull x fun n _ => (Json.carries_int64 n).faithful
  have hfields : (r.toJson row).fields?
      ["page", "page_size", "total_record_count", "filtered_record_count", "result_set"] =
        some [.given (jsonOrNull (fun n => .integer n.toInt) r.page),
          .given (jsonOrNull (fun n => .integer n.toInt) r.pageSize),
          .given (.integer r.total.toNat), .given (.integer r.filtered.toNat),
          .given (.array (r.rows.map row))] := rfl
  have hcount : ∀ n : UInt64, Json.asUInt64? (.integer n.toNat) = some n := uint64?_toNat
  constructor
  · unfold ofJson?
    rw [hfields]
    dsimp only
    rw [FieldSlot.optional_given, hint, FieldSlot.optional_given, hint, FieldSlot.required_given,
      hcount, FieldSlot.required_given, hcount, FieldSlot.required_given, hrows.form]
    rfl
  · exact .object (show ["page", "page_size", "total_record_count", "filtered_record_count",
        "result_set"].Nodup by decide)
      (Json.faithful_cons (hint' r.page) (Json.faithful_cons (hint' r.pageSize)
        (Json.faithful_cons (Json.carries_uint64 r.total).faithful
          (Json.faithful_cons (Json.carries_uint64 r.filtered).faithful
            (Json.faithful_cons hrows.faithful Json.faithful_nil)))))

/-- **A configuration is carried.** -/
theorem SearchConfig.carries (c : SearchConfig) : Json.Carries toJson ofJson? c := by
  have hwords : Json.Carries _ _ c.reservedWords := Json.carries_list fun s _ => Json.carries_text s
  have hfields : c.toJson.fields? ["reserved_words", "log_predicates"] =
      some [.given (.array (c.reservedWords.map .text)), .given (.bool c.logPredicates)] := rfl
  constructor
  · simp only [ofJson?, hfields, FieldSlot.orElse_given, hwords.form,
      (Json.carries_bool c.logPredicates).form]
    rfl
  · exact .object (show ["reserved_words", "log_predicates"].Nodup by decide)
      (Json.faithful_cons hwords.faithful
        (Json.faithful_cons (.bool c.logPredicates) Json.faithful_nil))

/-! ## §7. The round trip. -/

theorem SearchResult.depth_toJson {α : Type} {row : α → Json} (h : ∀ a, (row a).depth = 0)
    (r : SearchResult α) : (r.toJson row).depth ≤ Json.maxDepth := by
  have hrows := Json.depthOfItems_map h r.rows
  have hint : ∀ x : Option Int64, (jsonOrNull (fun n => .integer n.toInt) x).depth = 0 := by
    rintro (_ | n) <;> rfl
  simp only [toJson, Json.depth, Json.depthOfMembers, hrows, hint]
  decide

theorem SearchConfig.depth_toJson (c : SearchConfig) : c.toJson.depth ≤ Json.maxDepth := by
  have hwords := Json.depthOfItems_map (fun s => (rfl : (Json.text s).depth = 0)) c.reservedWords
  simp only [toJson, Json.depth, Json.depthOfMembers, hwords]
  decide

/-- **Searches are read back.**  A definition, with containers of any shape and depth, comes back as
it was if its floating-point numbers do and its text is not too deep; so it has the same outcome on
all rows.  So do values and predicates, and results of integers and configurations, whose texts are
never too deep.  A text that is too deep is refused, whatever it says. -/
theorem interchange_roundTrips :
    (∀ d : SearchDefinition, (∀ x ∈ d.floats, x.ReadsBack) →
      Json.RoundTrips SearchDefinition.toJson SearchDefinition.ofJson? d ∧
      (d.toJson.depth ≤ Json.maxDepth →
        ∀ {α : Type} [Searchable α] (config : SearchConfig) (rows : List α),
          ((Json.read d.toJson.write).bind SearchDefinition.ofJson?).map
            (fun d' => searchRows config (some d') rows) =
              some (searchRows config (some d) rows))) ∧
    (∀ v : Value, (∀ x ∈ v.floats, x.ReadsBack) → Json.RoundTrips Value.toJson Value.ofJson? v) ∧
    (∀ p : Predicate, (∀ v ∈ p.parameters, ∀ x ∈ v.floats, x.ReadsBack) →
      Json.RoundTrips Predicate.toJson Predicate.ofJson? p) ∧
    (∀ r : SearchResult Int64, Json.RoundTrips (SearchResult.toJson fun n => .integer n.toInt)
      (SearchResult.ofJson? Json.asInt64?) r ∧
      (r.toJson fun n => .integer n.toInt).depth ≤ Json.maxDepth) ∧
    (∀ r : SearchResult UInt64, Json.RoundTrips (SearchResult.toJson fun n => .integer n.toNat)
      (SearchResult.ofJson? Json.asUInt64?) r ∧
      (r.toJson fun n => .integer n.toNat).depth ≤ Json.maxDepth) ∧
    ∀ c : SearchConfig, Json.RoundTrips SearchConfig.toJson SearchConfig.ofJson? c ∧
      c.toJson.depth ≤ Json.maxDepth := by
  refine ⟨fun d hd => ?_, fun v hv => (Value.carries hv).roundTrips,
    fun p hp => (Predicate.carries hp).roundTrips, fun r => ⟨?_, r.depth_toJson fun _ => rfl⟩,
    fun r => ⟨?_, r.depth_toJson fun _ => rfl⟩, fun c => ⟨c.carries.roundTrips, c.depth_toJson⟩⟩
  · have hback := (SearchDefinition.carries hd).roundTrips
    refine ⟨hback, fun hdepth α _ config rows => ?_⟩
    rw [hback.text hdepth]
    rfl
  · exact (SearchResult.carries fun n _ => Json.carries_int64 n).roundTrips
  · exact (SearchResult.carries fun n _ => Json.carries_uint64 n).roundTrips

/-- A container with two populated slots next to an empty group, no stage for the pre-filter, a
path sorted by twice, and one as a signed and as an unsigned integer, beside 1.5. -/
theorem interchange_roundTrips_malformed :
    let x : Binary64 := ⟨0x3FF8000000000000⟩
    let twice : Container := ⟨.or, some ⟨"id", .isIn, .list [.int 1, .uint 1], [], .text⟩,
      some ⟨"score", .between, .float x, .uint 1, ["items", "tags"]⟩, none⟩
    let d : SearchDefinition := {
      page := some (-1)
      sort := some ⟨[⟨"name", .ascending⟩, ⟨"name", .descending⟩]⟩
      filter := some ⟨[.ofGroup .or [.ofGroup .and [], twice]]⟩ }
    let p : Predicate := ⟨"id == @0", [.list [.float x, .null]]⟩
    (d.floats = [x] ∧ x.ReadsBack) ∧
      (Json.read d.toJson.write).bind SearchDefinition.ofJson? = some d ∧
      (Json.read (Value.list [.float x, .list []]).toJson.write).bind Value.ofJson? =
        some (.list [.float x, .list []]) ∧
      (Json.read p.toJson.write).bind Predicate.ofJson? = some p := by
  have hx : Binary64.ReadsBack ⟨0x3FF8000000000000⟩ := ⟨by decide, by with_unfolding_all rfl⟩
  intro x twice d p
  have hall : ∀ y ∈ [x], y.ReadsBack := fun y hy => List.mem_singleton.mp hy ▸ hx
  obtain ⟨hdefinition, hvalue, hpredicate, -⟩ := interchange_roundTrips
  have hp : ∀ v ∈ p.parameters, ∀ y ∈ v.floats, y.ReadsBack :=
    fun v hv => List.mem_singleton.mp hv ▸ hall
  exact ⟨⟨rfl, hx⟩, (hdefinition d hall).1.text (by decide),
    (hvalue (.list [.float x, .list []]) hall).text (by decide),
    (hpredicate p hp).text (by decide)⟩

/-- A container in so many groups, each the only one in the next. -/
def Container.inGroups (c : Container) : Nat → Container
  | 0 => c
  | n + 1 => .ofGroup .and [c.inGroups n]

theorem Container.floats_inGroups (c : Container) (n : Nat) : (c.inGroups n).floats = c.floats := by
  induction n with
  | zero => rfl
  | succ n ih =>
      show [] ++ [] ++ ((c.inGroups n).floats ++ []) = _
      rw [ih]
      exact List.append_nil _

/-- Each group is an object and an array. -/
theorem Container.depth_inGroups (c : Container) (n : Nat) :
    (c.inGroups n).toJson.depth = c.toJson.depth + 2 * n := by
  induction n with
  | zero => rfl
  | succ n ih =>
      show max 0 (max (max (c.inGroups n).toJson.depth 0 + 1) 0) + 1 = _
      omega

/-- Around a criterion, 60 groups in each other are read back, and 61 are refused: with the
criterion and its value, the filter and the definition 128 brackets are open. -/
theorem interchange_refuses_deep_groups :
    let c : Container := .ofSingle .and ⟨"x", .equals, .int 1, [], .other⟩
    let d := fun n => ({ filter := some ⟨[c.inGroups n]⟩ } : SearchDefinition)
    (d 60).floats = [] ∧ (d 61).floats = [] ∧
      (Json.read (d 60).toJson.write).bind SearchDefinition.ofJson? = some (d 60) ∧
      (Json.read (d 61).toJson.write).bind SearchDefinition.ofJson? = none := by
  intro c d
  have hfloats : ∀ n, (d n).floats = [] := by
    intro n
    show (c.inGroups n).floats ++ [] = []
    rw [c.floats_inGroups]
    rfl
  have hdepth : ∀ n, (d n).toJson.depth = 6 + 2 * n := by
    intro n
    have hgroups := c.depth_inGroups n
    have hcontainer : c.toJson.depth = 3 := by rfl
    show max 0 (max 0 (max 0 (max (max (max (c.inGroups n).toJson.depth 0 + 1) 0 + 1)
      (max 0 0)))) + 1 = _
    omega
  have hback : ∀ n, Json.RoundTrips SearchDefinition.toJson SearchDefinition.ofJson? (d n) :=
    fun n => (SearchDefinition.carries (by simp [hfloats])).roundTrips
  refine ⟨hfloats 60, hfloats 61, (hback 60).text (by rw [hdepth]; decide), ?_⟩
  rw [(hback 61).refused (by rw [hdepth]; decide)]
  rfl

end RecordSearch
