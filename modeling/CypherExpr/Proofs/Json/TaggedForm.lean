import CypherExpr.Json.Tagged
import CypherExpr.Proofs.Calendar.IsoText
import CypherExpr.Proofs.Json.Members
import CypherExpr.Proofs.Value.Reordering
import CypherExpr.Proofs.Value.WellFormed

/-!
# The tagged form is read back

A reader of objects looks its members up by key, so it does not matter that they were sorted, but
the entries of maps and properties come back in that order.  By induction on the parts of a value,
what is read back is a reordering of what was written.  Only a double that is not finite, an offset
that is not a whole number of minutes and a leap second within a minute are not kept.
-/

namespace CypherExpr

/-! ## Lists made element by element -/

section Lists

variable {α β : Type} {R : α → β → Prop} {xs : List α}

theorem exists_forall₂ (hall : ∀ x ∈ xs, ∃ y, R x y) : ∃ ys, List.Forall₂ R xs ys := by
  induction xs with
  | nil => exact ⟨[], .nil⟩
  | cons x rest ih =>
      rw [List.forall_mem_cons] at hall
      obtain ⟨y, hfirst⟩ := hall.1
      obtain ⟨ys, hrest⟩ := ih hall.2
      exact ⟨y :: ys, .cons hfirst hrest⟩

theorem mapM_eq_some_iff {f : α → Option β} {ys : List β} :
    xs.mapM f = some ys ↔ List.Forall₂ (fun x y => f x = some y) xs ys := by
  induction xs generalizing ys with
  | nil => simp [eq_comm]
  | cons x rest ih =>
      rw [List.mapM_cons, List.forall₂_cons_left_iff]
      cases hfirst : f x with
      | none => simp
      | some y =>
          cases hrest : rest.mapM f with
          | none => simp [← ih, hrest]
          | some others => simp [← ih, hrest, eq_comm]

end Lists

/-! ## Normalised durations -/

theorem Duration.fits_nanos (duration : Duration) : Checked.Fits duration.nanos := by
  have hbound := duration.nanos_lt
  simp only [nanosPerSecond] at hbound
  constructor <;> omega

/-- No second is carried out of nanoseconds that are normalised. -/
theorem Duration.ofFields_self (duration : Duration) :
    ofFields duration.months duration.days duration.seconds
      (Int64.ofInt duration.nanos) = duration := by
  obtain ⟨months, days, seconds, nanos, hnanos⟩ := duration
  have hword : (Int64.ofInt nanos).toInt = nanos :=
    Checked.toInt_ofInt (Duration.fits_nanos ⟨months, days, seconds, nanos, hnanos⟩)
  have hcarry : (nanos : Int) / nanosPerSecond = 0 := by
    simp only [nanosPerSecond] at hnanos ⊢
    omega
  have hrest : Duration.restOfSecond nanos = nanos := by
    simp only [Duration.restOfSecond, nanosPerSecond] at hnanos ⊢
    omega
  simp only [Duration.ofFields, hword, hcarry, hrest, Int.add_zero, Checked.clamp,
    Checked.narrow_toInt, Option.getD_some]

namespace Tagged

/-! ## Writers and readers of lists -/

theorem encodeItems_eq_map (items : List Value) : encodeItems items = items.map encode := by
  induction items with
  | nil => rfl
  | cons item rest ih => rw [encodeItems, ih, List.map_cons]

theorem encodeMembers_eq_map (entries : Properties Value) :
    encodeMembers entries = entries.map fun entry => (entry.1, encode entry.2) := by
  induction entries with
  | nil => rfl
  | cons entry rest ih => rw [encodeMembers, ih, List.map_cons]

theorem encodeHopNodes_eq_map (hops : List (Relationship Value × Node Value)) :
    encodeHopNodes hops = hops.map fun hop => encodeNode hop.2 := by
  induction hops with
  | nil => rfl
  | cons hop rest ih => rw [encodeHopNodes, ih, List.map_cons]

theorem encodeHopRelationships_eq_map (hops : List (Relationship Value × Node Value)) :
    encodeHopRelationships hops = hops.map fun hop => encodeRelationship hop.1 := by
  induction hops with
  | nil => rfl
  | cons hop rest ih => rw [encodeHopRelationships, ih, List.map_cons]

theorem readItems_eq_map (items : List Json) : readItems items = items.map read := by
  induction items with
  | nil => rfl
  | cons item rest ih => rw [readItems, ih, List.map_cons]

theorem mapM_readItems {α : Type} (role : Reading → Option α) (documents : List Json) :
    (readItems documents).mapM role = documents.mapM fun document => role (read document) := by
  rw [readItems_eq_map, List.mapM_map]
  rfl

theorem readMembers_eq_map (members : List (String × Json)) :
    readMembers members =
      members.map fun member => (member.1, (⟨member.2, read member.2⟩ : Member)) := by
  induction members with
  | nil => rfl
  | cons member rest ih => rw [readMembers, ih, List.map_cons]

/-! ## Objects -/

theorem lookup_readMembers (members : List (String × Json)) (key : String) :
    (readMembers members).lookup key =
      (members.lookup key).map fun document => ⟨document, read document⟩ := by
  induction members with
  | nil => rfl
  | cons member rest ih =>
      obtain ⟨head, document⟩ := member
      rw [readMembers, List.lookup_cons, List.lookup_cons, ih]
      split <;> rfl

/-- An object is read from the members that it was made of, in the order in which they were. -/
theorem lookup_readMembers_sorted (members : List (String × Json)) (key : String) :
    (readMembers (Json.sortedMembers members)).lookup key =
      (members.lookup key).map fun document => ⟨document, read document⟩ := by
  rw [lookup_readMembers, Json.lookup_sortedMembers]

theorem decode_null : decode (encode .null) = some .null := by
  simp [decode, encode, Json.ofMembers_eq, read, ofMembers, decodeTagged, Members.document?,
    lookup_readMembers_sorted, Json.string?, List.lookup_cons]

theorem decode_tagged {kind : String} (hkind : kind ≠ "Null") (content : Json) :
    decode (tagged kind content) = decodeContent kind ⟨content, read content⟩ := by
  simp [decode, tagged, Json.ofMembers_eq, read, ofMembers, decodeTagged, Members.document?,
    lookup_readMembers_sorted, Json.string?, hkind, List.lookup_cons]

/-! ## Durations -/

theorem decodeDuration_words (months days seconds nanos : Int64) :
    decodeDuration (.ofMembers [("months", Value.word months), ("days", Value.word days),
      ("seconds", Value.word seconds), ("nanos", Value.word nanos)]) =
        some (.ofFields months days seconds nanos) := by
  simp [decodeDuration, Json.member?_ofMembers, List.lookup_cons, Json.integer?, Value.word]

theorem decodeDuration_encodeDuration (duration : Duration) :
    decodeDuration (encodeDuration duration) = some duration := by
  have hword : Value.word (Int64.ofInt duration.nanos) = .integer duration.nanos :=
    congrArg Json.integer (Checked.toInt_ofInt duration.fits_nanos)
  rw [encodeDuration, ← hword, decodeDuration_words, duration.ofFields_self]

/-! ## Properties and entities -/

/-- What is read back of the value is a reordering of it. -/
def Survives (value : Value) : Prop :=
  ∃ other, decode (encode value) = some other ∧ Value.Reordered value other

theorem exists_properties {entries : Properties Value} (hkeys : entries.keys.Nodup)
    (hvalues : ∀ entry ∈ entries, Survives entry.2) :
    ∃ entries', (read (.ofMembers (encodeMembers entries))).properties = some entries' ∧
      Value.Reordered (.map entries) (.map entries') := by
  obtain ⟨moved, hmoved, hmembers⟩ := Json.exists_perm_sortedMembers encode hkeys
  have hpart : ∀ entry ∈ moved, ∃ entry' : String × Value,
      (decode (encode entry.2)).map (Prod.mk entry.1) = some entry' ∧
        Value.EntryReordered entry entry' := by
    intro entry hentry
    obtain ⟨other, hdecode, hreordered⟩ := hvalues entry (hmoved.mem_iff.mpr hentry)
    exact ⟨(entry.1, other), by rw [hdecode, Option.map_some], rfl, hreordered⟩
  obtain ⟨entries', hentries⟩ := exists_forall₂ hpart
  have hread : (read (.ofMembers (encodeMembers entries))).properties = some entries' := by
    have hall := mapM_eq_some_iff.mpr (hentries.imp fun _ _ hentry => hentry.1)
    rw [encodeMembers_eq_map, Json.ofMembers_eq, hmembers, ← hall]
    change (readMembers _).mapM _ = _
    rw [readMembers_eq_map, List.map_map, List.mapM_map]
    rfl
  exact ⟨entries', hread, .of_entries hmoved (hentries.imp fun _ _ hentry => hentry.2)⟩

theorem strings?_labels (labels : List String) :
    (Json.array (labels.map .string)).strings? = some labels := by
  change (labels.map Json.string).mapM Json.string? = some labels
  rw [List.mapM_map]
  exact mapM_eq_some_iff.mpr (List.forall₂_same.mpr fun label _ => rfl)

section Entities

variable {properties properties' : Properties Value}

theorem node_encodeNode (id : Int64) (labels : List String)
    (hproperties : (read (.ofMembers (encodeMembers properties))).properties = some properties') :
    (read (encodeNode ⟨id, labels, properties⟩)).node = some ⟨id, labels, properties'⟩ := by
  change decodeNode (readMembers (Json.sortedMembers _)) = _
  simp [decodeNode, Members.document?, Members.reading?, lookup_readMembers_sorted,
    List.lookup_cons, Json.integer?, Value.word, strings?_labels, hproperties]

theorem relationship_encodeRelationship (id source target : Int64) (kind : String)
    (hproperties : (read (.ofMembers (encodeMembers properties))).properties = some properties') :
    (read (encodeRelationship ⟨id, kind, source, target, properties⟩)).relationship =
      some ⟨id, kind, source, target, properties'⟩ := by
  change decodeRelationship (readMembers (Json.sortedMembers _)) = _
  simp [decodeRelationship, Members.document?, Members.reading?, lookup_readMembers_sorted,
    List.lookup_cons, Json.integer?, Json.string?, Value.word, hproperties]

end Entities

theorem exists_node {entity : Node Value} (hkeys : (Properties.keys entity.properties).Nodup)
    (hvalues : ∀ entry ∈ entity.properties, Survives entry.2) :
    ∃ entity', (read (encodeNode entity)).node = some entity' ∧
      Value.Reordered (.node entity) (.node entity') := by
  obtain ⟨id, labels, properties⟩ := entity
  obtain ⟨properties', hread, hreordered⟩ := exists_properties hkeys hvalues
  exact ⟨⟨id, labels, properties'⟩, node_encodeNode id labels hread, .node hreordered⟩

theorem exists_relationship {entity : Relationship Value}
    (hkeys : (Properties.keys entity.properties).Nodup)
    (hvalues : ∀ entry ∈ entity.properties, Survives entry.2) :
    ∃ entity', (read (encodeRelationship entity)).relationship = some entity' ∧
      Value.Reordered (.relationship entity) (.relationship entity') := by
  obtain ⟨id, kind, source, target, properties⟩ := entity
  obtain ⟨properties', hread, hreordered⟩ := exists_properties hkeys hvalues
  exact ⟨⟨id, kind, source, target, properties'⟩,
    relationship_encodeRelationship id source target kind hread, .relationship hreordered⟩

/-! ## Paths -/

/-- A path is read from its nodes and relationships if they are connected. -/
theorem path_encodePath {walk walk' : Path Value}
    (hstart : (read (encodeNode walk.start)).node = some walk'.start)
    (hhops : List.Forall₂ (fun hop hop' =>
      (read (encodeRelationship hop.1)).relationship = some hop'.1 ∧
        (read (encodeNode hop.2)).node = some hop'.2) walk.hops walk'.hops)
    (hconnected : walk'.Connected) :
    (read (encodePath walk)).path = some (.ok walk') := by
  obtain ⟨start, hops⟩ := walk
  have hnodes : (read (.array (encodeNode start :: encodeHopNodes hops))).nodes =
      some walk'.nodes := by
    change (readItems _).mapM Reading.node = _
    rw [encodeHopNodes_eq_map, mapM_readItems]
    apply mapM_eq_some_iff.mpr
    rw [Path.nodes, List.forall₂_cons, List.forall₂_map_left_iff, List.forall₂_map_right_iff]
    exact ⟨hstart, hhops.imp fun _ _ hhop => hhop.2⟩
  have hrelationships : (read (.array (encodeHopRelationships hops))).relationships =
      some walk'.relationships := by
    change (readItems _).mapM Reading.relationship = _
    rw [encodeHopRelationships_eq_map, mapM_readItems]
    apply mapM_eq_some_iff.mpr
    rw [Path.relationships, List.forall₂_map_left_iff, List.forall₂_map_right_iff]
    exact hhops.imp fun _ _ hhop => hhop.1
  change decodePath (readMembers (Json.sortedMembers _)) = _
  simp [decodePath, Members.reading?, lookup_readMembers_sorted, List.lookup_cons, hnodes,
    hrelationships, Path.ofParts_nodes_relationships hconnected]

theorem exists_path {walk : Path Value} (hconnected : walk.Connected)
    (hkeys : ∀ properties ∈ (Value.path walk).propertyLists, properties.keys.Nodup)
    (hvalues : ∀ properties ∈ (Value.path walk).propertyLists, ∀ entry ∈ properties,
      Survives entry.2) :
    ∃ walk', (read (encodePath walk)).path = some (.ok walk') ∧
      Value.Reordered (.path walk) (.path walk') := by
  have hfirst : walk.start.properties ∈ (Value.path walk).propertyLists := List.mem_cons_self
  obtain ⟨start', hstart, hstartReordered⟩ := exists_node (hkeys _ hfirst) (hvalues _ hfirst)
  have hhop : ∀ hop ∈ walk.hops, ∃ hop' : Relationship Value × Node Value,
      ((read (encodeRelationship hop.1)).relationship = some hop'.1 ∧
        (read (encodeNode hop.2)).node = some hop'.2) ∧ Value.HopReordered hop hop' := by
    intro hop hmem
    obtain ⟨hcrossed, hreached⟩ := Value.mem_propertyLists_of_hop hmem
    obtain ⟨crossed, hcross, hcrossReordered⟩ :=
      exists_relationship (hkeys _ hcrossed) (hvalues _ hcrossed)
    obtain ⟨reached, hreach, hreachReordered⟩ :=
      exists_node (hkeys _ hreached) (hvalues _ hreached)
    exact ⟨(crossed, reached), ⟨hcross, hreach⟩, hcrossReordered, hreachReordered⟩
  obtain ⟨hops', hhops⟩ := exists_forall₂ hhop
  have hreordered : List.Forall₂ Value.HopReordered walk.hops hops' :=
    hhops.imp fun _ _ hhop => hhop.2
  -- What was written is connected, and the ends and identities that this rests on are kept.
  have hconnected' : (Path.mk start' hops').Connected := by
    rw [Path.Connected, ← hstartReordered.id_eq]
    exact Value.connectedFrom_of_forall₂ hreordered hconnected
  have hread : (read (encodePath walk)).path = some (.ok ⟨start', hops'⟩) :=
    path_encodePath hstart (hhops.imp fun _ _ hhop => hhop.1) hconnected'
  exact ⟨⟨start', hops'⟩, hread, .of_hops hstartReordered hreordered⟩

end Tagged

/-! ## Values -/

namespace Value

/-- A double is finite, a zoned datetime has an offset of whole minutes, and a leap second ends a
minute. -/
def IsExact : Value → Prop
  | .float number => Binary64.isFinite number = true
  | .time clock => clock.LeapEndsMinute
  | .localDateTime point => point.time.LeapEndsMinute
  | .dateTime point => point.clock.time.LeapEndsMinute ∧ point.offset % 60 = 0
  | _ => True

/-- All doubles inside the value are finite, all offsets whole numbers of minutes and all leap
seconds at the end of one. -/
def Exact (value : Value) : Prop := value.Throughout IsExact

theorem Exact.nanFree {value : Value} (hexact : value.Exact) : value.NaNFree := by
  intro inner hinner
  have hkind := hexact inner hinner
  cases inner with
  | float number => exact not_isNaN_of_isFinite hkind
  | _ => exact id

end Value

namespace Tagged

/-- A value that is read back as it is. -/
theorem survives_of_decodeContent {value : Value} {kind : String} {content : Json}
    (hkind : kind ≠ "Null") (hencode : encode value = tagged kind content)
    (hdecode : decodeContent kind ⟨content, read content⟩ = some value) : Survives value := by
  have hread : decode (encode value) = some value := by
    rw [hencode, decode_tagged hkind, hdecode]
  exact ⟨value, hread, .refl value⟩

theorem survives_list {items : List Value} (hitems : ∀ item ∈ items, Survives item) :
    Survives (.list items) := by
  obtain ⟨items', hrelated⟩ := exists_forall₂ hitems
  have hread : (read (.array (encodeItems items))).values = some items' := by
    change (readItems _).mapM Reading.value = _
    rw [encodeItems_eq_map, mapM_readItems]
    apply mapM_eq_some_iff.mpr
    rw [List.forall₂_map_left_iff]
    exact hrelated.imp fun _ _ hitem => hitem.1
  have hdecode : decode (encode (.list items)) = some (.list items') := by
    rw [encode, decode_tagged (by decide), decodeContent, hread, Option.map_some]
  exact ⟨.list items', hdecode, .of_items (hrelated.imp fun _ _ hitem => hitem.2)⟩

theorem survives {value : Value} (hexact : value.Exact) (hpaths : value.PathsConnected)
    (hkeys : value.UniqueKeys) : Survives value := by
  induction value using Value.inductionOnParts with
  | step value ih =>
      obtain ⟨hkind, hpartExact⟩ := Value.throughout_iff.mp hexact
      obtain ⟨hpath, hpartPaths⟩ := Value.throughout_iff.mp hpaths
      obtain ⟨hunique, hpartKeys⟩ := Value.throughout_iff.mp hkeys
      have hpart : ∀ part ∈ value.parts, Survives part := fun part hmem =>
        ih part hmem (hpartExact part hmem) (hpartPaths part hmem) (hpartKeys part hmem)
      have hvalues : ∀ properties ∈ value.propertyLists, ∀ entry ∈ properties,
          Survives entry.2 := fun properties hmem entry hentry =>
        hpart entry.2 (Value.mem_parts_of_entry hmem hentry)
      cases value with
      | null => exact ⟨.null, decode_null, .refl _⟩
      | boolean flag =>
          apply survives_of_decodeContent (by decide) rfl
          simp only [decodeContent, Json.boolean?, Option.map_some]
      | integer number =>
          apply survives_of_decodeContent (by decide) rfl
          simp only [decodeContent, Value.word, Json.integer?, Checked.narrow_toInt,
            Option.map_some]
      | float number =>
          have hfinite : Binary64.isFinite number = true := hkind
          have hwritten : encode (.float number) = tagged "Float" (.float number) := by
            rw [encode, Value.numeral, if_pos hfinite]
          apply survives_of_decodeContent (by decide) hwritten
          simp only [decodeContent, Json.float?, Option.map_some]
      | string text =>
          apply survives_of_decodeContent (by decide) rfl
          simp only [decodeContent, Json.string?, Option.map_some]
      | list items =>
          exact survives_list fun item hitem => hpart item (Value.mem_parts_of_item hitem)
      | map entries =>
          obtain ⟨entries', hread, hreordered⟩ :=
            exists_properties (hunique _ List.mem_cons_self) (hvalues _ List.mem_cons_self)
          have hdecode : decode (encode (.map entries)) = some (.map entries') := by
            rw [encode, decode_tagged (by decide), decodeContent, hread, Option.map_some]
          exact ⟨.map entries', hdecode, hreordered⟩
      | node entity =>
          obtain ⟨entity', hread, hreordered⟩ :=
            exists_node (hunique _ List.mem_cons_self) (hvalues _ List.mem_cons_self)
          have hdecode : decode (encode (.node entity)) = some (.node entity') := by
            rw [encode, decode_tagged (by decide), decodeContent, hread, Option.map_some]
          exact ⟨.node entity', hdecode, hreordered⟩
      | relationship entity =>
          obtain ⟨entity', hread, hreordered⟩ :=
            exists_relationship (hunique _ List.mem_cons_self) (hvalues _ List.mem_cons_self)
          have hdecode : decode (encode (.relationship entity)) =
              some (.relationship entity') := by
            rw [encode, decode_tagged (by decide), decodeContent, hread, Option.map_some]
          exact ⟨.relationship entity', hdecode, hreordered⟩
      | path walk =>
          obtain ⟨walk', hread, hreordered⟩ := exists_path hpath hunique hvalues
          have hdecode : decode (encode (.path walk)) = some (.path walk') := by
            rw [encode, decode_tagged (by decide), decodeContent, hread]
            rfl
          exact ⟨.path walk', hdecode, hreordered⟩
      | date day =>
          apply survives_of_decodeContent (by decide) rfl
          simp only [decodeContent, Json.string?, Option.bind_some, Date.read?_render,
            Option.map_some]
      | time time =>
          apply survives_of_decodeContent (by decide) rfl
          simp only [decodeContent, Json.string?, Option.bind_some, TimeOfDay.read?_render hkind,
            Option.map_some]
      | localDateTime point =>
          apply survives_of_decodeContent (by decide) rfl
          simp only [decodeContent, Json.string?, Option.bind_some,
            LocalDateTime.read?_render hkind, Option.map_some]
      | dateTime point =>
          apply survives_of_decodeContent (by decide) rfl
          simp only [decodeContent, Json.string?, Option.bind_some,
            ZonedDateTime.read?_renderUtc hkind.1 hkind.2, Option.map_some]
      | duration duration =>
          apply survives_of_decodeContent (by decide) rfl
          simp only [decodeContent, decodeDuration_encodeDuration, Option.map_some]

/-- What is read back of a value is equal to it. -/
theorem exists_decode_encode_equals {value : Value} (hexact : value.Exact)
    (hpaths : value.PathsConnected) (hkeys : value.UniqueKeys) :
    ∃ other, decode (encode value) = some other ∧ other.equals value = true := by
  obtain ⟨other, hread, hreordered⟩ := survives hexact hpaths hkeys
  exact ⟨other, hread, Value.reordered_equals hexact.nanFree hkeys hreordered⟩

/-- Half past nine on 17 May 2024, two hours east of UTC. -/
def morning : ZonedDateTime where
  clock := ⟨⟨2024, 5, 17, by decide⟩, ⟨34200, 0, by decide, by decide⟩⟩
  offset := 7200
  offset_lt := by decide
  inSpan := by decide +kernel

/-- A path from Alice to Bob against the direction of its relationship. -/
def meeting : Value :=
  .path
    ⟨⟨1, ["Person"], [("name", .string "Alice"), ("height", .float 1.5)]⟩,
      [(⟨10, "MET", 2, 1, [("at", .dateTime morning)]⟩, ⟨2, [], []⟩)]⟩

theorem throughout_meeting {P : Value → Prop} (hpath : P meeting) (hname : P (.string "Alice"))
    (hheight : P (.float 1.5)) (hmorning : P (.dateTime morning)) : meeting.Throughout P := by
  have hparts : meeting.parts = [.string "Alice", .float 1.5, .dateTime morning] := rfl
  rw [Value.throughout_iff, hparts]
  simp only [List.forall_mem_cons]
  exact ⟨hpath, Value.throughout_of_parts_eq_nil rfl hname,
    Value.throughout_of_parts_eq_nil rfl hheight,
    Value.throughout_of_parts_eq_nil rfl hmorning, nofun⟩

theorem exact_meeting : meeting.Exact := by
  have hfinite : Binary64.isFinite 1.5 = true := by decide +kernel
  exact throughout_meeting trivial trivial hfinite ⟨nofun, rfl⟩

theorem pathsConnected_meeting : meeting.PathsConnected :=
  throughout_meeting ⟨rfl, trivial⟩ trivial trivial trivial

theorem uniqueKeys_meeting : meeting.UniqueKeys := by
  have hkeys : ∀ properties ∈ meeting.propertyLists, properties.keys.Nodup := by
    change ∀ properties ∈ [_, _, _], _
    simp only [List.forall_mem_cons]
    exact ⟨by decide, by decide, by decide, nofun⟩
  exact throughout_meeting hkeys nofun nofun nofun

/-- The meeting comes back, with the entries of Alice in the other order. -/
theorem exists_decode_encode_meeting :
    (meeting.Exact ∧ meeting.PathsConnected ∧ meeting.UniqueKeys) ∧
      ∃ other, decode (encode meeting) = some other ∧ other.equals meeting = true :=
  ⟨⟨exact_meeting, pathsConnected_meeting, uniqueKeys_meeting⟩,
    exists_decode_encode_equals exact_meeting pathsConnected_meeting uniqueKeys_meeting⟩

end Tagged

end CypherExpr
