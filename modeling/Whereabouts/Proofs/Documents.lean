import Whereabouts.Proofs.OrderedMap
import Whereabouts.Proofs.Rereading
import Whereabouts.Proofs.Timestamps
import Whereabouts.Records.Database

/-!
# Reading back documents

The document of a database is read as that database, whatever its tables hold.
The parts come first: what a reader recovers from a writer, for plain values,
for the members of a record, for records that share an object and for tables.
-/

namespace Whereabouts
namespace Json

variable {α κ : Type}

/-- A reader gets back what a writer wrote, after it was read as text. -/
structure Recovers (write : α -> Json) (read : Json -> Option α) : Prop where
  writable : forall a, Writable (write a)
  read_eq : forall a, read (spelled (write a)) = some a

/-!
## Plain values
-/

theorem recovers_str : Recovers .str str? where
  writable s := .str s
  read_eq _ := rfl

theorem recovers_bool : Recovers .bool bool? where
  writable b := .bool b
  read_eq _ := rfl

theorem intBetween?_int {low high n : Int} (hlow : low ≤ n) (hhigh : n ≤ high) :
    (int n).intBetween? low high = some n := by
  simp [intBetween?, hlow, hhigh]

theorem int64?_toInt (n : Int64) : int64? (.int n.toInt) = some n := by
  unfold int64?
  rw [intBetween?_int (Int64.minValue_le_toInt n) (Int64.toInt_le n), Option.map_some,
    Int64.ofInt_toInt]

theorem recovers_int64 : Recovers ofInt64 int64? where
  writable n := .int n.toInt
  read_eq n := by
    rw [ofInt64, spelled]
    exact int64?_toInt n

theorem recovers_uint64 : Recovers ofUInt64 uint64? where
  writable n := .int n.toNat
  read_eq n := by
    have hlt := n.toNat_lt_size
    rw [ofUInt64, spelled, uint64?, intBetween?_int (by omega) (by omega)]
    simp

theorem recovers_uint32 : Recovers (fun n : UInt32 => .int n.toNat) uint32? where
  writable n := .int n.toNat
  read_eq n := by
    have hlt := n.toNat_lt_size
    rw [spelled, uint32?, intBetween?_int (by omega) (by omega)]
    simp

theorem recovers_instant : Recovers ofInstant instant? where
  writable time := .str time.text
  read_eq time := by
    rw [ofInstant, spelled, instant?, str?, Option.bind_some, Instant.ofText?_text]

/-!
## Members of records

The names of a record are all different, so each member is found under its own
name.  Two records that share an object find their own members there.
-/

/-- What is known of the members of a written object. -/
def written (members : List (Name × Json)) : Fields :=
  members.map fun member => (member.1.text, spelled member.2)

@[simp] theorem lookup_written_cons (name : Name) (value : Json)
    (rest : List (Name × Json)) (key : String) :
    (written ((name, value) :: rest)).lookup key =
      if key = name.text then some (spelled value) else (written rest).lookup key := by
  by_cases h : key = name.text
  · simp [written, h]
  · have hbeq : (key == name.text) = false := beq_eq_false_iff_ne.mpr h
    rw [if_neg h, written, List.map_cons, List.lookup_cons, hbeq]
    rfl

theorem map_spelledMembers (members : List (Name × Json)) :
    ((spelledMembers members).map fun member => (member.1.text, member.2)) =
      written members := by
  induction members with
  | nil => rfl
  | cons member rest ih =>
      rw [spelledMembers, List.map_cons, ih]
      rfl

theorem map_fst_written (members : List (Name × Json)) :
    (written members).map Prod.fst = members.map fun member => member.1.text := by
  simp [written]

/-- The members of one record among those of an object, when the others have other
names. -/
theorem knownMembers?_spelled {names : List String} (front own back : List (Name × Json))
    (hown : (own.map fun member => member.1.text) = names) (hnames : names.Nodup)
    (hfront : forall member, member ∈ front -> member.1.text ∉ names)
    (hback : forall member, member ∈ back -> member.1.text ∉ names) :
    knownMembers? names (spelledMembers (front ++ own ++ back)) = some (written own) := by
  have hothers : forall others : List (Name × Json),
      (forall member, member ∈ others -> member.1.text ∉ names) ->
      (written others).filter (fun member => names.contains member.1) = [] := by
    intro others h
    rw [List.filter_eq_nil_iff]
    intro field hfield
    rcases List.mem_map.mp hfield with ⟨member, hmember, rfl⟩
    simpa using h member hmember
  have hkept : (written own).filter (fun member => names.contains member.1) = written own := by
    rw [List.filter_eq_self]
    intro field hfield
    have hmem := List.mem_map_of_mem (f := Prod.fst) hfield
    rw [map_fst_written, hown] at hmem
    simpa using hmem
  have hwritten : written (front ++ own ++ back) =
      written front ++ written own ++ written back := by
    simp [written]
  simp only [knownMembers?, map_spelledMembers, hwritten, List.filter_append,
    hothers front hfront, hothers back hback, hkept, List.nil_append, List.append_nil,
    map_fst_written, hown]
  rw [if_pos hnames]

theorem fields?_spelled {names : List String} {members : List (Name × Json)}
    (hmembers : (members.map fun member => member.1.text) = names) (hnames : names.Nodup) :
    fields? names (spelled (.obj members)) = some (written members) := by
  have hknown := knownMembers?_spelled [] members [] hmembers hnames
    (fun _ h => absurd h List.not_mem_nil)
    (fun _ h => absurd h List.not_mem_nil)
  rw [List.append_nil, List.nil_append] at hknown
  rw [spelled, fields?, hknown]

theorem required?_eq {fields : Fields} {name : String} {read : Json -> Option α}
    {write : α -> Json} (h : Recovers write read) (a : α)
    (hlookup : fields.lookup name = some (spelled (write a))) :
    fields.required? name read = some a := by
  rw [Fields.required?, hlookup]
  exact h.read_eq a

theorem orDefault?_eq {fields : Fields} {name : String} {read : Json -> Option α}
    {write : α -> Json} (h : Recovers write read) (value a : α)
    (hlookup : fields.lookup name = some (spelled (write a))) :
    fields.orDefault? name value read = some a := by
  rw [Fields.orDefault?, hlookup]
  exact h.read_eq a

theorem optional?_eq {fields : Fields} {name : String} {read : Json -> Option α}
    {write : α -> Json} (h : Recovers write read) (hnull : read .null = none)
    (a : Option α) (hlookup : fields.lookup name = some (spelled (ofOption write a))) :
    fields.optional? name read = some a := by
  unfold Fields.optional?
  rw [hlookup]
  cases a with
  | none => rfl
  | some a =>
      have hread := h.read_eq a
      rw [ofOption]
      cases hvalue : spelled (write a) with
      | null =>
          rw [hvalue, hnull] at hread
          cases hread
      | _ =>
          rw [hvalue] at hread
          simp [hread]

theorem writable_ofOption {write : α -> Json} (h : forall a, Writable (write a))
    (a : Option α) : Writable (ofOption write a) := by
  cases a with
  | none => exact .null
  | some a => exact h a

/-!
## Lists, cases and tables
-/

theorem recovers_list {write : α -> Json} {read : Json -> Option α}
    (h : Recovers write read) :
    Recovers (fun items => .arr (items.map write)) (list? read) where
  writable items := by
    refine .arr _ ?_
    intro item hitem
    rcases List.mem_map.mp hitem with ⟨a, _, rfl⟩
    exact h.writable a
  read_eq items := by
    rw [spelled, list?]
    induction items with
    | nil => rfl
    | cons a items ih =>
        rw [List.map_cons, spelledItems, List.mapM_cons, h.read_eq, ih]
        rfl

theorem recovers_case {text : α -> String} {cases : List (String × α)}
    (h : forall a, cases.lookup (text a) = some a) :
    Recovers (fun a => .str (text a)) (case? isNull cases) where
  writable a := .str (text a)
  read_eq a := h a

theorem table?_spelled {write : α -> Json} {read : Json -> Option α} (text : κ -> String)
    (readKey : Name -> Option κ) (h : Recovers write read)
    (hkey : forall key, readKey (Name.spelled (text key)) = some key)
    (entries : List (κ × α)) :
    table? readKey read (spelled (.obj (entries.map fun entry =>
      ((text entry.1 : Name), write entry.2)))) = some entries := by
  rw [spelled, table?]
  induction entries with
  | nil => rfl
  | cons entry entries ih =>
      rw [List.map_cons, spelledMembers, List.mapM_cons]
      simp only [hkey, h.read_eq, Option.bind_eq_bind, Option.bind_some, ih]
      rfl

theorem writable_table {write : α -> Json} (h : forall a, Writable (write a))
    (name : κ -> Name) (entries : List (κ × α)) :
    Writable (.obj (entries.map fun entry => (name entry.1, write entry.2))) := by
  refine .obj _ ?_
  intro member hmember
  rcases List.mem_map.mp hmember with ⟨entry, _, rfl⟩
  exact h entry.2

end Json

/-!
## Rows
-/

open Json

theorem Project.recovers : Recovers Project.toJson Project.ofJson? where
  writable project := by
    refine .obj _ ?_
    simp [recovers_int64.writable, recovers_str.writable, writable_ofOption]
  read_eq project := by
    rw [toJson, ofJson?, fields?_spelled (by rfl) (by decide), Option.bind_eq_bind,
      Option.bind_some, required?_eq recovers_int64 project.id (by simp),
      required?_eq recovers_str project.name (by simp),
      optional?_eq recovers_str rfl project.systemId (by simp)]
    rfl

theorem User.recovers : Recovers User.toJson User.ofJson? where
  writable user := by
    refine .obj _ ?_
    simp [recovers_int64.writable, recovers_str.writable, writable_ofOption]
  read_eq user := by
    rw [toJson, ofJson?, fields?_spelled (by rfl) (by decide), Option.bind_eq_bind,
      Option.bind_some, required?_eq recovers_int64 user.id (by simp),
      required?_eq recovers_str user.username (by simp),
      optional?_eq recovers_str rfl user.token (by simp)]
    rfl

theorem SourceFile.recovers : Recovers SourceFile.toJson SourceFile.ofJson? where
  writable file := by
    refine .obj _ ?_
    simp [recovers_str.writable, recovers_uint64.writable, writable_ofOption]
  read_eq file := by
    rw [toJson, ofJson?, fields?_spelled (by rfl) (by decide), Option.bind_eq_bind,
      Option.bind_some, required?_eq recovers_str file.name (by simp),
      optional?_eq recovers_uint64 rfl file.size (by simp)]
    rfl

theorem PointCloud.recovers : Recovers PointCloud.toJson PointCloud.ofJson? where
  writable cloud := by
    refine .obj _ ?_
    simp [recovers_int64.writable, (recovers_list SourceFile.recovers).writable]
  read_eq cloud := by
    rw [toJson, ofJson?, fields?_spelled (by rfl) (by decide), Option.bind_eq_bind,
      Option.bind_some, required?_eq recovers_int64 cloud.id (by simp),
      required?_eq recovers_int64 cloud.projectId (by simp),
      orDefault?_eq (recovers_list SourceFile.recovers) [] cloud.files (by simp)]
    rfl

theorem TaskStatus.recovers :
    Recovers (fun status : TaskStatus => .str status.text)
      (case? isNull TaskStatus.named) :=
  recovers_case fun status => by cases status <;> rfl

theorem Task.recovers : Recovers Task.toJson Task.ofJson? where
  writable task := by
    refine .obj _ ?_
    simp [recovers_int64.writable, recovers_str.writable, recovers_instant.writable,
      writable_ofOption]
  read_eq task := by
    rw [toJson, ofJson?, fields?_spelled (by rfl) (by decide), Option.bind_eq_bind,
      Option.bind_some, required?_eq recovers_int64 task.id (by simp),
      required?_eq recovers_str task.processId (by simp),
      required?_eq TaskStatus.recovers task.status (by simp),
      required?_eq recovers_str task.description (by simp),
      required?_eq recovers_int64 task.projectId (by simp),
      optional?_eq recovers_str rfl task.latestMessage (by simp),
      required?_eq recovers_instant task.created (by simp),
      optional?_eq recovers_instant rfl task.updated (by simp)]
    rfl

theorem Run.recovers : Recovers Run.toJson Run.ofJson? where
  writable run := by
    refine .obj _ ?_
    simp [recovers_int64.writable, recovers_uint64.writable, recovers_instant.writable,
      writable_ofOption]
  read_eq run := by
    rw [toJson, ofJson?, fields?_spelled (by rfl) (by decide), Option.bind_eq_bind,
      Option.bind_some, required?_eq recovers_int64 run.id (by simp),
      required?_eq recovers_int64 run.projectId (by simp),
      optional?_eq recovers_int64 rfl run.taskId (by simp),
      required?_eq recovers_instant run.startedAt (by simp),
      optional?_eq recovers_instant rfl run.completedAt (by simp),
      orDefault?_eq recovers_uint64 0 run.totalItems (by simp),
      orDefault?_eq recovers_uint64 0 run.itemsChecked (by simp),
      orDefault?_eq recovers_uint64 0 run.itemsFailed (by simp)]
    rfl

/-!
## Rows with a location

Such a row shares its object with the location.  The names of the two are all
different, and no part of a location is too large to be kept.
-/

namespace Location

theorem ofFields?_written (loc : Location) : ofFields? (written loc.members) = some loc := by
  rw [members, ofFields?, optional?_eq recovers_str rfl loc.originSystem (by simp),
    optional?_eq recovers_str rfl loc.originPath (by simp),
    optional?_eq recovers_str rfl loc.currentSystem (by simp),
    optional?_eq recovers_str rfl loc.currentPath (by simp),
    optional?_eq recovers_str rfl loc.externalId (by simp),
    optional?_eq recovers_bool rfl loc.isPublic (by simp),
    optional?_eq recovers_instant rfl loc.checkedAt (by simp)]
  rfl

theorem writable_members (loc : Location) (member : Json.Name × Json)
    (h : member ∈ loc.members) : Writable member.2 := by
  revert member
  simp [members, recovers_str.writable, recovers_bool.writable, recovers_instant.writable,
    writable_ofOption]

theorem map_members (loc : Location) :
    (loc.members.map fun member => member.1.text) = names := rfl

theorem isBounded_members (loc : Location) (room : Nat) (member : Json.Name × Json)
    (h : member ∈ loc.members) : isBounded room (spelled member.2) = true := by
  have hoption : forall {α : Type} (write : α -> Json) (a : Option α),
      (forall b, isBounded room (spelled (write b)) = true) ->
      isBounded room (spelled (ofOption write a)) = true := by
    intro α write a hwrite
    cases a with
    | none => rfl
    | some b => exact hwrite b
  have hstr : forall o, isBounded room (spelled (ofOption .str o)) = true :=
    fun o => hoption _ o fun _ => rfl
  have hbool : forall o, isBounded room (spelled (ofOption .bool o)) = true :=
    fun o => hoption _ o fun _ => rfl
  have htime : forall o, isBounded room (spelled (ofOption Json.ofInstant o)) = true :=
    fun o => hoption _ o fun _ => rfl
  revert member
  simp [members, hstr, hbool, htime]

end Location

theorem Json.writable_append {front back : List (Json.Name × Json)}
    (hfront : forall member, member ∈ front -> Writable member.2)
    (hback : forall member, member ∈ back -> Writable member.2) :
    Writable (.obj (front ++ back)) := by
  refine .obj _ ?_
  intro member hmember
  rcases List.mem_append.mp hmember with hmember | hmember
  · exact hfront member hmember
  · exact hback member hmember

theorem Json.mem_spelledMembers {members : List (Json.Name × Json)}
    {member : Json.Name × Json} (h : member ∈ spelledMembers members) :
    exists source, source ∈ members ∧ member = (source.1.spelled, spelled source.2) := by
  induction members with
  | nil => cases h
  | cons first rest ih =>
      rw [spelledMembers] at h
      rcases List.mem_cons.mp h with h | h
      · exact ⟨first, List.mem_cons_self .., h⟩
      · rcases ih h with ⟨source, hsource, heq⟩
        exact ⟨source, List.mem_cons_of_mem _ hsource, heq⟩

theorem Json.membersBounded_of_forall {room : Nat} {members : List (Json.Name × Json)}
    (h : forall member, member ∈ members -> isBounded room member.2 = true) :
    membersBounded room members = true := by
  induction members with
  | nil => rfl
  | cons member rest ih =>
      rw [membersBounded, h member (List.mem_cons_self ..),
        ih fun other hother => h other (List.mem_cons_of_mem _ hother)]
      rfl

theorem Location.ofShared?_spelled {own : List String} {members : List (Json.Name × Json)}
    (room : Nat) (loc : Location)
    (hmembers : (members.map fun member => member.1.text) = own)
    (hown : forall name, name ∈ own -> name ∉ Location.names) :
    Location.ofShared? own room (spelled (.obj (members ++ loc.members))) = some loc := by
  have hfront : forall member, member ∈ members -> member.1.text ∉ Location.names := by
    intro member hmember
    apply hown
    rw [<- hmembers]
    exact List.mem_map_of_mem hmember
  have hknown := knownMembers?_spelled members loc.members [] loc.map_members (by decide)
    hfront (fun _ h => absurd h List.not_mem_nil)
  rw [List.append_nil] at hknown
  rw [spelled]
  simp only [Location.ofShared?, sharedFields?, hknown, Option.bind_some,
    Location.ofFields?_written]
  rw [if_pos]
  apply membersBounded_of_forall
  intro member hmember
  rcases List.mem_filter.mp hmember with ⟨hmember, hname⟩
  rcases mem_spelledMembers hmember with ⟨source, hsource, rfl⟩
  rcases List.mem_append.mp hsource with hsource | hsource
  · have hmem : source.1.text ∈ own := by
      rw [<- hmembers]
      exact List.mem_map_of_mem hsource
    simp [Json.Name.spelled, hmem] at hname
  · exact loc.isBounded_members room source hsource

theorem Location.sharedFields?_spelled {own : List String}
    {members : List (Json.Name × Json)} (loc : Location)
    (hmembers : (members.map fun member => member.1.text) = own) (hnodup : own.Nodup)
    (hown : forall name, name ∈ Location.names -> name ∉ own) :
    sharedFields? own (spelled (.obj (members ++ loc.members))) = some (written members) := by
  have hback : forall member, member ∈ loc.members -> member.1.text ∉ own := by
    intro member hmember
    apply hown
    rw [<- loc.map_members]
    exact List.mem_map_of_mem hmember
  rw [spelled, sharedFields?]
  exact knownMembers?_spelled [] members loc.members hmembers hnodup
    (fun _ h => absurd h List.not_mem_nil) hback

theorem AssetType.recovers :
    Recovers (fun type : AssetType => .str type.text) (case? isNull AssetType.named) :=
  recovers_case fun type => by cases type <;> rfl

theorem Asset.recovers (room : Nat) : Recovers Asset.toJson (Asset.ofJson? room) where
  writable asset := by
    refine writable_append ?_ asset.location.writable_members
    simp [members, recovers_int64.writable, recovers_str.writable, writable_ofOption]
  read_eq asset := by
    rw [toJson, ofJson?,
      Location.sharedFields?_spelled asset.location (by rfl) (by decide) (by decide),
      Location.ofShared?_spelled room asset.location (by rfl) (by decide), members,
      Option.bind_eq_bind, Option.bind_some, required?_eq recovers_int64 asset.id (by simp),
      required?_eq recovers_int64 asset.featureId (by simp),
      required?_eq recovers_int64 asset.projectId (by simp),
      required?_eq AssetType.recovers asset.assetType (by simp),
      optional?_eq recovers_int64 rfl asset.pointCloudId (by simp)]
    rfl

theorem TileServer.recovers (room : Nat) :
    Recovers TileServer.toJson (TileServer.ofJson? room) where
  writable server := by
    refine writable_append ?_ server.location.writable_members
    simp [members, recovers_int64.writable, recovers_str.writable, recovers_bool.writable]
  read_eq server := by
    rw [toJson, ofJson?,
      Location.sharedFields?_spelled server.location (by rfl) (by decide) (by decide),
      Location.ofShared?_spelled room server.location (by rfl) (by decide), members,
      Option.bind_eq_bind, Option.bind_some, required?_eq recovers_int64 server.id (by simp),
      required?_eq recovers_int64 server.projectId (by simp),
      required?_eq recovers_str server.name (by simp),
      required?_eq recovers_str server.kind (by simp),
      required?_eq recovers_bool server.internal (by simp)]
    rfl

/-!
## Tables
-/

theorem OrderedMap.put_last {κ α : Type} [Ord κ] [Std.OrientedOrd κ] {key : κ} {value : α}
    {entries : List (κ × α)}
    (h : forall entry, entry ∈ entries -> compare entry.1 key = .lt) :
    put key value entries = entries ++ [(key, value)] := by
  induction entries with
  | nil => rfl
  | cons first rest ih =>
      have hgt : compare key first.1 = .gt :=
        Std.OrientedCmp.gt_of_lt (h first (List.mem_cons_self ..))
      rw [put, hgt]
      simp only [ih fun entry hentry => h entry (List.mem_cons_of_mem _ hentry),
        List.cons_append]

theorem OrderedMap.entries_foldl_insert {κ α : Type} [Ord κ] [Std.TransOrd κ]
    [Std.LawfulEqOrd κ] (entries : List (κ × α)) :
    forall map : OrderedMap κ α,
      (map.entries ++ entries).Pairwise (fun a b => compare a.1 b.1 = .lt) ->
      (entries.foldl (fun map entry => map.insert entry.1 entry.2) map).entries =
        map.entries ++ entries := by
  induction entries with
  | nil => simp
  | cons first rest ih =>
      intro map hsorted
      have hlast : (map.insert first.1 first.2).entries = map.entries ++ [first] := by
        apply put_last
        intro entry hentry
        exact (List.pairwise_append.mp hsorted).2.2 entry hentry first
          (List.mem_cons_self ..)
      rw [List.foldl_cons, ih, hlast]
      · simp
      · rw [hlast]
        simpa using hsorted

theorem OrderedMap.ofList_entries {κ α : Type} [Ord κ] [Std.TransOrd κ] [Std.LawfulEqOrd κ]
    (map : OrderedMap κ α) : ofList map.entries = map := by
  have hentries := entries_foldl_insert map.entries empty map.sorted
  rcases hlist : ofList map.entries with ⟨entries, hsorted⟩
  cases map
  rw [ofList] at hlist
  rw [hlist] at hentries
  cases hentries
  rfl

theorem Text.mustEscape_signedDecimal (n : Int) :
    (Text.signedDecimal n).any Json.mustEscape = false := by
  have hdigit : forall c : Char, c.isDigit = true -> Json.mustEscape c = false := by
    intro c hc
    simp only [Char.isDigit, Bool.and_eq_true, decide_eq_true_eq] at hc
    have hlow : 48 ≤ c.toNat := by simpa using UInt32.le_iff_toNat_le.1 hc.1
    have hhigh : c.toNat ≤ 57 := by simpa using UInt32.le_iff_toNat_le.1 hc.2
    simp only [Json.mustEscape, Bool.or_eq_false_iff, decide_eq_false_iff_not]
    refine ⟨⟨?_, ?_⟩, by omega⟩
    · rintro rfl
      exact absurd hlow (by decide)
    · rintro rfl
      exact absurd hhigh (by decide)
  have hdecimal : forall n, (Text.decimal n).any Json.mustEscape = false := by
    intro n
    rw [List.any_eq_false]
    intro c hc
    simp [hdigit c (Text.isDigit_of_mem_decimal hc)]
  cases n with
  | ofNat n => exact hdecimal n
  | negSucc n =>
      rw [Text.signedDecimal, List.any_cons, hdecimal]
      rfl

namespace Database

theorem readKey?_spelled (key : Int64) :
    readKey? (Json.Name.spelled (Text.intText key.toInt)) = some key := by
  have hread : readNumber (Text.signedDecimal key.toInt ++ []) = _ :=
    readNumber_signedDecimal key.toInt trivial
  rw [List.append_nil] at hread
  unfold readKey?
  simp only [Json.Name.spelled, Text.intText, String.toList_ofList,
    Text.mustEscape_signedDecimal, hread]
  exact int64?_toInt key

theorem recovers_table {α : Type} {write : α -> Json} {read : Json -> Option α}
    (h : Recovers write read) : Recovers (tableJson write) (table? read) where
  writable table := by
    rw [tableJson]
    exact writable_table h.writable (fun key => Text.intText key.toInt) table.entries
  read_eq table := by
    rw [tableJson, table?, table?_spelled _ _ h readKey?_spelled, Option.map_some,
      OrderedMap.ofList_entries]

def sequencesJson (sequences : OrderedMap String Int64) : Json :=
  .obj (sequences.entries.map fun entry => (entry.1, Json.ofInt64 entry.2))

theorem recovers_sequences :
    Recovers sequencesJson fun given =>
      (Json.table? (fun name => some name.text) Json.int64? given).map OrderedMap.ofList where
  writable sequences := by
    rw [sequencesJson]
    exact writable_table recovers_int64.writable (fun name : String => (name : Json.Name)) _
  read_eq sequences := by
    have htable := table?_spelled (fun name => name) (fun name => some name.text)
      recovers_int64 (fun _ => rfl) sequences.entries
    rw [sequencesJson, htable, Option.map_some, OrderedMap.ofList_entries]

theorem recovers : Recovers toJson ofJson? where
  writable db := by
    refine .obj _ ?_
    have hsequences := recovers_sequences.writable db.sequences
    rw [sequencesJson] at hsequences
    simp [recovers_uint32.writable, (recovers_table Project.recovers).writable,
      (recovers_table User.recovers).writable,
      (recovers_table (Asset.recovers rowRoom)).writable,
      (recovers_table (TileServer.recovers rowRoom)).writable,
      (recovers_table PointCloud.recovers).writable,
      (recovers_table Run.recovers).writable, (recovers_table Task.recovers).writable,
      hsequences]
  read_eq db := by
    rw [toJson, ofJson?, fields?_spelled (by rfl) (by decide), Option.bind_eq_bind,
      Option.bind_some, orDefault?_eq recovers_uint32 1 db.schemaVersion (by simp),
      orDefault?_eq (recovers_table Project.recovers) .empty db.projects (by simp),
      orDefault?_eq (recovers_table User.recovers) .empty db.users (by simp),
      orDefault?_eq (recovers_table (Asset.recovers rowRoom)) .empty db.assets (by simp),
      orDefault?_eq (recovers_table (TileServer.recovers rowRoom)) .empty db.tileServers
        (by simp),
      orDefault?_eq (recovers_table PointCloud.recovers) .empty db.pointClouds (by simp),
      orDefault?_eq (recovers_table Run.recovers) .empty db.runs (by simp),
      orDefault?_eq (recovers_table Task.recovers) .empty db.tasks (by simp),
      orDefault?_eq recovers_sequences .empty db.sequences (by simp [sequencesJson])]
    rfl

/-- The document of a database is read as that database. -/
theorem ofDocument?_document (db : Database) : ofDocument? db.document = some db := by
  have hchars : db.document.toList = indentedChars 0 db.toJson ++ ['\n'] := by
    simp [document, indented]
  have hnotBlank : Text.isBlankText db.document = false := by
    rw [Text.isBlankText, hchars]
    rfl
  unfold ofDocument?
  rw [hnotBlank, hchars, parse?_indented (recovers.writable db)]
  exact recovers.read_eq db

end Database
end Whereabouts
