import Whereabouts.Proofs.Addresses
import Whereabouts.Proofs.EncodedPaths
import Whereabouts.Proofs.Paging

/-!
# Where requests lead

A request about a path names its system in the address, and then the path there.  A path
that never leads above where it starts stays inside the system; every other path is
carried out of it, to an address that is the same whatever the system.
-/

namespace Whereabouts

variable {σ α β : Type}

/-!
## Addresses of a system
-/

namespace Url

/-- Whether a URL leads inside of some names below a root, whose path ends with a slash. -/
def Within (root : Url) (names : List (List Char)) (url : Url) : Prop :=
  url.secure = root.secure ∧ url.host = root.host ∧ url.service = root.service ∧
    exists rest, rest ≠ [] ∧ url.segments = root.segments.dropLast ++ names ++ rest

theorem Within.withParameters {root url : Url} {names : List (List Char)}
    (h : root.Within names url) (parameters : List Char) :
    root.Within names (url.withParameters parameters) := by
  unfold Url.withParameters
  split <;> exact h

theorem Within.unique {root url : Url} {names : List (List Char)} {one other : List Char}
    (hone : root.Within (names ++ [one]) url) (hother : root.Within (names ++ [other]) url) :
    one = other := by
  rcases hone with ⟨_, _, _, rest, _, hrest⟩
  rcases hother with ⟨_, _, _, others, _, hothers⟩
  rw [hrest, <- List.append_assoc, <- List.append_assoc, List.append_assoc (_ ++ names),
    List.append_assoc (_ ++ names)] at hothers
  exact (List.cons.inj (List.append_cancel_left hothers)).1

end Url

namespace Gateway

/-- What is asked for a path of a system: its entries or its description. -/
inductive Endpoint where
  | entries
  | description

def Endpoint.names : Endpoint -> List (List Char)
  | entries => [['v', '3'], "files".toList, "ops".toList]
  | description => [['v', '3'], "files".toList, "utils".toList, "linux".toList]

def Endpoint.text (endpoint : Endpoint) : String :=
  String.ofList ('/' :: Text.joined '/' endpoint.names ++ ['/'])

def Endpoint.place (endpoint : Endpoint) (system : String) : List (List Char) :=
  endpoint.names ++ [Text.percentEncoded system.toList]

end Gateway

namespace Gateway

open RemotePath

variable {system path : String} {base : String} {root : Url}

/-- What stands behind the base of an address and a slash. -/
def written (endpoint : Endpoint) (system path : String) : List Char :=
  Text.joined '/' endpoint.names ++
    '/' :: (Text.percentEncoded system.toList ++ '/' :: encodedPath path)

theorem address_eq (base : String) (endpoint : Endpoint) (system path : String) :
    address base endpoint.text system path =
      base ++ "/" ++ String.ofList (written endpoint system path) := by
  apply String.toList_injective
  simp [address, Endpoint.text, written]

theorem pieces_written (endpoint : Endpoint) (system path : String) :
    Text.pieces '/' (written endpoint system path) =
      endpoint.place system ++ Text.pieces '/' (encodedPath path) := by
  have hnames : Text.pieces '/' (Text.joined '/' endpoint.names) = endpoint.names := by
    cases endpoint <;> decide
  have hsystem : '/' ∉ Text.percentEncoded system.toList := fun hslash =>
    absurd (Text.isEncodedChar_of_mem hslash) (by decide)
  rw [written, Text.pieces_append_sep, Text.pieces_append_sep, hnames,
    Text.pieces_of_not_mem hsystem, Endpoint.place, List.append_assoc]

theorem isPathChar_of_mem_written {endpoint : Endpoint} {c : Char}
    (h : c ∈ written endpoint system path) : Url.isPathChar c = true := by
  have hencoded : forall {s : List Char}, c ∈ Text.percentEncoded s -> Url.isPathChar c = true := by
    intro s hc
    rw [Url.isPathChar, Text.isEncodedChar_of_mem hc, Bool.or_true]
  have hjoined : forall {parts : List (List Char)}, c ∈ Text.joined '/' parts ->
      (forall part, part ∈ parts -> c ∈ part -> Url.isPathChar c = true) ->
      Url.isPathChar c = true := by
    intro parts hc hparts
    rcases Text.of_mem_joined hc with rfl | ⟨part, hpart, hc⟩
    · rfl
    · exact hparts part hpart hc
  have hnames : forall name, name ∈ endpoint.names -> (name.all Url.isPathChar) = true := by
    cases endpoint <;> decide
  rw [written, List.mem_append, List.mem_cons, List.mem_append, List.mem_cons] at h
  rcases h with h | rfl | h | rfl | h
  · exact hjoined h fun name hname hc => List.all_eq_true.mp (hnames name hname) c hc
  · rfl
  · exact hencoded h
  · rfl
  · refine hjoined h fun part hpart hc => ?_
    rcases List.mem_map.mp hpart with ⟨name, _, rfl⟩
    exact hencoded hc

theorem level_place (hsystem : IsName system) (endpoint : Endpoint) (above : List (List Char)) :
    Url.level above (endpoint.place system) = (endpoint.place system).reverse ++ above := by
  have hnames : Url.level above endpoint.names = endpoint.names.reverse ++ above := by
    cases endpoint <;> rfl
  have hup : system.toList ≠ ['.', '.'] := fun h => hsystem.ne_up (String.toList_injective h)
  have hhere : system.toList ≠ ['.'] := fun h => hsystem.ne_here (String.toList_injective h)
  have hentered : forall base, Url.entered base system.toList =
      Text.percentEncoded system.toList :: base := by
    intro base
    rw [Url.entered, if_neg hup, if_neg hhere]
  rw [Endpoint.place, Url.level_append, hnames, Url.level_percentEncoded, hentered,
    List.reverse_append]
  rfl

/-- Every address of a path is the root's, continued by the system and then the path. -/
theorem exists_above (hroot : Url.IsRoot base root) :
    exists above, root.segments = above.reverse ++ [[]] ∧
      forall endpoint system path, IsName system ->
        Url.parse? (address base (Endpoint.text endpoint) system path) =
          some { root with
            segments := Url.walk ((endpoint.place system).reverse ++ above)
              (Text.pieces '/' (encodedPath path)) } := by
  rcases hroot.parse?_append with ⟨front, hsegments, hparse⟩
  refine ⟨Url.level [] front, ?_, fun endpoint system path hsystem => ?_⟩
  · rw [hsegments, Url.walk_append [] front (List.cons_ne_nil _ _)]
    exact List.reverse_cons
  · rw [address_eq, hparse _ fun c hc => isPathChar_of_mem_written hc, pieces_written,
      <- List.append_assoc, Url.walk_append _ _ (Text.pieces_ne_nil '/' _), Url.level_append,
      level_place hsystem]

theorem walk_of_staysInside (hstays : staysInside path = true) (base : List (List Char)) :
    exists rest, rest ≠ [] ∧
      Url.walk base (Text.pieces '/' (encodedPath path)) = base.reverse ++ rest := by
  rw [pieces_encodedPath]
  split
  · exact ⟨[[]], List.cons_ne_nil _ _, List.reverse_cons⟩
  · rename_i hne
    have hnone : Url.Driveless [] := fun _ h => (nomatch h)
    have hinner : exists inner,
        Url.level ([] ++ base) ((names path).map Text.percentEncoded) = inner ++ base ∧
          inner.reverse ++ Url.trail ((names path).map Text.percentEncoded) ≠ [] :=
      Url.level_of_staysFrom hnone hne hstays
    rcases hinner with ⟨inner, hlevel, hrest⟩
    refine ⟨_, hrest, ?_⟩
    rw [Url.walk_eq, <- List.nil_append base, hlevel, List.reverse_append, List.append_assoc,
      List.nil_append]

theorem walk_of_not_staysInside (hstays : staysInside path = false) {one other : List Char}
    (hone : Url.isDrive one = false) (hother : Url.isDrive other = false)
    (base : List (List Char)) :
    Url.walk (one :: base) (Text.pieces '/' (encodedPath path)) =
      Url.walk (other :: base) (Text.pieces '/' (encodedPath path)) := by
  have hne : names path ≠ [] := by
    intro hnil
    rw [staysInside, hnil] at hstays
    cases hstays
  have hnone : Url.Driveless [] := fun _ h => (nomatch h)
  have hlevel : Url.level ([] ++ one :: base) ((names path).map Text.percentEncoded) =
      Url.level ([] ++ other :: base) ((names path).map Text.percentEncoded) :=
    Url.level_of_not_staysFrom hnone hone hother hstays
  rw [pieces_encodedPath, if_neg hne, Url.walk_eq, Url.walk_eq]
  exact congrArg (·.reverse ++ _) hlevel

theorem exists_within (hroot : Url.IsRoot base root) (hstays : staysInside path = true)
    (hsystem : IsName system) (endpoint : Endpoint) :
    exists url, Url.parse? (address base endpoint.text system path) = some url ∧
      root.Within (endpoint.place system) url := by
  rcases exists_above hroot with ⟨above, hsegments, hparse⟩
  rcases walk_of_staysInside hstays ((endpoint.place system).reverse ++ above) with
    ⟨rest, hne, hwalk⟩
  refine ⟨_, hparse endpoint system path hsystem, rfl, rfl, rfl, rest, hne, ?_⟩
  rw [hsegments, List.dropLast_concat]
  refine hwalk.trans ?_
  rw [List.reverse_append, List.reverse_reverse]

/-- The URL of a path that does not stay inside is the same for every system. -/
theorem exists_same (hroot : Url.IsRoot base root) (hstays : staysInside path = false)
    (endpoint : Endpoint) :
    exists url, forall system, IsName system ->
      Url.parse? (address base endpoint.text system path) = some url := by
  rcases exists_above hroot with ⟨above, _, hparse⟩
  have hplace : forall name, (endpoint.place name).reverse ++ above =
      Text.percentEncoded name.toList :: (endpoint.names.reverse ++ above) := by
    intro name
    rw [Endpoint.place, List.reverse_append]
    rfl
  refine ⟨{ root with
    segments := Url.walk ((endpoint.place "").reverse ++ above)
      (Text.pieces '/' (encodedPath path)) }, fun system hsystem => ?_⟩
  rw [hparse endpoint system path hsystem, hplace, hplace,
    walk_of_not_staysInside hstays (Url.isDrive_percentEncoded _) (Url.isDrive_percentEncoded _)]

end Gateway

/-!
## Requests
-/

structure Peer.Records (peer : Peer (StateM σ)) (sent : σ -> List Request) : Prop where
  send : forall request s, sent ((peer.send request).run s).2 = sent s ++ [request]
  pause : forall milliseconds s, sent ((peer.pause milliseconds).run s).2 = sent s

def Remote.Sends (sent : σ -> List Request) (Q : Request -> Prop) (x : Remote (StateM σ) α) :
    Prop :=
  forall s, exists more, sent (x.on s).2 = sent s ++ more ∧
    forall request, request ∈ more -> Q request

namespace Remote

variable {sent : σ -> List Request} {Q : Request -> Prop}

theorem more_trans {early middle late : List Request}
    (h : exists more, middle = early ++ more ∧ forall request, request ∈ more -> Q request)
    (h' : exists more, late = middle ++ more ∧ forall request, request ∈ more -> Q request) :
    exists more, late = early ++ more ∧ forall request, request ∈ more -> Q request := by
  rcases h with ⟨more, rfl, hall⟩
  rcases h' with ⟨others, rfl, hrest⟩
  refine ⟨more ++ others, List.append_assoc early more others, fun request hrequest => ?_⟩
  rcases List.mem_append.mp hrequest with hrequest | hrequest
  · exact hall request hrequest
  · exact hrest request hrequest

theorem sends_of_eq {x : Remote (StateM σ) α} (h : forall s, (x.on s).2 = s) : Sends sent Q x :=
  fun s => ⟨[], by rw [h s, List.append_nil], fun _ hmem => (nomatch hmem)⟩

theorem sends_pure (a : α) : Sends sent Q (pure a) :=
  sends_of_eq fun _ => rfl

theorem sends_throw (failure : StorageError) : Sends (α := α) sent Q (throw failure) :=
  sends_of_eq fun _ => rfl

theorem Sends.bind {x : Remote (StateM σ) α} {f : α -> Remote (StateM σ) β}
    (hx : Sends sent Q x) (hf : forall a, Sends sent Q (f a)) : Sends sent Q (x >>= f) := by
  intro s
  have hfirst := hx s
  rcases hcall : x.on s with ⟨answer, between⟩
  rw [hcall] at hfirst
  cases answer with
  | error failure =>
      rw [on_bind_of_error hcall]
      exact hfirst
  | ok a =>
      rw [on_bind_of_ok hcall]
      exact more_trans hfirst (hf a between)

end Remote

namespace Gateway

open RemotePath

variable {gateway : Gateway (StateM σ)} {sent : σ -> List Request} {Q : Request -> Prop}
  {system path : String} {root : Url}

theorem sends_send (hsent : gateway.peer.Records sent) {request : Request} (hQ : Q request)
    {f : Reply -> StateM σ (Except StorageError α)}
    (hf : forall reply s, ((f reply).run s).2 = s) :
    Remote.Sends sent Q (ExceptT.mk (gateway.peer.send request >>= f)) :=
  fun s => ⟨[request], (congrArg sent (hf _ _)).trans (hsent.send request s),
    List.forall_mem_singleton.mpr hQ⟩

theorem sends_request (hsent : gateway.peer.Records sent) {address : String}
    {parameters : Option (List Char)}
    (hQ : forall url, Url.parse? address = some url ->
      Q { url := parameters.elim url url.withParameters, token := gateway.token }) :
    (gateway.request address parameters).Sends sent Q := by
  unfold request
  cases hparse : Url.parse? address with
  | none => exact Remote.sends_throw _
  | some url =>
      have hready := hQ url hparse
      cases parameters
      all_goals
        dsimp only
        split
        · exact Remote.sends_throw _
        · split
          · refine sends_send hsent hready ?_
            intro reply s
            cases reply with
            | dropped => rfl
            | response status body =>
                dsimp only
                split <;> rfl
          · exact Remote.sends_throw _

theorem sends_retrying (hsent : gateway.peer.Records sent) {action : Remote (StateM σ) α}
    (haction : action.Sends sent Q) (attempt retries : Nat) :
    (gateway.retrying action attempt retries).Sends sent Q := by
  intro s
  rcases exists_tries gateway action attempt retries s with
    ⟨failures, answer, after, hrun, htries, hsettled⟩
  rw [hrun]
  clear hrun hsettled
  induction htries with
  | @delivered attempt s after value hcall =>
      have := haction s
      rwa [hcall] at this
  | @refused attempt s after failure hcall =>
      have := haction s
      rwa [hcall] at this
  | @again attempt s between after failure failures answer hcall later ih =>
      have hfirst := haction s
      rw [hcall] at hfirst
      rw [hsent.pause] at ih
      exact Remote.more_trans hfirst ih

theorem sends_checked (response : Nat × String) :
    Remote.Sends sent Q (checked system path response) := by
  unfold checked
  split
  · exact Remote.sends_throw _
  · split
    · exact Remote.sends_pure _
    · exact Remote.sends_throw _

theorem sends_decoded (what : String) (value : Option α) :
    Remote.Sends sent Q (decoded what value) := by
  cases value with
  | none => exact Remote.sends_throw _
  | some value => exact Remote.sends_pure value

theorem sends_list (hsent : gateway.peer.Records sent) (system path : String)
    (hQ : forall url parameters,
      Url.parse? (address gateway.baseUrl "/v3/files/ops/" system path) = some url ->
      Q { url := url.withParameters parameters, token := gateway.token }) :
    (gateway.list system path).Sends sent Q := by
  have hpage : forall offset, (gateway.listPage system path offset).Sends sent Q := by
    intro offset
    refine (sends_request hsent fun url hurl => hQ url _ hurl).bind fun response => ?_
    exact (sends_checked response).bind fun body => sends_decoded _ _
  have hfrom : forall budget offset, (gateway.listFrom system path budget offset).Sends sent Q := by
    intro budget
    induction budget with
    | zero => exact fun offset => Remote.sends_throw _
    | succ budget ih =>
        intro offset
        refine (sends_retrying hsent (hpage offset) 0 _).bind fun page => ?_
        split
        · exact Remote.sends_pure _
        · exact (ih _).bind fun rest => Remote.sends_pure _
  exact hfrom gateway.pageBudget 0

theorem sends_stat (hsent : gateway.peer.Records sent) (system path : String)
    (hQ : forall url,
      Url.parse? (address gateway.baseUrl "/v3/files/utils/linux/" system path) = some url ->
      Q { url, token := gateway.token }) :
    (gateway.stat system path).Sends sent Q := by
  refine (sends_retrying hsent ?_ 0 _).bind fun result => Remote.sends_pure _
  refine (sends_request hsent hQ).bind fun response => ?_
  exact (sends_checked response).bind fun body => sends_decoded _ _

/-!
## Paths and their requests
-/

/-- Where a gateway, whose requests are on record, sends what is asked for a path. -/
structure Confined (gateway : Gateway (StateM σ)) (sent : σ -> List Request) (root : Url)
    (path : String) : Prop where
  /-- It is the paths that stay inside which are inside of every system. -/
  exact : staysInside path = true <-> forall endpoint system, IsName system ->
    exists url, Url.parse? (address gateway.baseUrl (Endpoint.text endpoint) system path) =
      some url ∧ root.Within (endpoint.place system) url
  inside : staysInside path = true -> forall system, IsName system ->
    (gateway.list system path).Sends sent (fun request =>
      root.Within (Endpoint.entries.place system) request.url) ∧
    (gateway.stat system path).Sends sent fun request =>
      root.Within (Endpoint.description.place system) request.url
  /-- What is asked for another path does not depend on the system. -/
  astray : staysInside path = false -> exists entries description : Url,
    forall system, IsName system ->
      (gateway.list system path).Sends sent (fun request =>
        exists parameters, request.url = entries.withParameters parameters) ∧
      (gateway.stat system path).Sends sent fun request => request.url = description

theorem staysInside_iff (hroot : Url.IsRoot gateway.baseUrl root) :
    staysInside path = true <-> forall endpoint system, IsName system ->
      exists url, Url.parse? (address gateway.baseUrl (Endpoint.text endpoint) system path) =
        some url ∧ root.Within (endpoint.place system) url := by
  constructor
  · exact fun hstays endpoint system hsystem => exists_within hroot hstays hsystem endpoint
  · intro hall
    cases hstays : staysInside path with
    | true => rfl
    | false =>
        rcases exists_same hroot hstays .entries with ⟨url, hurl⟩
        have hwithin : forall system, IsName system ->
            root.Within (Endpoint.entries.place system) url := by
          intro system hsystem
          rcases hall .entries system hsystem with ⟨other, hother, hwithin⟩
          rw [hurl system hsystem] at hother
          cases hother
          exact hwithin
        have ha : IsName "a" := ⟨by decide, by decide, by decide, by decide⟩
        have hb : IsName "b" := ⟨by decide, by decide, by decide, by decide⟩
        have hsame := (hwithin "a" ha).unique (hwithin "b" hb)
        exact absurd (Text.percentEncoded_injective hsame) (by decide)

/-- What is asked for a path stays inside of the named system, or it is asked for at the
same place for every system. -/
theorem requests_confined (hsent : gateway.peer.Records sent)
    (hroot : Url.IsRoot gateway.baseUrl root) (path : String) :
    gateway.Confined sent root path where
  exact := staysInside_iff hroot
  inside := by
    intro hstays system hsystem
    constructor
    · refine sends_list hsent system path fun url parameters hurl => ?_
      rcases exists_within hroot hstays hsystem .entries with ⟨other, hother, hwithin⟩
      cases hurl.symm.trans hother
      exact hwithin.withParameters parameters
    · refine sends_stat hsent system path fun url hurl => ?_
      rcases exists_within hroot hstays hsystem .description with ⟨other, hother, hwithin⟩
      cases hurl.symm.trans hother
      exact hwithin
  astray := by
    intro hstays
    rcases exists_same hroot hstays .entries with ⟨entries, hentries⟩
    rcases exists_same hroot hstays .description with ⟨description, hdescription⟩
    refine ⟨entries, description, fun system hsystem => ⟨?_, ?_⟩⟩
    · refine sends_list hsent system path fun url parameters hurl => ?_
      cases hurl.symm.trans (hentries system hsystem)
      exact ⟨parameters, rfl⟩
    · refine sends_stat hsent system path fun url hurl => ?_
      cases hurl.symm.trans (hdescription system hsystem)
      rfl

namespace Sample

/-- A gateway whose peer answers nothing and keeps what it is asked. -/
def asking : Gateway (StateM (List Request)) where
  peer := {
    send := fun request sent => (.dropped, sent ++ [request])
    pause := fun _ => pure () }
  baseUrl := "http://[::1]"
  portalUrl := "http://[::1]"
  token := "t"
  pageSize := 1
  maxRetries := 0
  projectSystemStart := "project-"
  pageBudget := 1

def home : Url where
  secure := false
  host := .ipv6 [0, 0, 0, 0, 0, 0, 0, 1]
  service := none
  segments := [[]]
  query := none
  fragment := none

theorem asking_records : asking.peer.Records id :=
  ⟨fun _ _ => rfl, fun _ _ => rfl⟩

theorem home_isRoot : Url.IsRoot asking.baseUrl home :=
  ⟨by decide +kernel, rfl, rfl⟩

def listed (system path : String) : List String :=
  ((asking.list system path).on []).2.map fun request => String.ofList request.url.path

end Sample

theorem requests_confined_sample :
    staysInside "/a/./../b" = true ∧
      Sample.asking.Confined id Sample.home "/a/./../b" ∧
      Sample.listed "project-a" "/a/./../b" = ["/v3/files/ops/project-a/b"] :=
  ⟨by decide, requests_confined Sample.asking_records Sample.home_isRoot _, by decide +kernel⟩

/-- A path that leads up is asked for in another system. -/
theorem request_in_other_system :
    IsName "project-a" ∧
      Sample.listed "project-a" "/../project-b/secret" = ["/v3/files/ops/project-b/secret"] ∧
      ¬ (Sample.asking.list "project-a" "/../project-b/secret").Sends id fun request =>
        Sample.home.Within (Endpoint.entries.place "project-a") request.url := by
  refine ⟨⟨by decide, by decide, by decide, by decide⟩, by decide +kernel, fun hsends => ?_⟩
  rcases hsends [] with ⟨more, hmore, hall⟩
  have hplaces : more.map (fun request => request.url.segments.take 4) =
      [Endpoint.entries.place "project-b"] := by
    change _ = [] ++ more at hmore
    rw [<- List.nil_append more, <- hmore]
    decide +kernel
  cases more with
  | nil => cases hplaces
  | cons request others =>
      rcases hall request List.mem_cons_self with ⟨_, _, _, rest, _, hrest⟩
      have hplace : request.url.segments.take 4 = Endpoint.entries.place "project-b" :=
        (List.cons.inj hplaces).1
      have hother : request.url.segments.take 4 = Endpoint.entries.place "project-a" :=
        hrest ▸ rfl
      exact absurd (hplace.symm.trans hother) (by decide +kernel)

end Gateway
end Whereabouts
