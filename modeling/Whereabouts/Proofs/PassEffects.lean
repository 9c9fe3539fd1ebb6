import Whereabouts.Proofs.Exchanges
import Whereabouts.Proofs.Settling

/-!
# What a pass does to a location

What a step of a pass does to a location, told with the exchanges that confirm it.  An
exchange may have been made long before, for another item, and be remembered in a cache:
a step relies on the caches being backed by the record, and it leaves them so.
-/

namespace Whereabouts

variable {ω α β : Type}

/-!
## Steps over a record
-/

namespace Step

/-- What a step gives on a bench in a world. -/
def amid (y : Step (StateM ω) α) (bench : Bench) (world : ω) :
    (Except StorageError α × Bench) × ω :=
  (y.run.run bench).run world

theorem amid_bind_of_ok {x : Step (StateM ω) α} {f : α -> Step (StateM ω) β}
    {bench after : Bench} {world between : ω} {a : α}
    (h : x.amid bench world = ((.ok a, after), between)) :
    (x >>= f).amid bench world = (f a).amid after between := by
  unfold amid at *
  rw [ExceptT.run_bind, StateT.run_bind, View.run_bind_of_eq h]

theorem amid_bind_of_error {x : Step (StateM ω) α} {f : α -> Step (StateM ω) β}
    {bench after : Bench} {world between : ω} {failure : StorageError}
    (h : x.amid bench world = ((.error failure, after), between)) :
    (x >>= f).amid bench world = ((.error failure, after), between) := by
  unfold amid at *
  rw [ExceptT.run_bind, StateT.run_bind, View.run_bind_of_eq h]
  rfl

theorem of_amid_bind_ok {x : Step (StateM ω) α} {f : α -> Step (StateM ω) β}
    {bench after : Bench} {world final : ω} {b : β}
    (h : (x >>= f).amid bench world = ((.ok b, after), final)) :
    exists a middle between, x.amid bench world = ((.ok a, middle), between) ∧
      (f a).amid middle between = ((.ok b, after), final) := by
  rcases hfirst : x.amid bench world with ⟨⟨found, middle⟩, between⟩
  cases found with
  | error failure =>
      rw [amid_bind_of_error hfirst] at h
      cases h
  | ok a =>
      rw [amid_bind_of_ok hfirst] at h
      exact ⟨a, middle, between, rfl, h⟩

theorem of_amid_bind_error {x : Step (StateM ω) α} {f : α -> Step (StateM ω) β}
    {bench after : Bench} {world final : ω} {failure : StorageError}
    (h : (x >>= f).amid bench world = ((.error failure, after), final)) :
    x.amid bench world = ((.error failure, after), final) ∨
      exists a middle between, x.amid bench world = ((.ok a, middle), between) ∧
        (f a).amid middle between = ((.error failure, after), final) := by
  rcases hfirst : x.amid bench world with ⟨⟨found, middle⟩, between⟩
  cases found with
  | error other =>
      rw [amid_bind_of_error hfirst] at h
      cases h
      exact Or.inl rfl
  | ok a =>
      rw [amid_bind_of_ok hfirst] at h
      exact Or.inr ⟨a, middle, between, rfl, h⟩

theorem amid_effect (action : StateM ω α) (bench : Bench) (world : ω) :
    (effect action).amid bench world =
      ((.ok (action.run world).1, bench), (action.run world).2) := rfl

theorem amid_location_bind (f : Location -> Step (StateM ω) α) (bench : Bench) (world : ω) :
    (location >>= f).amid bench world = (f bench.location).amid bench world := rfl

theorem amid_attempt_bind (remote : Remote (StateM ω) α)
    (f : Except StorageError α -> Step (StateM ω) β) (bench : Bench) (world : ω) :
    (attempt remote >>= f).amid bench world =
      (f (remote.run.run world).1).amid bench (remote.run.run world).2 := rfl

section Memories

variable {cache : Caches -> OrderedMap String α}
  {keep : OrderedMap String α -> Caches -> Caches} {system : String}
  {make : Step (StateM ω) α} {bench after : Bench} {world final : ω}

theorem amid_remembered_of_some {value : α} (h : (cache bench.caches).get? system = some value) :
    (remembered cache keep system make).amid bench world = ((.ok value, bench), world) := by
  have hget : (get : Step (StateM ω) Bench).amid bench world =
      ((.ok bench, bench), world) := rfl
  unfold remembered
  rw [amid_bind_of_ok hget, h]
  rfl

theorem amid_remembered_of_error {failure : StorageError}
    (h : (cache bench.caches).get? system = none)
    (hmake : make.amid bench world = ((.error failure, after), final)) :
    (remembered cache keep system make).amid bench world =
      ((.error failure, after), final) := by
  have hget : (get : Step (StateM ω) Bench).amid bench world =
      ((.ok bench, bench), world) := rfl
  unfold remembered
  rw [amid_bind_of_ok hget, h]
  exact amid_bind_of_error hmake

theorem amid_remembered_of_ok {value : α} (h : (cache bench.caches).get? system = none)
    (hmake : make.amid bench world = ((.ok value, after), final)) :
    (remembered cache keep system make).amid bench world =
      ((.ok value, { after with
        caches := keep ((cache after.caches).insert system value) after.caches }), final) := by
  have hget : (get : Step (StateM ω) Bench).amid bench world =
      ((.ok bench, bench), world) := rfl
  unfold remembered
  rw [amid_bind_of_ok hget, h]
  exact amid_bind_of_ok hmake

theorem of_amid_remembered_error {failure : StorageError}
    (h : (remembered cache keep system make).amid bench world =
      ((.error failure, after), final)) :
    (cache bench.caches).get? system = none ∧
      make.amid bench world = ((.error failure, after), final) := by
  cases hknown : (cache bench.caches).get? system with
  | some value =>
      rw [amid_remembered_of_some hknown] at h
      cases h
  | none =>
      rcases hmake : make.amid bench world with ⟨⟨result, middle⟩, between⟩
      cases result with
      | error other =>
          rw [amid_remembered_of_error hknown hmake] at h
          exact ⟨rfl, h⟩
      | ok value =>
          rw [amid_remembered_of_ok hknown hmake] at h
          cases h

end Memories

end Step

/-- Every published copy that is cached is an index that the record backs. -/
def Caches.Backed (caches : Caches) (exchanges : List Exchange) (target : String) : Prop :=
  forall system index, caches.published.get? system = some (some index) ->
    index.Backed exchanges target

theorem Caches.Backed.mono {caches : Caches} {early late : List Exchange} {target : String}
    (h : caches.Backed early target) (hsub : early ⊆ late) : caches.Backed late target :=
  fun system index hindex => (h system index hindex).mono hsub

/-- A step adds to the record, keeps the caches backed by it, and when it ends well it
has an outcome: something that can be said, with that record or a later one, of the location
before it, its result and the location after it. -/
def Step.Yields (target : String) (y : Step (StateM (Recorded ω)) α)
    (outcome : List Exchange -> Location -> α -> Location -> Prop) : Prop :=
  forall bench world result after final, bench.caches.Backed world.exchanges target ->
    y.amid bench world = ((result, after), final) ->
    world.exchanges ⊆ final.exchanges ∧ after.caches.Backed final.exchanges target ∧
      forall a, result = .ok a -> forall later, final.exchanges ⊆ later ->
        outcome later bench.location a after.location

variable {target : String} {outcome : List Exchange -> Location -> α -> Location -> Prop}

theorem Step.Yields.mono {y : Step (StateM (Recorded ω)) α}
    {other : List Exchange -> Location -> α -> Location -> Prop} (h : y.Yields target outcome)
    (houtcome : forall exchanges loc a next, outcome exchanges loc a next ->
      other exchanges loc a next) : y.Yields target other := by
  intro bench world result after final hbacked hrun
  rcases h bench world result after final hbacked hrun with ⟨hsub, hbacked', hdone⟩
  exact ⟨hsub, hbacked', fun a ha later hlater => houtcome _ _ a _ (hdone a ha later hlater)⟩

theorem yields_pure {a : α} (h : forall exchanges loc, outcome exchanges loc a loc) :
    (pure a : Step (StateM (Recorded ω)) α).Yields target outcome := by
  intro bench world result after final hbacked hrun
  cases hrun
  refine ⟨List.Subset.refl _, hbacked, ?_⟩
  intro b hb later _
  cases hb
  exact h later bench.location

theorem yields_throw (failure : StorageError) :
    (throw failure : Step (StateM (Recorded ω)) α).Yields target outcome := by
  intro bench world result after final hbacked hrun
  cases hrun
  exact ⟨List.Subset.refl _, hbacked, fun _ hb => nomatch hb⟩

theorem yields_bind {x : Step (StateM (Recorded ω)) α}
    {f : α -> Step (StateM (Recorded ω)) β}
    {both : List Exchange -> Location -> β -> Location -> Prop} (hx : x.Yields target outcome)
    (hf : forall a, (f a).Yields target fun exchanges next b last =>
      forall loc, outcome exchanges loc a next -> both exchanges loc b last) :
    (x >>= f).Yields target both := by
  intro bench world result after final hbacked hrun
  rcases hfirst : x.amid bench world with ⟨⟨found, middle⟩, between⟩
  rcases hx bench world found middle between hbacked hfirst with ⟨hsub, hbacked', houtcome⟩
  cases found with
  | error failure =>
      rw [Step.amid_bind_of_error hfirst] at hrun
      cases hrun
      exact ⟨hsub, hbacked', fun _ hb => nomatch hb⟩
  | ok a =>
      rw [Step.amid_bind_of_ok hfirst] at hrun
      rcases hf a middle between result after final hbacked' hrun with
        ⟨hsub', hbacked'', houtcome'⟩
      refine ⟨List.Subset.trans hsub hsub', hbacked'', ?_⟩
      intro b hb later hlater
      exact houtcome' b hb later hlater _ (houtcome a rfl later (List.Subset.trans hsub' hlater))

theorem yields_location_bind {k : Location -> Step (StateM (Recorded ω)) α}
    (h : forall loc, (k loc).Yields target fun exchanges start a last =>
      start = loc -> outcome exchanges start a last) :
    (Step.location >>= k).Yields target outcome := by
  intro bench world result after final hbacked hrun
  rcases h bench.location bench world result after final hbacked hrun with
    ⟨hsub, hbacked', houtcome⟩
  exact ⟨hsub, hbacked', fun a ha later hlater => houtcome a ha later hlater rfl⟩

theorem yields_setLocation {next : Location}
    {outcome : List Exchange -> Location -> Unit -> Location -> Prop}
    (h : forall exchanges loc, outcome exchanges loc () next) :
    (Step.setLocation next : Step (StateM (Recorded ω)) Unit).Yields target outcome := by
  intro bench world result after final hbacked hrun
  cases hrun
  refine ⟨List.Subset.refl _, hbacked, ?_⟩
  intro _ _ later _
  exact h later bench.location

theorem yields_place {next : Location} {a : α}
    (h : forall exchanges loc, outcome exchanges loc a next) :
    (do Step.setLocation next; return a : Step (StateM (Recorded ω)) α).Yields target outcome := by
  have hset : (Step.setLocation next : Step (StateM (Recorded ω)) Unit).Yields target
      fun _ _ _ last => last = next := yields_setLocation fun _ _ => rfl
  apply yields_bind hset
  intro _
  apply yields_pure
  intro exchanges last loc hlast
  rw [hlast]
  exact h exchanges loc

theorem yields_effect {action : StateM (Recorded ω) α} {P : List Exchange -> α -> Prop}
    (hsub : forall world, world.exchanges ⊆ (action.run world).2.exchanges)
    (hP : forall world later, (action.run world).2.exchanges ⊆ later ->
      P later (action.run world).1) :
    (Step.effect action).Yields target fun exchanges loc a next =>
      next = loc ∧ P exchanges a := by
  intro bench world result after final hbacked hrun
  cases hrun
  refine ⟨hsub world, hbacked.mono (hsub world), ?_⟩
  intro a ha later hlater
  cases ha
  exact ⟨rfl, hP world later hlater⟩

theorem yields_attempt {remote : Remote (StateM (Recorded ω)) α}
    {exchange : Except StorageError α -> Exchange}
    (h : forall world, (remote.run.run world).2.exchanges =
      exchange (remote.run.run world).1 :: world.exchanges) :
    (Step.attempt remote).Yields target fun exchanges loc answer next =>
      next = loc ∧ exchange answer ∈ exchanges := by
  have heffect : (Step.effect remote.run).Yields target fun exchanges loc answer next =>
      next = loc ∧ exchange answer ∈ exchanges := by
    apply yields_effect
    · intro world
      rw [h world]
      exact List.subset_cons_self _ _
    · intro world later hlater
      apply hlater
      rw [h world]
      exact List.mem_cons_self
  exact heffect

theorem yields_call {remote : Remote (StateM (Recorded ω)) α}
    {exchange : Except StorageError α -> Exchange}
    (h : forall world, (remote.run.run world).2.exchanges =
      exchange (remote.run.run world).1 :: world.exchanges) :
    (Step.call remote).Yields target fun _ loc _ next => next = loc := by
  intro bench world result after final hbacked hrun
  have hnoted := h world
  rcases hcall : remote.run.run world with ⟨answer, between⟩
  have hamid : (Step.call remote).amid bench world = ((answer, bench), between) :=
    View.run_bind_of_eq hcall
  rw [hcall] at hnoted
  rw [hamid] at hrun
  cases hrun
  have hsub : world.exchanges ⊆ final.exchanges := by
    rw [hnoted]
    exact List.subset_cons_self _ _
  exact ⟨hsub, hbacked.mono hsub, fun _ _ _ _ => rfl⟩

theorem yields_remembered {cache : Caches -> OrderedMap String α}
    {keep : OrderedMap String α -> Caches -> Caches} {system : String}
    {make : Step (StateM (Recorded ω)) α} {P : List Exchange -> α -> Prop}
    (hmake : make.Yields target fun exchanges loc value next => next = loc ∧ P exchanges value)
    (hhit : forall caches exchanges value, caches.Backed exchanges target ->
      (cache caches).get? system = some value -> P exchanges value)
    (hkeep : forall caches exchanges value, caches.Backed exchanges target ->
      P exchanges value ->
        (keep ((cache caches).insert system value) caches).Backed exchanges target) :
    (Step.remembered cache keep system make).Yields target fun exchanges loc value next =>
      next = loc ∧ P exchanges value := by
  intro bench world result after final hbacked hrun
  cases hcache : (cache bench.caches).get? system with
  | some value =>
      rw [Step.amid_remembered_of_some hcache] at hrun
      cases hrun
      refine ⟨List.Subset.refl _, hbacked, ?_⟩
      intro a ha later hlater
      cases ha
      exact ⟨rfl, hhit _ later value (hbacked.mono hlater) hcache⟩
  | none =>
      rcases hmade : make.amid bench world with ⟨⟨found, middle⟩, between⟩
      rcases hmake bench world found middle between hbacked hmade with ⟨hsub, hbacked', houtcome⟩
      cases found with
      | error failure =>
          rw [Step.amid_remembered_of_error hcache hmade] at hrun
          cases hrun
          exact ⟨hsub, hbacked', fun _ hb => nomatch hb⟩
      | ok value =>
          rw [Step.amid_remembered_of_ok hcache hmade] at hrun
          cases hrun
          rcases houtcome value rfl _ (List.Subset.refl _) with ⟨_, hP⟩
          refine ⟨hsub, hkeep _ _ value hbacked' hP, ?_⟩
          intro a ha later hlater
          cases ha
          exact houtcome value rfl later hlater

/-!
## What the parts of a pass do
-/

/-- The search for a source leaves a location as it is, or finds an origin that remote
storage described. -/
inductive Sourced (provenance : Provenance) (asset : Asset) (exchanges : List Exchange)
    (loc : Location) : Location -> Prop
  | kept : Sourced provenance asset exchanges loc loc
  | found {owner path : String} {entry : Entry} (htype : asset.assetType = .pointCloud)
      (hpath : loc.originPath = none)
      (hsystem : forall system, loc.originSystem = some system -> system = owner)
      (howner : provenance.project.owningSystem? = some owner)
      (hstat : Exchange.stat owner path (.ok entry) ∈ exchanges) :
      Sourced provenance asset exchanges loc (loc.withOrigin owner path)

/-- The search for a system leaves a location as it is, or finds the owning system, where
remote storage listed something under the path of origin. -/
inductive Owned (provenance : Provenance) (exchanges : List Exchange) (loc : Location) :
    Location -> Prop
  | kept : Owned provenance exchanges loc loc
  | found {owner path : String} {entry : Entry} {rest : List Entry}
      (hsystem : loc.originSystem = none) (hpath : loc.originPath = some path)
      (howner : provenance.project.owningSystem? = some owner)
      (hlist : Exchange.list owner path (.ok (entry :: rest)) ∈ exchanges) :
      Owned provenance exchanges loc (loc.withOrigin owner path)

/-- A verdict leaves the place of a location as it is, or it moves there a published
copy that was listed. -/
inductive Judged (target : String) (exchanges : List Exchange) (loc : Location) :
    Location -> Prop
  | kept : Judged target exchanges loc loc
  | decided (verdict : Bool) : Judged target exchanges loc (loc.withPublic verdict)
  | moved {path : String} (hoffered : Offered exchanges target path) :
      Judged target exchanges loc
        ((loc.withCurrent target (RemotePath.absolute path)).withPublic true)

/-- An attribution leaves everything but the external project as it is. -/
inductive Attributed (loc : Location) : Location -> Prop
  | kept : Attributed loc loc
  | assigned (id : String) : Attributed loc (loc.withExternalId id)

/-- What a pass does to the location of an item, part by part. -/
inductive Account (provenance : Provenance) (target : String) (exchanges : List Exchange)
    (loc : Location) : Tracked -> Location -> Prop
  | asset {row : Asset} {sourced owned judged last : Location}
      (hsource : Sourced provenance row exchanges loc sourced)
      (howner : Owned provenance exchanges sourced owned)
      (hjudged : Judged target exchanges (Surveyor.filled owned) judged)
      (hlast : Attributed judged last) :
      Account provenance target exchanges loc (.asset row) last
  | tileServer {row : TileServer} {judged last : Location}
      (hjudged : Judged target exchanges loc judged) (hlast : Attributed judged last) :
      Account provenance target exchanges loc (.tileServer row) last

section Parts

variable {surveyor : Surveyor (StateM (Recorded ω))} {provenance : Provenance}

theorem yields_projectOf (hrecords : surveyor.storage.Records) (system : String) :
    (surveyor.projectOf system).Yields target fun _ loc _ next => next = loc := by
  unfold Surveyor.projectOf
  cases surveyor.engine.projectUuid? system with
  | none => exact yields_pure fun _ _ => rfl
  | some uuid =>
      have hcall : (Step.call (surveyor.storage.externalId system)).Yields target
          fun _ loc _ next => next = loc ∧ True :=
        (yields_call (hrecords.externalId system)).mono fun _ _ _ _ h => ⟨h, trivial⟩
      refine (yields_remembered hcall ?_ ?_).mono fun _ _ _ _ h => h.1
      · exact fun _ _ _ _ _ => trivial
      · exact fun _ _ _ hbacked _ => hbacked

/-- The index of the owning system.  Of its paths nothing has to be known: every source is
described before it is taken. -/
theorem yields_recallOwner (hrecords : surveyor.storage.Records) (owner : String) :
    (Step.recallOwner owner (.effect (surveyor.index owner "/"))).Yields target
      fun _ loc _ next => next = loc := by
  have hindex : (Step.effect (surveyor.index owner "/")).Yields target
      fun _ loc _ next => next = loc ∧ True := by
    apply yields_effect
    · exact fun world => (Surveyor.gathers_index hrecords owner "/" world).1
    · exact fun _ _ _ => trivial
  refine (yields_remembered hindex ?_ ?_).mono fun _ _ _ _ h => h.1
  · exact fun _ _ _ _ _ => trivial
  · exact fun _ _ _ hbacked _ => hbacked

theorem yields_recallPublished (hrecords : surveyor.storage.Records) (system : String) :
    (Step.recallPublished system (surveyor.publishedCopy system)).Yields
      surveyor.engine.publishedSystem fun exchanges loc copy next => next = loc ∧
        forall index, copy = some index ->
          index.Backed exchanges surveyor.engine.publishedSystem := by
  have hcopy : (surveyor.publishedCopy system).Yields surveyor.engine.publishedSystem
      fun exchanges loc copy next => next = loc ∧ forall index, copy = some index ->
        index.Backed exchanges surveyor.engine.publishedSystem := by
    unfold Surveyor.publishedCopy
    cases surveyor.engine.projectUuid? system with
    | none => exact yields_pure fun _ _ => ⟨rfl, fun _ h => nomatch h⟩
    | some uuid =>
        apply yields_bind (yields_projectOf hrecords system)
        intro project
        cases project with
        | none =>
            apply yields_pure
            intro exchanges next loc hnext
            exact ⟨hnext, fun _ h => nomatch h⟩
        | some id =>
            have hindex : forall root, (Step.effect (surveyor.index
                surveyor.engine.publishedSystem root)).Yields surveyor.engine.publishedSystem
                  fun exchanges loc index next => next = loc ∧
                    index.Backed exchanges surveyor.engine.publishedSystem := by
              intro root
              have hgathers := Surveyor.gathers_index hrecords surveyor.engine.publishedSystem root
              apply yields_effect
              · exact fun world => (hgathers world).1
              · exact fun world later hlater => (hgathers world).2.mono hlater
            apply yields_bind (hindex _)
            intro index
            apply yields_pure
            intro exchanges last next hlast loc hnext
            refine ⟨hlast.1.trans hnext, ?_⟩
            intro other hother
            cases hother
            exact hlast.2
  refine yields_remembered hcopy ?_ ?_
  · intro caches exchanges copy hbacked hcached index hindex
    rw [hindex] at hcached
    exact hbacked system index hcached
  · intro caches exchanges copy hbacked hcopied other index hindex
    rw [OrderedMap.get?_insert] at hindex
    split at hindex
    · cases hindex
      exact hcopied index rfl
    · exact hbacked other index hindex

theorem of_missingSource?_eq_some {asset : Asset} {loc : Location} {name owner : String}
    (h : Surveyor.missingSource? provenance asset loc = some (name, owner)) :
    asset.assetType = .pointCloud ∧ loc.originPath = none ∧
      (forall system, loc.originSystem = some system -> system = owner) ∧
      provenance.project.owningSystem? = some owner := by
  unfold Surveyor.missingSource? at h
  split at h
  · cases h
  · rename_i hmissing
    split at h
    · rename_i found system _ howner
      split at h
      · rename_i hsystem
        cases h
        simp only [Bool.or_eq_true, bne_iff_ne, not_or, Decidable.not_not,
          Bool.not_eq_true, Option.isSome_eq_false_iff, Option.isNone_iff_eq_none] at hmissing
        refine ⟨hmissing.2, hmissing.1, ?_, howner⟩
        intro origin horigin
        rw [horigin] at hsystem
        simpa using hsystem
      · cases h
    · cases h

theorem yields_confirmSource (hrecords : surveyor.storage.Records) {asset : Asset}
    {start : Location} {owner found : String} (htype : asset.assetType = .pointCloud)
    (hpath : start.originPath = none)
    (hsystem : forall system, start.originSystem = some system -> system = owner)
    (howner : provenance.project.owningSystem? = some owner) :
    (surveyor.confirmSource start owner found).Yields target fun exchanges loc _ next =>
      loc = start -> Sourced provenance asset exchanges loc next := by
  apply yields_bind (yields_attempt (hrecords.stat owner (RemotePath.absolute found)))
  intro answer
  cases answer with
  | ok entry =>
      apply yields_place
      intro exchanges next loc hanswer hstart
      rw [hstart]
      exact .found htype hpath hsystem howner hanswer.2
  | error failure =>
      cases failure with
      | notListable system path =>
          apply yields_pure
          intro exchanges next loc hanswer hstart
          rw [hanswer.1]
          exact .kept
      | _ => exact yields_throw _

theorem yields_recoverSource (hrecords : surveyor.storage.Records) (asset : Asset) :
    (surveyor.recoverSource provenance asset).Yields target fun exchanges loc _ next =>
      Sourced provenance asset exchanges loc next := by
  apply yields_location_bind
  intro start
  cases hsource : Surveyor.missingSource? provenance asset start with
  | none =>
      apply yields_pure
      intro exchanges loc _
      exact .kept
  | some source =>
      rcases source with ⟨name, owner⟩
      rcases of_missingSource?_eq_some hsource with ⟨htype, hpath, hsystem, howner⟩
      apply yields_bind (yields_recallOwner hrecords owner)
      intro index
      cases index.resolve? name with
      | none =>
          apply yields_pure
          intro exchanges next loc hnext _
          rw [hnext]
          exact .kept
      | some found =>
          refine (yields_confirmSource hrecords htype hpath hsystem howner).mono ?_
          intro exchanges next _ last hsourced loc hnext hstart
          rw [← hnext]
          exact hsourced (hnext.trans hstart)

theorem yields_recoverSystem (hrecords : surveyor.storage.Records) :
    (surveyor.recoverSystem provenance).Yields target fun exchanges loc _ next =>
      Owned provenance exchanges loc next := by
  apply yields_location_bind
  intro start
  have hkept : forall result : Bool, (pure result : Step (StateM (Recorded ω)) Bool).Yields
      target fun exchanges loc _ next => loc = start -> Owned provenance exchanges loc next :=
    fun _ => yields_pure fun _ _ _ => .kept
  cases hsystem : start.originSystem with
  | some system => exact hkept false
  | none =>
      cases hpath : start.originPath with
      | none => exact hkept false
      | some path =>
          cases howner : provenance.project.owningSystem? with
          | none => exact hkept false
          | some owner =>
              apply yields_bind (yields_attempt (hrecords.list owner path))
              intro answer
              have hunchanged : forall result : Bool,
                  (pure result : Step (StateM (Recorded ω)) Bool).Yields target
                    fun exchanges next _ last => forall loc,
                      next = loc ∧ Exchange.list owner path answer ∈ exchanges ->
                        loc = start -> Owned provenance exchanges loc last := by
                intro result
                apply yields_pure
                intro exchanges next loc hanswer _
                rw [hanswer.1]
                exact .kept
              cases answer with
              | ok listing =>
                  cases listing with
                  | nil => exact hunchanged false
                  | cons entry rest =>
                      apply yields_place
                      intro exchanges next loc hanswer hstart
                      rw [hstart]
                      exact .found hsystem hpath howner hanswer.2
              | error failure =>
                  cases failure with
                  | notListable system path => exact hunchanged false
                  | _ => exact yields_throw _

theorem yields_fillCurrent :
    (Surveyor.fillCurrent : Step (StateM (Recorded ω)) Bool).Yields target
      fun _ loc _ next => next = Surveyor.filled loc := by
  apply yields_location_bind
  intro start
  unfold Surveyor.filled
  cases hcompleted : Surveyor.completedCurrent? start with
  | none =>
      apply yields_pure
      intro exchanges loc hstart
      rw [hstart, hcompleted]
      rfl
  | some completed =>
      apply yields_place
      intro exchanges loc hstart
      rw [hstart, hcompleted]
      rfl

theorem yields_judge (hrecords : surveyor.storage.Records) :
    surveyor.judge.Yields surveyor.engine.publishedSystem fun exchanges loc _ next =>
      Judged surveyor.engine.publishedSystem exchanges loc next := by
  apply yields_location_bind
  intro start
  cases hcurrent : start.currentSystem with
  | none => exact yields_pure fun _ _ _ => .kept
  | some system =>
      dsimp only
      split
      · apply yields_place
        intro exchanges loc hstart
        rw [hstart]
        exact .decided true
      · apply yields_bind (yields_recallPublished hrecords system)
        intro copy
        cases hfound : copy.bind fun index => start.currentPath.bind index.resolve? with
        | none =>
            apply yields_place
            intro exchanges next loc _ hstart
            rw [hstart]
            exact .decided false
        | some path =>
            apply yields_place
            intro exchanges next loc hcopy hstart
            rw [hstart]
            rcases Option.bind_eq_some_iff.mp hfound with ⟨index, hindex, hresolved⟩
            rcases Option.bind_eq_some_iff.mp hresolved with ⟨name, _, hname⟩
            exact .moved (hcopy.2 index hindex path (FileIndex.filed_of_resolve? hname))

theorem yields_assignProject (hrecords : surveyor.storage.Records) :
    surveyor.assignProject.Yields target fun _ loc _ next => Attributed loc next := by
  apply yields_location_bind
  intro start
  cases surveyor.publishedProject? start with
  | some id =>
      apply yields_setLocation
      intro exchanges loc hstart
      rw [hstart]
      exact .assigned id
  | none =>
      cases surveyor.owningSystem? start with
      | none => exact yields_pure fun _ _ _ => .kept
      | some system =>
          apply yields_bind (yields_projectOf hrecords system)
          intro project
          cases project with
          | none =>
              apply yields_pure
              intro exchanges next loc hnext _
              rw [hnext]
              exact .kept
          | some id =>
              apply yields_setLocation
              intro exchanges next loc hnext hstart
              rw [hstart]
              exact .assigned id

theorem yields_reconcile (hrecords : surveyor.storage.Records) :
    surveyor.reconcile.Yields surveyor.engine.publishedSystem fun exchanges loc _ next =>
      exists judged, Judged surveyor.engine.publishedSystem exchanges loc judged ∧
        Attributed judged next := by
  apply yields_bind (yields_judge hrecords)
  intro verdict
  apply yields_bind (yields_assignProject hrecords)
  intro _
  apply yields_pure
  intro exchanges last judged hlast loc hjudged
  exact ⟨judged, hjudged, hlast⟩

theorem yields_repair (hrecords : surveyor.storage.Records) (asset : Asset) :
    (surveyor.repair provenance asset).Yields target fun exchanges loc _ next =>
      exists sourced owned, Sourced provenance asset exchanges loc sourced ∧
        Owned provenance exchanges sourced owned ∧ next = Surveyor.filled owned := by
  apply yields_bind (yields_recoverSource hrecords asset)
  intro _
  apply yields_bind (yields_recoverSystem hrecords)
  intro _
  apply yields_bind yields_fillCurrent
  intro _
  apply yields_pure
  intro exchanges last owned hlast sourced howned loc hsourced
  exact ⟨sourced, owned, hsourced, howned, hlast⟩

/-- A pass that ends well accounts for the location that it leaves. -/
theorem yields_pass (hrecords : surveyor.storage.Records) (item : Tracked) :
    (surveyor.pass provenance item).Yields surveyor.engine.publishedSystem
      fun exchanges loc _ next =>
        Account provenance surveyor.engine.publishedSystem exchanges loc item next := by
  cases item with
  | asset row =>
      apply yields_bind (yields_repair hrecords row)
      intro _
      refine (yields_reconcile hrecords).mono ?_
      intro exchanges filled _ last hreconciled loc hrepaired
      rcases hreconciled with ⟨judged, hjudged, hlast⟩
      rcases hrepaired with ⟨sourced, owned, hsourced, howned, rfl⟩
      exact .asset hsourced howned hjudged hlast
  | tileServer row =>
      refine (yields_reconcile hrecords).mono ?_
      intro exchanges loc _ last hreconciled
      rcases hreconciled with ⟨judged, hjudged, hlast⟩
      exact .tileServer hjudged hlast

end Parts

end Whereabouts
