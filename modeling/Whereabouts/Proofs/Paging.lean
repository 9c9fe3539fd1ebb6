import Whereabouts.Proofs.Surroundings
import Whereabouts.Remote.Gateway

/-!
# Pages and retries

A listing over HTTP comes in pages, and a page that does not come is asked for again
while that may help.  When every page comes in the end the pages are the listing, and
otherwise the failure of the first page that did not come is all that is left of it.
-/

namespace Whereabouts

variable {σ α β : Type}

/-!
## Calls
-/

namespace Remote

def on (x : Remote (StateM σ) α) (s : σ) : Except StorageError α × σ :=
  x.run.run s

theorem on_bind_of_ok {x : Remote (StateM σ) α} {f : α -> Remote (StateM σ) β}
    {s after : σ} {a : α} (h : x.on s = (.ok a, after)) :
    (x >>= f).on s = (f a).on after := by
  unfold on at *
  rw [ExceptT.run_bind, View.run_bind_of_eq h]

theorem on_bind_of_error {x : Remote (StateM σ) α} {f : α -> Remote (StateM σ) β}
    {s after : σ} {failure : StorageError} (h : x.on s = (.error failure, after)) :
    (x >>= f).on s = (.error failure, after) := by
  unfold on at *
  rw [ExceptT.run_bind, View.run_bind_of_eq h]
  rfl

theorem of_on_bind_ok {x : Remote (StateM σ) α} {f : α -> Remote (StateM σ) β}
    {s after : σ} {b : β} (h : (x >>= f).on s = (.ok b, after)) :
    exists a between, x.on s = (.ok a, between) ∧ (f a).on between = (.ok b, after) := by
  rcases hx : x.on s with ⟨answer, between⟩
  cases answer with
  | error failure =>
      rw [on_bind_of_error hx] at h
      cases h
  | ok a =>
      rw [on_bind_of_ok hx] at h
      exact ⟨a, between, rfl, h⟩

theorem on_map (f : α -> β) {x : Remote (StateM σ) α} {s after : σ}
    {answer : Except StorageError α} (h : x.on s = (answer, after)) :
    (do return f (<- x)).on s = (answer.map f, after) := by
  cases answer with
  | error failure => exact on_bind_of_error h
  | ok a => exact on_bind_of_ok h

end Remote

namespace Gateway

/-!
## Tries
-/

section Tries

variable {gateway : Gateway (StateM σ)} {action : Remote (StateM σ) α}
  {attempt retries : Nat} {failure : StorageError} {failures : List StorageError}
  {answer : Except StorageError α} {s after : σ}

/-- A call that is made time and again: the failures that came of it and the last
answer.  A failure is followed by a pause, which is longer each time, unless it is the
last answer. -/
inductive Tries (gateway : Gateway (StateM σ)) (action : Remote (StateM σ) α) :
    (attempt : Nat) -> σ -> List StorageError -> Except StorageError α -> σ -> Prop
  | delivered {attempt : Nat} {s after : σ} {value : α}
      (hcall : action.on s = (.ok value, after)) :
      Tries gateway action attempt s [] (.ok value) after
  | refused {attempt : Nat} {s after : σ} {failure : StorageError}
      (hcall : action.on s = (.error failure, after)) :
      Tries gateway action attempt s [failure] (.error failure) after
  | again {attempt : Nat} {s between after : σ} {failure : StorageError}
      {failures : List StorageError} {answer : Except StorageError α}
      (hcall : action.on s = (.error failure, between))
      (later : Tries gateway action (attempt + 1)
        ((gateway.peer.pause (250 * (attempt + 1))).run between).2 failures answer after) :
      Tries gateway action attempt s (failure :: failures) answer after

/-- Whether failures leave a call the chance to succeed: all of them may pass, and
there are not too many of them in a row. -/
def Passing (retries : Nat) (failures : List StorageError) : Prop :=
  (forall failure, failure ∈ failures -> failure.isTransient = true) ∧
    failures.length ≤ retries

/-- A call is not made again after it succeeded, after a failure that will not pass, and
after as many tries as there may be. -/
inductive Settled (retries : Nat) : List StorageError -> Except StorageError α -> Prop
  | delivered {failures : List StorageError} {value : α} (hpassing : Passing retries failures) :
      Settled retries failures (.ok value)
  | refused {failures : List StorageError} {failure : StorageError}
      (hpassing : Passing retries failures)
      (hlast : failure.isTransient = true -> failures.length = retries) :
      Settled retries (failures ++ [failure]) (.error failure)

theorem passing_nil (retries : Nat) : Passing retries [] :=
  ⟨fun _ h => (nomatch h), Nat.zero_le retries⟩

theorem Passing.cons (h : Passing retries failures) (hfailure : failure.isTransient = true) :
    Passing (retries + 1) (failure :: failures) := by
  constructor
  · intro other hother
    rcases List.mem_cons.mp hother with rfl | hother
    · exact hfailure
    · exact h.1 other hother
  · exact Nat.succ_le_succ h.2

theorem Settled.cons (h : Settled retries failures answer)
    (hfailure : failure.isTransient = true) :
    Settled (retries + 1) (failure :: failures) answer := by
  cases h with
  | delivered hpassing => exact .delivered (hpassing.cons hfailure)
  | refused hpassing hlast =>
      exact .refused (hpassing.cons hfailure) fun h => congrArg (· + 1) (hlast h)

theorem Settled.length_le (h : Settled retries failures answer) :
    failures.length ≤ retries + 1 := by
  cases h with
  | delivered hpassing => exact Nat.le_succ_of_le hpassing.2
  | refused hpassing =>
      rw [List.length_append]
      exact Nat.succ_le_succ hpassing.2

/-- A call succeeds if and only if its failures leave it the chance to. -/
theorem Settled.passing_iff (h : Settled retries failures answer) :
    Passing retries failures <-> exists value, answer = .ok value := by
  cases h with
  | delivered hpassing => exact ⟨fun _ => ⟨_, rfl⟩, fun _ => hpassing⟩
  | @refused failures failure hpassing hlast =>
      constructor
      · intro hall
        have hmem : failure ∈ failures ++ [failure] := by simp
        have hlength := hall.2
        rw [List.length_append, hlast (hall.1 failure hmem)] at hlength
        exact absurd hlength (Nat.not_succ_le_self retries)
      · intro hok
        rcases hok with ⟨value, hvalue⟩
        cases hvalue

theorem Settled.getLast?_of_error (h : Settled (α := α) retries failures (.error failure)) :
    failures.getLast? = some failure := by
  cases h with
  | refused => exact List.getLast?_concat

theorem exists_tries (gateway : Gateway (StateM σ)) (action : Remote (StateM σ) α)
    (attempt retries : Nat) (s : σ) :
    exists failures answer after,
      (gateway.retrying action attempt retries).on s = (answer, after) ∧
      gateway.Tries action attempt s failures answer after ∧
      Settled retries failures answer := by
  induction retries generalizing attempt s with
  | zero =>
      rcases hcall : action.on s with ⟨answer, after⟩
      cases answer with
      | ok value => exact ⟨[], _, after, hcall, .delivered hcall, .delivered (passing_nil 0)⟩
      | error failure =>
          exact ⟨[failure], _, after, hcall, .refused hcall,
            .refused (passing_nil 0) fun _ => rfl⟩
  | succ retries ih =>
      rcases hcall : action.on s with ⟨answer, between⟩
      cases answer with
      | ok value =>
          exact ⟨[], .ok value, between, View.run_bind_of_eq hcall, .delivered hcall,
            .delivered (passing_nil _)⟩
      | error failure =>
          cases hfailure : failure.isTransient with
          | false =>
              refine ⟨[failure], .error failure, between, ?_, .refused hcall,
                .refused (passing_nil _) ?_⟩
              · refine (View.run_bind_of_eq hcall).trans ?_
                simp only [hfailure, Bool.false_eq_true, if_false]
                rfl
              · intro h
                rw [hfailure] at h
                cases h
          | true =>
              rcases ih (attempt + 1)
                ((gateway.peer.pause (250 * (attempt + 1))).run between).2 with
                ⟨failures, answer, after, hrun, htries, hsettled⟩
              refine ⟨failure :: failures, answer, after, ?_, .again hcall htries,
                hsettled.cons hfailure⟩
              refine (View.run_bind_of_eq hcall).trans ?_
              simp only [hfailure, if_true]
              exact hrun

end Tries

/-!
## Pages
-/

variable {gateway : Gateway (StateM σ)} {system path : String} {listing : List Entry}
  {offset : Nat} {s after : σ}

def pageRequest? (gateway : Gateway (StateM σ)) (system path : String) (offset : Nat) :
    Option Request :=
  (Url.parse? (address gateway.baseUrl "/v3/files/ops/" system path)).map fun url =>
    { url := url.withParameters (pageParameters gateway.pageSize offset)
      token := gateway.token }

/-- Whether a page that comes is always the slice of a listing that was asked for. -/
def Serves (gateway : Gateway (StateM σ)) (system path : String) (listing : List Entry) :
    Prop :=
  forall offset request, gateway.pageRequest? system path offset = some request ->
    forall s status body page, ((gateway.peer.send request).run s).1 = .response status body ->
      isSuccess status = true -> page? (bodyOf status body) = some page ->
      page = (listing.drop offset).take gateway.pageSize

theorem of_request_ok {parameters : List Char} {address : String} {response : Nat × String}
    (h : (gateway.request address (some parameters)).on s = (.ok response, after)) :
    exists url body, Url.parse? address = some url ∧
      ((gateway.peer.send
        { url := url.withParameters parameters, token := gateway.token }).run s).1 =
          .response response.1 body ∧
      response.2 = bodyOf response.1 body := by
  unfold request at h
  cases hparse : Url.parse? address with
  | none =>
      rw [hparse] at h
      cases h
  | some url =>
      rw [hparse] at h
      dsimp only at h
      split at h
      · cases h
      · split at h
        · rcases hsend : (gateway.peer.send
            { url := url.withParameters parameters, token := gateway.token }).run s with
            ⟨reply, between⟩
          change (_ >>= _ : StateM σ _).run s = _ at h
          rw [View.run_bind_of_eq hsend] at h
          cases reply with
          | dropped => cases h
          | response status body =>
              dsimp only at h
              split at h
              · cases h
                exact ⟨url, body, rfl, congrArg Prod.fst hsend, rfl⟩
              · cases h
        · cases h

theorem of_checked_ok {response : Nat × String} {body : String}
    (h : (checked system path response : Remote (StateM σ) String).on s = (.ok body, after)) :
    isSuccess response.1 = true ∧ body = response.2 := by
  unfold checked at h
  split at h
  · cases h
  · split at h
    · rename_i hsuccess
      cases h
      exact ⟨hsuccess, rfl⟩
    · cases h

theorem of_decoded_ok {what : String} {value : Option α} {a : α}
    (h : (decoded what value : Remote (StateM σ) α).on s = (.ok a, after)) :
    value = some a := by
  cases value with
  | none => cases h
  | some value =>
      cases h
      rfl

theorem listPage_eq_slice (hserves : gateway.Serves system path listing) {page : List Entry}
    (h : (gateway.listPage system path offset).on s = (.ok page, after)) :
    page = (listing.drop offset).take gateway.pageSize := by
  rcases Remote.of_on_bind_ok h with ⟨response, t, hrequest, h⟩
  rcases Remote.of_on_bind_ok h with ⟨text, u, hchecked, hdecoded⟩
  rcases of_request_ok hrequest with ⟨url, body, hparse, hsend, hbody⟩
  rcases of_checked_ok hchecked with ⟨hsuccess, rfl⟩
  have hpage := of_decoded_ok hdecoded
  have hrequest? : gateway.pageRequest? system path offset =
      some { url := url.withParameters (pageParameters gateway.pageSize offset),
             token := gateway.token } := by
    rw [pageRequest?, hparse]
    rfl
  rw [hbody] at hpage
  exact hserves offset _ hrequest? s response.1 body page hsend hsuccess hpage

theorem Tries.eq_slice (hserves : gateway.Serves system path listing) {attempt : Nat}
    {failures : List StorageError} {answer : Except StorageError (List Entry)}
    (h : gateway.Tries (gateway.listPage system path offset) attempt s failures answer after) :
    forall page, answer = .ok page ->
      page = (listing.drop offset).take gateway.pageSize := by
  induction h with
  | delivered hcall =>
      intro page hpage
      cases hpage
      exact listPage_eq_slice hserves hcall
  | refused hcall =>
      intro page hpage
      cases hpage
  | again hcall later ih => exact ih

/-!
## Listings
-/

/-- How a page was asked for: the failures that came and the last answer. -/
structure Fetch where
  offset : Nat
  failures : List StorageError
  answer : Except StorageError (List Entry)

inductive Fetches (gateway : Gateway (StateM σ)) (system path : String) :
    σ -> List Fetch -> σ -> Prop
  | nil {s : σ} : Fetches gateway system path s [] s
  | cons {s between after : σ} {fetch : Fetch} {rest : List Fetch}
      (tries : gateway.Tries (gateway.listPage system path fetch.offset) 0 s
        fetch.failures fetch.answer between)
      (later : Fetches gateway system path between rest after) :
      Fetches gateway system path s (fetch :: rest) after

/-- The pages of a listing from an offset on, up to one that is not full or does not
come, and what becomes of them. -/
inductive Reading (retries size : Nat) (listing : List Entry) :
    (offset : Nat) -> List Fetch -> Except StorageError (List Entry) -> Prop
  | last {offset : Nat} {failures : List StorageError} {page : List Entry}
      (hsettled : Settled retries failures (.ok page))
      (hpage : page = (listing.drop offset).take size) (hshort : page.length < size) :
      Reading retries size listing offset [⟨offset, failures, .ok page⟩] (.ok page)
  | failed {offset : Nat} {failures : List StorageError} {failure : StorageError}
      (hsettled : Settled retries failures (.error failure : Except _ (List Entry))) :
      Reading retries size listing offset [⟨offset, failures, .error failure⟩]
        (.error failure)
  | more {offset : Nat} {failures : List StorageError} {page : List Entry}
      {rest : List Fetch} {answer : Except StorageError (List Entry)}
      (hsettled : Settled retries failures (.ok page))
      (hpage : page = (listing.drop offset).take size) (hfull : page.length = size)
      (later : Reading retries size listing (offset + size) rest answer) :
      Reading retries size listing offset (⟨offset, failures, .ok page⟩ :: rest)
        (answer.map (page ++ ·))

theorem exists_reading (hsize : 1 ≤ gateway.pageSize)
    (hserves : gateway.Serves system path listing) (budget offset : Nat)
    (hbudget : (listing.length - offset) / gateway.pageSize < budget) (s : σ) :
    exists fetches answer after,
      (gateway.listFrom system path budget offset).on s = (answer, after) ∧
      gateway.Fetches system path s fetches after ∧
      Reading gateway.maxRetries gateway.pageSize listing offset fetches answer := by
  induction budget generalizing offset s with
  | zero => exact absurd hbudget (Nat.not_lt_zero _)
  | succ budget ih =>
      rcases exists_tries gateway (gateway.listPage system path offset) 0 gateway.maxRetries s
        with ⟨failures, answer, between, hrun, htries, hsettled⟩
      unfold listFrom
      cases answer with
      | error failure =>
          rw [Remote.on_bind_of_error hrun]
          exact ⟨[⟨offset, failures, .error failure⟩], .error failure, between, rfl,
            .cons htries .nil, .failed hsettled⟩
      | ok page =>
          rw [Remote.on_bind_of_ok hrun]
          have hpage := htries.eq_slice hserves page rfl
          by_cases hshort : page.length < gateway.pageSize
          · rw [if_pos hshort]
            exact ⟨[⟨offset, failures, .ok page⟩], .ok page, between, rfl,
              .cons htries .nil, .last hsettled hpage hshort⟩
          · have hlength : page.length = min gateway.pageSize (listing.length - offset) := by
              rw [hpage, List.length_take, List.length_drop]
            have hfull : page.length = gateway.pageSize := by omega
            have hleft : gateway.pageSize ≤ listing.length - offset := by omega
            have hrest :
                (listing.length - (offset + page.length)) / gateway.pageSize < budget := by
              rw [Nat.div_eq_sub_div hsize hleft] at hbudget
              rw [hfull, <- Nat.sub_sub]
              omega
            rcases ih (offset + page.length) hrest between with
              ⟨fetches, answer, after, hrun', hfetches, hreading⟩
            rw [if_neg hshort]
            rw [hfull] at hreading
            exact ⟨⟨offset, failures, .ok page⟩ :: fetches, answer.map (page ++ ·), after,
              Remote.on_map _ hrun', .cons htries hfetches,
              .more hsettled hpage hfull hreading⟩

namespace Reading

variable {retries size : Nat} {fetches : List Fetch}
  {answer : Except StorageError (List Entry)}

theorem offset_eq (h : Reading retries size listing offset fetches answer) :
    forall i fetch, fetches[i]? = some fetch -> fetch.offset = offset + i * size := by
  induction h with
  | last | failed =>
      intro i fetch hfetch
      cases i with
      | zero =>
          cases hfetch
          simp
      | succ i => cases hfetch
  | more _ _ _ _ ih =>
      intro i fetch hfetch
      cases i with
      | zero =>
          cases hfetch
          simp
      | succ i =>
          rw [ih i fetch hfetch, Nat.succ_mul]
          omega

theorem settled (h : Reading retries size listing offset fetches answer) :
    forall fetch, fetch ∈ fetches -> Settled retries fetch.failures fetch.answer := by
  induction h with
  | last hsettled | failed hsettled =>
      intro fetch hfetch
      cases List.mem_singleton.mp hfetch
      exact hsettled
  | more hsettled _ _ _ ih =>
      intro fetch hfetch
      rcases List.mem_cons.mp hfetch with rfl | hfetch
      · exact hsettled
      · exact ih fetch hfetch

theorem complete (h : Reading retries size listing offset fetches answer) (hsize : 1 ≤ size)
    (hok : forall fetch, fetch ∈ fetches -> exists page, fetch.answer = .ok page) :
    answer = .ok (listing.drop offset) ∧
      fetches.length = (listing.length - offset) / size + 1 := by
  induction h with
  | @last offset failures page hsettled hpage hshort =>
      have hlength : page.length = min size (listing.length - offset) := by
        rw [hpage, List.length_take, List.length_drop]
      have hleft : listing.length - offset < size := by omega
      constructor
      · rw [hpage, List.take_of_length_le]
        rw [List.length_drop]
        exact Nat.le_of_lt hleft
      · rw [Nat.div_eq_of_lt hleft]
        rfl
  | failed =>
      rcases hok _ List.mem_cons_self with ⟨page, hpage⟩
      cases hpage
  | @more offset failures page rest answer hsettled hpage hfull later ih =>
      have hlength : page.length = min size (listing.length - offset) := by
        rw [hpage, List.length_take, List.length_drop]
      have hleft : size ≤ listing.length - offset := by omega
      rcases ih fun fetch hfetch => hok fetch (List.mem_cons_of_mem _ hfetch) with
        ⟨rfl, hcount⟩
      constructor
      · change Except.ok (page ++ listing.drop (offset + size)) = _
        rw [hpage, <- List.drop_drop, List.take_append_drop]
      · rw [List.length_cons, hcount, Nat.div_eq_sub_div hsize hleft, Nat.sub_sub]

theorem last_of_error (h : Reading retries size listing offset fetches answer)
    {before later : List Fetch} {fetch : Fetch} {failure : StorageError}
    (hfetches : fetches = before ++ fetch :: later) (herror : fetch.answer = .error failure) :
    later = [] ∧ answer = .error failure := by
  induction h generalizing before with
  | last =>
      rcases List.cons_eq_append_iff.mp hfetches with ⟨rfl, heq⟩ | ⟨front, rfl, hnil⟩
      · cases heq
        cases herror
      · simp at hnil
  | failed =>
      rcases List.cons_eq_append_iff.mp hfetches with ⟨rfl, heq⟩ | ⟨front, rfl, hnil⟩
      · cases heq
        cases herror
        exact ⟨rfl, rfl⟩
      · simp at hnil
  | more _ _ _ _ ih =>
      rcases List.cons_eq_append_iff.mp hfetches with ⟨rfl, heq⟩ | ⟨front, rfl, hrest⟩
      · cases heq
        cases herror
      · rcases ih hrest with ⟨hlater, rfl⟩
        exact ⟨hlater, rfl⟩

end Reading

/-- What a listing has to do with how its pages were asked for. -/
structure Fetched (gateway : Gateway (StateM σ)) (listing : List Entry)
    (fetches : List Fetch) (answer : Except StorageError (List Entry)) : Prop where
  offsets : forall i fetch, fetches[i]? = some fetch ->
    fetch.offset = i * gateway.pageSize
  tries_le : forall fetch, fetch ∈ fetches ->
    fetch.failures.length ≤ gateway.maxRetries + 1
  /-- When the failures leave every page the chance to come, all of them do. -/
  complete : (forall fetch, fetch ∈ fetches -> Passing gateway.maxRetries fetch.failures) ->
    answer = .ok listing ∧ fetches.length = listing.length / gateway.pageSize + 1 ∧
      forall fetch, fetch ∈ fetches -> exists page, fetch.answer = .ok page
  /-- Nothing is asked for after a page that does not come. -/
  refused : forall before fetch later, fetches = before ++ fetch :: later ->
    ¬ Passing gateway.maxRetries fetch.failures ->
    later = [] ∧ exists failure, fetch.failures.getLast? = some failure ∧
      answer = .error failure

/-- Where every page that comes is a slice of a listing, asking for the pages gives the
whole listing, or the last failure of the first page that does not come. -/
theorem list_fetched (hsize : 1 ≤ gateway.pageSize)
    (hserves : gateway.Serves system path listing)
    (hbudget : listing.length / gateway.pageSize < gateway.pageBudget) (s : σ) :
    exists fetches answer after, (gateway.list system path).on s = (answer, after) ∧
      gateway.Fetches system path s fetches after ∧
      gateway.Fetched listing fetches answer := by
  rcases exists_reading hsize hserves gateway.pageBudget 0 hbudget s with
    ⟨fetches, answer, after, hrun, hfetches, hreading⟩
  have hsettled := hreading.settled
  refine ⟨fetches, answer, after, hrun, hfetches, ?_, ?_, ?_, ?_⟩
  · intro i fetch hfetch
    rw [hreading.offset_eq i fetch hfetch, Nat.zero_add]
  · exact fun fetch hfetch => (hsettled fetch hfetch).length_le
  · intro hpassing
    have hok : forall fetch, fetch ∈ fetches -> exists page, fetch.answer = .ok page :=
      fun fetch hfetch => (hsettled fetch hfetch).passing_iff.mp (hpassing fetch hfetch)
    rcases hreading.complete hsize hok with ⟨hanswer, hcount⟩
    exact ⟨hanswer, hcount, hok⟩
  · intro before fetch later heq hnot
    have hmem : fetch ∈ fetches := by
      rw [heq]
      exact List.mem_append_right _ List.mem_cons_self
    have hfetch := hsettled fetch hmem
    cases hlast : fetch.answer with
    | ok page => exact absurd (hfetch.passing_iff.mpr ⟨page, hlast⟩) hnot
    | error failure =>
        rcases hreading.last_of_error heq hlast with ⟨hlater, hanswer⟩
        rw [hlast] at hfetch
        exact ⟨hlater, failure, hfetch.getLast?_of_error, hanswer⟩

/-!
## A sample
-/

namespace Sample

def pageOf (name : String) : String :=
  "\x7b\"result\":[\x7b\"name\":\"" ++ name ++ "\",\"path\":\"/" ++ name ++
    "\",\"type\":\"file\"\x7d]\x7d"

def leaf (name : String) : Entry where
  name := name
  path := "/" ++ name
  kind := .file
  size := none

/-- A gateway whose peer drops two of every three requests and serves a listing of two
files in pages of one. -/
def stalling : Gateway (StateM Nat) where
  peer := {
    send := fun request count =>
      (if count % 3 = 2 then .response 200 (body request.url) else .dropped, count + 1)
    pause := fun _ => pure () }
  baseUrl := "http://[::1]"
  portalUrl := "http://[::1]"
  token := "t"
  pageSize := 1
  maxRetries := 2
  projectSystemStart := "project-"
  pageBudget := 9
where
  body (url : Url) : String :=
    if url.query = some (pageParameters 1 0) then pageOf "a"
    else if url.query = some (pageParameters 1 1) then pageOf "b"
    else "\x7b\x7d"

theorem pageParameters_injective (size : Nat) {a b : Nat}
    (h : pageParameters size a = pageParameters size b) : a = b := by
  have hdecimal : Text.decimal a = Text.decimal b := List.append_cancel_left h
  have hvalue := Text.decimal?_decimal a
  rw [hdecimal, Text.decimal?_decimal] at hvalue
  exact (Option.some.inj hvalue).symm

theorem page?_body (offset : Nat) {url : Url}
    (h : url.query = some (pageParameters 1 offset)) :
    page? (stalling.body url) = some (([leaf "a", leaf "b"].drop offset).take 1) := by
  match offset with
  | 0 =>
      rw [stalling.body, if_pos h]
      decide +kernel
  | 1 =>
      have hne : url.query ≠ some (pageParameters 1 0) := by
        rw [h]
        decide +kernel
      rw [stalling.body, if_neg hne, if_pos h]
      decide +kernel
  | offset + 2 =>
      have hne : forall n, n < 2 -> url.query ≠ some (pageParameters 1 n) := by
        intro n hn heq
        have := pageParameters_injective 1 (Option.some.inj (h.symm.trans heq))
        omega
      rw [stalling.body, if_neg (hne 0 (by decide)), if_neg (hne 1 (by decide))]
      simp only [List.drop_succ_cons, List.drop_nil, List.take_nil]
      decide +kernel

theorem stalling_serves : stalling.Serves "s" "/" [leaf "a", leaf "b"] := by
  intro offset request hrequest count status text page hsend _ hpage
  have hquery : request.url.query = some (pageParameters 1 offset) := by
    have hparse : (Url.parse? (address stalling.baseUrl "/v3/files/ops/" "s" "/")).map Url.query =
        some none := by decide +kernel
    rcases Option.map_eq_some_iff.mp hparse with ⟨url, hurl, hnone⟩
    rw [pageRequest?, hurl] at hrequest
    cases hrequest
    simp only [Url.withParameters, hnone]
    rfl
  change (if count % 3 = 2 then Reply.response 200 (stalling.body request.url) else .dropped) =
    .response status text at hsend
  split at hsend
  · cases hsend
    have hbody := page?_body offset hquery
    exact Option.some.inj (hpage.symm.trans hbody)
  · cases hsend

end Sample

/-- Nine requests for the three pages of a listing of two files. -/
theorem list_fetched_sample :
    exists fetches, Sample.stalling.Fetches "s" "/" 0 fetches 9 ∧
      Sample.stalling.Fetched [Sample.leaf "a", Sample.leaf "b"] fetches
        (.ok [Sample.leaf "a", Sample.leaf "b"]) := by
  have hrun : ((Sample.stalling.list "s" "/").on 0).map Except.toOption id =
      (some [Sample.leaf "a", Sample.leaf "b"], 9) := by decide +kernel
  rcases list_fetched (by decide) Sample.stalling_serves (by decide) 0 with
    ⟨fetches, answer, after, heq, hfetches, hfetched⟩
  rw [heq] at hrun
  cases answer with
  | error failure => cases hrun
  | ok page =>
      cases hrun
      exact ⟨fetches, hfetches, hfetched⟩

end Gateway
end Whereabouts
