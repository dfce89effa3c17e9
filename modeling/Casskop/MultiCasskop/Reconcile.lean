import Casskop.MultiCasskop.Definition

/-!
# The MultiCasskop pass

One pass goes through the sites in the order of the clients.  It stops at the first site
that had to be written, that failed or that is not ready, so sites are changed one by
one.  When the MultiCasskop is deleted, it deletes the CassandraCluster of every site and
removes the finalizer, whatever the deletions have answered.
-/

namespace Casskop

/-! ## The object and its finalizer -/

structure MultiCasskop where
  deleteCassandraCluster : Option Bool
  base : Definition
  override : GoMap Definition
  finalizers : List String := []
  deletionTimestamp : Bool := false

def multiCasskopFinalizer : String := "kubernetes.io/multi-casskop"

def preventClusterDeletion (value : Bool) (cmc : MultiCasskop) : MultiCasskop :=
  { cmc with finalizers := if value then [multiCasskopFinalizer] else [] }

/-- `computeCassandraClusterForContext`; `merge` is `mergo.Merge` with override. -/
def computeCassandraClusterForContext (merge : Definition → Definition → Definition)
    (cmc : MultiCasskop) (client : String) : Option Definition :=
  (cmc.override.lookup client).map fun override => (merge cmc.base override).checkDefaults

/-! ## The pass -/

inductive Requeue where
  | forget
  | requeue
  | after5
  | after30
  deriving DecidableEq, Repr

structure MultiAnswers where
  /-- The update that adds the finalizer. -/
  strategy : Except ApiError Unit
  sites : Nat → SiteAnswers
  /-- The update that removes it. -/
  removal : Except ApiError Unit

structure MultiOutcome where
  calls : List Call := []
  result : Requeue := .forget
  error : Option ApiError := none
  fault : Bool := false

/-- Calls of the loop over the clients, and what it returned unless it ran to its end. -/
structure SitesOutcome where
  calls : List Call
  returned : Option (Requeue × Option ApiError)

def SitesOutcome.after (later : SitesOutcome) (calls : List Call) : SitesOutcome :=
  { later with calls := calls ++ later.calls }

section Pass

variable (merge : Definition → Definition → Definition) (cmc : MultiCasskop)

def reconcileSites (answers : Nat → SiteAnswers) : List String → Nat → SitesOutcome
  | [], _ => { calls := [], returned := none }
  | client :: clients, site =>
    match computeCassandraClusterForContext merge cmc client with
    | none => reconcileSites answers clients (site + 1)
    | some cc =>
      if cmc.deletionTimestamp then
        -- The error of the deletion is dropped.
        (reconcileSites answers clients (site + 1)).after
          [.deleteCluster site cc.metadata (answers site).delete]
      else
        let result := createOrUpdateCassandraCluster site cc (answers site)
        if result.error ≠ none then
          { calls := result.calls, returned := some (.after5, result.error) }
        else if result.update then
          { calls := result.calls, returned := some (.after30, none) }
        else if result.stored.any readyCassandraCluster then
          (reconcileSites answers clients (site + 1)).after result.calls
        else { calls := result.calls, returned := some (.after30, none) }

/-- The pass on a MultiCasskop that could be read. -/
def reconcileMultiCasskop (clients : List String) (answers : MultiAnswers) : MultiOutcome :=
  match cmc.deleteCassandraCluster with
  -- `updateDeletetrategy` dereferences the flag.
  | none => { fault := true }
  | some delete =>
    if delete && cmc.finalizers.isEmpty then
      { calls :=
          [.updateMultiCasskop (preventClusterDeletion true cmc).finalizers answers.strategy]
        result := .requeue
        error := Except.failure answers.strategy }
    else
      let sites := reconcileSites merge cmc answers.sites clients 0
      match sites.returned with
      | some (result, error) => { calls := sites.calls, result := result, error := error }
      | none =>
        if cmc.deletionTimestamp then
          { calls := sites.calls ++
              [.updateMultiCasskop (preventClusterDeletion false cmc).finalizers
                answers.removal]
            result := .forget
            error := Except.failure answers.removal }
        else { calls := sites.calls, result := .after30 }

end Pass

/-- `Reconcile` for a request in a namespace. -/
def reconcileRequest (merge : Definition → Definition → Definition) (watched ns : String)
    (clients : List String) (get : Except ApiError MultiCasskop) (answers : MultiAnswers) :
    MultiOutcome :=
  if ns ≠ watched then {}
  else
    match get with
    | .error .notFound => {}
    | .error error => { result := .requeue, error := some error }
    | .ok cmc => reconcileMultiCasskop merge cmc clients answers

/-! ## One site at a time -/

/-- The site was read, needs no write and is ready. -/
def SiteSettled (cc : Definition) (answers : SiteAnswers) : Prop :=
  ∃ stored, answers.get = .ok stored ∧ specDiffers cc stored = false ∧
    seedListDiffers cc stored = false ∧ readyCassandraCluster stored = true

/-- The site is created or updated, or its object cannot be read, or nothing is to do. -/
inductive SiteCase (site : Nat) (cc : Definition) (answers : SiteAnswers) : SiteResult → Prop where
  | created (error : Option ApiError) :
      SiteCase site cc answers
        { update := true, stored := none, error := error
          calls := [.getCluster site, .createCluster site cc] }
  | unread (error : ApiError) :
      SiteCase site cc answers
        { update := false, stored := none, error := some error, calls := [.getCluster site] }
  | updated (object : StoredCluster) (error : Option ApiError) :
      SiteCase site cc answers
        { update := true, stored := some object, error := error
          calls := [.getCluster site, .updateCluster site object] }
  | unchanged (stored : StoredCluster) (read : answers.get = .ok stored)
      (spec : specDiffers cc stored = false) (seeds : seedListDiffers cc stored = false) :
      SiteCase site cc answers
        { update := false, stored := some (overwritten cc stored), error := none
          calls := [.getCluster site] }

theorem createOrUpdateCassandraCluster_case (site : Nat) (cc : Definition) (answers : SiteAnswers) :
    SiteCase site cc answers (createOrUpdateCassandraCluster site cc answers) := by
  unfold createOrUpdateCassandraCluster
  split
  · exact .created _
  · exact .unread _
  · rename_i stored read
    dsimp only
    split
    · exact .updated _ _
    · rename_i same
      obtain ⟨spec, seeds⟩ := Bool.or_eq_false_iff.mp (Bool.eq_false_of_not_eq_true same)
      exact .unchanged stored read spec seeds

theorem overwritten_ready {cc : Definition} {stored : StoredCluster}
    (spec : specDiffers cc stored = false) (seeds : seedListDiffers cc stored = false) :
    readyCassandraCluster (overwritten cc stored) = readyCassandraCluster stored := by
  unfold overwritten
  rw [spec, seeds]
  rfl

namespace SiteCase

variable {site : Nat} {cc : Definition} {answers : SiteAnswers} {result : SiteResult}

theorem site_eq (siteCase : SiteCase site cc answers result) :
    ∀ call ∈ result.calls, call.site = some site := by
  intro call member
  cases siteCase with
  | created | updated =>
    rcases List.mem_pair.mp member with rfl | rfl
    · rfl
    · rfl
  | unread | unchanged =>
    rw [List.mem_singleton.mp member]
    rfl

theorem writes_le (siteCase : SiteCase site cc answers result) :
    result.calls.countP Call.writesCluster ≤ 1 := by
  cases siteCase <;> simp [Call.writesCluster]

/-- A site that lets the loop go on is settled and was only read. -/
theorem settled (siteCase : SiteCase site cc answers result) (succeeds : result.error = none)
    (unchanged : result.update = false) (ready : result.stored.any readyCassandraCluster = true) :
    SiteSettled cc answers ∧ result.calls = [.getCluster site] := by
  cases siteCase with
  | created | updated => cases unchanged
  | unread => cases succeeds
  | unchanged stored read spec seeds =>
    rw [Option.any_some, overwritten_ready spec seeds] at ready
    exact ⟨⟨stored, read, spec, seeds, ready⟩, rfl⟩

end SiteCase

variable {clients : List String}

section Sites

variable {merge : Definition → Definition → Definition} {cmc : MultiCasskop}
  {answers : Nat → SiteAnswers}

/-- What a loop from `start` on may have done at a site. -/
structure VisitedAt (merge : Definition → Definition → Definition) (cmc : MultiCasskop)
    (answers : Nat → SiteAnswers) (clients : List String) (start site : Nat) : Prop where
  within : start ≤ site
  defined : ∃ client, clients[site - start]? = some client ∧
    cmc.override.lookup client ≠ none
  earlier : ∀ before, start ≤ before → before < site → ∀ client cc,
    clients[before - start]? = some client →
    computeCassandraClusterForContext merge cmc client = some cc →
    SiteSettled cc (answers before)

theorem VisitedAt.here {client : String} {start : Nat}
    (overridden : cmc.override.lookup client ≠ none) :
    VisitedAt merge cmc answers (client :: clients) start start := by
  refine ⟨Nat.le_refl start, ⟨client, ?_, overridden⟩, ?_⟩
  · rw [Nat.sub_self]
    rfl
  · intro before after less
    omega

theorem VisitedAt.later {client : String} {start site : Nat}
    (visited : VisitedAt merge cmc answers clients (start + 1) site)
    (settled : ∀ cc, computeCassandraClusterForContext merge cmc client = some cc → SiteSettled cc
      (answers start)) : VisitedAt merge cmc answers (client :: clients) start site := by
  have within := visited.within
  have shift : ∀ position, start + 1 ≤ position →
      (client :: clients)[position - start]? = clients[position - (start + 1)]? := by
    intro position beyond
    have next : position - start = position - (start + 1) + 1 := by omega
    rw [next, List.getElem?_cons_succ]
  refine ⟨by omega, ?_, ?_⟩
  · rw [shift site within]
    exact visited.defined
  · intro before above below other cc found computed
    by_cases first : before = start
    · subst first
      rw [Nat.sub_self, List.getElem?_cons_zero, Option.some.injEq] at found
      subst found
      exact settled cc computed
    · have beyond : start + 1 ≤ before := by omega
      rw [shift before beyond] at found
      exact visited.earlier before beyond below other cc found computed

/-- A site is reached only when all sites before it are settled. -/
theorem reconcileSites_visited (alive : cmc.deletionTimestamp = false) (clients : List String) :
    ∀ start, ∀ call ∈ (reconcileSites merge cmc answers clients start).calls,
      ∃ site, call.site = some site ∧ VisitedAt merge cmc answers clients start site := by
  induction clients with
  | nil =>
    intro start call member
    cases member
  | cons client clients induction =>
    intro start call member
    unfold reconcileSites at member
    split at member
    · rename_i undefined
      obtain ⟨site, same, visited⟩ := induction (start + 1) call member
      refine ⟨site, same, visited.later fun cc computed => ?_⟩
      rw [undefined] at computed
      cases computed
    · rename_i cc computed
      have overridden : cmc.override.lookup client ≠ none := by
        intro absent
        unfold computeCassandraClusterForContext at computed
        rw [absent] at computed
        cases computed
      have siteCase := createOrUpdateCassandraCluster_case start cc (answers start)
      have here : ∀ call ∈ (createOrUpdateCassandraCluster start cc (answers start)).calls,
          ∃ site, call.site = some site ∧
            VisitedAt merge cmc answers (client :: clients) start site :=
        fun call own => ⟨start, siteCase.site_eq call own, .here overridden⟩
      rw [if_neg (by simp [alive])] at member
      dsimp only at member
      split at member
      · exact here call member
      rename_i succeeds
      split at member
      · exact here call member
      rename_i unchanged
      split at member
      · rename_i ready
        obtain ⟨settled, _⟩ := siteCase.settled (not_not.mp succeeds)
          (Bool.eq_false_of_not_eq_true unchanged) ready
        rcases List.mem_append.mp member with own | later
        · exact here call own
        · obtain ⟨site, same, visited⟩ := induction (start + 1) call later
          refine ⟨site, same, visited.later fun other again => ?_⟩
          rw [computed, Option.some.injEq] at again
          exact again ▸ settled
      · exact here call member

/-- The loop ends with its first write. -/
theorem reconcileSites_writes (alive : cmc.deletionTimestamp = false) (clients : List String) :
    ∀ start, (reconcileSites merge cmc answers clients start).calls.countP
      Call.writesCluster ≤ 1 := by
  induction clients with
  | nil => exact fun start => Nat.zero_le 1
  | cons client clients induction =>
    intro start
    unfold reconcileSites
    split
    · exact induction (start + 1)
    · rename_i cc computed
      have siteCase := createOrUpdateCassandraCluster_case start cc (answers start)
      rw [if_neg (by simp [alive])]
      dsimp only
      split
      · exact siteCase.writes_le
      rename_i succeeds
      split
      · exact siteCase.writes_le
      rename_i unchanged
      split
      · rename_i ready
        obtain ⟨_, only⟩ := siteCase.settled (not_not.mp succeeds)
          (Bool.eq_false_of_not_eq_true unchanged) ready
        unfold SitesOutcome.after
        rw [only]
        exact induction (start + 1)
      · exact siteCase.writes_le

end Sites

variable {merge : Definition → Definition → Definition} {cmc : MultiCasskop}

/-- The calls of a pass on a MultiCasskop that is not being deleted: its finalizer is
added, or the sites are visited. -/
theorem reconcileMultiCasskop_calls (alive : cmc.deletionTimestamp = false) (clients : List String)
    (answers : MultiAnswers) :
    let calls := (reconcileMultiCasskop merge cmc clients answers).calls
    calls = [] ∨ (∃ finalizers, calls = [.updateMultiCasskop finalizers answers.strategy]) ∨
      calls = (reconcileSites merge cmc answers.sites clients 0).calls := by
  unfold reconcileMultiCasskop
  dsimp only
  split
  · exact Or.inl rfl
  split
  · exact Or.inr (Or.inl ⟨_, rfl⟩)
  · refine Or.inr (Or.inr ?_)
    split
    · rfl
    · rw [alive]
      rfl

/-- A pass writes the CassandraCluster of one site at most.  It comes to a site only when
the site is overridden and all overridden sites before it are settled. -/
theorem reconcileRequest_one_site (merge : Definition → Definition → Definition)
    (watched ns : String) (clients : List String) (get : Except ApiError MultiCasskop)
    (answers : MultiAnswers)
    (alive : ∀ cmc, get = .ok cmc → cmc.deletionTimestamp = false) :
    let calls := (reconcileRequest merge watched ns clients get answers).calls
    calls.countP Call.writesCluster ≤ 1 ∧
      ∀ call ∈ calls, ∀ site, call.site = some site → ∃ cmc, get = .ok cmc ∧
        (∃ client, clients[site]? = some client ∧ cmc.override.lookup client ≠ none) ∧
        ∀ before < site, ∀ client cc, clients[before]? = some client →
          computeCassandraClusterForContext merge cmc client = some cc →
          SiteSettled cc (answers.sites before) := by
  unfold reconcileRequest
  dsimp only
  split
  · exact ⟨Nat.zero_le 1, fun call member => by cases member⟩
  split
  · exact ⟨Nat.zero_le 1, fun call member => by cases member⟩
  · exact ⟨Nat.zero_le 1, fun call member => by cases member⟩
  · rename_i cmc
    have lives := alive cmc rfl
    rcases reconcileMultiCasskop_calls lives clients answers with none | ⟨_, only⟩ | visits
    · rw [none]
      exact ⟨Nat.zero_le 1, fun call member => by cases member⟩
    · rw [only]
      refine ⟨Nat.zero_le 1, fun call member site same => ?_⟩
      rw [List.mem_singleton.mp member] at same
      cases same
    · rw [visits]
      refine ⟨reconcileSites_writes lives clients 0, fun call member site same => ?_⟩
      obtain ⟨visited, here, facts⟩ := reconcileSites_visited lives clients 0 call member
      rw [here, Option.some.injEq] at same
      subst same
      exact ⟨cmc, rfl, facts.defined, fun before less client cc found computed =>
        facts.earlier before (Nat.zero_le before) less client cc found computed⟩

/-! ### Two sites -/

def siteDefinition : Definition :=
  { metadata := { name := "demo", ns := "default" }
    spec := { nodesPerRacks := 1, cassandraImage := "cassandra:4" } }

def replaces (_ override : Definition) : Definition := override

def twoSites : List String := ["local", "remote"]

def twoSitesCasskop : MultiCasskop :=
  { deleteCassandraCluster := some true
    base := siteDefinition
    override := GoMap.ofList [("local", siteDefinition), ("remote", siteDefinition)]
    finalizers := [multiCasskopFinalizer] }

/-- A site that stores the definition and is ready. -/
def readySite : SiteAnswers :=
  { get := .ok
      { cluster :=
          { metadata := siteDefinition.metadata
            spec := siteDefinition.spec
            status := { phase := .running, lastClusterActionStatus := .done } }
        settings := siteDefinition.settings.checkDefaults }
    create := .ok ()
    update := .ok ()
    delete := .ok () }

def newRemote : MultiAnswers :=
  { strategy := .ok ()
    sites := fun site => if site = 0 then readySite else { readySite with get := .error .notFound }
    removal := .ok () }

theorem newRemote_one_site :
    (reconcileRequest replaces "default" "default" twoSites (.ok twoSitesCasskop)
        newRemote).calls =
      [.getCluster 0, .getCluster 1, .createCluster 1 siteDefinition.checkDefaults] ∧
    SiteSettled siteDefinition.checkDefaults readySite := by
  have calls : (reconcileRequest replaces "default" "default" twoSites (.ok twoSitesCasskop)
      newRemote).calls =
      [.getCluster 0, .getCluster 1, .createCluster 1 siteDefinition.checkDefaults] := by
    rfl
  have law := reconcileRequest_one_site replaces "default" "default" twoSites
    (.ok twoSitesCasskop) newRemote (fun cmc same => by cases same; rfl)
  refine ⟨calls, ?_⟩
  obtain ⟨cmc, same, _, earlier⟩ := law.2 (.createCluster 1 siteDefinition.checkDefaults)
    (by rw [calls]; simp) 1 rfl
  cases same
  exact earlier 0 Nat.one_pos "local" siteDefinition.checkDefaults rfl rfl

/-! ## Deletion -/

def Deleted (answer : Except ApiError Unit) : Prop :=
  answer = .ok () ∨ answer = .error .notFound

section Deletion

variable {answers : Nat → SiteAnswers}

/-- When the MultiCasskop is being deleted, the loop deletes at every overridden site and
runs to its end. -/
theorem reconcileSites_deletes (deleting : cmc.deletionTimestamp = true) (clients : List String) :
    ∀ start,
      (reconcileSites merge cmc answers clients start).returned = none ∧
      (∀ call ∈ (reconcileSites merge cmc answers clients start).calls,
        ∃ site metadata, call = .deleteCluster site metadata (answers site).delete) ∧
      ∀ position client cc, clients[position]? = some client →
        computeCassandraClusterForContext merge cmc client = some cc →
        .deleteCluster (start + position) cc.metadata (answers (start + position)).delete ∈
          (reconcileSites merge cmc answers clients start).calls := by
  induction clients with
  | nil =>
    intro start
    refine ⟨rfl, fun call member => ?_, fun position client cc found => ?_⟩
    · cases member
    · cases found
  | cons client clients induction =>
    intro start
    obtain ⟨ends, deletes, all⟩ := induction (start + 1)
    have shifted : ∀ position other cc, clients[position]? = some other →
        computeCassandraClusterForContext merge cmc other = some cc →
        .deleteCluster (start + (position + 1)) cc.metadata
            (answers (start + (position + 1))).delete ∈
          (reconcileSites merge cmc answers clients (start + 1)).calls := by
      intro position other cc found computed
      have next : start + (position + 1) = start + 1 + position := by omega
      rw [next]
      exact all position other cc found computed
    unfold reconcileSites
    split
    · rename_i undefined
      refine ⟨ends, deletes, fun position other cc found computed => ?_⟩
      cases position with
      | zero =>
        rw [List.getElem?_cons_zero, Option.some.injEq] at found
        rw [← found, undefined] at computed
        cases computed
      | succ position => exact shifted position other cc found computed
    · rename_i cc computed
      rw [if_pos deleting]
      refine ⟨ends, fun call member => ?_, fun position other cc' found computed' => ?_⟩
      · rcases List.mem_append.mp member with own | later
        · exact ⟨start, cc.metadata, List.mem_singleton.mp own⟩
        · exact deletes call later
      · apply List.mem_append.mpr
        cases position with
        | zero =>
          rw [List.getElem?_cons_zero, Option.some.injEq] at found
          rw [← found, computed, Option.some.injEq] at computed'
          exact Or.inl (computed' ▸ List.mem_singleton_self _)
        | succ position => exact Or.inr (shifted position other cc' found computed')

end Deletion

/-- Updates of the finalizers that leave nothing behind and nobody else's finalizer out. -/
structure RemovesSafely (merge : Definition → Definition → Definition) (cmc : MultiCasskop)
    (clients : List String) (calls : List Call) : Prop where
  /-- The finalizer goes only when the CassandraCluster of every overridden site is
  gone. -/
  complete : cmc.deleteCassandraCluster = some true → multiCasskopFinalizer ∈ cmc.finalizers →
    ∀ finalizers, .updateMultiCasskop finalizers (.ok ()) ∈ calls →
      multiCasskopFinalizer ∉ finalizers →
      ∀ site client cc, clients[site]? = some client →
        computeCassandraClusterForContext merge cmc client = some cc →
        ∃ answer, .deleteCluster site cc.metadata answer ∈ calls ∧ Deleted answer
  foreign : ∀ finalizers, .updateMultiCasskop finalizers (.ok ()) ∈ calls →
    ∀ finalizer ∈ cmc.finalizers, finalizer ≠ multiCasskopFinalizer → finalizer ∈ finalizers

/-- Every deletion has succeeded, and nobody else has set a finalizer. -/
structure SafeToRemove (cmc : MultiCasskop) (clients : List String)
    (answers : Nat → SiteAnswers) : Prop where
  deleted : cmc.deleteCassandraCluster = some true → multiCasskopFinalizer ∈ cmc.finalizers →
    ∀ site client, clients[site]? = some client → cmc.override.lookup client ≠ none →
      Deleted (answers site).delete
  own : ∀ finalizer ∈ cmc.finalizers, finalizer = multiCasskopFinalizer

section Finalizers

variable {calls : List Call}

theorem RemovesSafely.ofSites (sites : ∀ call ∈ calls, call.site ≠ none) :
    RemovesSafely merge cmc clients calls := by
  constructor
  · intro _ _ finalizers member
    exact absurd rfl (sites _ member)
  · intro finalizers member
    exact absurd rfl (sites _ member)

theorem RemovesSafely.ofStrategy (fresh : cmc.finalizers = []) (finalizers : List String)
    (answer : Except ApiError Unit) :
    RemovesSafely merge cmc clients [.updateMultiCasskop finalizers answer] := by
  constructor
  · intro _ present
    rw [fresh] at present
    cases present
  · intro _ _ finalizer present
    rw [fresh] at present
    cases present

theorem removesSafely_removal (deleting : cmc.deletionTimestamp = true)
    (answers : Nat → SiteAnswers) (removal : Except ApiError Unit) :
    RemovesSafely merge cmc clients
        ((reconcileSites merge cmc answers clients 0).calls ++
          [.updateMultiCasskop [] removal]) ↔
      (removal = .ok () → SafeToRemove cmc clients answers) := by
  obtain ⟨_, deletes, all⟩ := @reconcileSites_deletes merge cmc answers deleting clients 0
  have last : ∀ finalizers, .updateMultiCasskop finalizers (.ok ()) ∈
      (reconcileSites merge cmc answers clients 0).calls ++ [.updateMultiCasskop [] removal] →
      finalizers = [] ∧ removal = .ok () := by
    intro finalizers member
    rcases List.mem_append.mp member with deletion | update
    · obtain ⟨_, _, impossible⟩ := deletes _ deletion
      cases impossible
    · cases List.mem_singleton.mp update
      exact ⟨rfl, rfl⟩
  constructor
  · intro safe accepted
    subst accepted
    have update : .updateMultiCasskop [] (.ok ()) ∈
        (reconcileSites merge cmc answers clients 0).calls ++
          [.updateMultiCasskop [] (.ok ())] :=
      List.mem_append_right _ (List.mem_singleton_self _)
    constructor
    · intro enabled present site client found overridden
      obtain ⟨override, defined⟩ := Option.ne_none_iff_exists'.mp overridden
      have computed : computeCassandraClusterForContext merge cmc client =
          some (merge cmc.base override).checkDefaults := by
        unfold computeCassandraClusterForContext
        rw [defined]
        rfl
      obtain ⟨answer, called, gone⟩ := safe.complete enabled present [] update
        List.not_mem_nil site client _ found computed
      rcases List.mem_append.mp called with deletion | impossible
      · obtain ⟨_, _, same⟩ := deletes _ deletion
        cases same
        exact gone
      · cases List.mem_singleton.mp impossible
    · intro finalizer present
      by_contra other
      cases safe.foreign [] update finalizer present other
  · intro safe
    constructor
    · intro enabled present finalizers update _ site client cc found computed
      obtain ⟨_, accepted⟩ := last finalizers update
      have called := all site client cc found computed
      rw [Nat.zero_add] at called
      refine ⟨_, List.mem_append_left _ called,
        (safe accepted).deleted enabled present site client found ?_⟩
      intro absent
      unfold computeCassandraClusterForContext at computed
      rw [absent] at computed
      cases computed
    · intro finalizers update finalizer present other
      obtain ⟨_, accepted⟩ := last finalizers update
      exact absurd ((safe accepted).own finalizer present) other

end Finalizers

/-- The finalizers are updated safely if and only if, whenever a deleted MultiCasskop gets
rid of its finalizer, every deletion has succeeded and the finalizer was the only one. -/
theorem reconcileRequest_removes_safely_iff (merge : Definition → Definition → Definition)
    (watched ns : String) (clients : List String) (cmc : MultiCasskop) (answers : MultiAnswers) :
    RemovesSafely merge cmc clients
        (reconcileRequest merge watched ns clients (.ok cmc) answers).calls ↔
      (ns = watched → cmc.deletionTimestamp = true → cmc.deleteCassandraCluster ≠ none →
        answers.removal = .ok () → SafeToRemove cmc clients answers.sites) := by
  unfold reconcileRequest
  split
  · rename_i other
    exact ⟨fun _ same => absurd same other, fun _ => .ofSites fun call member => by cases member⟩
  rename_i same
  dsimp only
  unfold reconcileMultiCasskop
  split
  · rename_i unset
    exact ⟨fun _ _ _ set => absurd unset set,
      fun _ => .ofSites fun call member => by cases member⟩
  rename_i delete enabled
  split
  · rename_i adds
    have fresh : cmc.finalizers = [] := List.isEmpty_iff.mp (Bool.and_eq_true_iff.mp adds).2
    refine ⟨fun _ _ _ _ _ => ⟨fun _ present => ?_, fun finalizer present => ?_⟩,
      fun _ => .ofStrategy fresh _ _⟩
    · rw [fresh] at present
      cases present
    · rw [fresh] at present
      cases present
  · dsimp only
    cases deleting : cmc.deletionTimestamp with
    | true =>
      obtain ⟨ends, _⟩ := @reconcileSites_deletes merge cmc answers.sites deleting clients 0
      rw [ends]
      dsimp only
      rw [if_pos rfl]
      refine (removesSafely_removal deleting answers.sites answers.removal).trans ?_
      refine ⟨fun safe _ _ _ => safe, fun safe => safe (not_not.mp same) rfl ?_⟩
      rw [enabled]
      exact Option.some_ne_none delete
    | false =>
      refine ⟨fun _ _ impossible => absurd impossible Bool.false_ne_true,
        fun _ => .ofSites ?_⟩
      have sites : ∀ call ∈ (reconcileSites merge cmc answers.sites clients 0).calls,
          call.site ≠ none := by
        intro call member
        obtain ⟨site, here, _⟩ := reconcileSites_visited deleting clients 0 call member
        rw [here]
        exact Option.some_ne_none site
      split
      · exact sites
      · exact sites

/-- The CassandraCluster of the remote site cannot be deleted. -/
def remoteUnreachable : MultiAnswers :=
  { strategy := .ok ()
    sites := fun site => if site = 0 then readySite else { readySite with delete := .error .other }
    removal := .ok () }

/-- The finalizer is removed although a CassandraCluster is left. -/
theorem finalizer_removed_after_failed_delete :
    let deleted := { twoSitesCasskop with deletionTimestamp := true }
    let calls := (reconcileRequest replaces "default" "default" twoSites (.ok deleted)
      remoteUnreachable).calls
    calls =
        [.deleteCluster 0 siteDefinition.metadata (.ok ()),
          .deleteCluster 1 siteDefinition.metadata (.error .other),
          .updateMultiCasskop [] (.ok ())] ∧
      ¬ RemovesSafely replaces deleted twoSites calls := by
  intro deleted calls
  have only : calls =
      [.deleteCluster 0 siteDefinition.metadata (.ok ()),
        .deleteCluster 1 siteDefinition.metadata (.error .other),
        .updateMultiCasskop [] (.ok ())] := rfl
  refine ⟨only, fun safe => ?_⟩
  obtain ⟨answer, called, gone⟩ := safe.complete rfl (List.mem_singleton_self _) []
    (by rw [only]; simp) List.not_mem_nil 1 "remote" siteDefinition.checkDefaults rfl rfl
  have failed : answer = .error .other := by
    rw [only] at called
    simp only [List.mem_cons, Call.deleteCluster.injEq, reduceCtorEq, List.not_mem_nil,
      or_false, one_ne_zero, false_and, false_or, true_and] at called
    exact called.2
  rcases gone with ok | missing
  · cases failed.symm.trans ok
  · cases failed.symm.trans missing

end Casskop
