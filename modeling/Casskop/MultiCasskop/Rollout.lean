import Casskop.Library.Runs
import Casskop.MultiCasskop.SeedFlag

/-!
# The rollout over the sites

Passes of MultiCasskop alternate with changes of the objects at the sites, which are the writes
of the passes and those of CassKop.  Until the MultiCasskop is edited, the sites are written in
the order of the clients.
-/

namespace Casskop

/-- What the sites store, and the sites that MultiCasskop has written to. -/
structure Rollout where
  sites : Nat → Option StoredCluster
  written : List Nat := []

inductive RolloutEvent where
  | pass (answers : MultiAnswers)
  | changed (site : Nat) (object : StoredCluster)

namespace Rollout

section Step

variable (merge : Definition → Definition → Definition) (cmc : MultiCasskop)
  (clients : List String)

def step (rollout : Rollout) : RolloutEvent → Rollout
  | .pass answers =>
    let calls := (reconcileMultiCasskop merge cmc clients answers).calls
    { rollout with
      written := rollout.written ++ (calls.filter Call.writesCluster).filterMap Call.site }
  | .changed site object =>
    { rollout with sites := Function.update rollout.sites site (some object) }

def Defines (site : Nat) (cc : Definition) : Prop :=
  ∃ client, clients[site]? = some client ∧
    computeCassandraClusterForContext merge cmc client = some cc

/-- The site has its definition, and a pass changes nothing there. -/
def Follows (rollout : Rollout) (site : Nat) : Prop :=
  ∀ cc, Defines merge cmc clients site cc → ∃ stored, rollout.sites site = some stored ∧
    specDiffers cc stored = false ∧ seedListDiffers cc stored = false

/-- Passes read what is stored, and a site that follows is not changed otherwise. -/
def Feasible (rollout : Rollout) : RolloutEvent → Prop
  | .pass answers => ∀ site,
      match (answers.sites site).get with
      | .ok stored => rollout.sites site = some stored
      | .error .notFound => rollout.sites site = none
      | .error _ => True
  | .changed site object => Follows merge cmc clients rollout site →
      Follows merge cmc clients (step merge cmc clients rollout (.changed site object)) site

/-- The sites are written one after the other, each when all before it follow. -/
structure InOrder (rollout : Rollout) : Prop where
  ascending : rollout.written.Pairwise (· ≤ ·)
  earlier : ∀ site ∈ rollout.written, ∀ before < site, Follows merge cmc clients rollout before

end Step

variable {merge : Definition → Definition → Definition} {cmc : MultiCasskop}

/-- The calls of the loop are those for the single sites. -/
theorem call_of_site {answers : Nat → SiteAnswers} (alive : cmc.deletionTimestamp = false)
    (clients : List String) :
    ∀ start, ∀ call ∈ (reconcileSites merge cmc answers clients start).calls, ∃ position cc,
      Defines merge cmc clients position cc ∧ call ∈ (createOrUpdateCassandraCluster
        (start + position) cc (answers (start + position))).calls := by
  induction clients with
  | nil =>
    intro start call member
    cases member
  | cons client clients induction =>
    intro start call member
    have next : call ∈ (reconcileSites merge cmc answers clients (start + 1)).calls →
        ∃ position cc, Defines merge cmc (client :: clients) position cc ∧
          call ∈ (createOrUpdateCassandraCluster (start + position) cc
            (answers (start + position))).calls := by
      intro later
      obtain ⟨position, cc, defines, own⟩ := induction (start + 1) call later
      rw [Nat.add_right_comm] at own
      exact ⟨position + 1, cc, defines, own⟩
    unfold reconcileSites at member
    split at member
    · exact next member
    rename_i cc computed
    by_cases own : call ∈ (createOrUpdateCassandraCluster start cc (answers start)).calls
    · exact ⟨0, cc, ⟨client, rfl, computed⟩, own⟩
    rw [if_neg (by simp [alive])] at member
    dsimp only at member
    split at member
    · exact absurd member own
    split at member
    · exact absurd member own
    split at member
    · exact next ((List.mem_append.mp member).resolve_left own)
    · exact absurd member own

variable {clients : List String} {rollout : Rollout} {answers : MultiAnswers}

theorem Follows.unwritten {site : Nat} {cc : Definition}
    (follows : Follows merge cmc clients rollout site) (defines : Defines merge cmc clients site cc)
    (feasible : Feasible merge cmc clients rollout (.pass answers)) :
    SiteUnwritten cc (answers.sites site) := by
  obtain ⟨stored, found, spec, seeds⟩ := follows cc defines
  have read := feasible site
  split at read
  · rename_i current same
    rw [read, Option.some.injEq] at found
    exact .same current same (found ▸ spec) (found ▸ seeds)
  · rw [read] at found
    cases found
  · rename_i error other failed
    exact .unread error failed other

/-- A write of a pass. -/
theorem InOrder.visit {call : Call} (alive : cmc.deletionTimestamp = false)
    (ordered : InOrder merge cmc clients rollout)
    (feasible : Feasible merge cmc clients rollout (.pass answers))
    (member : call ∈ (reconcileSites merge cmc answers.sites clients 0).calls)
    (writes : call.writesCluster = true) :
    ∃ site, call.site = some site ∧ (∀ past ∈ rollout.written, past ≤ site) ∧
      ∀ before < site, Follows merge cmc clients rollout before := by
  obtain ⟨site, cc, defines, own⟩ := call_of_site alive clients 0 call member
  rw [Nat.zero_add] at own
  have here := (createOrUpdateCassandraCluster_case site cc _).site_eq call own
  obtain ⟨_, same, visited⟩ := reconcileSites_visited alive clients 0 call member
  obtain rfl := Option.some.inj (here.symm.trans same)
  refine ⟨site, here, fun past listed => ?_, fun before less other => ?_⟩
  · by_contra behind
    -- Sites before one that was written follow, and such a site is not written again.
    have follows := ordered.earlier past listed site (Nat.lt_of_not_le behind)
    rw [(follows.unwritten defines feasible).silent, List.mem_singleton] at own
    rw [own] at writes
    cases writes
  · rintro ⟨client, found, computed⟩
    obtain ⟨stored, read, spec, seeds, _⟩ :=
      visited.earlier before (Nat.zero_le before) less client other found computed
    have current := feasible before
    rw [read] at current
    exact ⟨stored, current, spec, seeds⟩

theorem step_inOrder (alive : cmc.deletionTimestamp = false) (event : RolloutEvent)
    (ordered : InOrder merge cmc clients rollout)
    (feasible : Feasible merge cmc clients rollout event) :
    InOrder merge cmc clients (step merge cmc clients rollout event) := by
  cases event with
  | changed site object =>
    refine ⟨ordered.ascending, fun past listed before less => ?_⟩
    have follows := ordered.earlier past listed before less
    by_cases here : before = site
    · subst here
      exact feasible follows
    · simpa [Follows, step, here] using follows
  | pass answers =>
    have calls := @reconcileMultiCasskop_calls merge cmc alive clients answers
    rcases calls with none | ⟨_, only⟩ | visits
    · simpa [step, none] using ordered
    · simpa [step, only, Call.writesCluster] using ordered
    have single := @reconcileSites_writes merge cmc answers.sites alive clients 0
    rw [List.countP_eq_length_filter] at single
    rcases only : (reconcileSites merge cmc answers.sites clients 0).calls.filter
        Call.writesCluster with _ | ⟨call, rest⟩
    · simpa [step, visits, only] using ordered
    obtain ⟨member, writes⟩ := List.mem_filter.mp (only ▸ List.mem_cons_self)
    obtain ⟨site, here, last, earlier⟩ := ordered.visit alive feasible member writes
    have none : rest = [] := by
      rw [only, List.length_cons] at single
      exact List.length_eq_zero_iff.mp (Nat.le_zero.mp (Nat.le_of_succ_le_succ single))
    have written : (step merge cmc clients rollout (.pass answers)).written =
        rollout.written ++ [site] := by
      simp [step, visits, only, none, here]
    constructor
    · rw [written, List.pairwise_append]
      refine ⟨ordered.ascending, List.pairwise_singleton _ _, fun past listed next now => ?_⟩
      exact List.mem_singleton.mp now ▸ last past listed
    · intro past listed before less
      rw [written] at listed
      rcases List.mem_append.mp listed with old | new
      · exact ordered.earlier past old before less
      · exact earlier before (List.mem_singleton.mp new ▸ less)

end Rollout

/-- In every run until the MultiCasskop is edited, MultiCasskop writes to the sites in the order
of the clients, and never to a site behind one that does not follow. -/
theorem rollout_inOrder (merge : Definition → Definition → Definition) (cmc : MultiCasskop)
    (clients : List String) (sites : Nat → Option StoredCluster) (events : List RolloutEvent)
    (alive : cmc.deletionTimestamp = false)
    (feasible : Runs.Meets (Rollout.step merge cmc clients) (Rollout.Feasible merge cmc clients)
      { sites } events) :
    (Runs.run (Rollout.step merge cmc clients) { sites } events).InOrder merge cmc clients := by
  apply feasible.keeps
  · exact ⟨List.Pairwise.nil, fun site listed => by cases listed⟩
  · exact fun rollout event ordered meets => Rollout.step_inOrder alive event ordered meets

/-- The remote site is created. -/
theorem newRemote_inOrder :
    let after := Runs.run (Rollout.step replaces twoSitesCasskop twoSites)
      { sites := fun site => if site = 0 then readySite.get.toOption else none }
      [.pass newRemote]
    after.written = [1] ∧ after.InOrder replaces twoSitesCasskop twoSites := by
  refine ⟨by rfl, rollout_inOrder _ _ _ _ _ rfl ⟨fun site => ?_, trivial⟩⟩
  by_cases first : site = 0
  · rw [first]
    rfl
  · simp [newRemote, first]

end Casskop
