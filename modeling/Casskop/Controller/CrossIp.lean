import Casskop.Kube.Objects
import Casskop.Library.Runs

/-!
# Pods that come back with the address of another node

`CheckPodsState` keeps, for every ready pod, the host id Cassandra knows its address under.  A
pod that restarted too often and whose address now belongs to another host id is deleted.
`processingPods` searches for such a pod and refreshes the cache in one loop, and it returns
at the first pod that restarted too often, whatever the comparison says.
-/

namespace Casskop

structure CassandraNodeStatus where
  hostId : String := ""
  nodeIp : String := ""
  deriving DecidableEq, Repr

def Pod.restartCount (pod : Pod) : Int :=
  match pod.containerStatuses.find? (fun c => c.name == cassandraContainerName) with
  | some c => c.restartCount
  | none => 0

def updateCassandraNodesStatusForPod (hostIDMap : GoMap String) (pod : Pod)
    (nodes : GoMap CassandraNodeStatus) : GoMap CassandraNodeStatus :=
  match hostIDMap.lookup pod.podIP with
  | some hostId =>
    if pod.isReady then nodes.insert pod.name { hostId := hostId, nodeIp := pod.podIP }
    else nodes
  | none => nodes

/-- The host id of an entry; that of a missing entry is the zero value. -/
def cachedHostId (entry : Option CassandraNodeStatus) : String := (entry.getD {}).hostId

def checkPodCrossIpUseCaseForPod (hostIDMap : GoMap String) (pod : Pod)
    (nodes : GoMap CassandraNodeStatus) : Option Pod :=
  match hostIDMap.lookup pod.podIP with
  | some hostId =>
    if cachedHostId (nodes.lookup pod.name) ≠ hostId then some pod else none
  | none => none

def restartedTooOften (restartCountBeforePodDeletion : Int) (pod : Pod) : Bool :=
  decide (restartCountBeforePodDeletion > 0) &&
    decide (pod.restartCount > restartCountBeforePodDeletion)

/-- The pod to delete and the cache left behind. -/
def processingPods (hostIDMap : GoMap String) (restartCountBeforePodDeletion : Int) :
    List Pod → GoMap CassandraNodeStatus → Option Pod × GoMap CassandraNodeStatus
  | [], nodes => (none, nodes)
  | pod :: podsList, nodes =>
    if restartedTooOften restartCountBeforePodDeletion pod then
      (checkPodCrossIpUseCaseForPod hostIDMap pod nodes, nodes)
    else
      processingPods hostIDMap restartCountBeforePodDeletion podsList
        (updateCassandraNodesStatusForPod hostIDMap pod nodes)

/-- Answers to the calls of `CheckPodsState`: the pods of all racks, and the host ids the
first ready one reports. -/
structure PodsStateAnswers where
  podsList : Except ApiError (List Pod)
  hostIDMap : Pod → Except ApiError (GoMap String)

/-- `CheckPodsState`, without its error, which `Reconcile` only logs. -/
def checkPodsState (restartCountBeforePodDeletion : Int) (answers : PodsStateAnswers)
    (nodes : GoMap CassandraNodeStatus) : Option Pod × GoMap CassandraNodeStatus :=
  match answers.podsList with
  | .error _ => (none, nodes)
  | .ok podsList =>
    match getLastOrFirstPodReady podsList false with
    | none => (none, nodes)
    | some firstPod =>
      match answers.hostIDMap firstPod with
      | .error _ => (none, nodes)
      | .ok hostIDMap =>
        processingPods hostIDMap restartCountBeforePodDeletion podsList nodes

section Detection

variable (hostIDMap : GoMap String) (threshold : Int)

/-- The entry of a ready pod that has not restarted too often. -/
def currentEntry (pod : Pod) : Option CassandraNodeStatus :=
  if restartedTooOften threshold pod = false ∧ pod.isReady = true then
    (hostIDMap.lookup pod.podIP).map fun hostId => { hostId := hostId, nodeIp := pod.podIP }
  else none

/-- The pod restarted too often, and its address has another host id than the cached one. -/
def CrossIp (cached : String → Option CassandraNodeStatus) (pod : Pod) : Prop :=
  restartedTooOften threshold pod = true ∧
    ∃ hostId, hostIDMap.lookup pod.podIP = some hostId ∧
      cachedHostId (cached pod.name) ≠ hostId

/-- What is cached for a name behind some pods: the entry of the last of them that has that
name and an entry, or what was cached before. -/
def cachedBehind (front : List Pod) (nodes : GoMap CassandraNodeStatus) (name : String) :
    Option CassandraNodeStatus :=
  front.foldl
    (fun cached pod =>
      if pod.name = name then (currentEntry hostIDMap threshold pod).or cached else cached)
    (nodes.lookup name)

/-- Every pod is looked at.  Pods of one name share an entry, which shows one of them. -/
structure DetectsEvery (pods : List Pod) (nodes : GoMap CassandraNodeStatus)
    (result : Option Pod × GoMap CassandraNodeStatus) : Prop where
  returns : result.1.isSome ↔ ∃ pod ∈ pods, CrossIp hostIDMap threshold nodes.lookup pod
  crossed : ∀ pod, result.1 = some pod →
    pod ∈ pods ∧ CrossIp hostIDMap threshold nodes.lookup pod
  refreshes : result.1 = none → ∀ pod ∈ pods, (currentEntry hostIDMap threshold pod).isSome →
    ∃ other ∈ pods, other.name = pod.name ∧
      (currentEntry hostIDMap threshold other).isSome ∧
      result.2.lookup pod.name = currentEntry hostIDMap threshold other
  keeps : result.1 = none → ∀ name,
    (∀ pod ∈ pods, pod.name = name → currentEntry hostIDMap threshold pod = none) →
      result.2.lookup name = nodes.lookup name

/-- `front` stands before the first pod that restarted too often. -/
def StopsAt (pods front : List Pod) (pod : Pod) (back : List Pod) : Prop :=
  pods = front ++ pod :: back ∧ (∀ other ∈ front, restartedTooOften threshold other = false) ∧
    restartedTooOften threshold pod = true

/-- The first pod that restarted too often is the one to delete, or no pod is and the pods
behind it have their entries already. -/
def FirstDecides (pods : List Pod) (nodes : GoMap CassandraNodeStatus) : Prop :=
  (∃ front pod back, StopsAt threshold pods front pod back ∧
      CrossIp hostIDMap threshold nodes.lookup pod ∧
      CrossIp hostIDMap threshold (cachedBehind hostIDMap threshold front nodes) pod) ∨
    (∀ pod ∈ pods, ¬ CrossIp hostIDMap threshold nodes.lookup pod) ∧
      ∀ front pod back, StopsAt threshold pods front pod back →
        ¬ CrossIp hostIDMap threshold (cachedBehind hostIDMap threshold front nodes) pod ∧
        ∀ later ∈ back, (currentEntry hostIDMap threshold later).isSome →
          ∃ other ∈ pods, other.name = later.name ∧
            (currentEntry hostIDMap threshold other).isSome ∧
            cachedBehind hostIDMap threshold front nodes later.name =
              currentEntry hostIDMap threshold other

end Detection

variable {hostIDMap : GoMap String} {threshold : Int} {pods front back : List Pod} {pod : Pod}
  {nodes : GoMap CassandraNodeStatus}

section Loop

theorem currentEntry_of_tooOften (often : restartedTooOften threshold pod = true) :
    currentEntry hostIDMap threshold pod = none := by
  unfold currentEntry
  rw [often]
  exact if_neg (by simp)

theorem lookup_updateCassandraNodesStatusForPod
    (seldom : restartedTooOften threshold pod = false) (name : String) :
    (updateCassandraNodesStatusForPod hostIDMap pod nodes).lookup name =
      if pod.name = name then
        (currentEntry hostIDMap threshold pod).or (nodes.lookup name)
      else nodes.lookup name := by
  unfold updateCassandraNodesStatusForPod currentEntry
  rw [seldom]
  cases hostIDMap.lookup pod.podIP with
  | none => simp
  | some hostId =>
    cases pod.isReady with
    | false => simp
    | true =>
      by_cases same : pod.name = name
      · subst same
        simp
      · simp [same, Finmap.lookup_insert_of_ne _ (Ne.symm same)]

theorem processingPods_append (rest : List Pod)
    (seldom : ∀ other ∈ front, restartedTooOften threshold other = false) :
    ∀ nodes, ∃ refreshed,
      processingPods hostIDMap threshold (front ++ rest) nodes =
        processingPods hostIDMap threshold rest refreshed ∧
      refreshed.lookup = cachedBehind hostIDMap threshold front nodes := by
  induction front with
  | nil =>
    intro nodes
    exact ⟨nodes, rfl, rfl⟩
  | cons head front induction =>
    intro nodes
    have first : restartedTooOften threshold head = false := seldom head List.mem_cons_self
    obtain ⟨refreshed, same, cached⟩ :=
      induction (fun other member => seldom other (List.mem_cons_of_mem _ member))
        (updateCassandraNodesStatusForPod hostIDMap head nodes)
    refine ⟨refreshed, ?_, ?_⟩
    · rw [List.cons_append, processingPods, first]
      exact same
    · rw [cached]
      funext name
      unfold cachedBehind
      rw [List.foldl_cons, lookup_updateCassandraNodesStatusForPod first]

theorem processingPods_quiet (seldom : ∀ other ∈ pods, restartedTooOften threshold other = false) :
    (processingPods hostIDMap threshold pods nodes).1 = none ∧
      ∀ name, (processingPods hostIDMap threshold pods nodes).2.lookup name =
        cachedBehind hostIDMap threshold pods nodes name := by
  obtain ⟨refreshed, same, cached⟩ :=
    @processingPods_append hostIDMap threshold pods [] seldom nodes
  rw [List.append_nil] at same
  rw [same]
  exact ⟨rfl, congrFun cached⟩

theorem StopsAt.returned (stops : StopsAt threshold pods front pod back) :
    (∀ found, (processingPods hostIDMap threshold pods nodes).1 = some found ↔
        found = pod ∧
          CrossIp hostIDMap threshold (cachedBehind hostIDMap threshold front nodes) pod) ∧
      ∀ name, (processingPods hostIDMap threshold pods nodes).2.lookup name =
        cachedBehind hostIDMap threshold front nodes name := by
  obtain ⟨rfl, seldom, often⟩ := stops
  obtain ⟨refreshed, same, cached⟩ :=
    @processingPods_append hostIDMap threshold front (pod :: back) seldom nodes
  have last : processingPods hostIDMap threshold (pod :: back) refreshed =
      (checkPodCrossIpUseCaseForPod hostIDMap pod refreshed, refreshed) := by
    rw [processingPods, often]
    rfl
  rw [same, last, ← cached]
  refine ⟨fun found => ?_, fun _ => rfl⟩
  unfold checkPodCrossIpUseCaseForPod CrossIp
  cases hostIDMap.lookup pod.podIP with
  | none => simp
  | some hostId =>
    by_cases equal : cachedHostId (refreshed.lookup pod.name) = hostId
    · simp [equal]
    · simp [equal, often, @eq_comm _ pod]

/-- An entry behind some pods shows one of them, or none of them has one and it is the entry
from before. -/
theorem cachedBehind_cases (name : String) :
    (∃ other ∈ front, other.name = name ∧
        (currentEntry hostIDMap threshold other).isSome ∧
        cachedBehind hostIDMap threshold front nodes name =
          currentEntry hostIDMap threshold other) ∨
      (∀ other ∈ front, other.name = name → currentEntry hostIDMap threshold other = none) ∧
        cachedBehind hostIDMap threshold front nodes name = nodes.lookup name := by
  -- the last pod of the list has the last word
  induction front using List.reverseRecOn with
  | nil => exact .inr ⟨by simp, rfl⟩
  | append_singleton front last induction =>
    have step : cachedBehind hostIDMap threshold (front ++ [last]) nodes name =
        if last.name = name then
          (currentEntry hostIDMap threshold last).or
            (cachedBehind hostIDMap threshold front nodes name)
        else cachedBehind hostIDMap threshold front nodes name := by
      unfold cachedBehind
      rw [List.foldl_append]
      rfl
    by_cases shows : last.name = name ∧ (currentEntry hostIDMap threshold last).isSome
    · refine .inl ⟨last, by simp, shows.1, shows.2, ?_⟩
      rw [step, if_pos shows.1, Option.or_of_isSome shows.2]
    · have silent : last.name = name → currentEntry hostIDMap threshold last = none :=
        fun same => Option.not_isSome_iff_eq_none.mp fun some => shows ⟨same, some⟩
      have skips : cachedBehind hostIDMap threshold (front ++ [last]) nodes name =
          cachedBehind hostIDMap threshold front nodes name := by
        rw [step]
        split
        · rename_i same
          rw [silent same, Option.none_or]
        · rfl
      rw [skips]
      rcases induction with ⟨other, member, same, some, entry⟩ | ⟨none, kept⟩
      · exact .inl ⟨other, List.mem_append_left _ member, same, some, entry⟩
      · refine .inr ⟨fun other member => ?_, kept⟩
        rcases List.mem_append.mp member with before | now
        · exact none other before
        · rw [List.mem_singleton.mp now]
          exact silent

theorem StopsAt.unique {front' back' : List Pod} {pod' : Pod}
    (stops : StopsAt threshold pods front pod back)
    (stops' : StopsAt threshold pods front' pod' back') :
    front = front' ∧ pod = pod' ∧ back = back' := by
  have cut : ∀ {front pod back}, StopsAt threshold pods front pod back →
      pods.takeWhile (fun other => !restartedTooOften threshold other) = front ∧
        pods.dropWhile (fun other => !restartedTooOften threshold other) = pod :: back := by
    rintro front pod back ⟨rfl, seldom, often⟩
    have goes : ∀ other ∈ front, (!restartedTooOften threshold other) = true := by
      intro other member
      rw [seldom other member]
      rfl
    rw [List.takeWhile_append_of_pos goes, List.dropWhile_append_of_pos goes,
      List.takeWhile_cons_of_neg (by simp [often]), List.dropWhile_cons_of_neg (by simp [often])]
    exact ⟨List.append_nil _, rfl⟩
  have rest : pod :: back = pod' :: back' := (cut stops).2.symm.trans (cut stops').2
  exact ⟨(cut stops).1.symm.trans (cut stops').1, List.cons.inj rest⟩

theorem stopsAt_or_seldom (threshold : Int) (pods : List Pod) :
    (∃ front pod back, StopsAt threshold pods front pod back) ∨
      ∀ pod ∈ pods, restartedTooOften threshold pod = false := by
  cases found : pods.find? (restartedTooOften threshold) with
  | none =>
    refine .inr fun pod member => ?_
    simpa using List.find?_eq_none.mp found pod member
  | some pod =>
    obtain ⟨often, front, back, split, seldom⟩ := List.find?_eq_some_iff_append.mp found
    exact .inl ⟨front, pod, back, split, fun other member => by simpa using seldom other member,
      often⟩

end Loop

section Detections

/-- A cache that shows, for every name, what is cached behind all pods. -/
theorem DetectsEvery.of_quiet {result : Option Pod × GoMap CassandraNodeStatus}
    (returned : result.1 = none)
    (uncrossed : ∀ pod ∈ pods, ¬ CrossIp hostIDMap threshold nodes.lookup pod)
    (within : ∀ pod ∈ front, pod ∈ pods)
    (cached : ∀ name, result.2.lookup name = cachedBehind hostIDMap threshold front nodes name)
    (behind : ∀ pod ∈ pods, (currentEntry hostIDMap threshold pod).isSome → pod ∈ front ∨ ∃ other ∈
      pods, other.name = pod.name ∧ (currentEntry hostIDMap threshold other).isSome ∧ cachedBehind
      hostIDMap threshold front nodes pod.name = currentEntry hostIDMap threshold other) :
    DetectsEvery hostIDMap threshold pods nodes result where
  returns := by
    rw [returned]
    refine iff_of_false Bool.false_ne_true ?_
    rintro ⟨pod, member, crossed⟩
    exact uncrossed pod member crossed
  crossed := by
    intro pod found
    rw [returned] at found
    cases found
  refreshes := by
    intro _ pod member shown
    rw [cached]
    rcases behind pod member shown with before | other
    · rcases @cachedBehind_cases hostIDMap threshold front nodes pod.name with
        ⟨other, earlier, found⟩ | ⟨silent, _⟩
      · exact ⟨other, within other earlier, found⟩
      · rw [silent pod before rfl] at shown
        cases shown
    · exact other
  keeps := by
    intro _ name silent
    rw [cached]
    rcases @cachedBehind_cases hostIDMap threshold front nodes name with
      ⟨other, earlier, same, shown, _⟩ | ⟨_, kept⟩
    · rw [silent other (within other earlier) same] at shown
      cases shown
    · exact kept

theorem detectsEvery_of_seldom (seldom : ∀ pod ∈ pods, restartedTooOften threshold pod = false) :
    DetectsEvery hostIDMap threshold pods nodes
      (processingPods hostIDMap threshold pods nodes) := by
  obtain ⟨returned, cached⟩ := @processingPods_quiet hostIDMap threshold pods nodes seldom
  refine .of_quiet returned ?_ (fun _ member => member) cached fun _ member _ => .inl member
  rintro pod member ⟨often, _⟩
  rw [seldom pod member] at often
  cases often

/-- The loop returns the pod it stops at, and it is right to do so if the pod differs from
what was cached at the start. -/
theorem StopsAt.detectsEvery_crossed (stops : StopsAt threshold pods front pod back)
    (crossing : CrossIp hostIDMap threshold (cachedBehind hostIDMap threshold front nodes) pod) :
    DetectsEvery hostIDMap threshold pods nodes
        (processingPods hostIDMap threshold pods nodes) ↔
      CrossIp hostIDMap threshold nodes.lookup pod := by
  have returned : (processingPods hostIDMap threshold pods nodes).1 = some pod :=
    (stops.returned.1 pod).mpr ⟨rfl, crossing⟩
  have member : pod ∈ pods := by
    rw [stops.1]
    exact List.mem_append_right _ List.mem_cons_self
  constructor
  · intro detects
    exact (detects.crossed pod returned).2
  · intro crossed
    constructor
    · rw [returned]
      exact iff_of_true rfl ⟨pod, member, crossed⟩
    · intro found same
      rw [returned] at same
      cases same
      exact ⟨member, crossed⟩
    · intro nothing
      rw [returned] at nothing
      cases nothing
    · intro nothing
      rw [returned] at nothing
      cases nothing

theorem StopsAt.detectsEvery_uncrossed (stops : StopsAt threshold pods front pod back)
    (uncrossed : ¬ CrossIp hostIDMap threshold (cachedBehind hostIDMap threshold front nodes) pod) :
    DetectsEvery hostIDMap threshold pods nodes
        (processingPods hostIDMap threshold pods nodes) ↔
      (∀ pod ∈ pods, ¬ CrossIp hostIDMap threshold nodes.lookup pod) ∧
        ∀ later ∈ back, (currentEntry hostIDMap threshold later).isSome →
          ∃ other ∈ pods, other.name = later.name ∧
            (currentEntry hostIDMap threshold other).isSome ∧
            cachedBehind hostIDMap threshold front nodes later.name =
              currentEntry hostIDMap threshold other := by
  obtain ⟨found_iff, cached⟩ :=
    @StopsAt.returned hostIDMap threshold pods front back pod nodes stops
  have returned : (processingPods hostIDMap threshold pods nodes).1 = none := by
    refine Option.eq_none_iff_forall_ne_some.mpr fun found same => ?_
    exact uncrossed ((found_iff found).mp same).2
  obtain ⟨split, _, often⟩ := stops
  constructor
  · intro detects
    refine ⟨fun other member crossed => ?_, fun later member shown => ?_⟩
    · have some := detects.returns.mpr ⟨other, member, crossed⟩
      rw [returned] at some
      cases some
    · rw [← cached]
      apply detects.refreshes returned later _ shown
      rw [split]
      exact List.mem_append_right _ (List.mem_cons_of_mem _ member)
  · rintro ⟨nobody, behind⟩
    refine .of_quiet returned nobody ?_ cached fun other member shown => ?_
    · intro other member
      rw [split]
      exact List.mem_append_left _ member
    · rw [split] at member
      rcases List.mem_append.mp member with before | here
      · exact .inl before
      · rcases List.mem_cons.mp here with rfl | after
        · rw [currentEntry_of_tooOften often] at shown
          cases shown
        · exact .inr (behind other after shown)

/-- Pods with names of their own find at their turn what was cached for them at the start. -/
theorem cachedBehind_of_distinct {rest : List Pod} (distinct : ((front ++ rest).map Pod.name).Nodup)
    (member : pod ∈ rest) :
    cachedBehind hostIDMap threshold front nodes pod.name = nodes.lookup pod.name := by
  rcases @cachedBehind_cases hostIDMap threshold front nodes pod.name with
    ⟨other, earlier, same, _⟩ | ⟨_, kept⟩
  · rw [List.map_append] at distinct
    have apart := (List.nodup_append.mp distinct).2.2
    exact absurd same
      (apart other.name (List.mem_map_of_mem earlier) pod.name (List.mem_map_of_mem member))
  · exact kept

theorem firstDecides_iff_of_distinct (distinct : (pods.map Pod.name).Nodup) :
    FirstDecides hostIDMap threshold pods nodes ↔
      (∃ front pod back, StopsAt threshold pods front pod back ∧
          CrossIp hostIDMap threshold nodes.lookup pod) ∨
        (∀ pod ∈ pods, ¬ CrossIp hostIDMap threshold nodes.lookup pod) ∧
          ∀ front pod back, StopsAt threshold pods front pod back →
            ∀ later ∈ back, (currentEntry hostIDMap threshold later).isSome →
              nodes.lookup later.name = currentEntry hostIDMap threshold later := by
  have turn : ∀ {front pod back}, StopsAt threshold pods front pod back →
      ∀ other ∈ pod :: back, cachedBehind hostIDMap threshold front nodes other.name =
        nodes.lookup other.name := by
    intro front pod back stops other member
    refine cachedBehind_of_distinct ?_ member
    rw [← stops.1]
    exact distinct
  have crossing_iff : ∀ {front pod back}, StopsAt threshold pods front pod back →
      (CrossIp hostIDMap threshold (cachedBehind hostIDMap threshold front nodes) pod ↔
        CrossIp hostIDMap threshold nodes.lookup pod) := by
    intro front pod back stops
    unfold CrossIp
    rw [turn stops pod List.mem_cons_self]
  unfold FirstDecides
  refine or_congr ?_ (and_congr_right fun nobody => ?_)
  · refine exists_congr fun front => exists_congr fun pod => exists_congr fun back =>
      and_congr_right fun stops => ?_
    rw [crossing_iff stops, and_self]
  · refine forall_congr' fun front => forall_congr' fun pod => forall_congr' fun back =>
      forall_congr' fun stops => ?_
    have within : ∀ other ∈ pod :: back, other ∈ pods := by
      intro other member
      rw [stops.1]
      exact List.mem_append_right _ member
    rw [crossing_iff stops, and_iff_right (nobody pod (within pod List.mem_cons_self))]
    refine forall_congr' fun later => forall_congr' fun member => forall_congr' fun shown => ?_
    have behind : later ∈ pod :: back := List.mem_cons_of_mem _ member
    rw [turn stops later behind]
    constructor
    · rintro ⟨other, listed, same, _, entry⟩
      rw [entry, List.inj_on_of_nodup_map distinct listed (within later behind) same]
    · intro entry
      exact ⟨later, within later behind, rfl, shown, entry⟩

end Detections

/-- The loop does what it is for exactly when the first pod that restarted too often decides
the search.  For pods with names of their own: when that pod is the one to delete, or when no
pod is and every ready pod behind it has its entry already. -/
theorem processingPods_detects_iff (hostIDMap : GoMap String) (threshold : Int)
    (pods : List Pod) (nodes : GoMap CassandraNodeStatus) :
    (DetectsEvery hostIDMap threshold pods nodes
        (processingPods hostIDMap threshold pods nodes) ↔
      FirstDecides hostIDMap threshold pods nodes) ∧
    ((pods.map Pod.name).Nodup →
      (DetectsEvery hostIDMap threshold pods nodes
          (processingPods hostIDMap threshold pods nodes) ↔
        (∃ front pod back, StopsAt threshold pods front pod back ∧
            CrossIp hostIDMap threshold nodes.lookup pod) ∨
          (∀ pod ∈ pods, ¬ CrossIp hostIDMap threshold nodes.lookup pod) ∧
            ∀ front pod back, StopsAt threshold pods front pod back →
              ∀ later ∈ back, (currentEntry hostIDMap threshold later).isSome →
                nodes.lookup later.name = currentEntry hostIDMap threshold later)) := by
  have general : DetectsEvery hostIDMap threshold pods nodes
        (processingPods hostIDMap threshold pods nodes) ↔
      FirstDecides hostIDMap threshold pods nodes := by
    rcases stopsAt_or_seldom threshold pods with ⟨front, pod, back, stops⟩ | seldom
    · by_cases crossing :
          CrossIp hostIDMap threshold (cachedBehind hostIDMap threshold front nodes) pod
      · rw [stops.detectsEvery_crossed crossing]
        constructor
        · intro crossed
          exact .inl ⟨front, pod, back, stops, crossed, crossing⟩
        · rintro (⟨front', pod', back', stops', crossed, _⟩ | ⟨_, quiet⟩)
          · obtain ⟨rfl, rfl, rfl⟩ := stops.unique stops'
            exact crossed
          · exact absurd crossing (quiet front pod back stops).1
      · rw [stops.detectsEvery_uncrossed crossing]
        constructor
        · rintro ⟨nobody, behind⟩
          refine .inr ⟨nobody, fun front' pod' back' stops' => ?_⟩
          obtain ⟨rfl, rfl, rfl⟩ := stops.unique stops'
          exact ⟨crossing, behind⟩
        · rintro (⟨front', pod', back', stops', _, crossed⟩ | ⟨nobody, quiet⟩)
          · obtain ⟨rfl, rfl, rfl⟩ := stops.unique stops'
            exact absurd crossed crossing
          · exact ⟨nobody, (quiet front pod back stops).2⟩
    · refine iff_of_true (detectsEvery_of_seldom seldom) (.inr ⟨?_, ?_⟩)
      · rintro pod member ⟨often, _⟩
        rw [seldom pod member] at often
        cases often
      · rintro front pod back ⟨rfl, _, often⟩
        rw [seldom pod (List.mem_append_right _ List.mem_cons_self)] at often
        cases often
  refine ⟨general, fun distinct => ?_⟩
  rw [general]
  exact firstDecides_iff_of_distinct distinct

/-! ## A search that ends too early -/

def restartingPod (name podIP : String) (restartCount : Int) : Pod :=
  { name := name
    phase := .running
    containerStatuses := [{ name := cassandraContainerName, ready := true, restartCount }]
    podIP := podIP }

/-- The first pod restarts for reasons of its own.  The second came back with the address of
another node and is kept, and the third is not cached. -/
theorem restarting_pod_hides_crossIp :
    let steady := restartingPod "demo-dc1-rack1-0" "10.0.0.1" 4
    let swapped := restartingPod "demo-dc1-rack1-1" "10.0.0.9" 4
    let fresh := restartingPod "demo-dc1-rack1-2" "10.0.0.3" 0
    let hostIDMap : GoMap String :=
      ((Finmap.singleton "10.0.0.1" "host-1").insert "10.0.0.9" "host-9").insert
        "10.0.0.3" "host-3"
    let nodes : GoMap CassandraNodeStatus :=
      (Finmap.singleton "demo-dc1-rack1-0" { hostId := "host-1", nodeIp := "10.0.0.1" }).insert
        "demo-dc1-rack1-1" { hostId := "host-2", nodeIp := "10.0.0.2" }
    processingPods hostIDMap 3 [steady, swapped, fresh] nodes = (none, nodes) ∧
      restartedTooOften 3 swapped = true ∧
      hostIDMap.lookup swapped.podIP = some "host-9" ∧
      cachedHostId (nodes.lookup swapped.name) = "host-2" ∧
      (currentEntry hostIDMap 3 fresh).isSome ∧ nodes.lookup fresh.name = none ∧
      ¬ DetectsEvery hostIDMap 3 [steady, swapped, fresh] nodes
        (processingPods hostIDMap 3 [steady, swapped, fresh] nodes) := by
  intro steady swapped fresh hostIDMap nodes
  have nothing : processingPods hostIDMap 3 [steady, swapped, fresh] nodes = (none, nodes) := by
    decide +kernel
  have often : restartedTooOften 3 swapped = true := by decide +kernel
  have mapped : hostIDMap.lookup swapped.podIP = some "host-9" := by decide +kernel
  have cached : cachedHostId (nodes.lookup swapped.name) = "host-2" := by decide +kernel
  refine ⟨nothing, often, mapped, cached, by decide +kernel, by decide +kernel, fun detects => ?_⟩
  have found := detects.returns.mpr ⟨swapped, by simp, often, "host-9", mapped, by
    rw [cached]
    decide⟩
  rw [nothing] at found
  cases found

/-! ## The cache over many passes -/

/-- In a pass with these answers a ready pod of that name had the entry's address and host
id. -/
def Observed (answers : PodsStateAnswers) (name : String) (entry : CassandraNodeStatus) : Prop :=
  ∃ podsList firstPod hostIDMap pod, answers.podsList = .ok podsList ∧
    answers.hostIDMap firstPod = .ok hostIDMap ∧ pod ∈ podsList ∧ pod.name = name ∧
    pod.isReady = true ∧ entry.nodeIp = pod.podIP ∧
    hostIDMap.lookup pod.podIP = some entry.hostId

variable {entry : CassandraNodeStatus}

theorem currentEntry_eq_some (shown : currentEntry hostIDMap threshold pod = some entry) :
    pod.isReady = true ∧ entry.nodeIp = pod.podIP ∧
      hostIDMap.lookup pod.podIP = some entry.hostId := by
  unfold currentEntry at shown
  by_cases ready : restartedTooOften threshold pod = false ∧ pod.isReady = true
  · rw [if_pos ready] at shown
    obtain ⟨hostId, mapped, rfl⟩ := Option.map_eq_some_iff.mp shown
    exact ⟨ready.2, rfl, mapped⟩
  · rw [if_neg ready] at shown
    cases shown

theorem processingPods_entry {name : String}
    (cached : (processingPods hostIDMap threshold pods nodes).2.lookup name = some entry) :
    nodes.lookup name = some entry ∨
      ∃ pod ∈ pods, pod.name = name ∧ currentEntry hostIDMap threshold pod = some entry := by
  have shows : ∀ front, (∀ pod ∈ front, pod ∈ pods) →
      cachedBehind hostIDMap threshold front nodes name = some entry →
      nodes.lookup name = some entry ∨
        ∃ pod ∈ pods, pod.name = name ∧ currentEntry hostIDMap threshold pod = some entry := by
    intro front within behind
    rcases @cachedBehind_cases hostIDMap threshold front nodes name with
      ⟨other, member, same, _, shown⟩ | ⟨_, kept⟩
    · exact .inr ⟨other, within other member, same, shown.symm.trans behind⟩
    · exact .inl (kept.symm.trans behind)
  rcases stopsAt_or_seldom threshold pods with ⟨front, pod, back, stops⟩ | seldom
  · rw [stops.returned.2] at cached
    refine shows front (fun other member => ?_) cached
    rw [stops.1]
    exact List.mem_append_left _ member
  · rw [(processingPods_quiet seldom).2] at cached
    exact shows pods (fun _ member => member) cached

theorem checkPodsState_entry {answers : PodsStateAnswers} {name : String}
    (cached : (checkPodsState threshold answers nodes).2.lookup name = some entry) :
    nodes.lookup name = some entry ∨ Observed answers name entry := by
  unfold checkPodsState at cached
  cases listed : answers.podsList with
  | error _ =>
    rw [listed] at cached
    exact .inl cached
  | ok podsList =>
    rw [listed] at cached
    dsimp only at cached
    cases asked : getLastOrFirstPodReady podsList false with
    | none =>
      rw [asked] at cached
      exact .inl cached
    | some firstPod =>
      rw [asked] at cached
      dsimp only at cached
      cases answer : answers.hostIDMap firstPod with
      | error _ =>
        rw [answer] at cached
        exact .inl cached
      | ok hostIDMap =>
        rw [answer] at cached
        refine (processingPods_entry cached).imp_right ?_
        rintro ⟨pod, member, same, shown⟩
        exact ⟨podsList, firstPod, hostIDMap, pod, listed, answer, member, same,
          currentEntry_eq_some shown⟩

/-- However many passes have checked the pods, an entry that was not there at the start was
observed of a ready pod in one of them. -/
theorem checkPodsState_run_observed (threshold : Int) (start : GoMap CassandraNodeStatus)
    (passes : List PodsStateAnswers) (name : String) (entry : CassandraNodeStatus)
    (cached : (Runs.run (fun nodes answers => (checkPodsState threshold answers nodes).2) start
      passes).lookup name = some entry) :
    start.lookup name = some entry ∨ ∃ answers ∈ passes, Observed answers name entry := by
  have observed := @Runs.run_history _ _
    (fun nodes answers => (checkPodsState threshold answers nodes).2) start
    (fun past nodes => ∀ name entry, nodes.lookup name = some entry →
      start.lookup name = some entry ∨ ∃ answers ∈ past, Observed answers name entry)
    (fun _ _ found => .inl found)
    (fun past answers induction name entry found => by
      rcases checkPodsState_entry found with before | now
      · refine (induction name entry before).imp_right ?_
        rintro ⟨earlier, member, observed⟩
        exact ⟨earlier, List.mem_append_left _ member, observed⟩
      · exact .inr ⟨answers, by simp, now⟩)
    passes
  exact observed name entry cached

theorem readyPod_observed :
    let answers : PodsStateAnswers :=
      { podsList := .ok [restartingPod "demo-dc1-rack1-0" "10.0.0.1" 0]
        hostIDMap := fun _ => .ok (Finmap.singleton "10.0.0.1" "host-1") }
    ∃ seen ∈ [answers], Observed seen "demo-dc1-rack1-0"
      { hostId := "host-1", nodeIp := "10.0.0.1" } := by
  intro answers
  have observed := checkPodsState_run_observed 3 ∅ [answers] "demo-dc1-rack1-0"
    { hostId := "host-1", nodeIp := "10.0.0.1" } (by decide +kernel)
  exact observed.resolve_left (by simp)

end Casskop
